import RabbitKit.CallLedger
import RabbitKit.ChannelSends

/-! # The steps of publishes on channels

What every step needs and changes, and what follows for the calls of `exchange.publish`: a publish
makes it at most once, and one that ends with `NOT_SENT` has not made it.
-/

namespace RabbitKit

open LabelledRun CallLedger SendStage ChannelSends Option List

namespace SendStage

/-- The call has not been made, and if the publish has ended it ended with `NOT_SENT`. -/
def unsent : SendStage → Bool
  | .unstarted | .building | .waiting _ => true
  | .ended verdict => verdict.status = .notSent
  | .sent | .posted | .cancelled => false

def prior? : SendStage → Option Nat
  | .waiting prior => some prior
  | _ => none

end SendStage

theorem classifyExchangeFailure_status (exclusive shutdown : Bool) (failure : ExchangeFailure) :
    (classifyExchangeFailure exclusive shutdown failure).status = .error ∨
      (classifyExchangeFailure exclusive shutdown failure).status = .unknown := by
  cases failure <;> simp only [classifyExchangeFailure] <;>
    first | exact .inl rfl | exact .inr rfl | split <;> first | exact .inl rfl | exact .inr rfl

namespace ChannelSends

variable {state state' : ChannelSends} {id : Nat} {send : ChannelSend} {sendStep : SendStep}
variable {action : SendAction}

def IsFree (state : ChannelSends) (key : Nat × Nat) : Prop :=
  ∀ prior, state.inflight.get? key = some prior → state.settled prior = true

/-- When a publish registers: it found the key free, or it has waited for the one that had it, and
either that one is done or the wait has expired. -/
inductive Ready (state : ChannelSends) (send : ChannelSend) : SendStep → Bool → Prop
  | found {expired : Bool} (was : send.stage = .building) (free : state.IsFree send.request.key) :
      Ready state send (.lookup (.found expired)) expired
  | woken {expired : Bool} {prior : Nat} (was : send.stage = .waiting prior)
      (done : state.settled prior = true) : Ready state send (.wake expired) expired
  | tired {expired : Bool} {prior : Nat} (was : send.stage = .waiting prior) :
      Ready state send (.waitExpires expired) expired

/-- What a step of a publish needs and changes. -/
inductive Advanced (state : ChannelSends) (id : Nat) (send : ChannelSend) :
    SendStep → ChannelSends → Prop
  | refused {sendStep : SendStep} {verdict : PublishVerdict} (was : send.stage = .building)
      (failed : verdict.status ≠ .confirmed) :
      Advanced state id send sendStep (state.put id { send with stage := .ended verdict })
  | waits {expired : Bool} {prior : Nat} (was : send.stage = .building)
      (held : state.inflight.get? send.request.key = some prior)
      (pending : state.settled prior = false) :
      Advanced state id send (.lookup (.found expired))
        (state.put id { send with stage := .waiting prior })
  | registers {sendStep : SendStep} {expired : Bool} (ready : Ready state send sendStep expired) :
      Advanced state id send sendStep (state.register id send expired)
  | releases {sendStep : SendStep} {stage : SendStage} (was : send.stage = .sent)
      (settled : stage.settled = true) (sent : stage.unsent = false)
      (confirmed : ∀ verdict, stage = .ended verdict → verdict.status = .confirmed →
        send.confirmation = some .acked) :
      Advanced state id send sendStep (state.release id send stage)
  | cancels (was : send.stage = .building ∨ ∃ prior, send.stage = .waiting prior) :
      Advanced state id send .cancel (state.put id { send with stage := .cancelled })

/-- Every step of `_publish_on_channel` is one of these. -/
theorem advanced (taken : state.advance id send sendStep send.stage = some state') :
    Advanced state id send sendStep state' := by
  unfold advance at taken
  split at taken
  next was =>
    cases taken
    exact .refused was (by simp [PublishVerdict.error])
  next was =>
    cases taken
    exact .refused was (by simp [PublishVerdict.notSent])
  next was =>
    split at taken
    next nobody =>
      cases taken
      exact .registers (.found was fun prior held => by simp [nobody] at held)
    next prior held =>
      split at taken
      next done =>
        cases taken
        refine .registers (.found was fun other heldToo => ?_)
        cases held.symm.trans heldToo
        exact done
      next pending =>
        cases taken
        exact .waits was held (Bool.eq_false_iff.mpr pending)
  next was =>
    obtain ⟨done, registered⟩ := ite_none_right_eq_some.mp taken
    cases registered
    exact .registers (.woken was done)
  next was =>
    cases taken
    exact .registers (.tired was)
  next was =>
    obtain ⟨confirmation, answered, released⟩ := map_eq_some_iff.mp taken
    subst released
    refine .releases was rfl (by cases confirmation <;> rfl) ?_
    rintro verdict ⟨rfl⟩ status
    cases confirmation with
    | acked => exact answered
    | nacked | returned => cases status
  next was =>
    cases taken
    exact .releases was rfl rfl (by rintro verdict ⟨rfl⟩ status; cases status)
  next failure shutdown was =>
    cases taken
    have status := classifyExchangeFailure_status send.request.exclusive shutdown failure
    refine .releases was rfl ?_ ?_
    · rcases status with status | status <;> simp [unsent, status]
    · rintro verdict ⟨rfl⟩ confirmed
      rcases status with status | status <;> simp [status] at confirmed
  next was =>
    cases taken
    exact .cancels (.inl was)
  next prior was =>
    cases taken
    exact .cancels (.inr ⟨prior, was⟩)
  next was =>
    cases taken
    exact .releases was rfl rfl (by simp)
  · cases taken

inductive Stepped (state : ChannelSends) : SendAction → ChannelSends → Prop
  | joined : Stepped state .join { state with sends := state.sends ++ [{}] }
  | started {id : Nat} {send : ChannelSend} {request : SendRequest}
      (found : state.sends[id]? = some send) (was : send.stage = .unstarted) :
      Stepped state (.start id request)
        (state.put id { send with request := request, stage := .building })
  | posted {id : Nat} {send : ChannelSend} (found : state.sends[id]? = some send)
      (was : send.stage = .unstarted) :
      Stepped state (.post id)
        ({ state with log := state.log ++ [id] }.put id { send with stage := .posted })
  | advanced {id : Nat} {send : ChannelSend} {sendStep : SendStep} {state' : ChannelSends}
      (found : state.sends[id]? = some send) (advanced : Advanced state id send sendStep state') :
      Stepped state (.act id sendStep) state'
  | acked {id : Nat} {send : ChannelSend} (found : state.sends[id]? = some send)
      (ordered : send.request.returns = true → id ∈ state.returned) :
      Stepped state (.acked id) (state.confirm id .acked)
  | nacked {id : Nat} : Stepped state (.nacked id) (state.confirm id .nacked)
  | returned {id : Nat} {recipient : Option Nat} (logged : id ∈ state.log) :
      Stepped state (.returned id recipient) (state.handBack id recipient)

theorem stepped (taken : state.step action = some state') : Stepped state action state' := by
  cases action with
  | join =>
    cases taken
    exact .joined
  | start id request =>
    obtain ⟨send, found, moved⟩ := bind_eq_some_iff.mp taken
    obtain ⟨was, done⟩ := ite_none_right_eq_some.mp moved
    cases done
    exact .started found was
  | post id =>
    obtain ⟨send, found, moved⟩ := bind_eq_some_iff.mp taken
    obtain ⟨was, done⟩ := ite_none_right_eq_some.mp moved
    cases done
    exact .posted found was
  | act id sendStep =>
    obtain ⟨send, found, moved⟩ := bind_eq_some_iff.mp taken
    exact .advanced found (advanced moved)
  | acked id =>
    obtain ⟨send, found, moved⟩ := bind_eq_some_iff.mp taken
    obtain ⟨⟨_, _, ordered⟩, done⟩ := ite_none_right_eq_some.mp moved
    cases done
    exact .acked found ordered
  | nacked id =>
    obtain ⟨_, done⟩ := ite_none_right_eq_some.mp taken
    cases done
    exact .nacked
  | returned id recipient =>
    obtain ⟨send, _, moved⟩ := bind_eq_some_iff.mp taken
    obtain ⟨⟨logged, _⟩, done⟩ := ite_none_right_eq_some.mp moved
    cases done
    exact .returned logged

/-- What the broker answers: nothing, or the confirm of a publish that waits for it. -/
inductive Answered (state : ChannelSends) (id : Nat) (confirmation : Confirmation) :
    ChannelSends → Prop
  | ignored (idle : ∀ send, state.sends[id]? = some send → send.stage = .sent →
      send.confirmation ≠ none) : Answered state id confirmation state
  | set {send : ChannelSend} (found : state.sends[id]? = some send) (was : send.stage = .sent)
      (opened : send.confirmation = none) :
      Answered state id confirmation
        (state.put id { send with confirmation := some confirmation })

theorem answered_answer (state : ChannelSends) (id : Nat) (confirmation : Confirmation) :
    Answered state id confirmation (state.answer id confirmation) := by
  unfold answer
  split
  next send found =>
    split
    next waits =>
      exact .set found waits.1 waits.2
    next idle =>
      refine .ignored fun other located sent opened => idle ?_
      cases found.symm.trans located
      exact ⟨sent, opened⟩
  next nobody =>
    exact .ignored fun send located => by simp [nobody] at located

def Untouched (state : ChannelSends) (id : Nat) : Prop :=
  ∀ send, state.sends[id]? = some send → send.stage.unsent = true

section Ledger

variable {shared : ChannelSends} {send' : ChannelSend}

section

variable (found : state.sends[id]? = some send)
include found

theorem untouched_put (sameSends : shared.sends = state.sends)
    (back : send'.stage.unsent = true → send.stage.unsent = true) (party : Nat)
    (untouched : (shared.put id send').Untouched party) : state.Untouched party := by
  intro other located
  rw [Untouched, put, sameSends] at untouched
  by_cases same : id = party
  · subst same
    cases found.symm.trans located
    have inBounds := (List.getElem?_eq_some_iff.mp found).1
    exact back (untouched send' (by simp [inBounds]))
  · exact untouched other ((getElem?_set_ne same).trans located)

theorem not_untouched_put
    (sameSends : shared.sends = state.sends) (sent : send'.stage.unsent = false) :
    ¬ (shared.put id send').Untouched id := by
  intro untouched
  have inBounds := (List.getElem?_eq_some_iff.mp found).1
  have still := untouched send' (by simp [put, sameSends, inBounds])
  simp [sent] at still

theorem untouched_of_found (unsent : send.stage.unsent = true) : state.Untouched id := by
  intro other located
  cases found.symm.trans located
  exact unsent

end

theorem untouched_answer (confirmation : Confirmation) (party : Nat)
    (untouched : (state.answer id confirmation).Untouched party) : state.Untouched party := by
  have answered := answered_answer state id confirmation
  generalize state.answer id confirmation = after at answered untouched
  cases answered with
  | ignored => exact untouched
  | set found =>
    refine untouched_put found ?_ ?_ party untouched
    · rfl
    · exact fun same => same

/-- An answer to a send writes nothing else. -/
theorem unchanged_answer (state : ChannelSends) (id : Nat) (confirmation : Confirmation) :
    (state.answer id confirmation).log = state.log ∧
      (state.answer id confirmation).returned = state.returned ∧
      (state.answer id confirmation).sends.length = state.sends.length := by
  have answered := answered_answer state id confirmation
  generalize state.answer id confirmation = after at answered
  cases answered with
  | ignored => exact ⟨rfl, rfl, rfl⟩
  | set => exact ⟨rfl, rfl, length_set⟩

theorem Ready.unsent {expired : Bool} (ready : Ready state send sendStep expired) :
    send.stage.unsent = true := by
  cases ready with
  | found was | woken was | tired was => rw [was]; rfl

theorem Advanced.writes (advanced : Advanced state id send sendStep state')
    (found : state.sends[id]? = some send) :
    Writes state.log state.Untouched state'.log state'.Untouched := by
  cases advanced with
  | refused was | waits was =>
    exact .nothing (untouched_put found rfl fun _ => by rw [was]; rfl)
  | @registers _ expired ready =>
    cases expired with
    | true => exact .nothing (untouched_put found rfl fun _ => ready.unsent)
    | false =>
      exact .entry (untouched_of_found found ready.unsent) (not_untouched_put found rfl rfl)
        (untouched_put found rfl fun _ => ready.unsent)
  | releases _ _ sent => exact .nothing (untouched_put found rfl (by simp [sent]))
  | cancels => exact .nothing (untouched_put found rfl (by simp [unsent]))

theorem writes (taken : state.step action = some state') :
    Writes state.log state.Untouched state'.log state'.Untouched := by
  cases stepped taken with
  | joined =>
    refine .nothing fun party untouched send located => ?_
    have inBounds := (List.getElem?_eq_some_iff.mp located).1
    exact untouched send ((getElem?_append_left inBounds).trans located)
  | started found was => exact .nothing (untouched_put found rfl fun _ => by rw [was]; rfl)
  | posted found was =>
    have unsent : _ = true := congrArg unsent was
    exact .entry (untouched_of_found found unsent) (not_untouched_put found rfl rfl)
      (untouched_put found rfl fun _ => unsent)
  | advanced found advanced => exact advanced.writes found
  | acked | nacked =>
    rw [confirm, (unchanged_answer ..).1]
    exact .nothing (untouched_answer _)
  | returned =>
    unfold handBack
    split
    · rw [(unchanged_answer ..).1]
      exact .nothing (untouched_answer _)
    · exact .nothing fun _ untouched => untouched

end Ledger

def mover : SendAction → Option Nat
  | .start id _ | .post id | .act id _ => some id
  | .join | .acked _ | .nacked _ | .returned _ _ => none

theorem stageOf_put_ne {shared : ChannelSends} {send' : ChannelSend} {other : Nat}
    (sameSends : shared.sends = state.sends) (different : id ≠ other) :
    (shared.put id send').stageOf other = state.stageOf other := by
  simp [stageOf, put, sameSends, getElem?_set_ne different]

theorem Advanced.stageOf {other : Nat} (advanced : Advanced state id send sendStep state')
    (different : id ≠ other) : state'.stageOf other = state.stageOf other := by
  cases advanced with
  | refused | waits | cancels | releases => exact stageOf_put_ne rfl different
  | @registers _ expired => cases expired <;> exact stageOf_put_ne rfl different

theorem stageOf_answer (state : ChannelSends) (id other : Nat) (confirmation : Confirmation) :
    (state.answer id confirmation).stageOf other = state.stageOf other := by
  have answered := answered_answer state id confirmation
  generalize state.answer id confirmation = after at answered
  cases answered with
  | ignored => rfl
  | set found =>
    by_cases same : id = other
    · subst same
      have inBounds := (List.getElem?_eq_some_iff.mp found).1
      simp only [stageOf, put, found, getElem?_set_self inBounds, map_some]
    · exact stageOf_put_ne rfl same

theorem stageOf_step {stage : SendStage} (taken : state.step action = some state')
    (other : mover action ≠ some id) (stood : state.stageOf id = some stage) :
    state'.stageOf id = some stage := by
  cases stepped taken with
  | joined =>
    obtain ⟨send, found, same⟩ := Option.map_eq_some_iff.mp stood
    have inBounds := (List.getElem?_eq_some_iff.mp found).1
    simp [stageOf, getElem?_append_left inBounds, found, same]
  | started | posted =>
    rw [stageOf_put_ne rfl fun same => other (congrArg some same)]
    exact stood
  | advanced _ advanced =>
    rw [advanced.stageOf fun same => other (congrArg some same)]
    exact stood
  | acked | nacked =>
    rw [confirm, stageOf_answer]
    exact stood
  | returned =>
    unfold handBack
    split
    · rw [stageOf_answer]
      exact stood
    · exact stood

theorem length_step (taken : state.step action = some state') (other : action ≠ .join) :
    state'.sends.length = state.sends.length := by
  cases stepped taken with
  | joined => exact absurd rfl other
  | started | posted => simp [put]
  | advanced _ advanced =>
    cases advanced with
    | refused | waits | cancels | releases => simp [put, release]
    | @registers _ expired => cases expired <;> simp [register, put]
  | acked | nacked => rw [confirm, (unchanged_answer ..).2.2]
  | returned =>
    unfold handBack
    split
    · rw [(unchanged_answer ..).2.2]
    · rfl

theorem untouched_of_stageOf {stage : SendStage} (stands : state.stageOf id = some stage)
    (unsent : stage.unsent = true) : state.Untouched id := by
  intro send located
  have same : some send.stage = some stage := by simpa [stageOf, located] using stands
  cases same
  exact unsent

end ChannelSends
end RabbitKit
