import RabbitKit.ChannelSendSteps

/-! # Publishes with one message id on one channel

A publish that finds an earlier one with its message id waits for that one's future and then goes
on without looking again.  With one waiter at a time, whose wait does not expire, the publishes of
an id are on a channel one after another; where the client library gives a returned message to the
only publish it can belong to, such a message is not reported as confirmed.  With a second waiter,
or a publish that comes between the end of the first and the moment the waiter goes on, two are
under way at once.
-/

namespace RabbitKit

open LabelledRun CallLedger List Option

namespace ChannelSends

variable {state state' shared : ChannelSends} {id : Nat} {send send' : ChannelSend}
variable {sendStep : SendStep} {action : SendAction}

/-- A publish comes to the check of its key while nobody waits for the key, and nobody's wait
expires before the publish waited for is done. -/
def Uncontended (state : ChannelSends) : SendAction → Prop
  | .act id (.lookup (.found _)) => ∀ send ∈ state.sends[id]?, ∀ other ∈ state.sends,
      other.request.key = send.request.key → other.stage.prior? = none
  | .act id (.waitExpires _) => ∀ send ∈ state.sends[id]?, ∀ prior ∈ send.stage.prior?,
      state.settled prior = true
  | _ => True

instance (state : ChannelSends) : DecidablePred (Uncontended state) := fun action => by
  unfold Uncontended
  split <;> infer_instance

/-- The client library gives a returned message to its publish if no other publish with that
message id is under way on the channel. -/
def Correlates (state : ChannelSends) : SendAction → Prop
  | .returned id recipient => ∀ send ∈ state.sends[id]?, send.stage = .sent →
      (∀ other < state.sends.length, ∀ party ∈ state.sends[other]?, party.stage = .sent →
        party.request.key = send.request.key → other = id) → recipient = some id
  | _ => True

instance (state : ChannelSends) : DecidablePred (Correlates state) := fun action => by
  unfold Correlates
  split <;> infer_instance

def Quiet (state : ChannelSends) (key : Nat × Nat) : Prop :=
  ∀ (id : Nat) (send : ChannelSend), state.sends[id]? = some send → send.request.key = key →
    send.stage ≠ .sent

structure Serial (state : ChannelSends) : Prop where
  held : ∀ {id : Nat} {send : ChannelSend}, state.sends[id]? = some send → send.stage = .sent →
    state.inflight.get? send.request.key = some id
  awaited : ∀ {id other : Nat} {send party : ChannelSend} {prior : Nat},
    state.sends[id]? = some send → send.stage = .waiting prior →
    state.sends[other]? = some party → party.stage = .sent →
    party.request.key = send.request.key → other = prior
  lone : ∀ {id other : Nat} {send party : ChannelSend},
    state.sends[id]? = some send → send.stage.prior?.isSome = true →
    state.sends[other]? = some party → party.stage.prior?.isSome = true →
    party.request.key = send.request.key → other = id

theorem not_sent_of_settled (located : state.sends[id]? = some send)
    (settled : state.settled id = true) : send.stage ≠ .sent := by
  intro sent
  simp [ChannelSends.settled, located, sent, SendStage.settled] at settled

section

variable (serial : Serial state)
include serial

theorem Serial.quiet_of_ready {expired : Bool}
    (found : state.sends[id]? = some send) (ready : Ready state send sendStep expired)
    (uncontended : Uncontended state (.act id sendStep)) : Quiet state send.request.key := by
  intro other party located same sent
  cases ready with
  | found _ free =>
    have held := serial.held located sent
    exact not_sent_of_settled located (free other (same ▸ held)) sent
  | woken was done =>
    cases serial.awaited found was located sent same
    exact not_sent_of_settled located done sent
  | tired was =>
    have done := uncontended send found _ (by rw [was]; rfl)
    cases serial.awaited found was located sent same
    exact not_sent_of_settled located done sent

/-- Apart from a publish with the key, nobody else waits for the key of one that registers. -/
theorem Serial.lone_of_ready {expired : Bool}
    (found : state.sends[id]? = some send) (ready : Ready state send sendStep expired)
    (uncontended : Uncontended state (.act id sendStep)) {other : Nat} {party : ChannelSend}
    (located : state.sends[other]? = some party) (same : party.request.key = send.request.key)
    (waits : party.stage.prior?.isSome = true) : other = id := by
  cases ready with
  | found =>
    have alone := uncontended send found party (mem_of_getElem? located) same
    simp [alone] at waits
  | woken was | tired was =>
    exact serial.lone found (by rw [was]; rfl) located waits same

theorem serial_of_back (back : ∀ (id : Nat) (send' : ChannelSend), state'.sends[id]? = some send' →
      send'.stage = .sent ∨ send'.stage.prior?.isSome = true →
      ∃ send : ChannelSend, state.sends[id]? = some send ∧ send.stage = send'.stage ∧
        send.request.key = send'.request.key)
    (kept : ∀ (id : Nat) (send' : ChannelSend), state'.sends[id]? = some send' →
      send'.stage = .sent →
      state'.inflight.get? send'.request.key = state.inflight.get? send'.request.key) :
    Serial state' := by
  constructor
  · intro id send' located sent
    obtain ⟨send, found, sameStage, sameKey⟩ := back id send' located (.inl sent)
    rw [kept id send' located sent, ← sameKey]
    exact serial.held found (sameStage.trans sent)
  · intro id other send' party' prior located waits otherLocated sent same
    obtain ⟨send, found, sameStage, sameKey⟩ := back id send' located (.inr (by rw [waits]; rfl))
    obtain ⟨party, otherFound, otherStage, otherKey⟩ := back other party' otherLocated (.inl sent)
    exact serial.awaited found (sameStage.trans waits) otherFound (otherStage.trans sent)
      (otherKey.trans (same.trans sameKey.symm))
  · intro id other send' party' located waits otherLocated otherWaits same
    obtain ⟨send, found, sameStage, sameKey⟩ := back id send' located (.inr waits)
    obtain ⟨party, otherFound, otherStage, otherKey⟩ :=
      back other party' otherLocated (.inr otherWaits)
    exact serial.lone found (sameStage ▸ waits) otherFound (otherStage ▸ otherWaits)
      (otherKey.trans (same.trans sameKey.symm))

section

variable (found : state.sends[id]? = some send)
include found

theorem serial_leaves (sameSends : shared.sends = state.sends) (notSent : send'.stage ≠ .sent)
    (notWaiting : send'.stage.prior? = none)
    (kept : ∀ (other : Nat) (party : ChannelSend), id ≠ other → state.sends[other]? = some party →
      party.stage = .sent →
      shared.inflight.get? party.request.key = state.inflight.get? party.request.key) :
    Serial (shared.put id send') := by
  refine serial_of_back serial ?_ ?_
  · intro other party located busy
    rw [put, sameSends] at located
    rcases getElem?_of_moved found located with ⟨_, rfl⟩ | ⟨_, stood⟩
    · rcases busy with sent | waits
      · exact absurd sent notSent
      · simp [notWaiting] at waits
    · exact ⟨party, stood, rfl, rfl⟩
  · intro other party located sent
    rw [put, sameSends] at located
    rcases getElem?_of_moved found located with ⟨_, rfl⟩ | ⟨different, stood⟩
    · exact absurd sent notSent
    · exact kept other party different stood sent

theorem serial_waits {prior : Nat} (held : state.inflight.get? send.request.key = some prior)
    (alone : ∀ other ∈ state.sends, other.request.key = send.request.key →
      other.stage.prior? = none) : Serial (state.put id { send with stage := .waiting prior }) := by
  constructor
  · intro other party located sent
    rcases getElem?_of_moved found located with ⟨_, rfl⟩ | ⟨_, stood⟩
    · cases sent
    · exact serial.held stood sent
  · intro one other party another before located waits otherLocated sent same
    rcases getElem?_of_moved found otherLocated with ⟨_, rfl⟩ | ⟨_, otherStood⟩
    · cases sent
    · rcases getElem?_of_moved found located with ⟨_, rfl⟩ | ⟨_, stood⟩
      · cases waits
        have owner := serial.held otherStood sent
        rw [same] at owner
        exact some.inj (owner.symm.trans held)
      · exact serial.awaited stood waits otherStood sent same
  · intro one other party another located waits otherLocated otherWaits same
    have noWaiter {third : Nat} {waiter : ChannelSend} (stood : state.sends[third]? = some waiter)
        (waits : waiter.stage.prior?.isSome = true)
        (sameKey : waiter.request.key = send.request.key) : False := by
      simp [alone waiter (mem_of_getElem? stood) sameKey] at waits
    rcases getElem?_of_moved found located with ⟨rfl, rfl⟩ | ⟨_, stood⟩
    · rcases getElem?_of_moved found otherLocated with ⟨rfl, _⟩ | ⟨_, otherStood⟩
      · rfl
      · exact (noWaiter otherStood otherWaits same).elim
    · rcases getElem?_of_moved found otherLocated with ⟨_, rfl⟩ | ⟨_, otherStood⟩
      · exact (noWaiter stood waits same.symm).elim
      · exact serial.lone stood waits otherStood otherWaits same

theorem serial_sends (quiet : Quiet state send.request.key)
    (lone : ∀ {other : Nat} {party : ChannelSend}, state.sends[other]? = some party →
      party.request.key = send.request.key → party.stage.prior?.isSome = true → other = id) :
    Serial (state.register id send false) := by
  constructor
  · intro other party located sent
    rcases getElem?_of_moved found located with ⟨rfl, rfl⟩ | ⟨_, stood⟩
    · simp [register, put]
    · have different : party.request.key ≠ send.request.key := fun same =>
        quiet other party stood same sent
      simpa [register, put, different] using serial.held stood sent
  · intro one other party another prior located waits otherLocated sent same
    rcases getElem?_of_moved found located with ⟨_, rfl⟩ | ⟨notOne, stood⟩
    · cases waits
    · rcases getElem?_of_moved found otherLocated with ⟨_, rfl⟩ | ⟨_, otherStood⟩
      · exact absurd (lone stood same.symm (by rw [waits]; rfl)).symm notOne
      · exact serial.awaited stood waits otherStood sent same
  · intro one other party another located waits otherLocated otherWaits same
    rcases getElem?_of_moved found located with ⟨_, rfl⟩ | ⟨_, stood⟩
    · cases waits
    · rcases getElem?_of_moved found otherLocated with ⟨_, rfl⟩ | ⟨_, otherStood⟩
      · cases otherWaits
      · exact serial.lone stood waits otherStood otherWaits same

end

end

theorem Advanced.serial (advanced : Advanced state id send sendStep state')
    (serial : Serial state) (found : state.sends[id]? = some send)
    (uncontended : Uncontended state (.act id sendStep)) : Serial state' := by
  cases advanced with
  | refused =>
    exact serial_leaves serial found rfl (by simp) rfl fun _ _ _ _ _ => rfl
  | waits _ held => exact serial_waits serial found held (uncontended send found)
  | @registers _ expired ready =>
    have quiet := serial.quiet_of_ready found ready uncontended
    cases expired with
    | false =>
      exact serial_sends serial found quiet (serial.lone_of_ready found ready uncontended)
    | true =>
      refine serial_leaves serial found rfl (by simp) rfl fun other party _ located sent => ?_
      have different : party.request.key ≠ send.request.key := fun same =>
        quiet other party located same sent
      simp [different]
  | releases was settled =>
    refine serial_leaves serial found rfl ?_ ?_ fun other party notOther located sent => ?_
    · rintro rfl
      cases settled
    next stage _ _ =>
      cases stage <;> first | rfl | cases settled
    · have mine := serial.held found was
      have theirs := serial.held located sent
      have different : party.request.key ≠ send.request.key := fun same => by
        rw [same] at theirs
        exact notOther (some.inj (mine.symm.trans theirs))
      simp [mine, different]
  | cancels =>
    exact serial_leaves serial found rfl (by simp) rfl fun _ _ _ _ _ => rfl

theorem serial_answer (serial : Serial state) (confirmation : Confirmation) :
    Serial (state.answer id confirmation) := by
  have answered := answered_answer state id confirmation
  generalize state.answer id confirmation = after at answered
  cases answered with
  | ignored => exact serial
  | set found =>
    refine serial_of_back serial ?_ fun _ _ _ _ => rfl
    intro other party located _
    rcases getElem?_of_moved found located with ⟨rfl, rfl⟩ | ⟨_, stood⟩
    · exact ⟨_, found, rfl, rfl⟩
    · exact ⟨party, stood, rfl, rfl⟩

theorem serial_step (serial : Serial state) (uncontended : Uncontended state action)
    (taken : state.step action = some state') : Serial state' := by
  cases stepped taken with
  | joined =>
    refine serial_of_back serial ?_ fun _ _ _ _ => rfl
    intro id send located busy
    rcases getElem?_of_joined located with stood | ⟨_, rfl⟩
    · exact ⟨send, stood, rfl, rfl⟩
    · rcases busy with sent | waits
      · cases sent
      · cases waits
  | started found | posted found =>
    exact serial_leaves serial found rfl (by simp) rfl fun _ _ _ _ _ => rfl
  | advanced found advanced => exact advanced.serial serial found uncontended
  | acked | nacked =>
    refine serial_answer ?_ _
    exact ⟨serial.held, serial.awaited, serial.lone⟩
  | returned =>
    unfold handBack
    split
    · refine serial_answer ?_ _
      exact ⟨serial.held, serial.awaited, serial.lone⟩
    · exact ⟨serial.held, serial.awaited, serial.lone⟩

theorem Serial.unique (serial : Serial state) {other : Nat} {party : ChannelSend}
    (found : state.sends[id]? = some send) (sent : send.stage = .sent)
    (located : state.sends[other]? = some party) (otherSent : party.stage = .sent)
    (same : party.request.key = send.request.key) : other = id := by
  have owner := serial.held located otherSent
  rw [same, serial.held found sent] at owner
  exact (some.inj owner).symm

/-- A publish that waits for its confirm has not been sent back, and what is acknowledged or
reported as confirmed is not sent back by the broker. -/
structure Correlated (state : ChannelSends) : Prop where
  unasked : ∀ {id : Nat} {send : ChannelSend}, state.sends[id]? = some send →
    send.stage.unsent = true → send.confirmation = none
  handed : ∀ {id : Nat} {send : ChannelSend}, id ∈ state.returned →
    state.sends[id]? = some send → send.stage = .sent → send.confirmation ≠ none
  logged : ∀ id ∈ state.returned, id ∈ state.log
  acked : ∀ {id : Nat} {send : ChannelSend}, state.sends[id]? = some send →
    send.confirmation = some .acked → send.request.returns = false
  confirmed : ∀ {id : Nat} {send : ChannelSend} {verdict : PublishVerdict},
    state.sends[id]? = some send → send.stage = .ended verdict → verdict.status = .confirmed →
    send.request.returns = false

theorem correlated_put (correlated : Correlated state) (found : state.sends[id]? = some send)
    (sameSends : shared.sends = state.sends) (sameReturned : shared.returned = state.returned)
    (logged : ∀ party ∈ state.log, party ∈ shared.log)
    (unasked : send'.stage.unsent = true → send'.confirmation = none)
    (handed : id ∈ state.returned → send'.stage = .sent → send'.confirmation ≠ none)
    (acked : send'.confirmation = some .acked → send'.request.returns = false)
    (confirmed : ∀ verdict, send'.stage = .ended verdict → verdict.status = .confirmed →
      send'.request.returns = false) : Correlated (shared.put id send') := by
  constructor
  · intro other party located early
    rw [put, sameSends] at located
    rcases getElem?_of_moved found located with ⟨_, rfl⟩ | ⟨_, stood⟩
    · exact unasked early
    · exact correlated.unasked stood early
  · intro other party returned located sent
    rw [put, sameReturned] at returned
    rw [put, sameSends] at located
    rcases getElem?_of_moved found located with ⟨rfl, rfl⟩ | ⟨_, stood⟩
    · exact handed returned sent
    · exact correlated.handed returned stood sent
  · intro other returned
    rw [put, sameReturned] at returned
    exact logged other (correlated.logged other returned)
  · intro other party located answered
    rw [put, sameSends] at located
    rcases getElem?_of_moved found located with ⟨_, rfl⟩ | ⟨_, stood⟩
    · exact acked answered
    · exact correlated.acked stood answered
  · intro other party verdict located ended status
    rw [put, sameSends] at located
    rcases getElem?_of_moved found located with ⟨_, rfl⟩ | ⟨_, stood⟩
    · exact confirmed verdict ended status
    · exact correlated.confirmed stood ended status

theorem Advanced.correlated (advanced : Advanced state id send sendStep state')
    (correlated : Correlated state) (found : state.sends[id]? = some send)
    (clean : Clean state.log state.Untouched) : Correlated state' := by
  have acked := correlated.acked found
  cases advanced with
  | refused was failed =>
    have unasked := correlated.unasked found (by rw [was]; rfl)
    exact correlated_put correlated found rfl rfl (fun _ same => same) (fun _ => unasked)
      (by simp) acked (by rintro verdict ⟨rfl⟩ status; exact absurd status failed)
  | waits was =>
    have unasked := correlated.unasked found (by rw [was]; rfl)
    exact correlated_put correlated found rfl rfl (fun _ same => same) (fun _ => unasked)
      (by simp) acked (by simp)
  | @registers _ expired ready =>
    have unasked := correlated.unasked found ready.unsent
    have fresh := clean.absent id (untouched_of_found found ready.unsent)
    cases expired with
    | false =>
      exact correlated_put correlated found rfl rfl (fun _ => mem_append_left _)
        (fun _ => unasked) (fun returned => absurd (correlated.logged id returned) fresh) acked
        (by simp)
    | true =>
      exact correlated_put correlated found rfl rfl (fun _ same => same) (fun _ => unasked)
        (by simp) acked (by rintro verdict ⟨rfl⟩ status; cases status)
  | releases was settled sent confirmed =>
    refine correlated_put correlated found rfl rfl (fun _ same => same) (by simp [sent]) ?_ acked
      fun verdict ended status => acked (confirmed verdict ended status)
    rintro _ rfl
    cases settled
  | cancels =>
    exact correlated_put correlated found rfl rfl (fun _ same => same)
      (by simp [SendStage.unsent]) (by simp) acked (by simp)

theorem correlated_answer (correlated : Correlated state) (confirmation : Confirmation)
    (right : confirmation = .acked → ∀ send, state.sends[id]? = some send →
      send.stage = .sent → send.confirmation = none → send.request.returns = false) :
    Correlated (state.answer id confirmation) := by
  have answered := answered_answer state id confirmation
  generalize state.answer id confirmation = after at answered
  cases answered with
  | ignored => exact correlated
  | @set send found was opened =>
    refine correlated_put correlated found rfl rfl (fun _ same => same) ?_ (by simp) ?_ ?_
    · simp [was, SendStage.unsent]
    · intro acked
      exact right (some.inj acked) send found was opened
    · simp [was]

/-- The list of returned messages grows by one that has its answer, if it waits for one. -/
theorem correlated_returned {after : ChannelSends} (correlated : Correlated after)
    (logged : id ∈ after.log)
    (handed : ∀ party, after.sends[id]? = some party → party.stage = .sent →
      party.confirmation ≠ none) :
    Correlated { after with returned := after.returned ++ [id] } := by
  refine ⟨correlated.unasked, ?_, ?_, correlated.acked, correlated.confirmed⟩
  · intro other party returned located sent
    rcases mem_append.mp returned with before | last
    · exact correlated.handed before located sent
    · cases mem_singleton.mp last
      exact handed party located sent
  · intro other returned
    rcases mem_append.mp returned with before | last
    · exact correlated.logged other before
    · cases mem_singleton.mp last
      exact logged

theorem answer_returned (state : ChannelSends) (ids : List Nat) (id : Nat)
    (confirmation : Confirmation) : { state with returned := ids }.answer id confirmation =
      { state.answer id confirmation with returned := ids } := by
  unfold answer
  dsimp only
  split
  · split <;> rfl
  · rfl

section

variable (correlated : Correlated state)
include correlated

theorem correlated_handBack {recipient : Option Nat} (serial : Serial state)
    (correlates : Correlates state (.returned id recipient)) (logged : id ∈ state.log) :
    Correlated (state.handBack id recipient) := by
  -- a publish that still waits is alone under way, so that the message is given to it
  have own {send : ChannelSend} (found : state.sends[id]? = some send)
      (sent : send.stage = .sent) : recipient = some id :=
    correlates send found sent fun other _ party located otherSent same =>
      serial.unique found sent located otherSent same
  cases recipient with
  | none =>
    refine correlated_returned correlated logged fun party located sent => ?_
    cases own located sent
  | some holder =>
    unfold handBack
    dsimp only
    rw [answer_returned]
    have right : Correlated (state.answer holder .returned) :=
      correlated_answer correlated .returned (by simp)
    rw [← (unchanged_answer state holder .returned).2.1]
    refine correlated_returned right (by rwa [(unchanged_answer ..).1]) fun party located sent => ?_
    have answered := answered_answer state holder .returned
    generalize state.answer holder .returned = after at answered located
    cases answered with
    | ignored idle =>
      cases own located sent
      exact idle party located sent
    | set found =>
      rcases getElem?_of_moved found located with ⟨_, rfl⟩ | ⟨notHolder, stood⟩
      · simp
      · exact absurd (some.inj (own stood sent)) notHolder

theorem correlated_confirm {confirmation : Confirmation}
    (right : confirmation = .acked → ∀ send, state.sends[id]? = some send →
      send.stage = .sent → send.confirmation = none → send.request.returns = false) :
    Correlated (state.confirm id confirmation) := by
  refine correlated_answer ?_ confirmation right
  exact ⟨correlated.unasked, correlated.handed, correlated.logged, correlated.acked,
    correlated.confirmed⟩

theorem correlated_step (serial : Serial state) (clean : Clean state.log state.Untouched)
    (correlates : Correlates state action) (taken : state.step action = some state') :
    Correlated state' := by
  cases stepped taken with
  | joined =>
    constructor
    · intro id send located early
      rcases getElem?_of_joined located with stood | ⟨_, rfl⟩
      · exact correlated.unasked stood early
      · rfl
    · intro id send returned located sent
      rcases getElem?_of_joined located with stood | ⟨_, rfl⟩
      · exact correlated.handed returned stood sent
      · cases sent
    · exact correlated.logged
    · intro id send located acked
      rcases getElem?_of_joined located with stood | ⟨_, rfl⟩
      · exact correlated.acked stood acked
      · cases acked
    · intro id send verdict located ended status
      rcases getElem?_of_joined located with stood | ⟨_, rfl⟩
      · exact correlated.confirmed stood ended status
      · cases ended
  | started found was =>
    have unasked := correlated.unasked found (by rw [was]; rfl)
    exact correlated_put correlated found rfl rfl (fun _ same => same) (fun _ => unasked)
      (by simp) (by simp [unasked]) (by simp)
  | posted found was =>
    have unasked := correlated.unasked found (by rw [was]; rfl)
    exact correlated_put correlated found rfl rfl (fun _ => mem_append_left _) (fun _ => unasked)
      (by simp) (by simp [unasked]) (by simp)
  | advanced found advanced => exact advanced.correlated correlated found clean
  | acked found ordered =>
    refine correlated_confirm correlated fun _ party located sent opened => ?_
    cases found.symm.trans located
    refine Bool.eq_false_iff.mpr fun returns => ?_
    exact correlated.handed (ordered returns) found sent opened
  | nacked => exact correlated_confirm correlated (by simp)
  | returned logged => exact correlated_handBack correlated serial correlates logged

end

/-- Where nobody comes to a key that somebody waits for, and no wait expires early, two publishes
with one message id are not under way on one channel, and a mandatory publish that the broker
cannot route is not reported as confirmed. -/
theorem publishes_serialised {actions : List SendAction}
    (run : RunWithin step (fun state action => Uncontended state action ∧ Correlates state action)
      {} actions state) :
    (∀ (id other : Nat) (send party : ChannelSend), state.sends[id]? = some send →
      state.sends[other]? = some party → send.stage = .sent → party.stage = .sent →
      party.request.channel = send.request.channel →
      party.request.messageId = send.request.messageId → other = id) ∧
    ∀ (id : Nat) (send : ChannelSend) (verdict : PublishVerdict),
      state.sends[id]? = some send → send.stage = .ended verdict → verdict.status = .confirmed →
      ¬ (send.request.mandatory = true ∧ send.request.unroutable = true) := by
  have kept : Clean state.log state.Untouched ∧ Serial state ∧ Correlated state := by
    refine run.invariant (fun {before} _ _
      (held : Clean before.log before.Untouched ∧ Serial before ∧ Correlated before)
      admitted taken => ?_) ⟨clean_nil _, ?_, ?_⟩
    · obtain ⟨clean, serial, correlated⟩ := held
      exact ⟨clean.writes (writes taken), serial_step serial admitted.1 taken,
        correlated_step correlated serial clean admitted.2 taken⟩
    · exact ⟨by simp, by simp, by simp⟩
    · exact ⟨by simp, by simp, by simp, by simp, by simp⟩
  obtain ⟨_, serial, correlated⟩ := kept
  constructor
  · intro id other send party found located sent otherSent sameChannel sameId
    refine serial.unique found sent located otherSent ?_
    rw [SendRequest.key, SendRequest.key, sameChannel, sameId]
  · rintro id send verdict found ended status ⟨mandatory, unroutable⟩
    have returns := correlated.confirmed found ended status
    simp [SendRequest.returns, mandatory, unroutable] at returns

def repeated (mandatory unroutable : Bool) : SendRequest :=
  { messageId := 7, mandatory := mandatory, unroutable := unroutable }

def arrives (id : Nat) (mandatory unroutable : Bool) : List SendAction :=
  [.join, .start id (repeated mandatory unroutable), .act id (.lookup (.found false))]

theorem publishes_serialised_pair : ∃ state, RunWithin step
        (fun state action => Uncontended state action ∧ Correlates state action) {}
        (arrives 0 false false ++ arrives 1 true true ++ [.acked 0, .act 0 .resume,
          .act 1 (.wake false), .returned 1 (some 1), .acked 1, .act 1 .resume]) state ∧
      state.sends.map ChannelSend.stage =
        [.ended ⟨.confirmed, none⟩, .ended ⟨.returned, some .returned⟩] ∧
      (∀ (id other : Nat) (send party : ChannelSend), state.sends[id]? = some send →
        state.sends[other]? = some party → send.stage = .sent → party.stage = .sent →
        party.request.channel = send.request.channel →
        party.request.messageId = send.request.messageId → other = id) ∧
      ∀ (id : Nat) (send : ChannelSend) (verdict : PublishVerdict),
        state.sends[id]? = some send → send.stage = .ended verdict → verdict.status = .confirmed →
        ¬ (send.request.mandatory = true ∧ send.request.unroutable = true) := by
  refine exists_runWithin_of_check (fun state => state.sends.map ChannelSend.stage =
    [.ended ⟨.confirmed, none⟩, .ended ⟨.returned, some .returned⟩]) (by decide +kernel)
    fun state run stages => ?_
  exact ⟨of_decide_eq_true stages, publishes_serialised run⟩

/-- Two publishes wait for the first; when it is done both go on, and both are under way. -/
theorem waiters_not_serialised : ∃ state, Run step {}
      (arrives 0 false false ++ arrives 1 false false ++ arrives 2 true true ++
        [.acked 0, .act 0 .resume, .act 1 (.wake false), .act 2 (.wake false)]) state ∧
    state.sends.map ChannelSend.stage = [.ended ⟨.confirmed, none⟩, .sent, .sent] :=
  exists_runWithin_of_decide (by decide +kernel)

end ChannelSends
end RabbitKit
