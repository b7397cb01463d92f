import RabbitKit.ChannelSendSteps
import RabbitKit.PublishHonesty

/-! # Publishes of the asynchronous transport

`AsyncTransportImpl.publish` admits the message, connects, and then publishes on the channel of the
direct reply queue, on the channel without confirms, or on a channel of the pool.  Whatever can
fail before the call of `exchange.publish` answers `NOT_SENT`; nothing does so afterwards.
-/

namespace RabbitKit

open LabelledRun CallLedger ChannelSends Option

/-- Where a call of `publish` stands; in `sending` it waits for its publish on a channel, `pooled`
if the channel goes back to the pool. -/
inductive AsyncPublishStage
  | arrived
  | admitting
  | connecting
  | recovering
  | acquiring
  | building
  | posted
  | sending (pooled : Bool)
  | releasing (verdict : PublishVerdict)
  | returned (verdict : PublishVerdict)
  | raised
  deriving DecidableEq

inductive ByteAdmission
  | admitted
  | exceeds
  | closed
  | timeout
  deriving DecidableEq

def ByteAdmission.refusal : ByteAdmission → Option PublishReason
  | .admitted => none
  | .exceeds => some .exceedsByteBudget
  | .closed => some .publisherClosed
  | .timeout => some .admissionTimeout

inductive PublishRoute
  | replyTo (request : SendRequest)
  | fast
  | confirmed (reconnecting : Bool)
  deriving DecidableEq

inductive ChannelAcquisition
  | acquired (request : SendRequest)
  | exhausted
  | closed
  | failed
  deriving DecidableEq

inductive AsyncPublishStep
  | enter
  | reserve (admission : ByteAdmission)
  | connect (route : Option PublishRoute)
  | recover (restored : Bool)
  | acquire (acquisition : ChannelAcquisition)
  | build (lookup : ExchangeLookup)
  | posted
  | postFails (failure : ExchangeFailure) (shutdown : Bool)
  | collect
  | release
  | cancel
  deriving DecidableEq

inductive AsyncPublishAction
  | publish
  | act (id : Nat) (step : AsyncPublishStep)
  | channel (action : SendAction)
  | closePublishing
  deriving DecidableEq

structure AsyncPublishing where
  closed : Bool := false
  publishes : List AsyncPublishStage := []
  channels : ChannelSends := {}

/-- `_REUSABLE_STATUSES`. -/
def PublishVerdict.reusable (verdict : PublishVerdict) : Bool :=
  verdict.status ∈ [.confirmed, .sent, .nacked, .returned]

namespace AsyncPublishing

variable (state : AsyncPublishing)

def move (id : Nat) (stage : AsyncPublishStage) : AsyncPublishing :=
  { state with publishes := state.publishes.set id stage }

def refuse (id : Nat) (reason : PublishReason) : Option AsyncPublishing :=
  some (state.move id (.returned (.notSent reason)))

def moveWith (id : Nat) (action : SendAction) (stage : AsyncPublishStage) :
    Option AsyncPublishing :=
  (state.channels.step action).map fun channels =>
    { state with channels := channels }.move id stage

def collect (id : Nat) (pooled : Bool) : Option SendStage → Option AsyncPublishing
  | some (.ended verdict) =>
    some (state.move id (if pooled && verdict.reusable then .releasing verdict
      else .returned verdict))
  | some .cancelled => some (state.move id .raised)
  | _ => none

/-- A step of `AsyncTransportImpl.publish`. -/
def advance (id : Nat) : AsyncPublishStep → AsyncPublishStage → Option AsyncPublishing
  | .enter, .arrived =>
    if state.closed then state.refuse id .publisherClosed else some (state.move id .admitting)
  | .reserve admission, .admitting =>
    match admission.refusal with
    | some reason => state.refuse id reason
    | none => some (state.move id .connecting)
  | .connect none, .connecting => state.refuse id .notConnected
  | .connect (some (.replyTo request)), .connecting =>
    state.moveWith id (.start id request) (.sending false)
  | .connect (some .fast), .connecting => some (state.move id .building)
  | .connect (some (.confirmed reconnecting)), .connecting =>
    some (state.move id (if reconnecting then .recovering else .acquiring))
  | .recover restored, .recovering =>
    if restored then some (state.move id .acquiring) else state.refuse id .notConnected
  | .acquire (.acquired request), .acquiring =>
    state.moveWith id (.start id request) (.sending true)
  | .acquire .exhausted, .acquiring => state.refuse id .admissionTimeout
  | .acquire .closed, .acquiring => state.refuse id .publisherClosed
  | .acquire .failed, .acquiring => state.refuse id .channelUnavailable
  | .build (.found _), .building => state.moveWith id (.post id) .posted
  | .build .invalid, .building => some (state.move id (.returned (.error .invalidEnvelope)))
  | .build .unavailable, .building => state.refuse id .channelUnavailable
  | .posted, .posted => some (state.move id (.returned ⟨.sent, none⟩))
  | .postFails failure shutdown, .posted =>
    some (state.move id (.returned (classifyExchangeFailure false shutdown failure)))
  | .collect, .sending pooled => state.collect id pooled (state.channels.stageOf id)
  | .release, .releasing verdict => some (state.move id (.returned verdict))
  | .cancel, .admitting | .cancel, .connecting | .cancel, .recovering | .cancel, .acquiring
  | .cancel, .building | .cancel, .posted | .cancel, .releasing _ => some (state.move id .raised)
  | _, _ => none

def isSending (id : Nat) : Bool :=
  state.publishes[id]? = some (.sending false) || state.publishes[id]? = some (.sending true)

/-- What happens on the channels by itself: the publishes there go on, and the broker answers. -/
def allows : SendAction → Bool
  | .act id _ => state.isSending id
  | .acked _ | .nacked _ | .returned _ _ => true
  | .join | .start _ _ | .post _ => false

/-- `publish` with `_publish_admitted`, section by section. -/
def step : AsyncPublishAction → Option AsyncPublishing
  | .publish =>
    (state.channels.step .join).map fun channels =>
      { state with channels := channels, publishes := state.publishes ++ [.arrived] }
  | .act id publishStep => state.publishes[id]?.bind fun stage => state.advance id publishStep stage
  | .channel action =>
    if state.allows action then
      (state.channels.step action).map fun channels => { state with channels := channels }
    else none
  | .closePublishing => some { state with closed := true }

end AsyncPublishing

namespace AsyncPublishStage

def early : AsyncPublishStage → Bool
  | .arrived | .admitting | .connecting | .recovering | .acquiring | .building => true
  | _ => false

def verdict? : AsyncPublishStage → Option PublishVerdict
  | .returned verdict => some verdict
  | _ => none

end AsyncPublishStage

namespace AsyncPublishing

variable {state state' : AsyncPublishing} {id : Nat} {stage stage' : AsyncPublishStage}
variable {publishStep : AsyncPublishStep} {action : AsyncPublishAction}

/-- What a publish may do by itself.  It answers `NOT_SENT` before anything was done on a channel,
with the verdict of its publish on a channel, or not at all. -/
structure Moves (state : AsyncPublishing) (id : Nat) (stage stage' : AsyncPublishStage) : Prop where
  lasting : stage.verdict? = none
  early : stage'.early = true → stage.early = true
  releasing : ∀ verdict, stage' = .releasing verdict → verdict.status ≠ .notSent
  honest : ∀ verdict, stage' = .returned verdict → verdict.status = .notSent →
    stage.early = true ∨ stage = .releasing verdict ∨
      state.channels.stageOf id = some (.ended verdict)

inductive Stepped (state : AsyncPublishing) : AsyncPublishAction → AsyncPublishing → Prop
  | joined {channels : ChannelSends} (taken : state.channels.step .join = some channels) :
      Stepped state .publish
        { state with channels := channels, publishes := state.publishes ++ [.arrived] }
  | moved {id : Nat} {publishStep : AsyncPublishStep} {stage stage' : AsyncPublishStage}
      (found : state.publishes[id]? = some stage) (moves : Moves state id stage stage') :
      Stepped state (.act id publishStep) (state.move id stage')
  | begun {id : Nat} {publishStep : AsyncPublishStep} {stage stage' : AsyncPublishStage}
      {sendAction : SendAction} {channels : ChannelSends}
      (found : state.publishes[id]? = some stage) (early : stage.early = true)
      (mover : ChannelSends.mover sendAction = some id)
      (taken : state.channels.step sendAction = some channels)
      (begun : stage'.early = false ∧ stage'.verdict? = none ∧ ∀ verdict,
        stage' ≠ .releasing verdict) :
      Stepped state (.act id publishStep) ({ state with channels := channels }.move id stage')
  | channel {sendAction : SendAction} {channels : ChannelSends}
      (taken : state.channels.step sendAction = some channels)
      (allowed : ∀ id, ChannelSends.mover sendAction = some id →
        ∃ pooled, state.publishes[id]? = some (.sending pooled))
      (other : sendAction ≠ .join) :
      Stepped state (.channel sendAction) { state with channels := channels }
  | closed : Stepped state .closePublishing { state with closed := true }

theorem moves_early (was : stage.early = true) (next : stage'.early = true) :
    Moves state id stage stage' := by
  refine ⟨?_, fun _ => was, ?_, fun _ _ _ => .inl was⟩
  · cases stage <;> first | rfl | cases was
  · rintro verdict rfl
    cases next

theorem moves_returned {verdict : PublishVerdict} (lasting : stage.verdict? = none)
    (honest : verdict.status = .notSent → stage.early = true ∨ stage = .releasing verdict ∨
      state.channels.stageOf id = some (.ended verdict)) :
    Moves state id stage (.returned verdict) := by
  refine ⟨lasting, by simp [AsyncPublishStage.early], by simp, ?_⟩
  rintro _ ⟨rfl⟩ unsent
  exact honest unsent

theorem moves_raised (lasting : stage.verdict? = none) : Moves state id stage .raised :=
  ⟨lasting, by simp [AsyncPublishStage.early], by simp, by simp⟩

theorem moves_collect {pooled : Bool} {sendStage : Option SendStage}
    (same : state.channels.stageOf id = sendStage)
    (taken : state.collect id pooled sendStage = some state') :
    ∃ stage', state' = state.move id stage' ∧ Moves state id (.sending pooled) stage' := by
  unfold collect at taken
  split at taken
  next verdict =>
    cases taken
    split
    next reusable =>
      refine ⟨_, rfl, rfl, by simp [AsyncPublishStage.early], ?_, by simp⟩
      rintro _ ⟨rfl⟩ unsent
      simp [PublishVerdict.reusable, unsent] at reusable
    · exact ⟨_, rfl, moves_returned rfl fun _ => .inr (.inr same)⟩
  · cases taken
    exact ⟨_, rfl, moves_raised rfl⟩
  · cases taken

section

variable (found : state.publishes[id]? = some stage)
include found

theorem stepped_moveWith {sendAction : SendAction}
    (early : stage.early = true) (mover : mover sendAction = some id)
    (begun : stage'.early = false ∧ stage'.verdict? = none ∧ ∀ verdict, stage' ≠ .releasing verdict)
    (taken : state.moveWith id sendAction stage' = some state') :
    Stepped state (.act id publishStep) state' := by
  obtain ⟨channels, stepped, rfl⟩ := map_eq_some_iff.mp taken
  exact .begun found early mover stepped begun

theorem stepped_refuse {reason : PublishReason}
    (early : stage.early = true) (taken : state.refuse id reason = some state') :
    Stepped state (.act id publishStep) state' := by
  cases taken
  refine .moved found (moves_returned ?_ fun _ => .inl early)
  cases stage <;> first | rfl | cases early

theorem stepped_advance (taken : state.advance id publishStep stage = some state') :
    Stepped state (.act id publishStep) state' := by
  cases publishStep with
  | enter =>
    cases stage with
    | arrived =>
      simp only [advance] at taken
      split at taken
      · exact stepped_refuse found rfl taken
      · cases taken
        exact .moved found (moves_early rfl rfl)
    | _ => cases taken
  | reserve admission =>
    cases stage with
    | admitting =>
      simp only [advance] at taken
      split at taken
      · exact stepped_refuse found rfl taken
      · cases taken
        exact .moved found (moves_early rfl rfl)
    | _ => cases taken
  | connect route =>
    cases stage with
    | connecting =>
      match route with
      | none => exact stepped_refuse found rfl taken
      | some (.replyTo request) =>
        exact stepped_moveWith found rfl rfl ⟨rfl, rfl, by simp⟩ taken
      | some .fast =>
        cases taken
        exact .moved found (moves_early rfl rfl)
      | some (.confirmed reconnecting) =>
        cases taken
        exact .moved found (moves_early rfl (by split <;> rfl))
    | _ => simp [advance] at taken
  | recover restored =>
    cases stage with
    | recovering =>
      cases restored with
      | true =>
        cases taken
        exact .moved found (moves_early rfl rfl)
      | false => exact stepped_refuse found rfl taken
    | _ => cases taken
  | acquire acquisition =>
    cases stage with
    | acquiring =>
      cases acquisition with
      | acquired request => exact stepped_moveWith found rfl rfl ⟨rfl, rfl, by simp⟩ taken
      | exhausted | closed | failed => exact stepped_refuse found rfl taken
    | _ => simp [advance] at taken
  | build lookup =>
    cases stage with
    | building =>
      cases lookup with
      | found expired => exact stepped_moveWith found rfl rfl ⟨rfl, rfl, by simp⟩ taken
      | invalid =>
        cases taken
        exact .moved found (moves_returned rfl fun _ => .inl rfl)
      | unavailable => exact stepped_refuse found rfl taken
    | _ => simp [advance] at taken
  | posted =>
    cases stage with
    | posted =>
      cases taken
      exact .moved found (moves_returned rfl (by simp))
    | _ => cases taken
  | postFails failure shutdown =>
    cases stage with
    | posted =>
      cases taken
      refine .moved found (moves_returned rfl fun unsent => ?_)
      rcases classifyExchangeFailure_status false shutdown failure with status | status <;>
        simp [status] at unsent
    | _ => cases taken
  | collect =>
    cases stage with
    | sending pooled =>
      obtain ⟨stage', rfl, moves⟩ := moves_collect rfl taken
      exact .moved found moves
    | _ => cases taken
  | release =>
    cases stage with
    | releasing verdict =>
      cases taken
      exact .moved found (moves_returned rfl fun _ => .inr (.inl rfl))
    | _ => cases taken
  | cancel =>
    cases stage with
    | admitting | connecting | recovering | acquiring | building | posted | releasing =>
      cases taken
      exact .moved found (moves_raised rfl)
    | arrived | sending | returned | raised => cases taken

end

theorem stepped (taken : state.step action = some state') : Stepped state action state' := by
  cases action with
  | publish =>
    rw [step] at taken
    obtain ⟨channels, stepped, rfl⟩ := map_eq_some_iff.mp taken
    exact .joined stepped
  | act id publishStep =>
    obtain ⟨stage, found, moved⟩ := bind_eq_some_iff.mp taken
    exact stepped_advance found moved
  | channel sendAction =>
    obtain ⟨allowed, moved⟩ := ite_none_right_eq_some.mp taken
    obtain ⟨channels, stepped, rfl⟩ := map_eq_some_iff.mp moved
    refine .channel stepped (fun id moves => ?_) ?_
    · cases sendAction with
      | act mover sendStep =>
        cases moves
        rcases (Bool.or_eq_true _ _).mp allowed with sending | sending
        · exact ⟨false, of_decide_eq_true sending⟩
        · exact ⟨true, of_decide_eq_true sending⟩
      | join | acked | nacked | returned => cases moves
      | start | post => cases allowed
    · rintro rfl
      cases allowed
  | closePublishing =>
    cases taken
    exact .closed

structure Accounted (state : AsyncPublishing) : Prop where
  clean : Clean state.channels.log state.channels.Untouched
  length : state.publishes.length = state.channels.sends.length
  early : ∀ {id : Nat} {stage : AsyncPublishStage}, state.publishes[id]? = some stage →
    stage.early = true → state.channels.stageOf id = some .unstarted
  releasing : ∀ {id : Nat} {verdict : PublishVerdict},
    state.publishes[id]? = some (.releasing verdict) → verdict.status ≠ .notSent
  notSent : ∀ {id : Nat} {verdict : PublishVerdict},
    state.publishes[id]? = some (.returned verdict) → verdict.status = .notSent →
    ∃ sendStage : SendStage, state.channels.stageOf id = some sendStage ∧
      sendStage.unsent = true

section

variable (accounted : Accounted state)
include accounted

theorem accounted_joined {channels : ChannelSends}
    (taken : state.channels.step .join = some channels) :
    Accounted { state with channels := channels, publishes := state.publishes ++ [.arrived] } := by
  have clean := accounted.clean.writes (writes taken)
  refine ⟨clean, ?_, ?_, ?_, ?_⟩
  · cases taken
    simp [accounted.length]
  · intro id stage located early
    rcases getElem?_of_joined located with stood | ⟨rfl, rfl⟩
    · exact stageOf_step taken (by simp [mover]) (accounted.early stood early)
    · cases taken
      simp [stageOf, accounted.length]
  · intro id verdict located
    rcases getElem?_of_joined located with stood | ⟨_, other⟩
    · exact accounted.releasing stood
    · cases other
  · intro id verdict located unsent
    rcases getElem?_of_joined located with stood | ⟨_, other⟩
    · obtain ⟨sendStage, stands, early⟩ := accounted.notSent stood unsent
      exact ⟨sendStage, stageOf_step taken (by simp [mover]) stands, early⟩
    · cases other

theorem accounted_moved (found : state.publishes[id]? = some stage)
    (moves : Moves state id stage stage') : Accounted (state.move id stage') := by
  refine ⟨accounted.clean, ?_, ?_, ?_, ?_⟩
  · simp [move, accounted.length]
  · intro other party located early
    rcases getElem?_of_moved found located with ⟨rfl, rfl⟩ | ⟨_, stood⟩
    · exact accounted.early found (moves.early early)
    · exact accounted.early stood early
  · intro other verdict located
    rcases getElem?_of_moved found located with ⟨_, same⟩ | ⟨_, stood⟩
    · exact moves.releasing verdict same.symm
    · exact accounted.releasing stood
  · intro other verdict located unsent
    rcases getElem?_of_moved found located with ⟨rfl, same⟩ | ⟨_, stood⟩
    · rcases moves.honest verdict same.symm unsent with early | rfl | ended
      · exact ⟨_, accounted.early found early, rfl⟩
      · exact absurd unsent (accounted.releasing found)
      · exact ⟨_, ended, by simp [SendStage.unsent, unsent]⟩
    · exact accounted.notSent stood unsent

theorem accounted_channels {channels : ChannelSends} {sendAction : SendAction}
    (taken : state.channels.step sendAction = some channels) (other : sendAction ≠ .join)
    (begun : ∀ id stage, mover sendAction = some id →
      state.publishes[id]? = some stage → stage.early = false ∧ stage.verdict? = none) :
    Accounted { state with channels := channels } := by
  refine ⟨accounted.clean.writes (writes taken), ?_, ?_, accounted.releasing, ?_⟩
  · rw [length_step taken other]
    exact accounted.length
  · intro id stage located early
    refine stageOf_step taken (fun mover => ?_) (accounted.early located early)
    simp [(begun id stage mover located).1] at early
  · intro id verdict located unsent
    obtain ⟨sendStage, stands, early⟩ := accounted.notSent located unsent
    refine ⟨sendStage, stageOf_step taken (fun mover => ?_) stands, early⟩
    have lasting := (begun id _ mover located).2
    cases lasting

theorem accounted_step (taken : state.step action = some state') : Accounted state' := by
  cases stepped taken with
  | joined done => exact accounted_joined accounted done
  | moved found moves => exact accounted_moved accounted found moves
  | @begun mover _ stage stage' sendAction _ found early moves done begun =>
    have other : sendAction ≠ .join := by
      rintro rfl
      cases moves
    -- the publish leaves the early stages before its step on the channels counts
    have lasting : stage.verdict? = none := by cases stage <;> first | rfl | cases early
    have moved : Accounted (state.move mover stage') := by
      refine accounted_moved accounted found ⟨lasting, ?_, ?_, ?_⟩
      · simp [begun.1]
      · intro verdict same
        exact absurd same (begun.2.2 verdict)
      · rintro verdict rfl
        cases begun.2.1
    refine accounted_channels moved done other fun id party moverToo located => ?_
    cases moves.symm.trans moverToo
    rcases getElem?_of_moved found located with ⟨_, rfl⟩ | ⟨different, _⟩
    · exact ⟨begun.1, begun.2.1⟩
    · exact absurd rfl different
  | channel done allowed other =>
    refine accounted_channels accounted done other fun id stage mover located => ?_
    obtain ⟨pooled, sending⟩ := allowed id mover
    cases sending.symm.trans located
    exact ⟨rfl, rfl⟩
  | closed =>
    exact ⟨accounted.clean, accounted.length, accounted.early, accounted.releasing,
      accounted.notSent⟩

end

def verdict (state : AsyncPublishing) (id : Nat) : Option PublishVerdict :=
  state.publishes[id]?.bind AsyncPublishStage.verdict?

theorem verdict_move {answer : PublishVerdict} {other : Nat}
    (found : state.publishes[id]? = some stage) (lasting : stage.verdict? = none)
    (answered : state.verdict other = some answer) :
    (state.move id stage').verdict other = some answer := by
  by_cases same : id = other
  · subst same
    simp [verdict, found, lasting] at answered
  · simpa [verdict, move, List.getElem?_set_ne same] using answered

theorem verdict_step {answer : PublishVerdict} (taken : state.step action = some state')
    (answered : state.verdict id = some answer) : state'.verdict id = some answer := by
  cases stepped taken with
  | joined =>
    obtain ⟨stage, found, same⟩ := bind_eq_some_iff.mp answered
    have inBounds := (List.getElem?_eq_some_iff.mp found).1
    simp [verdict, List.getElem?_append_left inBounds, found, same]
  | moved found moves => exact verdict_move found moves.lasting answered
  | @begun _ _ stage _ _ _ found early =>
    refine verdict_move found ?_ answered
    cases stage <;> first | rfl | cases early
  | channel | closed => exact answered

/-- `AsyncTransportImpl.publish` calls `exchange.publish` at most once for a publish, and never for
one that answers `NOT_SENT`. -/
theorem asyncPublish_honest :
    HonestPublisher step {} (fun state => state.channels.log) verdict := by
  refine honestPublisher_of_invariant Accounted ?_ accounted_step (fun held => held.clean.nodup)
    ?_ fun _ => verdict_step
  · exact ⟨clean_nil _, rfl, by simp, by simp, by simp⟩
  · intro state id answer accounted answered unsent
    obtain ⟨stage, found, same⟩ := bind_eq_some_iff.mp answered
    cases stage with
    | returned verdict =>
      cases same
      obtain ⟨sendStage, stands, early⟩ := accounted.notSent found unsent
      exact accounted.clean.absent id (untouched_of_stageOf stands early)
    | _ => cases same

end AsyncPublishing
end RabbitKit
