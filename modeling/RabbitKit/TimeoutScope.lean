import RabbitKit.LabelledRun
import RabbitKit.AsyncSettlement

/-! # The sync scope of the timeout middleware

`TimeoutMiddleware.consume_scope` runs the handler in a thread of its own and joins it with a
timeout. The settlement functions of the message are replaced by stand-ins: a call from the handler
thread is captured, a call from the consumer thread is real. When the thread ends in time, the
consumer thread replays what was captured. When it does not, the flag `timed_out` makes later calls
of the handler thread raise, and the scope raises `HandlerTimeoutError`.

The two threads interleave between the test of a message's disposition, the test of the flag, the
capture and the assignment of the disposition.
-/

namespace RabbitKit

open LabelledRun List

inductive SettlingThread
  | consumer
  | handler
  deriving DecidableEq

/-- A call of one of the real settlement functions. -/
structure RealCall where
  thread : SettlingThread
  settlement : Settlement
  returned : Bool
  deriving DecidableEq

inductive StandInAnswer
  | real
  | discarded
  | captured
  deriving DecidableEq

/-- `_guarded_ack`, `_guarded_nack` and `_guarded_reject`. -/
def guardedSettlement (caller : SettlingThread) (timedOut : Bool) : StandInAnswer :=
  if caller ≠ .handler then .real
  else if timedOut then .discarded
  else .captured

/-- Where the handler thread stands: outside of settlement calls, in one that found the
message pending, past the test of the flag, past the capture, or at its end. -/
inductive HandlerThread
  | running
  | entered (settlement : Settlement)
  | checked (settlement : Settlement)
  | noted (settlement : Settlement)
  | ended
  deriving DecidableEq

/-- Where the consumer thread stands in the scope.  `expired` is past `is_alive`,
`abandoned` past `timed_out.set`, where `on_timeout` runs. -/
inductive ScopePhase
  | joining
  | replaying (left : List Settlement)
  | expired
  | abandoned
  | over (timeout : Bool)
  deriving DecidableEq

/-- A settlement call of the consumer thread: past the test of the disposition, or back
from the transport. -/
inductive ConsumerCall
  | idle
  | entered (settlement : Settlement)
  | sent (settlement : Settlement)
  deriving DecidableEq

structure TimeoutScope where
  disposition : Disposition := .pending
  timedOut : Bool := false
  captured : List Settlement := []
  handler : HandlerThread := .running
  phase : ScopePhase := .joining
  call : ConsumerCall := .idle
  calls : List RealCall := []
  deriving DecidableEq

inductive TimeoutAction
  | handlerCalls (settlement : Settlement)
  | handlerChecks
  | handlerCaptures
  | handlerMarks
  | handlerEnds
  | joinReturns
  | replay (returned : Bool)
  | scopeReturns
  | joinExpires
  | setTimedOut
  | raiseTimeout
  | consumerCalls (settlement : Settlement)
  | consumerSends (returned : Bool)
  | consumerMarks
  deriving DecidableEq

/-- The consumer thread settles from `on_timeout` on, or after the scope. -/
def ScopePhase.consumerSettles : ScopePhase → Bool
  | .abandoned | .over _ => true
  | _ => false

def HandlerThread.committed : HandlerThread → Bool
  | .checked _ | .noted _ => true
  | _ => false

namespace TimeoutScope

/-- `available` tells which settlement functions the message has; a call without one
raises `SettlementError`.  A call that finds the message settled returns at once. -/
def step (available : Settlement → Bool) (scope : TimeoutScope) :
    TimeoutAction → Option TimeoutScope
  | .handlerCalls settlement =>
    if scope.handler = .running then
      if scope.disposition = .pending ∧ available settlement then
        some { scope with handler := .entered settlement }
      else some scope
    else none
  | .handlerChecks =>
    match scope.handler with
    | .entered settlement =>
      match guardedSettlement .handler scope.timedOut with
      | .real => some { scope with
          handler := .noted settlement
          calls := scope.calls ++ [⟨.handler, settlement, true⟩] }
      | .discarded => some { scope with handler := .running }
      | .captured => some { scope with handler := .checked settlement }
    | _ => none
  | .handlerCaptures =>
    match scope.handler with
    | .checked settlement => some { scope with
        handler := .noted settlement
        captured := scope.captured ++ [settlement] }
    | _ => none
  | .handlerMarks =>
    match scope.handler with
    | .noted settlement => some { scope with
        handler := .running
        disposition := settlement.disposition }
    | _ => none
  | .handlerEnds =>
    if scope.handler = .running then some { scope with handler := .ended } else none
  | .joinReturns =>
    if scope.phase = .joining ∧ scope.handler = .ended then
      some { scope with phase := .replaying scope.captured }
    else none
  | .replay returned =>
    match scope.phase with
    | .replaying (settlement :: left) => some { scope with
        calls := scope.calls ++ [⟨.consumer, settlement, returned⟩]
        phase := if returned then .replaying left else .over false }
    | _ => none
  | .scopeReturns =>
    if scope.phase = .replaying [] then some { scope with phase := .over false } else none
  | .joinExpires =>
    if scope.phase = .joining ∧ scope.handler ≠ .ended then
      some { scope with phase := .expired }
    else none
  | .setTimedOut =>
    if scope.phase = .expired then
      some { scope with timedOut := true, phase := .abandoned }
    else none
  | .raiseTimeout =>
    if scope.phase = .abandoned ∧ scope.call = .idle then
      some { scope with phase := .over true }
    else none
  | .consumerCalls settlement =>
    if scope.phase.consumerSettles ∧ scope.call = .idle then
      if scope.disposition = .pending ∧ available settlement then
        some { scope with call := .entered settlement }
      else some scope
    else none
  | .consumerSends returned =>
    match scope.call with
    | .entered settlement => some { scope with
        calls := scope.calls ++ [⟨.consumer, settlement, returned⟩]
        call := if returned then .sent settlement else .idle }
    | _ => none
  | .consumerMarks =>
    match scope.call with
    | .sent settlement => some { scope with
        call := .idle
        disposition := settlement.disposition }
    | _ => none

/-- The beginning of the scope; under `ACK_FIRST` the consumer thread has settled before. -/
def begun : Option Settlement → TimeoutScope
  | none => {}
  | some settlement =>
    { disposition := settlement.disposition, calls := [⟨.consumer, settlement, true⟩] }

/-- When the flag is set no settlement call of the handler has passed its test. -/
def FlagFirst (scope : TimeoutScope) : TimeoutAction → Prop
  | .setTimedOut => scope.captured = [] ∧ scope.handler.committed = false
  | _ => True

instance (scope : TimeoutScope) : DecidablePred scope.FlagFirst := fun action => by
  unfold FlagFirst
  split <;> infer_instance

variable {available : Settlement → Bool} {scope scope' : TimeoutScope} {action : TimeoutAction}

inductive Transition (available : Settlement → Bool) (scope : TimeoutScope) :
    TimeoutAction → TimeoutScope → Prop
  | handlerEnters {settlement : Settlement} (running : scope.handler = .running)
      (unsettled : scope.disposition = .pending) (has : available settlement = true) :
      Transition available scope (.handlerCalls settlement)
        { scope with handler := .entered settlement }
  | handlerReturns {settlement : Settlement} (running : scope.handler = .running) :
      Transition available scope (.handlerCalls settlement) scope
  | handlerDiscarded {settlement : Settlement} (entered : scope.handler = .entered settlement)
      (late : scope.timedOut = true) :
      Transition available scope .handlerChecks { scope with handler := .running }
  | handlerChecked {settlement : Settlement} (entered : scope.handler = .entered settlement)
      (early : scope.timedOut = false) :
      Transition available scope .handlerChecks { scope with handler := .checked settlement }
  | handlerCaptures {settlement : Settlement} (checked : scope.handler = .checked settlement) :
      Transition available scope .handlerCaptures
        { scope with handler := .noted settlement, captured := scope.captured ++ [settlement] }
  | handlerMarks {settlement : Settlement} (noted : scope.handler = .noted settlement) :
      Transition available scope .handlerMarks
        { scope with handler := .running, disposition := settlement.disposition }
  | handlerEnds (running : scope.handler = .running) :
      Transition available scope .handlerEnds { scope with handler := .ended }
  | joinReturns (joining : scope.phase = .joining) (ended : scope.handler = .ended) :
      Transition available scope .joinReturns { scope with phase := .replaying scope.captured }
  | replay {returned : Bool} {settlement : Settlement} {left : List Settlement}
      (replaying : scope.phase = .replaying (settlement :: left)) :
      Transition available scope (.replay returned)
        { scope with
          calls := scope.calls ++ [⟨.consumer, settlement, returned⟩]
          phase := if returned then .replaying left else .over false }
  | scopeReturns (replayed : scope.phase = .replaying []) :
      Transition available scope .scopeReturns { scope with phase := .over false }
  | joinExpires (joining : scope.phase = .joining) (alive : scope.handler ≠ .ended) :
      Transition available scope .joinExpires { scope with phase := .expired }
  | setTimedOut (expired : scope.phase = .expired) :
      Transition available scope .setTimedOut
        { scope with timedOut := true, phase := .abandoned }
  | raiseTimeout (abandoned : scope.phase = .abandoned) (idle : scope.call = .idle) :
      Transition available scope .raiseTimeout { scope with phase := .over true }
  | consumerEnters {settlement : Settlement} (settles : scope.phase.consumerSettles = true)
      (idle : scope.call = .idle) (unsettled : scope.disposition = .pending)
      (has : available settlement = true) :
      Transition available scope (.consumerCalls settlement)
        { scope with call := .entered settlement }
  | consumerReturns {settlement : Settlement} (settles : scope.phase.consumerSettles = true)
      (idle : scope.call = .idle) :
      Transition available scope (.consumerCalls settlement) scope
  | consumerSends {returned : Bool} {settlement : Settlement}
      (entered : scope.call = .entered settlement) :
      Transition available scope (.consumerSends returned)
        { scope with
          calls := scope.calls ++ [⟨.consumer, settlement, returned⟩]
          call := if returned then .sent settlement else .idle }
  | consumerMarks {settlement : Settlement} (sent : scope.call = .sent settlement) :
      Transition available scope .consumerMarks
        { scope with call := .idle, disposition := settlement.disposition }

theorem transition_of_step (taken : step available scope action = some scope') :
    Transition available scope action scope' := by
  cases action <;> simp only [step] at taken
  case handlerCalls =>
      split at taken
      next running =>
        split at taken <;> cases taken
        next passed =>
          exact .handlerEnters running passed.1 passed.2
        · exact .handlerReturns running
      · cases taken
  case handlerChecks =>
      split at taken
      next entered =>
        cases flag : scope.timedOut <;> simp [guardedSettlement, flag] at taken <;> subst taken
        · exact flag ▸ .handlerChecked entered flag
        · exact flag ▸ .handlerDiscarded entered flag
      · cases taken
  case handlerCaptures =>
      split at taken <;> cases taken
      exact .handlerCaptures ‹_›
  case handlerMarks =>
      split at taken <;> cases taken
      exact .handlerMarks ‹_›
  case handlerEnds =>
      split at taken <;> cases taken
      exact .handlerEnds ‹_›
  case joinReturns =>
      split at taken <;> cases taken
      rename_i passed
      exact .joinReturns passed.1 passed.2
  case replay =>
      split at taken <;> cases taken
      exact .replay ‹_›
  case scopeReturns =>
      split at taken <;> cases taken
      exact .scopeReturns ‹_›
  case joinExpires =>
      split at taken <;> cases taken
      rename_i passed
      exact .joinExpires passed.1 passed.2
  case setTimedOut =>
      split at taken <;> cases taken
      exact .setTimedOut ‹_›
  case raiseTimeout =>
      split at taken <;> cases taken
      rename_i passed
      exact .raiseTimeout passed.1 passed.2
  case consumerCalls =>
      split at taken
      next free =>
        split at taken <;> cases taken
        next passed =>
          exact .consumerEnters free.1 free.2 passed.1 passed.2
        · exact .consumerReturns free.1 free.2
      · cases taken
  case consumerSends =>
      split at taken <;> cases taken
      exact .consumerSends ‹_›
  case consumerMarks =>
      split at taken <;> cases taken
      exact .consumerMarks ‹_›

def AllFailed (calls : List RealCall) : Prop :=
  ∀ call ∈ calls, call.thread = .consumer ∧ call.returned = false

/-- The consumer thread's own calls, next to the disposition they leave. -/
inductive Account : Disposition → ConsumerCall → List RealCall → Prop
  | unsettled {calls : List RealCall} (failed : AllFailed calls) : Account .pending .idle calls
  | entered {calls : List RealCall} {settlement : Settlement} (failed : AllFailed calls) :
      Account .pending (.entered settlement) calls
  | sent {calls : List RealCall} {settlement : Settlement} (failed : AllFailed calls) :
      Account .pending (.sent settlement) (calls ++ [⟨.consumer, settlement, true⟩])
  | settled {calls : List RealCall} {settlement : Settlement} (failed : AllFailed calls) :
      Account settlement.disposition .idle (calls ++ [⟨.consumer, settlement, true⟩])

variable {calls : List RealCall}

theorem AllFailed.snoc (failed : AllFailed calls) (settlement : Settlement) :
    AllFailed (calls ++ [⟨.consumer, settlement, false⟩]) := by
  intro call member
  rcases mem_append.mp member with old | new
  · exact failed call old
  · cases mem_singleton.mp new
    exact ⟨rfl, rfl⟩

variable {settlement : Settlement} {disposition : Disposition}

theorem Account.send (account : Account disposition (.entered settlement) calls) (returned : Bool) :
    Account disposition (if returned then .sent settlement else .idle)
      (calls ++ [⟨.consumer, settlement, returned⟩]) := by
  cases account with
  | entered failed =>
    cases returned with
    | true => exact .sent failed
    | false => exact .unsettled (failed.snoc settlement)

inductive Honest : TimeoutScope → Prop
  | waiting {phase : ScopePhase} {handler : HandlerThread}
      (early : phase = .joining ∨ phase = .expired)
      (unnoted : ∀ settlement, handler ≠ .noted settlement) :
      Honest { phase := phase, handler := handler }
  | noted {phase : ScopePhase} {settlement : Settlement}
      (early : phase = .joining ∨ phase = .expired) :
      Honest { phase := phase, handler := .noted settlement, captured := [settlement] }
  | marked {phase : ScopePhase} {handler : HandlerThread} {settlement : Settlement}
      (early : phase = .joining ∨ phase = .expired)
      (outside : handler = .running ∨ handler = .ended) :
      Honest { phase := phase, handler := handler, captured := [settlement],
               disposition := settlement.disposition }
  | unsettled : Honest { phase := .replaying [], handler := .ended }
  | replaying {settlement : Settlement} :
      Honest { phase := .replaying [settlement], handler := .ended, captured := [settlement],
               disposition := settlement.disposition }
  | replayed {phase : ScopePhase} {settlement : Settlement} {returned : Bool}
      (late : phase = .replaying [] ∨ phase = .over false) :
      Honest { phase := phase, handler := .ended, captured := [settlement],
               disposition := settlement.disposition,
               calls := [⟨.consumer, settlement, returned⟩] }
  | settling {disposition : Disposition} {timedOut : Bool} {handler : HandlerThread}
      {phase : ScopePhase} {call : ConsumerCall} {calls : List RealCall}
      (late : phase.consumerSettles = true) (free : handler.committed = false)
      (shut : timedOut = true ∨ handler = .ended) (account : Account disposition call calls) :
      Honest { disposition := disposition, timedOut := timedOut, handler := handler,
               phase := phase, call := call, calls := calls }

@[simp]
theorem disposition_ne_pending (settlement : Settlement) : settlement.disposition ≠ .pending := by
  cases settlement <;> simp [Settlement.disposition]

section

variable (honest : scope.Honest)
include honest

theorem Honest.handlerEnters
    (running : scope.handler = .running) (unsettled : scope.disposition = .pending) :
    Honest { scope with handler := .entered settlement } := by
  cases honest with
  | waiting early _ => exact .waiting early nofun
  | marked | replaying | replayed => exact absurd unsettled (disposition_ne_pending _)
  | noted | unsettled => cases running
  | @settling _ _ handler _ _ _ late _ shut account =>
    obtain rfl : handler = .running := running
    exact .settling late rfl (.inl (shut.resolve_right nofun)) account

theorem Honest.handlerChecks (entered : scope.handler = .entered settlement) :
    (scope.timedOut = true → Honest { scope with handler := .running }) ∧
      (scope.timedOut = false → Honest { scope with handler := .checked settlement }) := by
  cases honest with
  | waiting early _ => exact ⟨nofun, fun _ => .waiting early nofun⟩
  | marked _ outside => rcases outside with rfl | rfl <;> cases entered
  | noted | unsettled | replaying | replayed => cases entered
  | @settling _ _ handler _ _ _ late _ shut account =>
    obtain rfl : handler = .entered settlement := entered
    have flag := shut.resolve_right nofun
    exact ⟨fun _ => .settling late rfl (.inl flag) account,
      fun early => nomatch flag.symm.trans early⟩

theorem Honest.handlerCaptures (checked : scope.handler = .checked settlement) :
    Honest { scope with
      handler := .noted settlement, captured := scope.captured ++ [settlement] } := by
  cases honest with
  | waiting early _ => exact .noted early
  | marked _ outside => rcases outside with rfl | rfl <;> cases checked
  | noted | unsettled | replaying | replayed => cases checked
  | @settling _ _ handler _ _ _ _ free =>
    obtain rfl : handler = .checked settlement := checked
    cases free

theorem Honest.handlerMarks (noted : scope.handler = .noted settlement) :
    Honest { scope with handler := .running, disposition := settlement.disposition } := by
  cases honest with
  | waiting _ unnoted => exact absurd noted (unnoted settlement)
  | noted early =>
    cases noted
    exact .marked early (.inl rfl)
  | marked _ outside => rcases outside with rfl | rfl <;> cases noted
  | unsettled | replaying | replayed => cases noted
  | @settling _ _ handler _ _ _ _ free =>
    obtain rfl : handler = .noted settlement := noted
    cases free

theorem Honest.handlerEnds (running : scope.handler = .running) :
    Honest { scope with handler := .ended } := by
  cases honest with
  | waiting early _ => exact .waiting early nofun
  | marked early _ => exact .marked early (.inr rfl)
  | noted | unsettled | replaying | replayed => cases running
  | settling late _ _ account => exact .settling late rfl (.inr rfl) account

theorem Honest.joinReturns (joining : scope.phase = .joining) (ended : scope.handler = .ended) :
    Honest { scope with phase := .replaying scope.captured } := by
  cases honest with
  | @waiting _ handler =>
    obtain rfl : handler = .ended := ended
    exact .unsettled
  | @marked _ handler _ _ _ =>
    obtain rfl : handler = .ended := ended
    exact .replaying
  | noted => cases ended
  | unsettled | replaying => cases joining
  | replayed late => rcases late with rfl | rfl <;> cases joining
  | @settling _ _ _ phase _ _ late =>
    obtain rfl : phase = .joining := joining
    cases late

theorem Honest.replay {left : List Settlement}
    (replaying : scope.phase = .replaying (settlement :: left)) (returned : Bool) :
    Honest { scope with
      calls := scope.calls ++ [⟨.consumer, settlement, returned⟩]
      phase := if returned then .replaying left else .over false } := by
  cases honest with
  | waiting early | noted early | marked early => rcases early with rfl | rfl <;> cases replaying
  | unsettled => cases replaying
  | replaying =>
    cases replaying
    refine .replayed ?_
    cases returned with
    | true => exact .inl rfl
    | false => exact .inr rfl
  | replayed late => rcases late with rfl | rfl <;> cases replaying
  | @settling _ _ _ phase _ _ late =>
    obtain rfl : phase = .replaying (settlement :: left) := replaying
    cases late

theorem Honest.scopeReturns (replayed : scope.phase = .replaying []) :
    Honest { scope with phase := .over false } := by
  cases honest with
  | waiting early | noted early | marked early => rcases early with rfl | rfl <;> cases replayed
  | unsettled => exact .settling rfl rfl (.inr rfl) (.unsettled (by simp [AllFailed]))
  | replaying => cases replayed
  | replayed => exact .replayed (.inr rfl)
  | @settling _ _ _ phase _ _ late =>
    obtain rfl : phase = .replaying [] := replayed
    cases late

theorem Honest.joinExpires (joining : scope.phase = .joining) :
    Honest { scope with phase := .expired } := by
  cases honest with
  | waiting _ unnoted => exact .waiting (.inr rfl) unnoted
  | noted => exact .noted (.inr rfl)
  | marked _ outside => exact .marked (.inr rfl) outside
  | unsettled | replaying => cases joining
  | replayed late => rcases late with rfl | rfl <;> cases joining
  | @settling _ _ _ phase _ _ late =>
    obtain rfl : phase = .joining := joining
    cases late

theorem Honest.setTimedOut (expired : scope.phase = .expired)
    (uncaptured : scope.captured = []) (free : scope.handler.committed = false) :
    Honest { scope with timedOut := true, phase := .abandoned } := by
  cases honest with
  | waiting => exact .settling rfl free (.inl rfl) (.unsettled (by simp [AllFailed]))
  | noted | marked => cases uncaptured
  | unsettled | replaying => cases expired
  | replayed => cases uncaptured
  | @settling _ _ _ phase _ _ late =>
    obtain rfl : phase = .expired := expired
    cases late

theorem Honest.raiseTimeout (abandoned : scope.phase = .abandoned) :
    Honest { scope with phase := .over true } := by
  cases honest with
  | waiting early | noted early | marked early => rcases early with rfl | rfl <;> cases abandoned
  | unsettled | replaying => cases abandoned
  | replayed late => rcases late with rfl | rfl <;> cases abandoned
  | settling _ free shut account => exact .settling rfl free shut account

theorem Honest.consumerEnters
    (settles : scope.phase.consumerSettles = true) (idle : scope.call = .idle)
    (unsettled : scope.disposition = .pending) :
    Honest { scope with call := .entered settlement } := by
  cases honest with
  | waiting early | noted early | marked early => rcases early with rfl | rfl <;> cases settles
  | unsettled | replaying => cases settles
  | replayed => exact absurd unsettled (disposition_ne_pending _)
  | @settling _ _ _ _ _ _ late free shut account =>
    refine .settling late free shut ?_
    cases account with
    | unsettled failed => exact .entered failed
    | entered | sent => cases idle
    | settled => exact absurd unsettled (disposition_ne_pending _)

theorem Honest.consumerSends (entered : scope.call = .entered settlement) (returned : Bool) :
    Honest { scope with
      calls := scope.calls ++ [⟨.consumer, settlement, returned⟩]
      call := if returned then .sent settlement else .idle } := by
  cases honest with
  | waiting | noted | marked | unsettled | replaying | replayed => cases entered
  | @settling _ _ _ _ call _ late free shut account =>
    obtain rfl : call = .entered settlement := entered
    exact .settling late free shut (account.send returned)

theorem Honest.consumerMarks (sent : scope.call = .sent settlement) :
    Honest { scope with call := .idle, disposition := settlement.disposition } := by
  cases honest with
  | waiting | noted | marked | unsettled | replaying | replayed => cases sent
  | @settling _ _ _ _ call _ late free shut account =>
    obtain rfl : call = .sent settlement := sent
    cases account with
    | sent failed => exact .settling late free shut (.settled failed)

theorem Honest.step (admitted : scope.FlagFirst action)
    (taken : step available scope action = some scope') : scope'.Honest := by
  cases transition_of_step taken with
  | handlerEnters running unsettled => exact honest.handlerEnters running unsettled
  | handlerReturns | consumerReturns => exact honest
  | handlerDiscarded entered late => exact (honest.handlerChecks entered).1 late
  | handlerChecked entered early => exact (honest.handlerChecks entered).2 early
  | handlerCaptures checked => exact honest.handlerCaptures checked
  | handlerMarks noted => exact honest.handlerMarks noted
  | handlerEnds running => exact honest.handlerEnds running
  | joinReturns joining ended => exact honest.joinReturns joining ended
  | replay replaying => exact honest.replay replaying _
  | scopeReturns replayed => exact honest.scopeReturns replayed
  | joinExpires joining => exact honest.joinExpires joining
  | setTimedOut expired => exact honest.setTimedOut expired admitted.1 admitted.2
  | raiseTimeout abandoned => exact honest.raiseTimeout abandoned
  | consumerEnters settles idle unsettled => exact honest.consumerEnters settles idle unsettled
  | consumerSends entered => exact honest.consumerSends entered _
  | consumerMarks sent => exact honest.consumerMarks sent

end

/-- The message was settled before the scope began, and nothing is done to it. -/
structure SettledBefore (settlement : Settlement) (scope : TimeoutScope) : Prop where
  disposition : scope.disposition = settlement.disposition
  calls : scope.calls = [⟨.consumer, settlement, true⟩]
  captured : scope.captured = []
  idle : scope.call = .idle
  outside : scope.handler = .running ∨ scope.handler = .ended
  nothing : ∀ next left, scope.phase ≠ .replaying (next :: left)

theorem SettledBefore.step (before : SettledBefore settlement scope)
    (taken : step available scope action = some scope') : SettledBefore settlement scope' := by
  cases transition_of_step taken with
  | handlerEnters _ unsettled | consumerEnters _ _ unsettled =>
    exact absurd (before.disposition.symm.trans unsettled) (disposition_ne_pending _)
  | handlerReturns | consumerReturns => exact before
  | handlerDiscarded inside | handlerChecked inside | handlerCaptures inside
  | handlerMarks inside =>
    rcases before.outside with same | same <;> cases same.symm.trans inside
  | handlerEnds => exact { before with outside := .inr rfl }
  | joinReturns => exact { before with nothing := by simp [before.captured] }
  | replay replaying => exact absurd replaying (before.nothing _ _)
  | scopeReturns | joinExpires | setTimedOut | raiseTimeout =>
    exact { before with nothing := by simp }
  | consumerSends inside | consumerMarks inside => cases before.idle.symm.trans inside

/-- What a scope that has ended owes the message: real calls come from the consumer
thread; a disposition stands for one call of its kind, the last one, after attempts that
raised; a captured settlement was replayed or leaves the message pending; and after
`HandlerTimeoutError` the consumer thread's own settlement reaches the transport. -/
structure Genuine (available : Settlement → Bool) (scope : TimeoutScope) : Prop where
  consumer : ∀ call ∈ scope.calls, call.thread = .consumer
  settled : scope.disposition ≠ .pending → ∃ failed call, scope.calls = failed ++ [call] ∧
    call.settlement.disposition = scope.disposition ∧ ∀ earlier ∈ failed, earlier.returned = false
  replayed : ∀ settlement ∈ scope.captured, scope.disposition = .pending ∨
    ∃ call ∈ scope.calls, call.settlement = settlement
  own : scope.phase = .over true → scope.call = .idle →
    (∀ call ∈ scope.calls, call.returned = false) → ∀ settlement returned,
    available settlement = true →
    ((step available scope (.consumerCalls settlement)).bind
        (step available · (.consumerSends returned))).map (·.calls) =
      some (scope.calls ++ [⟨.consumer, settlement, returned⟩])

variable {call : ConsumerCall}

theorem Account.consumer
    (account : Account disposition call calls) : ∀ sent ∈ calls, sent.thread = .consumer := by
  intro sent member
  cases account with
  | unsettled failed | entered failed => exact (failed sent member).1
  | sent failed | settled failed =>
    rcases mem_append.mp member with old | new
    · exact (failed sent old).1
    · cases mem_singleton.mp new
      rfl

theorem Account.settled_last (account : Account disposition call calls)
    (settled : disposition ≠ .pending) : ∃ failed last, calls = failed ++ [last] ∧
      last.settlement.disposition = disposition ∧ ∀ earlier ∈ failed, earlier.returned = false := by
  cases account with
  | unsettled | entered | sent => exact absurd rfl settled
  | settled failed => exact ⟨_, _, rfl, rfl, fun earlier member => (failed earlier member).2⟩

theorem Account.pending
    (account : Account disposition .idle calls) (failed : ∀ call ∈ calls, call.returned = false) :
    disposition = .pending := by
  cases account with
  | unsettled => rfl
  | settled => cases failed _ (mem_append_right _ (mem_singleton_self _))

theorem genuine_of_honest (honest : scope.Honest) {timeout : Bool}
    (finished : scope.phase = .over timeout) : Genuine available scope := by
  cases honest with
  | waiting early | noted early | marked early => rcases early with rfl | rfl <;> cases finished
  | unsettled | replaying => cases finished
  | @replayed phase settlement returned late =>
    rcases late with rfl | rfl
    · cases finished
    · refine ⟨by simp, fun _ => ⟨[], _, rfl, rfl, by simp⟩, by simp, nofun⟩
  | @settling disposition timedOut handler phase call calls _ _ _ account =>
    obtain rfl : phase = .over timeout := finished
    refine ⟨account.consumer, account.settled_last, by simp, ?_⟩
    intro _ idle failed settlement returned has
    obtain rfl : call = .idle := idle
    have unsettled : disposition = .pending := account.pending failed
    simp [step, ScopePhase.consumerSettles, unsettled, has]

theorem SettledBefore.genuine (before : SettledBefore settlement scope) :
    Genuine available scope where
  consumer := by simp [before.calls]
  settled _ := ⟨[], _, before.calls, before.disposition.symm, by simp⟩
  replayed := by simp [before.captured]
  own _ _ failed := by simp [before.calls] at failed

/-- The sync scope never fakes a settlement, whatever the handler thread does and however
the two threads interleave, as long as no settlement call of the handler has passed the
test of the flag when the flag is set. -/
theorem timeout_scope_genuine {earlier : Option Settlement} {actions : List TimeoutAction}
    {timeout : Bool} (run : RunWithin (step available) FlagFirst (begun earlier) actions scope)
    (finished : scope.phase = .over timeout) : Genuine available scope := by
  cases earlier with
  | none =>
    have start : ({} : TimeoutScope).Honest := .waiting (.inl rfl) nofun
    have honest := run.invariant (fun held admitted taken => held.step admitted taken) start
    exact genuine_of_honest honest finished
  | some settlement =>
    have start : SettledBefore settlement (begun (some settlement)) :=
      ⟨rfl, rfl, rfl, rfl, .inl rfl, by simp [begun]⟩
    exact (run.invariant (fun held _ taken => held.step taken) start).genuine

/-- A handler whose call is discarded after the flag is set; the consumer's nack raises
once and then settles. -/
theorem timeout_scope_genuine_discarded : ∃ scope, RunWithin (step fun _ => true) FlagFirst
        (begun none) [.handlerCalls .ack, .joinExpires, .setTimedOut, .handlerChecks, .raiseTimeout,
          .consumerCalls (.nack true), .consumerSends false, .consumerCalls (.nack true),
          .handlerCalls .ack, .consumerSends true, .handlerChecks, .consumerMarks,
          .handlerEnds] scope ∧ Genuine (fun _ => true) scope ∧ scope.disposition = .nacked := by
  refine exists_runWithin_of_check
    (fun scope => decide (scope.phase = .over true ∧ scope.disposition = .nacked)) (by decide)
    fun scope run checked => ?_
  have reached := of_decide_eq_true checked
  exact ⟨timeout_scope_genuine run reached.1, reached.2⟩

/-- The handler acks and then outruns the timeout: the message says acked, nothing was
sent, and the consumer thread's nack returns at once. -/
theorem timeout_scope_fakes_ack : ∃ scope, Run (step fun _ => true) {}
        [.handlerCalls .ack, .handlerChecks, .handlerCaptures, .handlerMarks, .joinExpires,
          .setTimedOut, .raiseTimeout, .consumerCalls (.nack true)] scope ∧
      scope.phase = .over true ∧ scope.disposition = .acked ∧ scope.calls = [] ∧
      scope.call = .idle :=
  exists_runWithin_of_decide (by decide)

end TimeoutScope
end RabbitKit
