import RabbitKit.AsyncFailurePath
import RabbitKit.DeliveryAccounting

/-! # How the consume chain leaves a delivery

One specification for each layer of the middleware chain, from the handler to the
outermost middleware.  The layers around the retry middleware compute `recover`, a
function of the end of the call they wrap.  The retry middleware either leaves the
delivery clear, or hands back an interrupt with a dead-letter copy that the broker did
not confirm.
-/

namespace RabbitKit

open InterruptibleState Pipeline ScopeMiddleware PublishAnswer Except

namespace ScopeMiddleware

def recoverOne : ScopeMiddleware → Except Interrupt HandlerResult → Except Interrupt HandlerResult
  | .exceptions middleware, .error (.raised failure) => middleware.handleException failure
  | .exceptions _, result => result
  | .other (some interrupt) _, _ => .error interrupt
  | .other none after, result => replaceEnd after result

def recover (middlewares : List ScopeMiddleware) (result : Except Interrupt HandlerResult) :
    Except Interrupt HandlerResult :=
  middlewares.foldr recoverOne result

@[simp]
theorem recover_cons (middleware : ScopeMiddleware) (middlewares : List ScopeMiddleware)
    (result : Except Interrupt HandlerResult) : recover (middleware :: middlewares) result =
      middleware.recoverOne (recover middlewares result) :=
  rfl

def callsOn : ScopeMiddleware → Bool
  | .exceptions _ => true
  | .other before _ => before.isNone

/-- No middleware raises before it calls on. -/
def reaches (middlewares : List ScopeMiddleware) : Bool := middlewares.all callsOn

theorem ensures_other (after : Except Interrupt HandlerResult → Option Interrupt)
    (callNext : Pipeline HandlerResult)
    {post : Except Interrupt HandlerResult → DeliveryWorld → Prop} {w : DeliveryWorld} :
    Ensures ((ScopeMiddleware.other none after).consumeScopeAsync callNext) post w ↔
      Ensures callNext (fun result w' => post (replaceEnd after result) w') w :=
  .rfl

theorem ok_of_replaceEnd {after : Except Interrupt HandlerResult → Option Interrupt}
    {result : Except Interrupt HandlerResult} {returned : HandlerResult}
    (ok : replaceEnd after result = .ok returned) : result = .ok returned := by
  unfold replaceEnd at ok
  split at ok
  · cases ok
  · exact ok

variable {holds : Except Interrupt HandlerResult → DeliveryWorld → Prop}
variable {callNext : Pipeline HandlerResult} {w : DeliveryWorld}

/-- How the middlewares leave a call that ended inside them: they compute `recover`, and
record an acceptance where they turn a failure into a result. -/
def EndsAround (holds : Except Interrupt HandlerResult → DeliveryWorld → Prop)
    (middlewares : List ScopeMiddleware) (result : Except Interrupt HandlerResult)
    (w : DeliveryWorld) : Prop :=
  ∃ inside, holds inside w ∧ result = recover middlewares inside ∧
    ∀ returned, result = .ok returned →
      reaches middlewares = true ∧ inside = .ok returned ∨ .accepted ∈ w.trace

theorem EndsAround.exceptions {middlewares : List ScopeMiddleware}
    {result : Except Interrupt HandlerResult} (middleware : ExceptionMiddleware)
    (stable : ∀ result w, holds result w → holds result (w.recorded .accepted))
    (ended : EndsAround holds middlewares result w) :
    afterException (EndsAround holds (.exceptions middleware :: middlewares)) (fun failure =>
      match middleware.handleException failure with
      | .ok returned => do
          record .accepted
          return returned
      | .error interrupt => throw interrupt) result w := by
  obtain ⟨inside, held, recovered, accepted⟩ := ended
  rcases result with (failure | _) | returned
  · cases handled : middleware.handleException failure with
    | error interrupt =>
      simp only [afterException, handled, ensures_throw]
      exact ⟨inside, held, by simp [← recovered, recoverOne, handled], by simp⟩
    | ok fallback =>
      simp only [afterException, handled, ensures_bind, ensures_record, afterValue_ok,
        ensures_pure]
      exact ⟨inside, stable _ _ held, by simp [← recovered, recoverOne, handled], by simp⟩
  · exact ⟨inside, held, by simp [← recovered, recoverOne], by simp⟩
  · exact ⟨inside, held, by simp [← recovered, recoverOne], accepted⟩

theorem consumeScopes_ensures (middlewares : List ScopeMiddleware)
    (stable : ∀ result w, holds result w → holds result (w.recorded .accepted))
    (reached : reaches middlewares = true → Ensures callNext holds w)
    (unreached : reaches middlewares = false → ∃ inside, holds inside w) :
    Ensures (consumeScopes middlewares callNext) (EndsAround holds middlewares) w := by
  induction middlewares with
  | nil =>
    exact (reached rfl).mono fun result w' held =>
      ⟨result, held, rfl, fun _ ok => .inl ⟨rfl, ok⟩⟩
  | cons middleware middlewares ih =>
    change Ensures (middleware.consumeScopeAsync (consumeScopes middlewares callNext)) _ w
    cases middleware with
    | exceptions middleware =>
      rw [consumeScopeAsync, ExceptionMiddleware.consumeScopeAsync, ensures_exceptException]
      exact (ih reached unreached).mono fun _ _ ended => ended.exceptions middleware stable
    | other before after =>
      cases before with
      | some interrupt =>
        obtain ⟨inside, held⟩ := unreached rfl
        rw [consumeScopeAsync, ensures_throw]
        exact ⟨inside, held, rfl, by simp⟩
      | none =>
        rw [ensures_other]
        refine (ih reached unreached).mono ?_
        rintro result w' ⟨inside, held, rfl, accepted⟩
        exact ⟨inside, held, rfl, fun returned ok => accepted returned (ok_of_replaceEnd ok)⟩

end ScopeMiddleware

namespace Delivery

variable {d : Delivery} {w : DeliveryWorld}

def handlerRuns (d : Delivery) : Bool := reaches d.route.inner

def handlerCompletes (d : Delivery) : Bool := d.handlerRuns && d.surroundings.handler.isOk

def handlerHasSettled (d : Delivery) : Bool :=
  d.handlerRuns && d.surroundings.handlerSettles.isSome

/-- How the handler leaves a delivery: no copy was attempted yet. -/
structure HandlerEnd (d : Delivery) (result : Except Interrupt HandlerResult)
    (w : DeliveryWorld) : Prop where
  noLoss : NoLoss w
  outcome : result = d.surroundings.handler
  uncopied : ∀ target confirmed, .copied target confirmed ∉ w.trace
  completed : .completed ∈ w.trace ↔ d.handlerCompletes = true
  settled : w.isSettled = d.handlerHasSettled

variable {result : Except Interrupt HandlerResult}

theorem HandlerEnd.recorded_accepted
    (ended : HandlerEnd d result w) : HandlerEnd d result (w.recorded .accepted) where
  noLoss := ended.noLoss.recorded (by simp)
  outcome := ended.outcome
  uncopied := by simpa using ended.uncopied
  completed := by simpa using ended.completed
  settled := ended.settled

structure Fresh (w : DeliveryWorld) : Prop where
  trace : w.trace = []
  pending : w.disposition = .pending

theorem Fresh.noLoss (fresh : Fresh w) : NoLoss w where
  accountable := by simp [fresh.trace]
  disposed := .inl fresh.pending

theorem Fresh.isSettled (fresh : Fresh w) : w.isSettled = false := by
  simp [DeliveryWorld.isSettled, fresh.pending]

structure HandlerSettled (d : Delivery) (w : DeliveryWorld) : Prop where
  noLoss : NoLoss w
  uncopied : ∀ target confirmed, .copied target confirmed ∉ w.trace
  uncompleted : .completed ∉ w.trace
  settled : w.isSettled = d.surroundings.handlerSettles.isSome

theorem settleByHandler_ensures (fresh : Fresh w) :
    Ensures d.settleByHandler (fun result w' => result = .ok () ∧ HandlerSettled d w') w := by
  rw [settleByHandler]
  cases settles : d.surroundings.handlerSettles with
  | none =>
    simp only [ensures_pure, true_and]
    exact ⟨fresh.noLoss, by simp [fresh.trace], by simp [fresh.trace],
      by simp [fresh.isSettled, settles]⟩
  | some settlement =>
    simp only [ensures_unlessSettled, fresh.isSettled, ensures_modify, true_and]
    refine ⟨by simp, fun _ => ⟨fresh.noLoss.settledByHandler settlement, ?_, ?_, ?_⟩⟩
    · simp [fresh.trace]
    · simp [fresh.trace]
    · rw [isSettled_of_settlement, settles]
      rfl

theorem endHandler_ensures (runs : d.handlerRuns = true) (settled : HandlerSettled d w) :
    Ensures d.endHandler (HandlerEnd d) w := by
  have hasSettled : w.isSettled = d.handlerHasSettled := by
    simp [handlerHasSettled, runs, settled.settled]
  rw [endHandler]
  cases outcome : d.surroundings.handler with
  | error interrupt =>
    rw [ensures_throw]
    refine ⟨settled.noLoss, outcome.symm, settled.uncopied, ?_, hasSettled⟩
    simpa [handlerCompletes, outcome, Except.isOk, Except.toBool] using settled.uncompleted
  | ok returned =>
    simp only [ensures_bind, ensures_record, afterValue_ok, ensures_pure]
    refine ⟨settled.noLoss.recorded (by simp), outcome.symm, by simpa using settled.uncopied, ?_,
      hasSettled⟩
    simp [handlerCompletes, runs, outcome, Except.isOk, Except.toBool]

theorem invokeHandlerAsync_ensures (runs : d.handlerRuns = true) (fresh : Fresh w) :
    Ensures d.invokeHandlerAsync (HandlerEnd d) w := by
  rw [invokeHandlerAsync, ensures_bind]
  refine (settleByHandler_ensures fresh).mono ?_
  rintro _ w' ⟨rfl, settled⟩
  exact endHandler_ensures runs settled

theorem Fresh.handlerEnd (fresh : Fresh w) (unreached : d.handlerRuns = false) :
    HandlerEnd d d.surroundings.handler w where
  noLoss := fresh.noLoss
  outcome := rfl
  uncopied := by simp [fresh.trace]
  completed := by simp [fresh.trace, handlerCompletes, unreached]
  settled := by simp [fresh.isSettled, handlerHasSettled, unreached]

def innerOutcome (d : Delivery) : Except Interrupt HandlerResult :=
  recover d.route.inner d.surroundings.handler

/-- How the handler, and the middlewares inside the retry middleware, leave a
delivery. -/
structure InnerEnd (d : Delivery) (result : Except Interrupt HandlerResult)
    (w : DeliveryWorld) : Prop where
  noLoss : NoLoss w
  outcome : result = d.innerOutcome
  uncopied : ∀ target confirmed, .copied target confirmed ∉ w.trace
  accepted : ∀ returned, result = .ok returned → .completed ∈ w.trace ∨ .accepted ∈ w.trace
  completed : .completed ∈ w.trace ↔ d.handlerCompletes = true
  settled : w.isSettled = d.handlerHasSettled

theorem innerScopes_ensures (fresh : Fresh w) :
    Ensures (consumeScopes d.route.inner d.invokeHandlerAsync) (InnerEnd d) w := by
  refine (consumeScopes_ensures d.route.inner (fun _ _ => HandlerEnd.recorded_accepted)
    (fun runs => invokeHandlerAsync_ensures runs fresh)
    (fun unreached => ⟨_, fresh.handlerEnd unreached⟩)).mono ?_
  rintro result w' ⟨inside, ended, recovered, accepted⟩
  refine ⟨ended.noLoss, ?_, ended.uncopied, fun returned ok => ?_, ended.completed, ended.settled⟩
  · rw [recovered, ended.outcome, innerOutcome]
  · rcases accepted returned ok with ⟨runs, same⟩ | found
    · refine .inl (ended.completed.mpr ?_)
      simp [handlerCompletes, handlerRuns, runs, ← ended.outcome, same, Except.isOk, Except.toBool]
    · exact .inr found

/-- What leaves the retry middleware after an unconfirmed dead-letter copy: the cancellation
of the publish, or the failure with its report, or what its class raised in the place of
the report. -/
def handedBack (d : Delivery) (failure : Failure) : Interrupt :=
  match d.surroundings.retryPublish.outcome?, d.route.retry.markTerminal failure false true with
  | .error interrupt, _ => interrupt
  | .ok _, .ok marked => .raised marked
  | .ok _, .error refusal => .raised refusal

/-- A terminal failure of this delivery gets a dead-letter copy, and the broker does
not confirm it. -/
structure UnconfirmedCopy (d : Delivery) : Prop where
  targeted : ∃ dlq, d.route.retry.terminalTarget d.message = some dlq
  built : d.surroundings.retryEnvelope = none
  unconfirmed : d.surroundings.retryPublish.isConfirmed = false

/-- The retry middleware is reached, its call ends with this failure of a handler that did
not complete, and it attempts a dead-letter copy of a delivery that nobody settled, which
the broker does not confirm. -/
structure FailedHandoff (d : Delivery) (failure : Failure) : Prop where
  received : d.surroundings.onReceive = none
  reached : reaches d.route.outer = true
  failed : d.innerOutcome = .error (.raised failure)
  caught : failure.isSettlementSignal = false
  terminal : ∃ category, d.route.retry.decideFailure d.pipeline.infrastructureErrors failure
    d.message = .ok (some category)
  copy : d.UnconfirmedCopy
  uncompleted : d.handlerCompletes = false
  unsettled : d.handlerHasSettled = false

structure Doomed (w : DeliveryWorld) : Prop where
  unsettled : w.isSettled = false
  uncompleted : .completed ∉ w.trace
  unconfirmed : ¬ Confirmed w.trace
  left : ¬ NoneUnconfirmed w.trace

/-- What the next one may do: acknowledge a result, and accept a failure. -/
def Clear (w : DeliveryWorld) : Except Interrupt HandlerResult → Prop
  | .ok _ => Ackable w.trace
  | .error _ => Ackable (w.recorded .accepted).trace

theorem ackable_recorded_accepted (ackable : Ackable w.trace) :
    Ackable (w.recorded .accepted).trace := by
  rcases ackable with completed | ⟨target, confirmed⟩ | ⟨accepted, none⟩
  · exact .inl (by simp [completed])
  · exact .inr (.inl ⟨target, by simp [confirmed]⟩)
  · exact .inr (.inr ⟨by simp, noneUnconfirmed_append none (by simp)⟩)

theorem clear_of_noneUnconfirmed (none : NoneUnconfirmed w.trace) (interrupt : Interrupt) :
    Clear w (.error interrupt) :=
  .inr (.inr ⟨by simp, noneUnconfirmed_append none (by simp)⟩)

structure RetryEnd (d : Delivery) (result : Except Interrupt HandlerResult)
    (w : DeliveryWorld) : Prop where
  noLoss : NoLoss w
  handoff : ∀ failure, FailedHandoff d failure →
    result = .error (d.handedBack failure) ∧ Doomed w
  otherwise : (∃ failure, FailedHandoff d failure) ∨ w.isSettled = true ∨ Clear w result

theorem RetryEnd.of_no_handoff (noLoss : NoLoss w)
    (noHandoff : ∀ failure, ¬ FailedHandoff d failure)
    (clear : w.isSettled = true ∨ Clear w result) : RetryEnd d result w where
  noLoss := noLoss
  handoff := fun failure handoff => absurd handoff (noHandoff failure)
  otherwise := .inr clear

variable {outcome : Option PublishStatus}

theorem confirmed_of_outcomeOk
    (ended : d.surroundings.retryPublish.outcome? = .ok outcome) (ok : outcomeOk outcome = true) :
    d.surroundings.retryPublish.isConfirmed = true := by
  have notSent := d.surroundings.retryPublish_ne_sent
  cases published : d.surroundings.retryPublish <;>
    simp only [published, outcome?, Except.ok.injEq, reduceCtorEq] at ended <;>
    subst ended
  case outcome status =>
    cases status <;> simp_all [outcomeOk, PublishStatus.ok, isConfirmed]
  all_goals simp [outcomeOk] at ok

theorem recordMetric_ensures :
    Ensures d.recordMetric (fun result w' => w' = w ∧ result ≠ .error .cancelled) w := by
  rw [recordMetric]
  split
  · rw [ensures_raiseAny]
    simp
  · simp

theorem requeue_ensures (noLoss : NoLoss w) : Ensures (unlessSettled (d.nackAsync true))
      (fun _ w' => NoLoss w' ∧ w'.isSettled = true) w := by
  rw [ensures_unlessSettled]
  exact ⟨fun settled => ⟨noLoss, settled⟩,
    fun _ => settleAsync_ensures noLoss (.nack true) fun _ => trivial⟩

theorem acknowledge_ensures (noLoss : NoLoss w) (ackable : w.isSettled = false → Ackable w.trace) :
    Ensures (unlessSettled d.ackAsync) (fun _ w' => NoLoss w' ∧ w'.isSettled = true) w := by
  rw [ensures_unlessSettled]
  exact ⟨fun settled => ⟨noLoss, settled⟩, fun _ => settleAsync_ensures noLoss .ack ackable⟩

theorem holdBeforeRequeue_ensures : Ensures d.holdBeforeRequeue (fun _ w' => w' = w) w := by
  simp only [holdBeforeRequeue, ensures_bind, ensures_isSettled, afterValue_ok]
  split <;> simp

theorem holdAndRequeue_ensures (noLoss : NoLoss w) :
    Ensures (finallyDo d.holdBeforeRequeue (unlessSettled (d.nackAsync true)))
      (fun _ w' => NoLoss w' ∧ w'.isSettled = true) w := by
  simp only [finallyDo, ensures_bind, ensures_tryCatch]
  refine holdBeforeRequeue_ensures.mono ?_
  rintro (interrupt | _) w' rfl
  · simp only [afterInterrupt_error, ensures_bind]
    refine (requeue_ensures noLoss).mono fun result w'' ended => ?_
    rcases result with _ | _ <;> simpa using ended
  · simpa using requeue_ensures noLoss

theorem routeToDelayQueueAsync_ensures (noLoss : NoLoss w) (none : NoneUnconfirmed w.trace) :
    Ensures d.routeToDelayQueueAsync (fun result w' => NoLoss w' ∧
      (w'.isSettled = true ∨ (∃ interrupt, result = .error interrupt) ∧
        NoneUnconfirmed w'.trace)) w := by
  simp only [routeToDelayQueueAsync, ensures_bind, ensures_raiseAny]
  refine ⟨fun _ => ?_, fun failure _ => ⟨noLoss, .inr ⟨⟨_, rfl⟩, none⟩⟩⟩
  rw [afterValue_ok]
  split
  · simp only [ensures_bind, ensures_publishCopy]
    set attempted := w.recorded (.copied (.delayQueue (d.route.retry.retryCount d.message + 1))
      d.surroundings.retryPublish.isConfirmed) with attempted_def
    have noLoss' : NoLoss attempted := noLoss.recorded (by simp)
    have none' : NoneUnconfirmed attempted.trace := noneUnconfirmed_append none (by simp)
    cases ended : d.surroundings.retryPublish.outcome? with
    | error interrupt => exact ⟨noLoss', .inr ⟨⟨_, rfl⟩, none'⟩⟩
    | ok outcome =>
      rw [afterValue_ok]
      split
      · have confirmed : Confirmed attempted.trace := by
          refine ⟨.delayQueue (d.route.retry.retryCount d.message + 1), ?_⟩
          simp [attempted_def, confirmed_of_outcomeOk ended ‹_›]
        rw [ensures_bind]
        refine (acknowledge_ensures noLoss' fun _ => .inr (.inl confirmed)).mono ?_
        rintro (interrupt | _) w' ⟨noLoss'', settled⟩
        · exact ⟨noLoss'', .inl settled⟩
        · rw [afterValue_ok]
          refine recordMetric_ensures.mono ?_
          rintro _ _ ⟨rfl, _⟩
          exact ⟨noLoss'', .inl settled⟩
      · rw [ensures_bind]
        refine recordMetric_ensures.mono ?_
        rintro (interrupt | _) w' ⟨rfl, _⟩
        · exact ⟨noLoss', .inr ⟨⟨_, rfl⟩, none'⟩⟩
        · rw [afterValue_ok]
          refine (holdAndRequeue_ensures noLoss').mono ?_
          exact fun _ _ ended => ⟨ended.1, .inl ended.2⟩
  · exact (requeue_ensures noLoss).mono fun _ _ ended => ⟨ended.1, .inl ended.2⟩

theorem markTerminalAndRaise_ensures (failure : Failure) (deadLettered handoffFailed : Bool) :
    Ensures (d.markTerminalAndRaise failure deadLettered handoffFailed)
      (fun result w' => w' = w ∧ ∃ raised, result = .error (.raised raised)) w := by
  rw [markTerminalAndRaise]
  cases d.route.retry.markTerminal failure deadLettered handoffFailed with
  | error refusal => simp
  | ok marked =>
    cases deadLettered with
    | false => simp
    | true =>
      simp only [if_true, ensures_bind, recordMetric]
      split
      · rw [ensures_raiseAny]
        simp
      · simp

theorem handBack_ensures (failure : Failure)
    (ended : d.surroundings.retryPublish.outcome? = .ok outcome) :
    Ensures (d.markTerminalAndRaise failure false true)
      (fun result w' => w' = w ∧ result = .error (d.handedBack failure)) w := by
  rw [markTerminalAndRaise, handedBack, ended]
  cases d.route.retry.markTerminal failure false true <;> simp

theorem not_isConfirmed_of_outcome (ended : d.surroundings.retryPublish.outcome? = .ok outcome)
    (failed : outcomeOk outcome = false) : d.surroundings.retryPublish.isConfirmed = false := by
  cases published : d.surroundings.retryPublish with
  | outcome status =>
    simp only [published, outcome?, ok.injEq] at ended
    subst ended
    cases status <;> first | rfl | simp [outcomeOk, PublishStatus.ok] at failed
  | nothing | raised | cancelled => rfl

theorem not_isConfirmed_of_interrupt {interrupt : Interrupt}
    (ended : d.surroundings.retryPublish.outcome? = .error interrupt) :
    d.surroundings.retryPublish.isConfirmed = false := by
  cases published : d.surroundings.retryPublish with
  | outcome status => simp [published, outcome?] at ended
  | nothing | raised | cancelled => rfl

/-- A terminal failure leaves the retry middleware by raising: either its copy is
accounted for, or an interrupt is handed back with one more unconfirmed copy. -/
theorem terminalAsync_ensures (noLoss : NoLoss w) (none : NoneUnconfirmed w.trace)
    (failure : Failure) : Ensures (d.terminalAsync failure) (fun result w' => NoLoss w' ∧
      ((¬ d.UnconfirmedCopy ∧ ∃ interrupt, result = .error interrupt ∧
          (w'.isSettled = true ∨ NoneUnconfirmed w'.trace)) ∨
        (d.UnconfirmedCopy ∧ result = .error (d.handedBack failure) ∧
          ∃ dlq, w' = w.recorded (.copied (.deadLetterQueue dlq) false)))) w := by
  rw [terminalAsync]
  cases target : d.route.retry.terminalTarget d.message with
  | none =>
    refine (markTerminalAndRaise_ensures failure false false).mono ?_
    rintro _ _ ⟨rfl, raised, rfl⟩
    refine ⟨noLoss, .inl ⟨fun copy => ?_, _, rfl, .inr none⟩⟩
    obtain ⟨dlq, targeted⟩ := copy.targeted
    simp [target] at targeted
  | some dlq =>
    simp only [ensures_bind, ensures_raiseAny]
    refine ⟨fun built => ?_, fun refusal unbuilt => ?_⟩
    · simp only [afterValue_ok, ensures_bind, ensures_publishCopy]
      have noLoss' : ∀ confirmed, NoLoss (w.recorded (.copied (.deadLetterQueue dlq) confirmed)) :=
        fun confirmed => noLoss.recorded (by simp)
      cases ended : d.surroundings.retryPublish.outcome? with
      | error interrupt =>
        have unconfirmed : d.surroundings.retryPublish.isConfirmed = false :=
          not_isConfirmed_of_interrupt ended
        rw [afterValue_error, unconfirmed]
        refine ⟨noLoss' false, .inr ⟨⟨⟨dlq, target⟩, built, unconfirmed⟩, ?_, dlq, rfl⟩⟩
        simp [handedBack, ended]
      | ok outcome =>
        rw [afterValue_ok]
        cases ok : outcomeOk outcome with
        | true =>
          have confirmed := confirmed_of_outcomeOk ended ok
          have ackable : Ackable (w.recorded (.copied (.deadLetterQueue dlq) true)).trace :=
            .inr (.inl ⟨.deadLetterQueue dlq, by simp⟩)
          have noCopy : ¬ d.UnconfirmedCopy := fun copy =>
            absurd copy.unconfirmed (by simp [confirmed])
          rw [if_pos rfl, ensures_bind, confirmed]
          refine (acknowledge_ensures (noLoss' true) fun _ => ackable).mono ?_
          rintro (interrupt | _) w' ⟨noLoss'', settled⟩
          · exact ⟨noLoss'', .inl ⟨noCopy, _, rfl, .inl settled⟩⟩
          · rw [afterValue_ok]
            refine (markTerminalAndRaise_ensures failure true false).mono ?_
            rintro _ _ ⟨rfl, raised, rfl⟩
            exact ⟨noLoss'', .inl ⟨noCopy, _, rfl, .inl settled⟩⟩
        | false =>
          have unconfirmed := not_isConfirmed_of_outcome ended ok
          rw [if_neg (by simp), unconfirmed]
          refine (handBack_ensures failure ended).mono ?_
          rintro _ _ ⟨rfl, rfl⟩
          exact ⟨noLoss' false, .inr ⟨⟨⟨dlq, target⟩, built, unconfirmed⟩, rfl, dlq, rfl⟩⟩
    · refine ⟨noLoss, .inl ⟨fun copy => ?_, _, rfl, .inr none⟩⟩
      simp [copy.built] at unbuilt

theorem retryEnd_of_interrupt {interrupt : Interrupt} (noLoss : NoLoss w)
    (noHandoff : ∀ failure, ¬ FailedHandoff d failure)
    (clear : w.isSettled = true ∨ NoneUnconfirmed w.trace) :
    RetryEnd d (.error interrupt) w :=
  .of_no_handoff noLoss noHandoff <| clear.imp_right fun none =>
    clear_of_noneUnconfirmed none interrupt

theorem InnerEnd.noneUnconfirmed (ended : InnerEnd d result w) : NoneUnconfirmed w.trace :=
  fun name => ended.uncopied (.deadLetterQueue name) false

variable {failure : Failure}

theorem InnerEnd.handoff_unique (ended : InnerEnd d result w) (handoff : FailedHandoff d failure) :
    result = .error (.raised failure) := by
  rw [ended.outcome, handoff.failed]

section

variable (ended : InnerEnd d (.error (.raised failure)) w)
include ended

theorem InnerEnd.doomed (uncompleted : d.handlerCompletes = false)
    (unsettled : d.handlerHasSettled = false) (dlq : String) :
    Doomed (w.recorded (.copied (.deadLetterQueue dlq) false)) where
  unsettled := by simp [ended.settled, unsettled]
  uncompleted := by simp [ended.completed, uncompleted]
  unconfirmed := by
    rintro ⟨target, found⟩
    simp [ended.uncopied] at found
  left := fun none => none dlq (by simp)

section

variable (received : d.surroundings.onReceive = none) (reached : reaches d.route.outer = true)
  (caught : failure.isSettlementSignal = false)
include received reached caught

theorem retryEnd_of_handBack {dlq : String}
    (noLoss : NoLoss (w.recorded (.copied (.deadLetterQueue dlq) false)))
    (terminal : ∃ category, d.route.retry.decideFailure d.pipeline.infrastructureErrors failure
      d.message = .ok (some category)) (copy : d.UnconfirmedCopy) :
    RetryEnd d (.error (d.handedBack failure))
      (w.recorded (.copied (.deadLetterQueue dlq) false)) := by
  refine ⟨noLoss, fun other handoff => ?_, ?_⟩
  · have same := ended.handoff_unique handoff
    simp only [error.injEq, Interrupt.raised.injEq] at same
    subst same
    exact ⟨rfl, ended.doomed handoff.uncompleted handoff.unsettled dlq⟩
  · cases settles : d.handlerHasSettled with
    | true => exact .inr (.inl (by simp [ended.settled, settles]))
    | false =>
      cases completes : d.handlerCompletes with
      | true => exact .inr (.inr (.inl (by simp [ended.completed, completes])))
      | false =>
        exact .inl ⟨failure, received, reached, ended.outcome.symm, caught, terminal, copy,
          completes, settles⟩

theorem handleRetryAsync_ensures : Ensures (d.handleRetryAsync failure)
      (fun result w' => RetryEnd d (result.map fun _ => .requeuedForRetry) w') w := by
  have noHandoff : (∀ category, d.route.retry.decideFailure d.pipeline.infrastructureErrors
      failure d.message ≠ .ok (some category)) → ∀ other, ¬ FailedHandoff d other := by
    intro retried other handoff
    have same := ended.handoff_unique handoff
    simp only [error.injEq, Interrupt.raised.injEq] at same
    subst same
    obtain ⟨category, terminal⟩ := handoff.terminal
    exact retried category terminal
  rw [handleRetryAsync]
  cases decided : d.route.retry.decideFailure d.pipeline.infrastructureErrors failure d.message with
  | error raised =>
    rw [ensures_raise]
    exact retryEnd_of_interrupt ended.noLoss (noHandoff (by simp [decided]))
      (.inr ended.noneUnconfirmed)
  | ok verdict =>
    cases verdict with
    | none =>
      refine (routeToDelayQueueAsync_ensures ended.noLoss ended.noneUnconfirmed).mono ?_
      rintro result w' ⟨noLoss, settled | ⟨⟨interrupt, rfl⟩, none⟩⟩
      · exact .of_no_handoff noLoss (noHandoff (by simp [decided])) (.inl settled)
      · exact retryEnd_of_interrupt noLoss (noHandoff (by simp [decided])) (.inr none)
    | some category =>
      refine (terminalAsync_ensures ended.noLoss ended.noneUnconfirmed failure).mono ?_
      rintro _ w' ⟨noLoss, ⟨noCopy, interrupt, rfl, clear⟩ | ⟨copy, rfl, dlq, rfl⟩⟩
      · exact retryEnd_of_interrupt noLoss (fun failure handoff => noCopy handoff.copy) clear
      · exact retryEnd_of_handBack ended received reached caught noLoss ⟨category, decided⟩ copy

end

end

theorem retryScope_ensures (fresh : Fresh w) (received : d.surroundings.onReceive = none)
    (reached : reaches d.route.outer = true) : Ensures (d.retryScopeAsync
        (consumeScopes d.route.inner d.invokeHandlerAsync)) (RetryEnd d) w := by
  rw [retryScopeAsync, ensures_exceptException]
  refine (innerScopes_ensures fresh).mono ?_
  rintro ((failure | _) | returned) w' ended
  · cases signal : failure.isSettlementSignal with
    | true =>
      simp only [afterException, signal, if_true, ensures_raise]
      refine retryEnd_of_interrupt ended.noLoss (fun other handoff => ?_)
        (.inr ended.noneUnconfirmed)
      have same := ended.handoff_unique handoff
      simp only [error.injEq, Interrupt.raised.injEq] at same
      simp [same, handoff.caught] at signal
    | false =>
      simp only [afterException, signal, Bool.false_eq_true, if_false, ensures_bind]
      refine (handleRetryAsync_ensures ended received reached signal).mono ?_
      rintro (interrupt | _) w'' retried
      · exact retried
      · exact retried
  · refine retryEnd_of_interrupt ended.noLoss (fun other handoff => ?_) (.inr ended.noneUnconfirmed)
    have same := ended.handoff_unique handoff
    simp at same
  · refine .of_no_handoff ended.noLoss (fun other handoff => ?_) (.inr ?_)
    · have same := ended.handoff_unique handoff
      simp at same
    · rcases ended.accepted returned rfl with completed | accepted
      · exact .inl completed
      · exact .inr (.inr ⟨accepted, ended.noneUnconfirmed⟩)

theorem Doomed.recorded_accepted (doomed : Doomed w) : Doomed (w.recorded .accepted) where
  unsettled := doomed.unsettled
  uncompleted := by simpa using doomed.uncompleted
  unconfirmed := by
    rintro ⟨target, found⟩
    exact doomed.unconfirmed ⟨target, by simpa using found⟩
  left := fun none => doomed.left fun name found => none name (by simp [found])

theorem Clear.recorded_accepted (clear : Clear w result) : Clear (w.recorded .accepted) result := by
  cases result with
  | error interrupt => exact ackable_recorded_accepted clear
  | ok returned => exact ackable_recorded_accepted clear

theorem RetryEnd.recorded_accepted
    (ended : RetryEnd d result w) : RetryEnd d result (w.recorded .accepted) where
  noLoss := ended.noLoss.recorded (by simp)
  handoff := fun failure handoff =>
    ⟨(ended.handoff failure handoff).1, (ended.handoff failure handoff).2.recorded_accepted⟩
  otherwise := ended.otherwise.imp_right fun clear =>
    clear.imp_right Clear.recorded_accepted

theorem Clear.error (clear : Clear w result) (interrupt : Interrupt) :
    Clear w (.error interrupt) := by
  cases result with
  | error _ => exact clear
  | ok returned => exact ackable_recorded_accepted clear

/-- An acceptance accounts for the result that it makes of a failure. -/
theorem Clear.accepted {interrupt : Interrupt} (clear : Clear w (.error interrupt))
    (found : .accepted ∈ w.trace) (returned : HandlerResult) : Clear w (.ok returned) := by
  rcases clear with completed | ⟨target, confirmed⟩ | ⟨_, none⟩
  · exact .inl (by simpa using completed)
  · exact .inr (.inl ⟨target, by simpa using confirmed⟩)
  · exact .inr (.inr ⟨found, fun name left => none name (by simp [left])⟩)

theorem Clear.recover {middlewares : List ScopeMiddleware}
    {inside : Except Interrupt HandlerResult} (clear : Clear w inside)
    (accepted : ∀ returned, recover middlewares inside = .ok returned →
      reaches middlewares = true ∧ inside = .ok returned ∨ .accepted ∈ w.trace) :
    Clear w (recover middlewares inside) := by
  cases recovered : ScopeMiddleware.recover middlewares inside with
  | error interrupt => exact clear.error interrupt
  | ok returned =>
    rcases accepted returned recovered with ⟨_, same⟩ | found
    · exact same ▸ clear
    · exact (clear.error .cancelled).accepted found returned

def outerOutcome (d : Delivery) (failure : Failure) : Except Interrupt HandlerResult :=
  recover d.route.outer (.error (d.handedBack failure))

structure ConsumeEnd (d : Delivery) (result : Except Interrupt HandlerResult)
    (w : DeliveryWorld) : Prop where
  noLoss : NoLoss w
  handoff : ∀ failure, FailedHandoff d failure → result = d.outerOutcome failure ∧ Doomed w
  otherwise : (∃ failure, FailedHandoff d failure) ∨ w.isSettled = true ∨ Clear w result

theorem Fresh.noneUnconfirmed (fresh : Fresh w) : NoneUnconfirmed w.trace := by
  simp [NoneUnconfirmed, fresh.trace]

theorem Fresh.retryEnd (fresh : Fresh w) (unreached : reaches d.route.outer = false) :
    RetryEnd d (.error .cancelled) w := by
  refine retryEnd_of_interrupt fresh.noLoss (fun failure handoff => ?_) (.inr fresh.noneUnconfirmed)
  exact absurd handoff.reached (by simp [unreached])

theorem outerScopes_ensures (fresh : Fresh w) (received : d.surroundings.onReceive = none) :
    Ensures (consumeScopes d.route.outer (d.retryScopeAsync
      (consumeScopes d.route.inner d.invokeHandlerAsync))) (ConsumeEnd d) w := by
  refine (consumeScopes_ensures d.route.outer (fun _ _ => RetryEnd.recorded_accepted)
    (retryScope_ensures fresh received) (fun unreached => ⟨_, fresh.retryEnd unreached⟩)).mono ?_
  rintro _ w' ⟨inside, ended, rfl, accepted⟩
  refine ⟨ended.noLoss, fun failure handoff => ?_, ?_⟩
  · obtain ⟨rfl, doomed⟩ := ended.handoff failure handoff
    exact ⟨rfl, doomed⟩
  · exact ended.otherwise.imp_right fun clear => clear.imp_right fun clear => clear.recover accepted

theorem runConsumeAsync_ensures (fresh : Fresh w) : Ensures d.runConsumeAsync (ConsumeEnd d) w := by
  rw [runConsumeAsync, ensures_bind, onReceiveAsync]
  cases received : d.surroundings.onReceive with
  | none => exact outerScopes_ensures fresh received
  | some interrupt =>
    have ended (interrupt : Interrupt) : ConsumeEnd d (.error interrupt) w := by
      refine ⟨fresh.noLoss, fun failure handoff => ?_,
        .inr (.inr (clear_of_noneUnconfirmed fresh.noneUnconfirmed interrupt))⟩
      exact absurd handoff.received (by simp [received])
    cases interrupt with
    | cancelled => exact ended .cancelled
    | raised failure =>
      cases marked : failure.markInvalidMessage with
      | ok tagged => simpa [marked] using ended (.raised tagged)
      | error refusal => simpa [marked] using ended (.raised refusal)

end Delivery

end RabbitKit
