import RabbitKit.ConsumeChainEnds

/-! # No delivery is lost in the failure path

The pipeline accounts for every settlement with one exception.  `RetryMiddleware`
reports an unconfirmed dead-letter copy through attributes of the exception.  An
exception whose class refuses new attributes raises its refusal in the place of that
report, and a middleware between the retry middleware and an `ExceptionMiddleware` may
raise a failure of its own instead.  A fallback for that failure then acknowledges the
delivery.
-/

namespace RabbitKit

open InterruptibleState Pipeline Failure ScopeMiddleware

namespace Delivery

variable {d : Delivery} {w : DeliveryWorld}

def Lossy (w : DeliveryWorld) : Prop :=
  ∃ earlier later, w.trace = earlier ++ .settled .ack :: later ∧ ¬ Ackable earlier

theorem Lossy.not_noLoss (lossy : Lossy w) : ¬ NoLoss w := by
  obtain ⟨earlier, later, same, lost⟩ := lossy
  exact fun noLoss => lost (noLoss.accountable earlier .ack later same)

theorem Lossy.recorded (lossy : Lossy w) (event : DeliveryEvent) : Lossy (w.recorded event) := by
  obtain ⟨earlier, later, same, lost⟩ := lossy
  exact ⟨earlier, later ++ [event], by simp [same], lost⟩

theorem Doomed.not_ackable (doomed : Doomed w) : ¬ Ackable w.trace := by
  rintro (completed | confirmed | ⟨_, none⟩)
  · exact doomed.uncompleted completed
  · exact doomed.unconfirmed confirmed
  · exact doomed.left none

theorem ackAsync_doomed (doomed : Doomed w) :
    Ensures d.ackAsync (fun _ w' => Lossy w' ∧ w'.isSettled = true) w := by
  rw [ackAsync, settleAsync, ensures_unlessSettled]
  refine ⟨fun settled => by simp [doomed.unsettled] at settled, fun _ => ?_⟩
  have lost : ∀ unknown, Lossy { w with
      disposition := .acked, settleUnknown := unknown, trace := w.trace ++ [.settled .ack] } :=
    fun unknown => ⟨w.trace, [], rfl, doomed.not_ackable⟩
  cases frame : d.surroundings.settleFrame with
  | none => simpa [Settlement.disposition, DeliveryWorld.isSettled] using lost w.settleUnknown
  | some interrupt => simpa [Settlement.disposition, DeliveryWorld.isSettled] using lost true

variable {failure : Failure} {holds : DeliveryWorld → Prop}

theorem ackAfterSuccessAsync_ensures {ack : Pipeline Unit}
    (ensures : Ensures ack (fun _ w' => holds w') w) :
    Ensures (ackAfterSuccessAsync ack) (fun _ w' => holds w') w := by
  rw [ackAfterSuccessAsync, ensures_exceptException]
  refine ensures.mono fun result w' held => ?_
  rcases result with (failure | _) | _
  · cases unsettled : failure.isInstance .settlementError <;>
      simpa [afterException, unsettled] using held
  · exact held
  · exact held

theorem handleFailure_settled (failure : Failure)
    (settled : w.isSettled = true) (held : holds w) (accepted : holds (w.recorded .accepted)) :
    Ensures (d.handleFailure failure) (fun _ w' => holds w') w := by
  rw [handleFailure]
  split
  · simp only [ensures_bind, ensures_record, afterValue_ok, ensures_unlessSettled]
    exact ⟨fun _ => accepted, by simp [settled]⟩
  split
  · rw [ensures_unlessSettled]
    exact ⟨fun _ => held, by simp [settled]⟩
  split
  · rw [ensures_unlessSettled]
    exact ⟨fun _ => held, by simp [settled]⟩
  · rw [handleAsyncException, swallowChannelGone, ensures_exceptException,
      handleAsyncExceptionInner, ensures_unlessSettled]
    exact ⟨fun _ => held, by simp [settled]⟩

theorem handleFailure_ensures (noLoss : NoLoss w) (ackable : failure.isInstance .ackMessage = true →
      w.isSettled = true ∨ Ackable (w.recorded .accepted).trace) :
    Ensures (d.handleFailure failure) (fun _ w' => NoLoss w') w := by
  rw [handleFailure]
  split
  next isAck =>
    simp only [ensures_bind, ensures_record, afterValue_ok, ensures_unlessSettled]
    have noLoss' : NoLoss (w.recorded .accepted) := noLoss.recorded (by simp)
    refine ⟨fun _ => noLoss', fun unsettled => ackAfterSuccessAsync_ensures ?_⟩
    rcases ackable isAck with settled | ackable
    · simp [settled] at unsettled
    · exact settleAsync_noLoss noLoss' .ack ackable
  split
  · rw [ensures_unlessSettled]
    refine ⟨fun _ => noLoss, fun _ => ?_⟩
    split
    · exact settleAsync_noLoss noLoss (.nack true) trivial
    · exact settleFailureAsync_ensures noLoss _ none
  split
  · rw [ensures_unlessSettled]
    refine ⟨fun _ => noLoss, fun _ => ?_⟩
    split
    · exact settleAsync_noLoss noLoss (.reject true) trivial
    · exact settleFailureAsync_ensures noLoss _ none
  · exact handleAsyncException_ensures noLoss failure

theorem handleFailure_doomed (doomed : Doomed w) (isAck : failure.isInstance .ackMessage = true) :
    Ensures (d.handleFailure failure) (fun _ w' => Lossy w') w := by
  rw [handleFailure, if_pos isAck]
  simp only [ensures_bind, ensures_record, afterValue_ok, ensures_unlessSettled]
  have doomed' : Doomed (w.recorded .accepted) := doomed.recorded_accepted
  refine ⟨fun settled => by simp [doomed'.unsettled] at settled, fun _ => ?_⟩
  exact (ackAfterSuccessAsync_ensures (ackAsync_doomed doomed')).mono fun _ _ lost => lost.1

def AckedAnyway (d : Delivery) : Except Interrupt HandlerResult → Prop
  | .ok returned =>
    match d.resultPublished returned with
    | .ok published => published = true
    | .error (.raised failure) => failure.isInstance .ackMessage = true
    | .error .cancelled => False
  | .error interrupt =>
    match d.afterDeadline interrupt with
    | .raised failure => failure.isInstance .ackMessage = true
    | .cancelled => False

def LosesHandoff (d : Delivery) : Prop :=
  ∃ failure, FailedHandoff d failure ∧ AckedAnyway d (d.outerOutcome failure)

theorem ConsumeEnd.clear {result : Except Interrupt HandlerResult} (ended : ConsumeEnd d result w)
    (kept : ¬ d.LosesHandoff) (acked : AckedAnyway d result) :
    w.isSettled = true ∨ Clear w result := by
  rcases ended.otherwise with ⟨failure, handoff⟩ | clear
  · obtain ⟨rfl, _⟩ := ended.handoff failure handoff
    exact absurd ⟨failure, handoff, acked⟩ kept
  · exact clear

theorem raised_of_ackMessage {interrupt : Interrupt}
    (passed : d.afterDeadline interrupt = .raised failure)
    (isAck : failure.isInstance .ackMessage = true) : interrupt = .raised failure := by
  have timeout : handlerTimeout.isInstance .ackMessage = false := by decide
  cases interrupt <;> rw [afterDeadline] at passed
  case cancelled =>
    split at passed
    · cases passed
      simp [timeout] at isAck
    · cases passed
  case raised original =>
    split at passed
    · cases passed
      simp [timeout] at isAck
    · exact passed

theorem afterException_raised (ended : ConsumeEnd d (.error interrupt) w)
    (kept : ¬ d.LosesHandoff) :
    afterException (fun _ w' => NoLoss w') d.handleFailure (.error (d.afterDeadline interrupt))
      w := by
  cases passed : d.afterDeadline interrupt with
  | cancelled => exact ended.noLoss
  | raised failure =>
    refine handleFailure_ensures ended.noLoss fun isAck => ?_
    have acked : AckedAnyway d (.error interrupt) := by simpa [AckedAnyway, passed] using isAck
    exact ended.clear kept acked

theorem settleReturned_ensures {returned : HandlerResult} (policy : d.route.ackPolicy ≠ .manual)
    (ended : ConsumeEnd d (.ok returned) w) (kept : ¬ d.LosesHandoff) : Ensures (do
        let published ← answer (d.resultPublished returned)
        if published then ackAfterSuccessAsync d.onSuccess else unlessSettled (d.nackAsync true))
      (afterException (fun _ w' => NoLoss w') d.handleFailure) w := by
  rw [ensures_bind, ensures_answer]
  have clear : AckedAnyway d (.ok returned) → w.isSettled = true ∨ Ackable w.trace :=
    ended.clear kept
  have settledEnd : ∀ result w', NoLoss w' ∧ w'.isSettled = true →
      afterException (fun _ w' => NoLoss w') d.handleFailure result w' := by
    rintro ((failure | _) | _) w' ⟨noLoss, settled⟩
    · exact handleFailure_settled failure settled noLoss (noLoss.recorded (by simp))
    · exact noLoss
    · exact noLoss
  rcases publication : d.resultPublished returned with (failure | _) | published
  · refine handleFailure_ensures ended.noLoss fun isAck => ?_
    refine (clear ?_).imp_right ackable_recorded_accepted
    simpa [AckedAnyway, publication] using isAck
  · exact ended.noLoss
  · cases published with
    | true =>
      simp only [afterValue_ok, if_true, onSuccess, if_neg policy]
      refine (ackAfterSuccessAsync_ensures (acknowledge_ensures ended.noLoss ?_)).mono settledEnd
      intro unsettled
      rcases clear (by simp [AckedAnyway, publication]) with settled | ackable
      · simp [settled] at unsettled
      · exact ackable
    | false =>
      simpa using (requeue_ensures ended.noLoss).mono settledEnd

theorem consumed_noLoss (fresh : Fresh w) (policy : d.route.ackPolicy ≠ .manual)
    (kept : ¬ d.LosesHandoff) :
    Ensures (exceptException d.consumeAndAck d.handleFailure) (fun _ w' => NoLoss w') w := by
  rw [ensures_exceptException, consumeAndAck, ensures_bind, runConsumeWithDeadline,
    ensures_tryCatch]
  refine (runConsumeAsync_ensures fresh).mono ?_
  rintro (interrupt | returned) w' ended
  · exact afterException_raised ended kept
  · exact settleReturned_ensures policy ended kept

theorem consumed_lossy (fresh : Fresh w) (policy : d.route.ackPolicy ≠ .manual)
    (lost : d.LosesHandoff) :
    Ensures (exceptException d.consumeAndAck d.handleFailure) (fun _ w' => Lossy w') w := by
  obtain ⟨failure, handoff, acked⟩ := lost
  rw [ensures_exceptException, consumeAndAck, ensures_bind, runConsumeWithDeadline,
    ensures_tryCatch]
  refine (runConsumeAsync_ensures fresh).mono fun result w' ended => ?_
  obtain ⟨rfl, doomed⟩ := ended.handoff failure handoff
  rcases outcome : d.outerOutcome failure with interrupt | returned
  · rw [afterInterrupt_error, ensures_throw, afterValue_error]
    cases passed : d.afterDeadline interrupt with
    | cancelled => simp [AckedAnyway, outcome, passed] at acked
    | raised raised =>
      exact handleFailure_doomed doomed (by simpa [AckedAnyway, outcome, passed] using acked)
  · rw [afterInterrupt_ok, afterValue_ok, ensures_bind, ensures_answer]
    rcases publication : d.resultPublished returned with (raised | _) | published
    · exact handleFailure_doomed doomed (by simpa [AckedAnyway, outcome, publication] using acked)
    · simp [AckedAnyway, outcome, publication] at acked
    · have isPublished : published = true := by
        simpa [AckedAnyway, outcome, publication] using acked
      subst isPublished
      simp only [afterValue_ok, if_true, onSuccess, if_neg policy]
      have acknowledged : Ensures (unlessSettled d.ackAsync)
          (fun _ w' => Lossy w' ∧ w'.isSettled = true) w' := by
        rw [ensures_unlessSettled]
        exact ⟨fun settled => by simp [doomed.unsettled] at settled,
          fun _ => ackAsync_doomed doomed⟩
      refine (ackAfterSuccessAsync_ensures acknowledged).mono ?_
      rintro ((raised | _) | _) w'' ⟨lossy, settled⟩
      · exact handleFailure_settled raised settled lossy (lossy.recorded .accepted)
      · exact lossy
      · exact lossy

structure Admitted (d : Delivery) : Prop where
  fits : d.oversized = false
  unfiltered : d.surroundings.filter = .ok true

theorem processAsync_admitted (admitted : d.Admitted) (policy : d.route.ackPolicy ≠ .ackFirst)
    {post : Except Interrupt Unit → DeliveryWorld → Prop} : Ensures d.processAsync post w ↔
      Ensures (exceptException d.consumeAndAck d.handleFailure) post w := by
  simp [processAsync, admitted.fits, admitted.unfiltered, policy]

theorem processAsync_turnedAway (fresh : Fresh w) (turnedAway : ¬ d.Admitted) :
    Ensures d.processAsync (fun _ w' => NoLoss w') w := by
  rw [processAsync]
  cases oversized : d.oversized with
  | true =>
    refine swallowChannelGone_ensures ?_
    rw [ensures_unlessSettled]
    exact ⟨fun _ => fresh.noLoss, fun _ => settleFailureAsync_ensures fresh.noLoss _ _⟩
  | false =>
    simp only [Bool.false_eq_true, if_false, ensures_bind, ensures_answer]
    rcases filter : d.surroundings.filter with interrupt | admits
    · exact fresh.noLoss
    · cases admits with
      | true => exact absurd ⟨oversized, filter⟩ turnedAway
      | false =>
        simp only [afterValue_ok, Bool.false_eq_true, if_false, ensures_bind, ensures_record,
          ensures_unlessSettled]
        have noLoss : NoLoss (w.recorded .filtered) := fresh.noLoss.recorded (by simp)
        exact ⟨fun _ => noLoss, fun _ => settleAsync_noLoss noLoss (.nack false) (.inr (by simp))⟩

theorem fresh_arrival (guard : DeadLetterGuard) : Fresh { guard := guard } := ⟨rfl, rfl⟩

/-- A handoff fails, and what the outer middlewares make of the interrupt that is handed
back acknowledges the delivery. -/
structure LostHandoff (d : Delivery) (failure : Failure) : Prop where
  admitted : d.Admitted
  handoff : FailedHandoff d failure
  acked : AckedAnyway d (recover d.route.outer (.error (d.handedBack failure)))

theorem markTerminal_reported {retry : RetryMiddleware} {failure marked : Failure}
    (reported : retry.markTerminal failure false true = .ok marked) :
    marked.terminal = true ∧ marked.deadLetterFailed = true ∧ marked.classes = failure.classes := by
  simp only [RetryMiddleware.markTerminal, assign, bind, Except.bind] at reported
  cases terminal : failure.refuses .terminal <;> simp only [terminal, reduceCtorEq] at reported
  cases lettered : failure.refuses .deadLettered <;> simp only [lettered, reduceCtorEq] at reported
  cases failed : failure.refuses .deadLetterFailed <;> simp only [failed, reduceCtorEq] at reported
  have shape : marked =
      { failure with terminal := true, deadLettered := false, deadLetterFailed := true } := by
    split at reported
    · split at reported
      · cases reported
      · exact (Except.ok.inj reported).symm
    · exact (Except.ok.inj reported).symm
  simp [shape]

/-- The middleware lets a failure through that reports its dead-letter copy. -/
def passes (failure : Failure) : ScopeMiddleware → Prop
  | .exceptions _ => True
  | .other before after => before = none ∧ after (.error (.raised failure)) = none

/-- An unconfirmed dead-letter copy that is reported on the failure is not accepted. -/
theorem recover_reported {middlewares : List ScopeMiddleware} {failure : Failure}
    (terminal : failure.terminal = true) (failed : failure.deadLetterFailed = true)
    (passed : ∀ middleware ∈ middlewares, passes failure middleware) :
    recover middlewares (.error (.raised failure)) = .error (.raised failure) := by
  induction middlewares with
  | nil => rfl
  | cons middleware middlewares ih =>
    rw [recover_cons, ih fun later member => passed later (by simp [member])]
    cases middleware with
    | exceptions middleware =>
      simp [recoverOne, ExceptionMiddleware.handleException, terminal, failed]
    | other before after =>
      obtain ⟨rfl, unchanged⟩ := passed (.other before after) (by simp)
      simp [recoverOne, replaceEnd, unchanged]

/-- A failure that carries the report of its copy past the outer middlewares is not lost. -/
theorem not_lostHandoff_of_reported {marked : Failure}
    (reported : d.route.retry.markTerminal failure false true = .ok marked)
    (passed : ∀ middleware ∈ d.route.outer, passes marked middleware)
    (answered : d.surroundings.retryPublish ≠ .cancelled) : ¬ LostHandoff d failure := by
  intro lost
  obtain ⟨terminal, failed, sameClasses⟩ := markTerminal_reported reported
  have back : d.handedBack failure = .raised marked := by
    rw [handedBack, reported]
    cases published : d.surroundings.retryPublish <;> simp_all [PublishAnswer.outcome?]
  have acked := lost.acked
  rw [back, recover_reported terminal failed passed, AckedAnyway] at acked
  cases past : d.afterDeadline (.raised marked) with
  | cancelled => simp [past] at acked
  | raised raised =>
    simp only [past] at acked
    have same := raised_of_ackMessage past acked
    simp only [Interrupt.raised.injEq] at same
    have caught := lost.handoff.caught
    simp [isSettlementSignal, isInstanceOfAny, isInstance, ← sameClasses, same] at caught acked
    exact absurd acked caught.1

/-- A `TimeoutMiddleware` whose time passes. -/
def expiring : ScopeMiddleware := .other none fun
  | .error .cancelled => some (.raised .handlerTimeout)
  | _ => none

/-- A failing handler on a route with a fallback for every exception around a timeout, while
the dead-letter queue is missing. -/
def withoutDeadLetterQueue (failure : Failure) (published : PublishAnswer)
    (notSent : published ≠ .outcome .sent) : Delivery where
  route :=
    { queue :=
        { name := "orders", deadLetterExchange := some "",
          deadLetterRoutingKey := some "orders.dlq" }
      outer := [.exceptions { handlers := [(.exception, fun _ => .ok .nothing)] }, expiring] }
  message := { sourceQueue := "orders" }
  surroundings :=
    { handler := .error (.raised failure)
      retryPublish := published
      retryPublish_ne_sent := notSent
      copierPublish := .outcome .returned
      probe := .answered false }

/-- The handler fails, and the copy of the delivery is returned. -/
def returnedCopy (failure : Failure) : Delivery :=
  withoutDeadLetterQueue failure (.outcome .returned) (by simp)

def valueFailure : Failure where
  classes := [.valueError, .exception]

/-- A frozen dataclass exception: assigning an attribute raises
`FrozenInstanceError`. -/
def frozenFailure : Failure where
  classes := [.named "OrderRejected", .exception]
  refuses := fun _ =>
    some { classes := [.named "FrozenInstanceError", .attributeError, .exception] }

/-- The delivery is acknowledged, and its only copy was not confirmed. -/
def AckedUncopied (d : Delivery) : Prop :=
  d.route.ackPolicy = .auto ∧ (d.processed {}).disposition = .acked ∧
    (d.processed {}).trace =
      [.copied (.deadLetterQueue "orders.dlq") false, .accepted, .settled .ack] ∧
    ¬ NoLoss (d.processed {})

end Delivery

end RabbitKit
