import RabbitKit.AsyncSettlement

/-! # One delivery through the async pipeline

A failure in `process_async` meets `RetryMiddleware`, which publishes a copy to a delay queue or to
the dead-letter queue, then the middlewares around it, which may raise another failure in its place
or, as `ExceptionMiddleware` does, accept it, and at last the failure policy of the pipeline.
-/

namespace RabbitKit

open Pipeline

namespace ExceptionMiddleware

/-- `_handle_exception`.  A terminal failure passes unless permanent failures are
swallowed, and always when its dead-letter copy is not confirmed. -/
def handleException (middleware : ExceptionMiddleware) (failure : Failure) :
    Except Interrupt HandlerResult :=
  if failure.terminal ∧ middleware.swallowPermanent = false then .error (.raised failure)
  else if failure.terminal ∧ failure.deadLetterFailed then .error (.raised failure)
  else
    match middleware.handlers.find? fun entry => failure.isInstance entry.1 with
    | some entry => entry.2 failure
    | none => if failure.terminal then .ok .nothing else .error (.raised failure)

/-- `consume_scope_async`: a fallback or a swallowed failure is an acceptance. -/
def consumeScopeAsync (middleware : ExceptionMiddleware) (callNext : Pipeline HandlerResult) :
    Pipeline HandlerResult :=
  exceptException callNext fun failure =>
    match middleware.handleException failure with
    | .ok result => do
        record .accepted
        return result
    | .error interrupt => throw interrupt

end ExceptionMiddleware

namespace ScopeMiddleware

/-- What the call ended with, or what is raised in the place of it. -/
def replaceEnd (after : Except Interrupt HandlerResult → Option Interrupt)
    (result : Except Interrupt HandlerResult) : Except Interrupt HandlerResult :=
  match after result with
  | some interrupt => .error interrupt
  | none => result

def consumeScopeAsync : ScopeMiddleware → Pipeline HandlerResult → Pipeline HandlerResult
  | .exceptions middleware, callNext => middleware.consumeScopeAsync callNext
  | .other (some interrupt) _, _ => throw interrupt
  | .other none after, callNext => ExceptT.mk (replaceEnd after <$> callNext.run)

/-- The middlewares of `_run_consume_async` around a call, the first one outermost. -/
def consumeScopes (middlewares : List ScopeMiddleware) (callNext : Pipeline HandlerResult) :
    Pipeline HandlerResult :=
  middlewares.foldr consumeScopeAsync callNext

end ScopeMiddleware

namespace RetryMiddleware

/-- `_get_retry_count`. -/
def retryCount (retry : RetryMiddleware) (message : ConsumedMessage) : Nat :=
  let claimed := if retry.trustRetryHeader then message.retryHeader else 0
  let count := if message.sourceQueue = "" then claimed else max claimed message.xdeathRetryFloor
  min count retry.maxRetries

/-- `_retry_age_exceeded`. -/
def retryAgeExceeded (retry : RetryMiddleware) (message : ConsumedMessage) : Bool :=
  match retry.maxRetryAge, message.sinceFirstFailure with
  | some maxAge, some age => decide (maxAge < age)
  | _, _ => false

/-- `_decide`: the category of a terminal failure, `none` for one to retry. -/
def decideFailure (retry : RetryMiddleware) (infrastructureErrors : List ExceptionClass)
    (failure : Failure) (message : ConsumedMessage) : Except Failure (Option FailureCategory) :=
  match classifyError ⟨retry.predicates, infrastructureErrors, retry.unknownPolicy⟩ failure with
  | .error raised => .error raised
  | .ok category =>
    if category.severity ≠ .transient then .ok (some .permanent)
    else if retry.maxRetries ≤ retry.retryCount message then .ok (some .exhausted)
    else if retry.retryAgeExceeded message then .ok (some .retryAgeExceeded)
    else .ok none

/-- The attributes `_mark_terminal_and_raise` assigns before it raises the failure
again. -/
def markTerminal (retry : RetryMiddleware) (failure : Failure)
    (deadLettered handoffFailed : Bool) : Except Failure Failure := do
  let failure ← failure.assign .terminal { failure with terminal := true }
  let failure ← failure.assign .deadLettered { failure with deadLettered := deadLettered }
  let failure ← failure.assign .deadLetterFailed { failure with deadLetterFailed := handoffFailed }
  if retry.hasMetrics && !deadLettered then failure.assign .onDeadLettered failure
  else return failure

/-- The queue of the copy in `_terminal_async`. -/
def terminalTarget (retry : RetryMiddleware) (message : ConsumedMessage) : Option String :=
  if retry.terminalAction = .deadLetter ∧ retry.hasPublisher ∧ message.sourceQueue ≠ "" then
    some (message.sourceQueue ++ ".dlq")
  else none

end RetryMiddleware

/-- `None` is an unverified outcome, not a success. -/
def outcomeOk : Option PublishStatus → Bool
  | none => false
  | some status => status.ok

namespace Delivery

variable (d : Delivery)

/-- `asyncio.sleep(backoff)` while the delivery is still held. -/
def holdBeforeRequeue : Pipeline Unit := do
  let settled ← isSettled
  if d.route.retry.sleepOnHandoffFailure && decide (0 < d.surroundings.handoffBackoff) &&
      !settled && d.surroundings.handoffSleepCancelled then
    throw .cancelled
  else pure ()

/-- `RetryMiddleware._record_metric`. -/
def recordMetric : Pipeline Unit :=
  if d.route.retry.hasMetrics then raiseAny d.surroundings.metricsCollector else pure ()

/-- `RetryMiddleware._route_to_delay_queue_async`. -/
def routeToDelayQueueAsync : Pipeline Unit := do
  raiseAny d.surroundings.retryEnvelope
  if d.route.retry.hasPublisher then
    let outcome ← publishCopy
      (.delayQueue (d.route.retry.retryCount d.message + 1)) d.surroundings.retryPublish
    if outcomeOk outcome then
      unlessSettled d.ackAsync
      d.recordMetric
    else
      d.recordMetric
      finallyDo d.holdBeforeRequeue (unlessSettled (d.nackAsync true))
  else unlessSettled (d.nackAsync true)

/-- `RetryMiddleware._mark_terminal_and_raise`. -/
def markTerminalAndRaise (failure : Failure) (deadLettered handoffFailed : Bool) :
    Pipeline Unit := do
  match d.route.retry.markTerminal failure deadLettered handoffFailed with
  | .error refusal => raise refusal
  | .ok marked =>
    if deadLettered then d.recordMetric else pure ()
    raise marked

/-- `RetryMiddleware._terminal_async`. -/
def terminalAsync (failure : Failure) : Pipeline Unit := do
  match d.route.retry.terminalTarget d.message with
  | none => d.markTerminalAndRaise failure false false
  | some dlq =>
    raiseAny d.surroundings.retryEnvelope
    let outcome ← publishCopy (.deadLetterQueue dlq) d.surroundings.retryPublish
    if outcomeOk outcome then
      unlessSettled d.ackAsync
      d.markTerminalAndRaise failure true false
    else d.markTerminalAndRaise failure false true

/-- `RetryMiddleware._handle_retry_async`. -/
def handleRetryAsync (failure : Failure) : Pipeline Unit :=
  match d.route.retry.decideFailure d.pipeline.infrastructureErrors failure d.message with
  | .error raised => raise raised
  | .ok none => d.routeToDelayQueueAsync
  | .ok (some _) => d.terminalAsync failure

/-- `RetryMiddleware.consume_scope_async`. -/
def retryScopeAsync (callNext : Pipeline HandlerResult) : Pipeline HandlerResult :=
  exceptException callNext fun failure =>
    if failure.isSettlementSignal then raise failure
    else do
      d.handleRetryAsync failure
      return .requeuedForRetry

def settleByHandler : Pipeline Unit :=
  match d.surroundings.handlerSettles with
  | none => pure ()
  | some settlement =>
    unlessSettled <| modify fun w => { w with
      disposition := settlement.disposition
      trace := w.trace ++ [.settledByHandler settlement] }

def endHandler : Pipeline HandlerResult :=
  match d.surroundings.handler with
  | .ok result => do
      record .completed
      return result
  | .error interrupt => throw interrupt

/-- `_invoke_handler_async`. -/
def invokeHandlerAsync : Pipeline HandlerResult := do
  d.settleByHandler
  d.endHandler

/-- The `on_receive` hooks, whose failures are tagged as an invalid message. -/
def onReceiveAsync : Pipeline Unit :=
  match d.surroundings.onReceive with
  | none => pure ()
  | some .cancelled => throw .cancelled
  | some (.raised failure) =>
    match failure.markInvalidMessage with
    | .ok marked => raise marked
    | .error refusal => raise refusal

/-- `_run_consume_async`. -/
def runConsumeAsync : Pipeline HandlerResult := do
  d.onReceiveAsync
  ScopeMiddleware.consumeScopes d.route.outer
    (d.retryScopeAsync (ScopeMiddleware.consumeScopes d.route.inner d.invokeHandlerAsync))

def deadlineExpired : Bool :=
  d.pipeline.hasProcessingTimeout && d.surroundings.deadlineExpired

/-- What `asyncio.timeout` and the handler of its `TimeoutError` make of an
interrupt. -/
def afterDeadline : Interrupt → Interrupt
  | .cancelled =>
    if d.deadlineExpired ∧ d.surroundings.cancelledFromOutside = false then
      .raised .handlerTimeout
    else .cancelled
  | .raised failure =>
    if d.deadlineExpired ∧ failure.isInstance .timeoutError then .raised .handlerTimeout
    else .raised failure

/-- `_run_consume_with_deadline`. -/
def runConsumeWithDeadline : Pipeline HandlerResult :=
  tryCatch d.runConsumeAsync fun interrupt => throw (d.afterDeadline interrupt)

/-- `_ack_after_success_async`: an ack that raises is an unknown outcome. -/
def ackAfterSuccessAsync (ack : Pipeline Unit) : Pipeline Unit :=
  exceptException ack fun failure =>
    if failure.isInstance .settlementError then raise failure else pure ()

/-- `on_success` of the strategies. -/
def onSuccess : Pipeline Unit :=
  if d.route.ackPolicy = .manual then pure () else unlessSettled d.ackAsync

/-- `_publish_result_async`, on the results that are published at all. -/
def resultPublished (result : HandlerResult) : Except Interrupt Bool :=
  if result = .value then d.surroundings.resultPublish else .ok true

/-- The body of the inner `try` of `process_async`. -/
def consumeAndAck : Pipeline Unit := do
  let result ← d.runConsumeWithDeadline
  let published ← answer (d.resultPublished result)
  if published then ackAfterSuccessAsync d.onSuccess
  else unlessSettled (d.nackAsync true)

/-- The `except` clauses of the inner `try` of `process_async`. -/
def handleFailure (failure : Failure) : Pipeline Unit :=
  if failure.isInstance .ackMessage then do
    record .accepted
    unlessSettled (ackAfterSuccessAsync d.ackAsync)
  else if failure.isInstance .nackMessage then
    unlessSettled <|
      if failure.requeue then d.nackAsync true
      else d.settleFailureAsync ⟨.nack, false, .handlerRequested⟩ none
  else if failure.isInstance .rejectMessage then
    unlessSettled <|
      if failure.requeue then d.rejectAsync true
      else d.settleFailureAsync ⟨.reject, false, .handlerRequested⟩ none
  else d.handleAsyncException failure

/-- `_oversized`. -/
def oversized : Bool :=
  match d.pipeline.maxBodyBytes with
  | none => false
  | some limit => decide (limit < d.message.wireBodySize)

/-- `_dead_letter_oversized_async`. -/
def deadLetterOversizedAsync : Pipeline Unit :=
  swallowChannelGone <| unlessSettled <|
    d.settleFailureAsync ⟨.reject, false, .bodyTooLarge⟩ (some .inboundMessageTooLarge)

/-- `process_async`. -/
def processAsync : Pipeline Unit := do
  if d.oversized then d.deadLetterOversizedAsync
  else if (← answer d.surroundings.filter) then
    if d.route.ackPolicy = .ackFirst then d.ackAsync else pure ()
    exceptException d.consumeAndAck d.handleFailure
  else
    record .filtered
    unlessSettled (d.nackAsync false)

def processed (guard : DeadLetterGuard) : DeliveryWorld :=
  (d.processAsync.run.run { guard := guard }).2

end Delivery
end RabbitKit
