import RabbitKit.AsyncFailurePath
import RabbitKit.MessageScripts

/-! # The sync and the async pipeline over any route

`process_sync` and `process_async` as scripts: the handler, the middlewares and the
publish functions of a route are any scripts, and the pipelines around them are
written with the same calls.  Where the two pipelines share their text the model
shares the definition; where they do not (the dependencies of the handler, the retry
handoff, the circuit breaker, settling a failure, the processing deadline) each has its own.
-/

namespace RabbitKit

open InteractionScripts MessageScript

/-- What a handler returned, with what the serializer makes of an object. -/
inductive ResultValue
  | bytes (body : List UInt8)
  | text (content : String)
  | envelope (envelope : MessageEnvelope)
  | object (encoded : Except Interrupt (List UInt8))

inductive ConsumeResult
  | nothing
  | requeuedForRetry
  | value (value : ResultValue)

/-- `_serialize_result`. -/
def ResultValue.serialize : ResultValue → Except Interrupt (List UInt8)
  | .bytes body => .ok body
  | .text content => .ok content.toUTF8.toList
  | .envelope given => .ok given.body
  | .object encoded => encoded

structure ResultPublisher where
  exchange : String := ""
  routingKey : String

def directReplyTo : String := "amq.rabbitmq.reply-to"

/-- `_reply_to_permitted`: an entry that ends in `*` matches what starts with the
rest of it. -/
def replyToPermitted (replyTo : String) : Option (List String) → Bool
  | none => true
  | some allow =>
    (allow.any fun pattern =>
      if pattern.toList.getLast? = some '*' then
        pattern.toList.dropLast.isPrefixOf replyTo.toList
      else replyTo = pattern) ||
    directReplyTo.toList.isPrefixOf replyTo.toList

/-- `MessageEnvelope.__post_init__`. -/
def MessageEnvelope.validated (envelope : MessageEnvelope) : Except Interrupt MessageEnvelope :=
  if 255 < envelope.routingKey.utf8ByteSize ∨ 255 < envelope.exchange.utf8ByteSize then
    .error (.raised { classes := [.named "ConfigValidationError", .valueError, .exception] })
  else .ok envelope

abbrev ConsumeScope := MessageScript ConsumeResult → MessageScript ConsumeResult

abbrev PublishFunction := MessageEnvelope → MessageScript (Option PublishStatus)

structure ConsumeMiddleware where
  onReceive : MessageScript Unit := pure ()
  onReceiveAsync : MessageScript Unit := pure ()
  consumeScope : ConsumeScope := id
  consumeScopeAsync : ConsumeScope := id
  publishScope : PublishFunction → PublishFunction := id
  publishScopeAsync : PublishFunction → PublishFunction := id

/-- `RetryMiddleware` on one delivery.  The publish function of a pipeline is the one
its broker wires; `metricsCollector` and `envelopeFailure` are what recording a
metric and building an envelope raise. -/
structure RetryScope where
  retry : RetryMiddleware := {}
  message : ConsumedMessage
  infrastructureErrors : List ExceptionClass := []
  envelopeFailure : Option Failure := none
  metricsCollector : Option Failure := none
  handoffBackoff : ℚ := 0
  handoffSleepCancelled : Bool := false

namespace RetryScope

variable (scope : RetryScope)

/-- `_safe_publish_sync` and `_safe_publish_async`. -/
def safePublish (target : CopyTarget) : MessageScript (Option PublishStatus) :=
  exceptException (publish (.copy target)) fun _ => pure none

/-- `RetryMiddleware._record_metric`. -/
def recordMetric : MessageScript Unit :=
  if scope.retry.hasMetrics then raiseAny scope.metricsCollector else pure ()

def delayQueue : CopyTarget := .delayQueue (scope.retry.retryCount scope.message + 1)

/-- `RetryMiddleware._route_to_delay_queue_sync`. -/
def routeToDelayQueueSync : MessageScript Unit := do
  raiseAny scope.envelopeFailure
  if scope.retry.hasPublisher then
    let outcome ← safePublish scope.delayQueue
    if outcomeOk outcome then
      unlessSettled (settle .ack)
      scope.recordMetric
    else
      unlessSettled (settle (.nack true))
      scope.recordMetric
  else unlessSettled (settle (.nack true))

/-- The delivery is held before it is requeued, and requeued also when the sleep is
cancelled. -/
def holdAndRequeue : MessageScript Unit :=
  if scope.retry.sleepOnHandoffFailure ∧ 0 < scope.handoffBackoff ∧
      scope.handoffSleepCancelled then
    .calls .disposition fun disposition => do
      unlessSettled (settle (.nack true))
      if disposition = .pending then .raise .cancelled else pure ()
  else unlessSettled (settle (.nack true))

/-- `RetryMiddleware._route_to_delay_queue_async`. -/
def routeToDelayQueueAsync : MessageScript Unit := do
  raiseAny scope.envelopeFailure
  if scope.retry.hasPublisher then
    let outcome ← safePublish scope.delayQueue
    if outcomeOk outcome then
      unlessSettled (settle .ack)
      scope.recordMetric
    else
      scope.recordMetric
      scope.holdAndRequeue
  else unlessSettled (settle (.nack true))

/-- `RetryMiddleware._mark_terminal_and_raise`. -/
def markTerminalAndRaise (failure : Failure) (deadLettered handoffFailed : Bool) :
    MessageScript Unit :=
  match scope.retry.markTerminal failure deadLettered handoffFailed with
  | .error refusal => raiseFailure refusal
  | .ok marked => do
      if deadLettered then scope.recordMetric else pure ()
      raiseFailure marked

/-- `_terminal_sync` and `_terminal_async`. -/
def terminal (failure : Failure) : MessageScript Unit :=
  match scope.retry.terminalTarget scope.message with
  | none => scope.markTerminalAndRaise failure false false
  | some dlq => do
      raiseAny scope.envelopeFailure
      let outcome ← safePublish (.deadLetterQueue dlq)
      if outcomeOk outcome then
        unlessSettled (settle .ack)
        scope.markTerminalAndRaise failure true false
      else scope.markTerminalAndRaise failure false true

/-- `consume_scope`, given how a failure is routed to its delay queue. -/
def consumeScopeWith (routeToDelayQueue : MessageScript Unit) : ConsumeScope := fun callNext =>
  exceptException callNext fun failure =>
    if failure.isSettlementSignal then raiseFailure failure
    else
      match scope.retry.decideFailure scope.infrastructureErrors failure scope.message with
      | .error raised => raiseFailure raised
      | .ok none => do
          routeToDelayQueue
          return .requeuedForRetry
      | .ok (some _) => do
          scope.terminal failure
          return .requeuedForRetry

/-- `RetryMiddleware.consume_scope`. -/
def consumeScope : ConsumeScope := scope.consumeScopeWith scope.routeToDelayQueueSync

/-- `RetryMiddleware.consume_scope_async`. -/
def consumeScopeAsync : ConsumeScope := scope.consumeScopeWith scope.routeToDelayQueueAsync

def middleware : ConsumeMiddleware where
  consumeScope := scope.consumeScope
  consumeScopeAsync := scope.consumeScopeAsync

end RetryScope

/-- `CircuitBreakerMiddleware`: what the breakers of the two pipelines make of the
call they guard. -/
structure CircuitBreakerMiddleware where
  circuitBreaker : Option ConsumeScope := none
  asyncCircuitBreaker : Option ConsumeScope := none

namespace CircuitBreakerMiddleware

def typeError : Failure where
  classes := [.typeError, .exception]

/-- `consume_scope` and `consume_scope_async`. -/
def middleware (breaker : CircuitBreakerMiddleware) : ConsumeMiddleware where
  consumeScope callNext :=
    match breaker.circuitBreaker with
    | none => callNext
    | some call => call callNext
  consumeScopeAsync callNext :=
    match breaker.asyncCircuitBreaker, breaker.circuitBreaker with
    | some call, _ => call callNext
    | none, some _ => raiseFailure typeError
    | none, none => callNext

end CircuitBreakerMiddleware

/-- `_run_consume_sync` and `_run_consume_async`. -/
def runConsume (onReceive : List (MessageScript Unit)) (scopes : List ConsumeScope)
    (handler : MessageScript ConsumeResult) : MessageScript ConsumeResult := do
  markingInvalid (onReceive.reverse.foldr (fun hook rest => do hook; rest) (pure ()))
  scopes.foldr (fun scope callNext => scope callNext) handler

/-- `_compose_publish_sync` and `_compose_publish_async`. -/
def composePublish (scopes : List (PublishFunction → PublishFunction)) : PublishFunction :=
  scopes.foldr (fun scope callNext => scope callNext) fun envelope => publish (.result envelope)

/-- A `Depends()` parameter of a handler, listed once when its value is cached.  The scripts
are what its code does up to the value and what a generator does when it is closed. -/
inductive Dependency
  | function (call : MessageScript String)
  | generator (first : MessageScript String) (teardown : MessageScript Unit)
  | coroutine (body : MessageScript String)
  | asyncGenerator (first : MessageScript String) (teardown : MessageScript Unit)

/-- What a handler is given for a dependency: its value, kept as text, or a coroutine that
has run nothing. -/
inductive Argument
  | value (content : String)
  | coroutine
  deriving DecidableEq

/-- `DependencyScope`: how the open generators are closed, the newest first. -/
structure DependencyScope where
  syncGenerators : List (MessageScript Unit) := []
  asyncGenerators : List (MessageScript Unit) := []

namespace DependencyScope

/-- `add_sync_generator` and `add_async_generator`. -/
def opened (scope : DependencyScope) : Dependency → DependencyScope
  | .generator _ teardown =>
    { scope with syncGenerators := teardown :: scope.syncGenerators }
  | .asyncGenerator _ teardown =>
    { scope with asyncGenerators := teardown :: scope.asyncGenerators }
  | _ => scope

/-- A teardown that raises is logged, and the next generator is closed. -/
def closeAll (generators : List (MessageScript Unit)) : MessageScript Unit :=
  generators.foldr (fun teardown rest => do exceptException teardown (fun _ => pure ()); rest)
    (pure ())

/-- `cleanup`. -/
def cleanup (scope : DependencyScope) : MessageScript Unit := closeAll scope.syncGenerators

/-- `cleanup_async`. -/
def cleanupAsync (scope : DependencyScope) : MessageScript Unit := do
  closeAll scope.asyncGenerators
  closeAll scope.syncGenerators

end DependencyScope

namespace Dependency

/-- `ConfigurationError`. -/
def configurationError : Failure where
  classes := [.named "ConfigurationError", .exception]

/-- `_resolve_depends`: nothing is awaited, and an async generator is refused. -/
def resolveDepends : Dependency → MessageScript Argument
  | .function call => .value <$> call
  | .generator first _ => .value <$> first
  | .coroutine _ => pure .coroutine
  | .asyncGenerator _ _ => raiseFailure configurationError

/-- `_resolve_depends_async`. -/
def resolveDependsAsync : Dependency → MessageScript Argument
  | .function call => .value <$> call
  | .generator first _ => .value <$> first
  | .coroutine body => .value <$> body
  | .asyncGenerator first _ => .value <$> first

/-- The `try` of `_invoke_handler_sync` and `_invoke_handler_async`: what was opened before
a dependency or the handler failed is closed in the `finally`. -/
def invoke (resolve : Dependency → MessageScript Argument)
    (cleanup : DependencyScope → MessageScript Unit)
    (handler : List Argument → MessageScript ConsumeResult) :
    List Dependency → List Argument → DependencyScope → MessageScript ConsumeResult
  | [], arguments, scope =>
    (handler arguments).andThen fun result => do cleanup scope; .ends result
  | dependency :: rest, arguments, scope =>
    (resolve dependency).andThen fun
      | .ok argument =>
        invoke resolve cleanup handler rest (arguments ++ [argument]) (scope.opened dependency)
      | .error interrupt => do cleanup scope; .raise interrupt

end Dependency

/-- `handler` is what the body of the handler does with the values of its dependencies;
`coroutineEncoded` is what the serializer makes of a coroutine nobody awaited. -/
structure PipelineRoute where
  ackPolicy : AckPolicy := .auto
  filter : Except Interrupt Bool := .ok true
  middlewares : List ConsumeMiddleware := []
  decodeBody : MessageScript Unit := pure ()
  dependencies : List Dependency := []
  isCoroutineFunction : Bool := false
  coroutineEncoded : Except Interrupt (List UInt8) :=
    .error (.raised { classes := [.typeError, .exception] })
  handler : List Argument → MessageScript ConsumeResult
  resultPublisher : Option ResultPublisher := none
  replyToAllow : Option (List String) := none

structure PipelineMessage where
  wireBodySize : Nat := 0
  redelivered : Bool := false
  replyTo : String := ""
  correlationId : Option String := none

/-- One delivery in a pipeline.  `copier` and `guard` answer for the dead-letter
copier and guard where they are configured; `deadline` is what the consume chain
does instead when the processing deadline passes and cancels it. -/
structure PipelineDelivery where
  pipeline : PipelineConfig := {}
  route : PipelineRoute
  message : PipelineMessage := {}
  hasPublishFn : Bool := true
  freshMessageId : String := ""
  outcomeUnknownMetric : Option Failure := none
  copier : Option (Except Interrupt Bool) := none
  guard : Option (Except Interrupt Bool) := none
  dlqMissingSleepCancelled : Bool := false
  deadline : Option (MessageScript ConsumeResult) := none

namespace PipelineDelivery

variable (d : PipelineDelivery)

/-- `_invoke_handler_sync`: the call of a coroutine function returns its coroutine. -/
def invokeHandlerSync : MessageScript ConsumeResult := do
  markingInvalid d.route.decodeBody
  Dependency.invoke Dependency.resolveDepends DependencyScope.cleanup
    (fun arguments =>
      if d.route.isCoroutineFunction then pure (.value (.object d.route.coroutineEncoded))
      else d.route.handler arguments)
    d.route.dependencies [] {}

/-- `_invoke_handler_async`. -/
def invokeHandlerAsync : MessageScript ConsumeResult := do
  markingInvalid d.route.decodeBody
  Dependency.invoke Dependency.resolveDependsAsync DependencyScope.cleanupAsync d.route.handler
    d.route.dependencies [] {}

/-- `_run_consume_sync`. -/
def runConsumeSync : MessageScript ConsumeResult :=
  runConsume (d.route.middlewares.map (·.onReceive)) (d.route.middlewares.map (·.consumeScope))
    d.invokeHandlerSync

/-- `_run_consume_async`. -/
def runConsumeAsync : MessageScript ConsumeResult :=
  runConsume (d.route.middlewares.map (·.onReceiveAsync))
    (d.route.middlewares.map (·.consumeScopeAsync)) d.invokeHandlerAsync

/-- Only a cancellation or a `TimeoutError` under a deadline that has passed becomes
a `HandlerTimeoutError`. -/
def runConsumeWithDeadline : MessageScript ConsumeResult :=
  match d.deadline with
  | none => d.runConsumeAsync
  | some interrupted =>
    interrupted.catching fun
      | .cancelled => raiseFailure .handlerTimeout
      | .raised failure =>
        if failure.isInstance .timeoutError then raiseFailure .handlerTimeout
        else raiseFailure failure

/-- `_build_result_envelope`: the reply address wins over the result publisher, and
an envelope of the user keeps its own fields. -/
def buildResultEnvelope (value : ResultValue) : Except Interrupt (Option MessageEnvelope) := do
  let body ← value.serialize
  let addressed (routingKey exchange : String) : MessageEnvelope :=
    match value with
    | .envelope given => { given with routingKey := routingKey, exchange := exchange }
    | _ => { routingKey := routingKey, body := body, exchange := exchange
             messageId := d.freshMessageId }
  if d.message.replyTo ≠ "" then
    if replyToPermitted d.message.replyTo d.route.replyToAllow then
      some <$> MessageEnvelope.validated
        { addressed d.message.replyTo "" with correlationId := d.message.correlationId }
    else return none
  else
    match d.route.resultPublisher with
    | some publisher =>
      some <$> (addressed publisher.routingKey publisher.exchange).validated
    | none => return none

def attributeError : Failure where
  classes := [.attributeError, .exception]

/-- `_publish_result_sync` and `_publish_result_async`, on the results that are
published at all: false when a publish was attempted and failed. -/
def publishResult (publishFunction : PublishFunction) : ConsumeResult → MessageScript Bool
  | .value value =>
    if d.hasPublishFn then do
      match ← ofExcept (d.buildResultEnvelope value) with
      | none => return true
      | some envelope =>
        match ← publishFunction envelope with
        | none => raiseFailure attributeError
        | some status => return status.ok
    else return true
  | _ => return true

/-- `_publish_result_sync`. -/
def publishResultSync : ConsumeResult → MessageScript Bool :=
  d.publishResult (composePublish (d.route.middlewares.map (·.publishScope)))

/-- `_publish_result_async`. -/
def publishResultAsync : ConsumeResult → MessageScript Bool :=
  d.publishResult (composePublish (d.route.middlewares.map (·.publishScopeAsync)))

/-- `_ack_after_success_sync` and `_ack_after_success_async`: an ack that raises is
an ack with an unknown outcome, which is counted. -/
def ackAfterSuccess (ack : MessageScript Unit) : MessageScript Unit :=
  exceptException ack fun failure =>
    if failure.isInstance .settlementError then raiseFailure failure
    else raiseAny d.outcomeUnknownMetric

/-- `on_success` of the strategies. -/
def onSuccess : MessageScript Unit :=
  if d.route.ackPolicy = .manual then pure () else unlessSettled (settle .ack)

/-- The body of the inner `try` of a pipeline. -/
def consumeAndAck (runConsume : MessageScript ConsumeResult)
    (publishResult : ConsumeResult → MessageScript Bool) : MessageScript Unit := do
  let result ← runConsume
  let published ← publishResult result
  if published then d.ackAfterSuccess d.onSuccess
  else unlessSettled (settle (.nack true))

def classify (failure : Failure) : ErrorCategory :=
  match classifyError { infrastructure := d.pipeline.infrastructureErrors } failure with
  | .ok category => category
  | .error _ => .permanent

/-- `_failure_decision`. -/
def failureDecision (failure : Failure) : Option FailureDecision :=
  if d.route.ackPolicy = .manual ∧ d.pipeline.manualSettleOnError = false then none
  else if failure.terminal ∧ d.route.ackPolicy ≠ .manual then
    some ⟨.reject, false, .retryTerminal⟩
  else if d.route.ackPolicy = .nackOnError then some ⟨.nack, false, .nackOnError⟩
  else if (d.classify failure).severity ≠ .transient then some ⟨.reject, false, .permanent⟩
  else if d.pipeline.rejectTransientOnRedelivery ∧ d.message.redelivered then
    some ⟨.reject, false, .transientOnRedelivery⟩
  else some ⟨.nack, true, .transient⟩

/-- A failure for which `_is_channel_gone` holds is only logged. -/
def swallowChannelGone (body : MessageScript Unit) : MessageScript Unit :=
  exceptException body fun failure =>
    if failure.channelGone then pure () else raiseFailure failure

/-- `_oversized`. -/
def oversized : Bool :=
  match d.pipeline.maxBodyBytes with
  | none => false
  | some limit => decide (limit < d.message.wireBodySize)

def filtered : MessageScript Unit := unlessSettled (settle (.nack false))

/-- `_handle_sync_exception` with `_handle_sync_exception_inner`. -/
def handleSyncException (failure : Failure) : MessageScript Unit :=
  swallowChannelGone <| unlessSettled <|
    match d.failureDecision failure with
    | none => raiseFailure failure
    | some decision => settle (decision.kind.settlement decision.requeue)

/-- The `except` clauses of the inner `try` of `process_sync`. -/
def handleFailureSync (failure : Failure) : MessageScript Unit :=
  if failure.isInstance .ackMessage then unlessSettled (d.ackAfterSuccess (settle .ack))
  else if failure.isInstance .nackMessage then unlessSettled (settle (.nack failure.requeue))
  else if failure.isInstance .rejectMessage then unlessSettled (settle (.reject failure.requeue))
  else d.handleSyncException failure

/-- `_dead_letter_oversized_sync`. -/
def deadLetterOversizedSync : MessageScript Unit :=
  swallowChannelGone (unlessSettled (settle (.reject false)))

/-- The inner `try` of `process_sync`. -/
def consumeSync : MessageScript Unit := d.consumeAndAck d.runConsumeSync d.publishResultSync

/-- `process_sync`. -/
def processSync : MessageScript Unit :=
  if d.oversized then deadLetterOversizedSync
  else do
    if (← ofExcept d.route.filter) then
      if d.route.ackPolicy = .ackFirst then settle .ack else pure ()
      exceptException d.consumeSync d.handleFailureSync
    else filtered

/-- `_settle_failure_async` after the copier: the guard, then the frame. -/
def settleGuarded (decision : FailureDecision) : MessageScript Unit :=
  match d.guard with
  | some answer =>
    if decision.requeue then settle (decision.kind.settlement decision.requeue)
    else do
      if (← ofExcept answer) then settle (decision.kind.settlement decision.requeue)
      else if d.dlqMissingSleepCancelled then .raise .cancelled
      else settle (.nack true)
  | none => settle (decision.kind.settlement decision.requeue)

/-- `_settle_failure_async`. -/
def settleFailureAsync (decision : FailureDecision) (failure : Option Failure) :
    MessageScript Unit :=
  match d.copier with
  | some answer =>
    if !decision.requeue && failure.isSome && decision.reason != .retryTerminal then do
      if (← ofExcept answer) then settle .ack else d.settleGuarded decision
    else d.settleGuarded decision
  | none => d.settleGuarded decision

/-- `_handle_async_exception` with `_handle_async_exception_inner`. -/
def handleAsyncException (failure : Failure) : MessageScript Unit :=
  swallowChannelGone <| unlessSettled <|
    match d.failureDecision failure with
    | none => raiseFailure failure
    | some decision => d.settleFailureAsync decision (some failure)

/-- The `except` clauses of the inner `try` of `process_async`. -/
def handleFailureAsync (failure : Failure) : MessageScript Unit :=
  if failure.isInstance .ackMessage then unlessSettled (d.ackAfterSuccess (settle .ack))
  else if failure.isInstance .nackMessage then
    unlessSettled <|
      if failure.requeue then settle (.nack true)
      else d.settleFailureAsync ⟨.nack, false, .handlerRequested⟩ none
  else if failure.isInstance .rejectMessage then
    unlessSettled <|
      if failure.requeue then settle (.reject true)
      else d.settleFailureAsync ⟨.reject, false, .handlerRequested⟩ none
  else d.handleAsyncException failure

/-- `_dead_letter_oversized_async`. -/
def deadLetterOversizedAsync : MessageScript Unit :=
  swallowChannelGone <| unlessSettled <|
    d.settleFailureAsync ⟨.reject, false, .bodyTooLarge⟩ (some .inboundMessageTooLarge)

/-- The inner `try` of `process_async`. -/
def consumeAsync : MessageScript Unit :=
  d.consumeAndAck d.runConsumeWithDeadline d.publishResultAsync

/-- `process_async`. -/
def processAsync : MessageScript Unit :=
  if d.oversized then d.deadLetterOversizedAsync
  else do
    if (← ofExcept d.route.filter) then
      if d.route.ackPolicy = .ackFirst then settle .ack else pure ()
      exceptException d.consumeAsync d.handleFailureAsync
    else filtered

def processedSync (transport : Transport) : MessageWorld :=
  (d.processSync.run transport.syncWorld {}).2

def processedAsync (transport : Transport) : MessageWorld :=
  (d.processAsync.run transport.asyncWorld {}).2

end PipelineDelivery
end RabbitKit
