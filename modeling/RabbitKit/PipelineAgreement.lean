import RabbitKit.HandlerPipelines

/-! # The sync and the async pipeline agree

Where the hooks of the middlewares do the same in both pipelines and nothing of the handler
has to be awaited, the two pipelines are the same script once no dead-letter copier or guard
is configured and no deadline passes, and the sync and the async message answer alike as long
as the settlement calls return.
-/

namespace RabbitKit

open InteractionScripts MessageScript List

/-- The async hooks of a middleware do what its sync hooks do. -/
structure ConsumeMiddleware.Uniform (middleware : ConsumeMiddleware) : Prop where
  onReceive : middleware.onReceiveAsync = middleware.onReceive
  consumeScope : middleware.consumeScopeAsync = middleware.consumeScope
  publishScope : middleware.publishScopeAsync = middleware.publishScope

/-- Neither a coroutine nor an async generator. -/
def Dependency.isSync : Dependency → Bool
  | .function _ => true
  | .generator _ _ => true
  | .coroutine _ => false
  | .asyncGenerator _ _ => false

/-- The middlewares do the same in both pipelines, and the handler and its dependencies are
plain functions and generators. -/
structure PipelineRoute.Uniform (route : PipelineRoute) : Prop where
  middlewares : ∀ middleware ∈ route.middlewares, middleware.Uniform
  dependencies : ∀ dependency ∈ route.dependencies, dependency.isSync = true
  handler : route.isCoroutineFunction = false

namespace Dependency

theorem resolveDependsAsync_eq {dependency : Dependency} (plain : dependency.isSync = true) :
    dependency.resolveDependsAsync = dependency.resolveDepends := by
  cases dependency with
  | function | generator => rfl
  | coroutine | asyncGenerator => exact absurd plain Bool.false_ne_true

theorem asyncGenerators_opened {dependency : Dependency} (plain : dependency.isSync = true)
    (scope : DependencyScope) :
    (scope.opened dependency).asyncGenerators = scope.asyncGenerators := by
  cases dependency with
  | function | generator => rfl
  | coroutine | asyncGenerator => exact absurd plain Bool.false_ne_true

theorem cleanupAsync_eq {scope : DependencyScope} (none : scope.asyncGenerators = []) :
    scope.cleanupAsync = scope.cleanup := by
  rw [DependencyScope.cleanupAsync, none]
  rfl

theorem invoke_eq (handler : List Argument → MessageScript ConsumeResult)
    (dependencies : List Dependency) (plain : ∀ dependency ∈ dependencies, dependency.isSync = true)
    (arguments : List Argument) (scope : DependencyScope) (none : scope.asyncGenerators = []) :
    invoke resolveDependsAsync DependencyScope.cleanupAsync handler dependencies arguments scope =
      invoke resolveDepends DependencyScope.cleanup handler dependencies arguments scope := by
  induction dependencies generalizing arguments scope with
  | nil => rw [invoke, invoke, cleanupAsync_eq none]
  | cons dependency rest ih =>
    have first : dependency.isSync = true := plain dependency mem_cons_self
    rw [invoke, invoke, resolveDependsAsync_eq first, cleanupAsync_eq none]
    congr 1
    funext result
    cases result with
    | ok argument =>
      exact ih (fun other member => plain other (mem_cons_of_mem _ member)) _ _
        ((asyncGenerators_opened first scope).trans none)
    | error interrupt => rfl

end Dependency

/-- The retry handoff differs only in whether a failed one is counted before or after
the delivery is requeued. -/
theorem RetryScope.routeToDelayQueue_eq {scope : RetryScope}
    (counted : scope.recordMetric = pure ()) (held : scope.handoffSleepCancelled = false) :
    scope.routeToDelayQueueAsync = scope.routeToDelayQueueSync := by
  have requeued : scope.holdAndRequeue = unlessSettled (settle (.nack true)) := by
    simp [holdAndRequeue, held]
  unfold routeToDelayQueueAsync routeToDelayQueueSync
  simp only [counted, requeued, Script.bind_pure_unit]
  rfl

theorem RetryScope.middleware_uniform {scope : RetryScope}
    (counted : scope.recordMetric = pure ()) (held : scope.handoffSleepCancelled = false) :
    scope.middleware.Uniform where
  onReceive := rfl
  consumeScope := congrArg scope.consumeScopeWith (routeToDelayQueue_eq counted held)
  publishScope := rfl

theorem Transport.asyncWorld_eq {transport : Transport}
    (succeeds : ∀ index, transport.settle index = none) :
    transport.asyncWorld = transport.syncWorld := by
  funext call w
  cases call with
  | disposition => rfl
  | settle settlement =>
    simp [asyncWorld, syncWorld, settleAsync, settleSync, succeeds]
  | publish publication => rfl

namespace PipelineDelivery

variable {d : PipelineDelivery}

section

variable (uniform : d.route.Uniform)
include uniform

theorem invokeHandlerAsync_eq : d.invokeHandlerAsync = d.invokeHandlerSync := by
  unfold invokeHandlerAsync invokeHandlerSync
  rw [Dependency.invoke_eq d.route.handler d.route.dependencies uniform.dependencies [] {} rfl]
  simp only [uniform.handler, Bool.false_eq_true, if_false]

theorem runConsumeAsync_eq : d.runConsumeAsync = d.runConsumeSync := by
  unfold runConsumeAsync runConsumeSync
  rw [map_congr_left fun middleware member => (uniform.middlewares middleware member).onReceive,
    map_congr_left fun middleware member => (uniform.middlewares middleware member).consumeScope,
    invokeHandlerAsync_eq uniform]

theorem publishResultAsync_eq : d.publishResultAsync = d.publishResultSync := by
  unfold publishResultAsync publishResultSync
  rw [map_congr_left fun middleware member => (uniform.middlewares middleware member).publishScope]

end

section

variable (noCopier : d.copier = none) (noGuard : d.guard = none)
include noCopier noGuard

theorem settleFailureAsync_eq (decision : FailureDecision) (failure : Option Failure) :
    d.settleFailureAsync decision failure = settle (decision.kind.settlement decision.requeue) := by
  simp [settleFailureAsync, settleGuarded, noCopier, noGuard]

theorem handleAsyncException_eq : d.handleAsyncException = d.handleSyncException := by
  funext failure
  simp only [handleAsyncException, handleSyncException, settleFailureAsync_eq noCopier noGuard]

theorem handleFailureAsync_eq : d.handleFailureAsync = d.handleFailureSync := by
  funext failure
  simp only [handleFailureAsync, handleFailureSync, settleFailureAsync_eq noCopier noGuard,
    handleAsyncException_eq noCopier noGuard, SettlementKind.settlement]
  cases failure.requeue <;> rfl

end

theorem processAsync_eq (uniform : d.route.Uniform) (noCopier : d.copier = none)
    (noGuard : d.guard = none) (inTime : d.deadline = none) : d.processAsync = d.processSync := by
  have consume : d.consumeAsync = d.consumeSync := by
    simp only [consumeAsync, consumeSync, runConsumeWithDeadline, inTime,
      runConsumeAsync_eq uniform, publishResultAsync_eq uniform]
  have oversized : d.deadLetterOversizedAsync = deadLetterOversizedSync := by
    simp only [deadLetterOversizedAsync, deadLetterOversizedSync,
      settleFailureAsync_eq noCopier noGuard, SettlementKind.settlement]
  simp only [processAsync, processSync, consume, oversized, handleFailureAsync_eq noCopier noGuard]

/-- A handler with retries that answers with what a generator dependency gave it. -/
def repliedDelivery : PipelineDelivery where
  route :=
    { middlewares := [RetryScope.middleware { message := { sourceQueue := "orders" } }]
      dependencies := [.generator (pure "session") (pure ())]
      handler := fun
        | [.value content] => pure (.value (.text content))
        | _ => pure .nothing }
  message := { replyTo := "amq.rabbitmq.reply-to.g1", correlationId := some "c1" }
  freshMessageId := "m1"

def refusingTransport : Transport where
  settle _ := none
  publish _ := .outcome .nacked

def syncBreakerDelivery : PipelineDelivery where
  route :=
    { middlewares := [CircuitBreakerMiddleware.middleware { circuitBreaker := some id }]
      handler := fun _ => pure .nothing }

end PipelineDelivery
end RabbitKit
