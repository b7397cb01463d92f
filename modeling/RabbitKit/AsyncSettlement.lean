import RabbitKit.FailureTaxonomy
import RabbitKit.OrderedDict
import Mathlib.Algebra.Order.Ring.Unbundled.Rat

/-! # Settling a delivery in the async pipeline

What the async pipeline does with a delivery it has to settle: the frames and the
claim in front of them, the dead-letter guard and copier, and the failure policy
that chooses between them.

The code runs in a monad of exceptions over the state of the delivery.  Every
await outside the library is answered by `Surroundings`; each of them is reached
at most once for a delivery, so that the record stands for every behaviour of the
handler, the broker and the event loop.
-/

namespace RabbitKit

inductive Settlement
  | ack
  | nack (requeue : Bool)
  | reject (requeue : Bool)
  deriving DecidableEq

inductive Disposition
  | pending
  | acked
  | nacked
  | rejected
  deriving DecidableEq

def Settlement.disposition : Settlement → Disposition
  | .ack => .acked
  | .nack _ => .nacked
  | .reject _ => .rejected

inductive PublishStatus
  | confirmed
  | sent
  | nacked
  | timeout
  | returned
  | error
  | notSent
  | unknown
  deriving DecidableEq

/-- `PublishOutcome.ok`. -/
def PublishStatus.ok (status : PublishStatus) : Bool :=
  status == .confirmed || status == .sent

/-- What ends an await without a value: an `Exception`, or a `BaseException` such
as the cancellation of the task, which no `except Exception` catches. -/
inductive Interrupt
  | raised (failure : Failure)
  | cancelled

inductive PublishAnswer
  | outcome (status : PublishStatus)
  | nothing
  | raised (failure : Failure)
  | cancelled

def PublishAnswer.isConfirmed : PublishAnswer → Bool
  | .outcome .confirmed => true
  | _ => false

/-- `_safe_publish_async` and `DeadLetterCopier.copy` turn a raising publish into no
outcome and let a cancellation through. -/
def PublishAnswer.outcome? : PublishAnswer → Except Interrupt (Option PublishStatus)
  | .outcome status => .ok (some status)
  | .nothing => .ok none
  | .raised _ => .ok none
  | .cancelled => .error .cancelled

inductive ProbeAnswer
  | answered (present : Bool)
  | raised
  | cancelled
  deriving DecidableEq

/-- A handler's result, as far as the pipeline tells results apart. -/
inductive HandlerResult
  | nothing
  | requeuedForRetry
  | value
  deriving DecidableEq

inductive AckPolicy
  | auto
  | manual
  | nackOnError
  | ackFirst
  deriving DecidableEq

inductive TerminalAction
  | deadLetter
  | reject
  deriving DecidableEq

inductive FailureCategory
  | transient
  | timeoutUnknown
  | permanent
  | exhausted
  | retryAgeExceeded
  deriving DecidableEq

structure ConsumedQueue where
  name : String
  deadLetterExchange : Option String := none
  deadLetterRoutingKey : Option String := none
  quorum : Bool := false
  deadLetterAtLeastOnce : Bool := false

/-- The fallbacks in the order of their registration, and the opt-in to swallow
permanent failures. -/
structure ExceptionMiddleware where
  handlers : List (ExceptionClass × (Failure → Except Interrupt HandlerResult)) := []
  swallowPermanent : Bool := false

/-- A middleware around the handler of a route.  One that is no `ExceptionMiddleware` may raise
before it calls on, or in the place of what the call ended with, as `TimeoutMiddleware` does. -/
inductive ScopeMiddleware
  | exceptions (middleware : ExceptionMiddleware)
  | other (before : Option Interrupt) (after : Except Interrupt HandlerResult → Option Interrupt)

structure RetryMiddleware where
  maxRetries : Nat := 4
  maxRetryAge : Option ℚ := none
  trustRetryHeader : Bool := true
  terminalAction : TerminalAction := .deadLetter
  predicates : List ErrorPredicate := []
  unknownPolicy : ErrorSeverity := .permanent
  hasPublisher : Bool := true
  sleepOnHandoffFailure : Bool := true
  hasMetrics : Bool := false

/-- A route whose `RetryMiddleware` stands between the outer and the inner middlewares. -/
structure ConsumerRoute where
  queue : ConsumedQueue
  ackPolicy : AckPolicy := .auto
  outer : List ScopeMiddleware := []
  retry : RetryMiddleware := {}
  inner : List ScopeMiddleware := []

structure PipelineConfig where
  rejectTransientOnRedelivery : Bool := true
  manualSettleOnError : Bool := true
  hasProcessingTimeout : Bool := false
  maxBodyBytes : Option Nat := none
  infrastructureErrors : List ExceptionClass := []

/-- A delivery, with its headers as `header_int`, `header_text`, `parse_iso` and
`_xdeath_retry_floor` read them. -/
structure ConsumedMessage where
  wireBodySize : Nat := 0
  redelivered : Bool := false
  retryHeader : Nat := 0
  sourceQueue : String
  xdeathRetryFloor : Nat := 0
  sinceFirstFailure : Option ℚ := none

/-- How everything outside the library answers while one delivery is processed.
Copies are published with the mandatory flag, hence on a confirmed channel, and no
publish on such a channel ends as sent without a confirm. -/
structure Surroundings where
  filter : Except Interrupt Bool := .ok true
  onReceive : Option Interrupt := none
  handlerSettles : Option Settlement := none
  handler : Except Interrupt HandlerResult
  deadlineExpired : Bool := false
  cancelledFromOutside : Bool := false
  retryEnvelope : Option Failure := none
  retryPublish : PublishAnswer
  handoffBackoff : ℚ := 0
  handoffSleepCancelled : Bool := false
  metricsCollector : Option Failure := none
  copierEnvelope : Option Failure := none
  copierPublish : PublishAnswer
  clock : ℚ := 0
  probe : ProbeAnswer
  dlqMissingSleepCancelled : Bool := false
  settleFrame : Option Interrupt := none
  resultPublish : Except Interrupt Bool := .ok true
  retryPublish_ne_sent : retryPublish ≠ .outcome .sent := by simp

structure Delivery where
  pipeline : PipelineConfig := {}
  route : ConsumerRoute
  message : ConsumedMessage
  surroundings : Surroundings

inductive CopyTarget
  | delayQueue (attempt : Nat)
  | deadLetterQueue (name : String)
  deriving DecidableEq

inductive GuardVerdict
  | unverifiable
  | retainedByBroker (target : String)
  | verifiedRecently (target : String)
  | probed (target : String) (present : Bool)
  deriving DecidableEq

def GuardVerdict.allows : GuardVerdict → Bool
  | .probed _ present => present
  | _ => true

inductive DeliveryEvent
  | filtered
  | settledByHandler (settlement : Settlement)
  | completed
  | accepted
  | copied (target : CopyTarget) (confirmed : Bool)
  | guardAnswered (verdict : GuardVerdict)
  | settled (settlement : Settlement)
  deriving DecidableEq

structure DeadLetterGuard where
  targets : OrderedDict String (Option String) := .empty
  verifiedUntil : OrderedDict String ℚ := .empty
  ttl : ℚ := 5

/-- `target_for`. -/
def DeadLetterGuard.targetFor (guard : DeadLetterGuard) (queue : ConsumedQueue) : Option String :=
  match guard.targets.get? queue.name with
  | some target => target
  | none =>
    match queue.deadLetterExchange, queue.deadLetterRoutingKey with
    | some "", some routingKey => if routingKey = "" then none else some routingKey
    | _, _ => none

/-- `_broker_retains_dead_letters`. -/
def ConsumedQueue.brokerRetainsDeadLetters (queue : ConsumedQueue) : Bool :=
  queue.quorum && queue.deadLetterAtLeastOnce

structure DeliveryWorld where
  disposition : Disposition := .pending
  settleUnknown : Bool := false
  guard : DeadLetterGuard := {}
  trace : List DeliveryEvent := []

def DeliveryWorld.isSettled (w : DeliveryWorld) : Bool :=
  w.disposition != .pending

abbrev Pipeline := ExceptT Interrupt (StateM DeliveryWorld)

namespace Pipeline

variable {α : Type}

def record (event : DeliveryEvent) : Pipeline Unit :=
  modify fun w => { w with trace := w.trace ++ [event] }

def isSettled : Pipeline Bool := do
  return (← get).isSettled

/-- `if not message.is_settled: ...`. -/
def unlessSettled (action : Pipeline Unit) : Pipeline Unit := do
  if (← isSettled) then pure () else action

def raise (failure : Failure) : Pipeline α :=
  throw (.raised failure)

def raiseAny : Option Failure → Pipeline Unit
  | some failure => raise failure
  | none => pure ()

def answer : Except Interrupt α → Pipeline α
  | .ok value => pure value
  | .error interrupt => throw interrupt

/-- `try: body except Exception as exc: handler(exc)`. -/
def exceptException (body : Pipeline α) (handler : Failure → Pipeline α) : Pipeline α :=
  tryCatch body fun
    | .raised failure => handler failure
    | .cancelled => throw .cancelled

/-- `try: body finally: cleanup`. -/
def finallyDo (body cleanup : Pipeline Unit) : Pipeline Unit := do
  tryCatch body fun interrupt => do
    cleanup
    throw interrupt
  cleanup

end Pipeline

open Pipeline

inductive FailureReason
  | retryTerminal
  | nackOnError
  | permanent
  | transientOnRedelivery
  | transient
  | bodyTooLarge
  | handlerRequested
  deriving DecidableEq

inductive SettlementKind
  | nack
  | reject
  deriving DecidableEq

structure FailureDecision where
  kind : SettlementKind
  requeue : Bool
  reason : FailureReason
  deriving DecidableEq

def SettlementKind.settlement : SettlementKind → Bool → Settlement
  | .nack, requeue => .nack requeue
  | .reject, requeue => .reject requeue

namespace Delivery

variable (d : Delivery)

/-- `_settle_async`: claims the delivery before the frame is sent, and keeps the
claim when sending it raises. -/
def settleAsync (settlement : Settlement) : Pipeline Unit :=
  unlessSettled do
    modify fun w => { w with
      disposition := settlement.disposition
      trace := w.trace ++ [.settled settlement] }
    match d.surroundings.settleFrame with
    | none => pure ()
    | some interrupt =>
      modify fun w => { w with settleUnknown := true }
      throw interrupt

/-- `RabbitMessage.ack_async`. -/
def ackAsync : Pipeline Unit := d.settleAsync .ack

/-- `RabbitMessage.nack_async`. -/
def nackAsync (requeue : Bool) : Pipeline Unit := d.settleAsync (.nack requeue)

/-- `RabbitMessage.reject_async`. -/
def rejectAsync (requeue : Bool) : Pipeline Unit := d.settleAsync (.reject requeue)

/-- The probe of `DeadLetterGuard.check`. -/
def queueExists : Pipeline Bool :=
  match d.surroundings.probe with
  | .answered present => pure present
  | .raised => pure false
  | .cancelled => throw .cancelled

/-- `DeadLetterGuard.check` on a target that has to exist. -/
def checkTarget (target : String) : Pipeline GuardVerdict := do
  if (← get).guard.verifiedUntil.getD target 0 > d.surroundings.clock then
    return .verifiedRecently target
  else if (← d.queueExists) then
    modify fun w => { w with
      guard.verifiedUntil := w.guard.verifiedUntil.set target
        (d.surroundings.clock + w.guard.ttl) }
    return .probed target true
  else
    modify fun w => { w with guard.verifiedUntil := w.guard.verifiedUntil.erase target }
    return .probed target false

/-- `DeadLetterGuard.check`, with the reason for its answer. -/
def check : Pipeline GuardVerdict := do
  match (← get).guard.targetFor d.route.queue with
  | none => return .unverifiable
  | some target =>
    if d.route.queue.brokerRetainsDeadLetters then return .retainedByBroker target
    else d.checkTarget target

/-- `DeadLetterGuard.check`. -/
def deadLetterCheck : Pipeline Bool := do
  let verdict ← d.check
  record (.guardAnswered verdict)
  return verdict.allows

def publishCopy (target : CopyTarget) (published : PublishAnswer) :
    Pipeline (Option PublishStatus) := do
  record (.copied target published.isConfirmed)
  answer published.outcome?

/-- `DeadLetterCopier.copy`: true only for a confirmed copy. -/
def deadLetterCopy : Pipeline Bool := do
  match (← get).guard.targetFor d.route.queue with
  | none => return false
  | some dlq =>
    raiseAny d.surroundings.copierEnvelope
    let outcome ← publishCopy (.deadLetterQueue dlq) d.surroundings.copierPublish
    return outcome == some .confirmed

/-- `classify_error` as the pipeline calls it, without predicates. -/
def classify (failure : Failure) : ErrorCategory :=
  match classifyError { infrastructure := d.pipeline.infrastructureErrors } failure with
  | .ok category => category
  | .error _ => .permanent

/-- `None` leaves the delivery to its handler. -/
def failureDecision (failure : Failure) : Option FailureDecision :=
  if d.route.ackPolicy = .manual ∧ d.pipeline.manualSettleOnError = false then none
  else if failure.terminal ∧ d.route.ackPolicy ≠ .manual then
    some ⟨.reject, false, .retryTerminal⟩
  else if d.route.ackPolicy = .nackOnError then some ⟨.nack, false, .nackOnError⟩
  else if (d.classify failure).severity ≠ .transient then some ⟨.reject, false, .permanent⟩
  else if d.pipeline.rejectTransientOnRedelivery ∧ d.message.redelivered then
    some ⟨.reject, false, .transientOnRedelivery⟩
  else some ⟨.nack, true, .transient⟩

/-- Whether `_settle_failure_async` tries a dead-letter copy first. -/
def copiesFirst (decision : FailureDecision) (failure : Option Failure) : Bool :=
  !decision.requeue && failure.isSome && decision.reason != .retryTerminal

/-- The second half of `_settle_failure_async`: the guard, then the frame. -/
def settleGuarded (decision : FailureDecision) : Pipeline Unit := do
  let blocked ← if decision.requeue then pure false else (! ·) <$> d.deadLetterCheck
  if blocked then
    if d.surroundings.dlqMissingSleepCancelled then throw .cancelled
    else d.nackAsync true
  else d.settleAsync (decision.kind.settlement decision.requeue)

/-- `_settle_failure_async`. -/
def settleFailureAsync (decision : FailureDecision) (failure : Option Failure) :
    Pipeline Unit := do
  let copied ← if copiesFirst decision failure then d.deadLetterCopy else pure false
  if copied then d.ackAsync
  else d.settleGuarded decision

/-- `_handle_async_exception_inner`. -/
def handleAsyncExceptionInner (failure : Failure) : Pipeline Unit :=
  unlessSettled <|
    match d.failureDecision failure with
    | none => raise failure
    | some decision => d.settleFailureAsync decision (some failure)

/-- A failure for which `_is_channel_gone` holds is only logged. -/
def swallowChannelGone (body : Pipeline Unit) : Pipeline Unit :=
  exceptException body fun failure =>
    if failure.channelGone then pure () else raise failure

/-- `_handle_async_exception`. -/
def handleAsyncException (failure : Failure) : Pipeline Unit :=
  swallowChannelGone (d.handleAsyncExceptionInner failure)

end Delivery
end RabbitKit
