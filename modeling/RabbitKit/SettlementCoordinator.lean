import RabbitKit.OrderedDict
import Mathlib.Data.List.Sort

/-! # The channel ledger and its settlement planner

`SettlementCoordinator` keeps one entry for each delivery of a channel generation and decides which
acknowledgement frames may be written. Each function is one critical section of the coordinator's
lock; `failCommand` is the composition of the two sections the source runs.
-/

namespace RabbitKit

inductive DeliveryState
  | outstanding
  | success
  | retryPending
  | failed
  | cancelled
  | nack
  | reject
  deriving DecidableEq

namespace DeliveryState

def value : DeliveryState → String
  | outstanding => "outstanding"
  | success => "success"
  | retryPending => "retry_pending"
  | failed => "failed"
  | cancelled => "cancelled"
  | nack => "nack"
  | reject => "reject"

/-- `is_ack_safe`. -/
def isAckSafe (state : DeliveryState) : Bool := state = success

/-- The legal next states, ordered by their values. -/
def transitions : DeliveryState → List DeliveryState
  | outstanding => [cancelled, failed, nack, reject, retryPending, success]
  | retryPending => [cancelled, failed, nack, reject, success]
  | failed => [nack, reject]
  | cancelled => [nack, reject]
  | success => []
  | nack => []
  | reject => []

end DeliveryState

inductive SettlementAction
  | ack
  | nack
  | reject
  deriving DecidableEq

/-- One wire command; `covers` lists every delivery tag it settles. -/
structure SettlementCommand where
  kind : SettlementAction
  deliveryTag : Nat
  multiple : Bool := false
  requeue : Bool := false
  covers : List Nat := []
  generation : Nat := 0
  deriving DecidableEq

structure SettlementBatch where
  commands : List SettlementCommand
  generation : Nat
  batchId : Nat
  deriving DecidableEq

/-- Errors of the coordinator with the data their texts show. -/
inductive CoordinatorError
  | notPositive (tag : Nat)
  | notIncreasing (tag last generation : Nat)
  | ledgerFull (size maxPending generation : Nat)
  | alreadySettled (tag generation : Nat)
  | staleGeneration (tag generation : Nat)
  | unknownDelivery (tag generation : Nat)
  | requeueChanged (tag : Nat) (state : DeliveryState)
      (recorded : Option Bool) (requested : Bool)
  | illegalTransition (tag : Nat) (current requested : DeliveryState)
  deriving DecidableEq

namespace CoordinatorError

def boolText (value : Bool) : String := if value then "True" else "False"

def optionalBoolText : Option Bool → String
  | none => "None"
  | some value => boolText value

def legalStatesText (current : DeliveryState) : String :=
  match current.transitions with
  | [] => "none — terminal"
  | states =>
    "[" ++ ", ".intercalate (states.map fun state => "'" ++ state.value ++ "'") ++ "]"

def text : CoordinatorError → String
  | notPositive tag => "delivery_tag must be positive, got " ++ toString tag
  | notIncreasing tag last generation =>
    "delivery_tag " ++ toString tag ++ " is not greater than last registered " ++
      toString last ++ " (stale or duplicate delivery on generation " ++
      toString generation ++ ")"
  | ledgerFull size maxPending generation =>
    "ledger holds " ++ toString size ++ " unsettled deliveries (max_pending=" ++
      toString maxPending ++ ") on generation " ++ toString generation ++
      "; apply backpressure (stop consuming / lower prefetch) — the delivery stays " ++
      "unacked and the broker will redeliver it."
  | alreadySettled tag generation =>
    "delivery_tag " ++ toString tag ++
      " was already settled or released on generation " ++ toString generation
  | staleGeneration tag generation =>
    "delivery_tag " ++ toString tag ++ " belongs to a previous generation (current is " ++
      toString generation ++ "); that channel is gone and the broker will redeliver " ++
      "the message with a new tag"
  | unknownDelivery tag generation =>
    "delivery_tag " ++ toString tag ++ " was never registered on generation " ++
      toString generation
  | requeueChanged tag state recorded requested =>
    "delivery_tag " ++ toString tag ++ " is already " ++ state.value ++ " with requeue=" ++
      optionalBoolText recorded ++ "; cannot change it to requeue=" ++ boolText requested
  | illegalTransition tag current requested =>
    "delivery_tag " ++ toString tag ++ " is " ++ current.value ++
      "; refusing to change it to " ++ requested.value ++ " (legal next states: " ++
      legalStatesText current ++ ")"

end CoordinatorError

structure SettlementCoordinator where
  generation : Nat := 0
  coalesce : Bool := true
  maxHold : Nat := 0
  maxPending : Nat := 0
  ledger : OrderedDict Nat DeliveryState := .empty
  hold : OrderedDict Nat Nat := .empty
  requeue : OrderedDict Nat Bool := .empty
  lastRegistered : Nat := 0
  gapFloor : Nat := 0
  unregisteredGaps : Nat := 0
  prevHighWater : Nat := 0
  registeredCount : Nat := 0
  settledCount : Nat := 0
  coalescedCount : Nat := 0
  framesSent : Nat := 0
  invalidations : Nat := 0
  droppedOnInvalidate : Nat := 0
  reserved : OrderedDict Nat Nat := .empty
  nextBatchId : Nat := 1
  unresolvedCount : Nat := 0
  framesFailed : Nat := 0
  framesNotAttempted : Nat := 0

namespace SettlementCoordinator

def init (generation : Nat) (coalesce : Bool) (maxHold maxPending : Int) :
    SettlementCoordinator where
  generation := generation
  coalesce := coalesce
  maxHold := (max 0 maxHold).toNat
  maxPending := (max 0 maxPending).toNat

def sortedTags (c : SettlementCoordinator) : List Nat :=
  c.ledger.keys.insertionSort (· ≤ ·)

/-- `register`. -/
def register (c : SettlementCoordinator) (tag : Nat) :
    Except CoordinatorError SettlementCoordinator :=
  if tag ≤ 0 then
    .error (.notPositive tag)
  else if tag ≤ c.lastRegistered then
    .error (.notIncreasing tag c.lastRegistered c.generation)
  else if c.maxPending ≠ 0 ∧ c.maxPending ≤ c.ledger.size then
    .error (.ledgerFull c.ledger.size c.maxPending c.generation)
  else
    let skipped : Bool := c.lastRegistered + 1 < tag
    .ok { c with
      unregisteredGaps := if skipped then c.unregisteredGaps + 1 else c.unregisteredGaps
      gapFloor :=
        if skipped then (if c.gapFloor = 0 then c.lastRegistered + 1 else c.gapFloor)
        else c.gapFloor
      ledger := c.ledger.set tag .outstanding
      lastRegistered := tag
      registeredCount := c.registeredCount + 1 }

/-- `_missing`. -/
def missing (c : SettlementCoordinator) (tag : Nat) : CoordinatorError :=
  if tag ≤ c.lastRegistered then .alreadySettled tag c.generation
  else if tag ≤ c.prevHighWater then .staleGeneration tag c.generation
  else .unknownDelivery tag c.generation

/-- `_set_intent`. -/
def setIntent (c : SettlementCoordinator) (tag : Nat) (state : DeliveryState)
    (requeue : Option Bool) : Except CoordinatorError SettlementCoordinator :=
  match c.ledger.get? tag with
  | none => .error (c.missing tag)
  | some current =>
    if current = state then
      match requeue with
      | none => .ok c
      | some requested =>
        if c.requeue.get? tag ≠ some requested then
          .error (.requeueChanged tag state (c.requeue.get? tag) requested)
        else .ok c
    else if state ∉ current.transitions then
      .error (.illegalTransition tag current state)
    else
      .ok { c with
        ledger := c.ledger.set tag state
        requeue :=
          match requeue with
          | none => c.requeue
          | some requested => c.requeue.set tag requested }

inductive Decision
  | success
  | retryPending
  | failed
  | cancelled
  | nack (requeue : Bool)
  | reject (requeue : Bool)
  deriving DecidableEq

def Decision.state : Decision → DeliveryState
  | success => .success
  | retryPending => .retryPending
  | failed => .failed
  | cancelled => .cancelled
  | nack _ => .nack
  | reject _ => .reject

def Decision.requeue : Decision → Option Bool
  | nack requeue => some requeue
  | reject requeue => some requeue
  | _ => none

/-- `mark_success`. -/
def markSuccess (c : SettlementCoordinator) (tag : Nat) := c.setIntent tag .success none
/-- `mark_retry_pending`. -/
def markRetryPending (c : SettlementCoordinator) (tag : Nat) :=
  c.setIntent tag .retryPending none
/-- `mark_failed`. -/
def markFailed (c : SettlementCoordinator) (tag : Nat) := c.setIntent tag .failed none
/-- `mark_cancelled`. -/
def markCancelled (c : SettlementCoordinator) (tag : Nat) := c.setIntent tag .cancelled none
/-- `mark_nack`. -/
def markNack (c : SettlementCoordinator) (tag : Nat) (requeue : Bool := true) :=
  c.setIntent tag .nack (some requeue)
/-- `mark_reject`. -/
def markReject (c : SettlementCoordinator) (tag : Nat) (requeue : Bool := false) :=
  c.setIntent tag .reject (some requeue)

/-- The `mark_*` call that records a decision. -/
def mark (c : SettlementCoordinator) (tag : Nat) :
    Decision → Except CoordinatorError SettlementCoordinator
  | .success => c.markSuccess tag
  | .retryPending => c.markRetryPending tag
  | .failed => c.markFailed tag
  | .cancelled => c.markCancelled tag
  | .nack requeue => c.markNack tag requeue
  | .reject requeue => c.markReject tag requeue

theorem mark_eq_setIntent (c : SettlementCoordinator) (tag : Nat) (decision : Decision) :
    c.mark tag decision = c.setIntent tag decision.state decision.requeue := by
  cases decision <;> rfl

/-- `release`. -/
def release (c : SettlementCoordinator) (tag : Nat) : SettlementCoordinator :=
  { c with
    ledger := c.ledger.erase tag
    hold := c.hold.erase tag
    requeue := c.requeue.erase tag }

def individualAck (c : SettlementCoordinator) (tag : Nat) : SettlementCommand where
  kind := .ack
  deliveryTag := tag
  covers := [tag]
  generation := c.generation

def cumulativeAck (c : SettlementCoordinator) (safe : List Nat) : SettlementCommand where
  kind := .ack
  deliveryTag := safe.getLastD 0
  multiple := true
  covers := safe
  generation := c.generation

structure PlanState where
  commands : List SettlementCommand := []
  covered : List Nat := []
  run : List Nat := []
  blocked : Bool := false
  hold : OrderedDict Nat Nat

def safePart (c : SettlementCoordinator) (run : List Nat) : List Nat :=
  if c.gapFloor ≠ 0 then run.filter (· < c.gapFloor) else run

def runCommands (c : SettlementCoordinator) (forceIndividual : Bool) (run : List Nat) :
    List SettlementCommand :=
  let safe := c.safePart run
  if c.coalesce ∧ ¬ forceIndividual ∧ 2 ≤ safe.length then
    c.cumulativeAck safe :: (run.drop safe.length).map c.individualAck
  else run.map c.individualAck

/-- `flush_run` of `_plan_locked`. -/
def flushRun (c : SettlementCoordinator) (forceIndividual : Bool) (s : PlanState) :
    PlanState :=
  { s with
    commands := s.commands ++ c.runCommands forceIndividual s.run
    covered := s.covered ++ s.run
    run := [] }

def negativeCommand (c : SettlementCoordinator) (tag : Nat) (state : DeliveryState) :
    SettlementCommand where
  kind := if state = .nack then .nack else .reject
  deliveryTag := tag
  requeue := c.requeue.getD tag (state = .nack)
  covers := [tag]
  generation := c.generation

/-- One tag of the loop in `_plan_locked`. -/
def planStep (c : SettlementCoordinator) (forceIndividual : Bool) (s : PlanState)
    (tag : Nat) : PlanState :=
  if (c.reserved.get? tag).isSome then
    { c.flushRun forceIndividual s with blocked := true }
  else
    match c.ledger.get? tag with
    | some state =>
      if state.isAckSafe then
        if ¬ s.blocked then
          { s with run := s.run ++ [tag] }
        else if c.coalesce ∧ ¬ forceIndividual ∧ s.hold.getD tag 0 < c.maxHold then
          { s with hold := s.hold.set tag (s.hold.getD tag 0 + 1) }
        else
          { s with
            commands := s.commands ++ [c.individualAck tag]
            covered := s.covered ++ [tag] }
      else if state = .nack ∨ state = .reject then appendNegative state
      else { c.flushRun forceIndividual s with blocked := true }
    | none => { c.flushRun forceIndividual s with blocked := true }
where
  appendNegative (state : DeliveryState) : PlanState :=
    let flushed := c.flushRun forceIndividual s
    { flushed with
      commands := flushed.commands ++ [c.negativeCommand tag state]
      covered := flushed.covered ++ [tag] }

/-- The loop of `_plan_locked` over the sorted tags. -/
def planWalk (c : SettlementCoordinator) (forceIndividual : Bool) : PlanState :=
  c.flushRun forceIndividual
    (c.sortedTags.foldl (c.planStep forceIndividual) { hold := c.hold })

/-- `_plan_locked`, with the commands in the order of their tags. -/
def planCommands (c : SettlementCoordinator) (forceIndividual : Bool) :
    List SettlementCommand :=
  (c.planWalk forceIndividual).commands.insertionSort
    fun first second => first.deliveryTag ≤ second.deliveryTag

/-- `_settle_tags_locked`. -/
def settleTags (c : SettlementCoordinator) (tags : List Nat) : SettlementCoordinator :=
  { c with
    ledger := c.ledger.eraseAll tags
    hold := c.hold.eraseAll tags
    requeue := c.requeue.eraseAll tags
    reserved := c.reserved.eraseAll tags }

/-- `prepare`. -/
def prepare (c : SettlementCoordinator) (forceIndividual : Bool) :
    SettlementCoordinator × SettlementBatch :=
  if c.ledger.size = 0 then
    (c, { commands := [], generation := c.generation, batchId := 0 })
  else
    let walk := c.planWalk forceIndividual
    ({ c with
        hold := walk.hold
        nextBatchId := c.nextBatchId + 1
        reserved := c.reserved.setAll walk.covered c.nextBatchId },
      { commands := c.planCommands forceIndividual
        generation := c.generation
        batchId := c.nextBatchId })

/-- Shutdown equivalent of `prepare`: individual frames only. -/
def prepareDrain (c : SettlementCoordinator) : SettlementCoordinator × SettlementBatch :=
  c.prepare true

/-- `commit_command`. -/
def commitCommand (c : SettlementCoordinator) (batch : SettlementBatch)
    (command : SettlementCommand) : SettlementCoordinator :=
  if batch.generation ≠ c.generation then c
  else
    { c.settleTags command.covers with
      settledCount := c.settledCount + command.covers.length
      framesSent := c.framesSent + 1
      coalescedCount :=
        if command.multiple ∧ 1 < command.covers.length then
          c.coalescedCount + command.covers.length
        else c.coalescedCount }

/-- `invalidate`. -/
def invalidated (c : SettlementCoordinator) : SettlementCoordinator :=
  { c with
    prevHighWater := max c.prevHighWater c.lastRegistered
    ledger := .empty
    hold := .empty
    requeue := .empty
    reserved := .empty
    lastRegistered := 0
    gapFloor := 0
    generation := c.generation + 1
    invalidations := c.invalidations + 1
    droppedOnInvalidate := c.droppedOnInvalidate + c.ledger.size }

/-- `invalidate()`, which also reports the dropped tags. -/
def invalidate (c : SettlementCoordinator) : SettlementCoordinator × List Nat :=
  (c.invalidated, c.sortedTags)

/-- The first critical section of `fail_command`, with its `must_invalidate` flag. -/
def recordFailure (c : SettlementCoordinator) (batch : SettlementBatch)
    (command : SettlementCommand) : SettlementCoordinator × Bool :=
  if batch.generation ≠ c.generation then (c, false)
  else
    ({ c.settleTags command.covers with
        unresolvedCount := c.unresolvedCount + command.covers.length
        framesFailed := c.framesFailed + 1 },
      command.kind = .nack ∨ command.kind = .reject)

/-- Both critical sections of `fail_command` with no other thread between them. -/
def failCommand (c : SettlementCoordinator) (batch : SettlementBatch)
    (command : SettlementCommand) : SettlementCoordinator × Bool :=
  match c.recordFailure batch command with
  | (recorded, true) => (recorded.invalidate.1, true)
  | (recorded, false) => (recorded, false)

def unreserve (batchId : Nat) (reserved : OrderedDict Nat Nat) (tag : Nat) :
    OrderedDict Nat Nat :=
  if reserved.get? tag = some batchId then reserved.erase tag else reserved

/-- `release_commands`. -/
def releaseCommands (c : SettlementCoordinator) (batch : SettlementBatch)
    (commands : List SettlementCommand) : SettlementCoordinator :=
  if batch.generation ≠ c.generation then c
  else
    { c with
      reserved :=
        (commands.flatMap SettlementCommand.covers).foldl (unreserve batch.batchId) c.reserved
      framesNotAttempted := c.framesNotAttempted + commands.length }

/-- `plan`. -/
def plan (c : SettlementCoordinator) (forceIndividual : Bool) :
    SettlementCoordinator × List SettlementCommand :=
  if c.ledger.size = 0 then (c, [])
  else
    let walk := c.planWalk forceIndividual
    let commands := c.planCommands forceIndividual
    ({ ({ c with hold := walk.hold }).settleTags walk.covered with
        settledCount := c.settledCount + walk.covered.length
        framesSent := c.framesSent + commands.length
        coalescedCount := commands.foldl (fun count command =>
          if command.multiple && decide (1 < command.covers.length) then
            count + command.covers.length
          else count) c.coalescedCount },
      commands)

end SettlementCoordinator
end RabbitKit
