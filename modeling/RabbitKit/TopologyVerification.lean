import RabbitKit.DeclaredDefinitions

/-! # Verifying a topology

`verify_topology` reads the routes a second time: it collects what they rely on and
compares it with what the server reports, one finding per check.  Nothing in it looks at
what the broker declared, so a start and a verification of the same routes agree only as
far as both read the routes in the same way.
-/

namespace RabbitKit

open Server List

inductive PreflightStatus
  | verified
  | failed
  | unverified
  deriving DecidableEq

inductive TopologyEntity
  | exchange
  | queue
  | binding
  deriving DecidableEq

structure TopologyFinding where
  entity : TopologyEntity
  name : String
  check : String
  status : PreflightStatus
  deriving DecidableEq

def failedFindings (findings : List TopologyFinding) : List TopologyFinding :=
  findings.filter fun finding => finding.status == .failed

def PreflightStatus.ofBool (holds : Bool) : PreflightStatus := if holds then .verified else .failed

/-- Python's `==` on argument values: `True == 1`. -/
def ArgumentValue.pyEq : ArgumentValue → ArgumentValue → Bool
  | .flag isSet, .number n => n == if isSet then 1 else 0
  | .number n, .flag isSet => n == if isSet then 1 else 0
  | first, second => first == second

/-- `str` of an argument. -/
def ArgumentValue.str : ArgumentValue → String
  | .text value => value
  | .number value => toString value
  | .flag value => if value then "True" else "False"
  | .other _ => ""

def queueTypeText (arguments : ArgumentTable) : String :=
  match arguments.get? "x-queue-type" with
  | some value => value.str
  | none => "classic"

structure ExpectedTopology where
  exchanges : OrderedDict String RabbitExchange
  queues : OrderedDict String RabbitQueue
  bindings : List QueueBinding
  needsDeadLetter : List String
  auxiliary : OrderedDict String String

namespace Route

variable (route : Route)

def expectedExchange : Option RabbitExchange :=
  route.exchange.filter fun exchange => exchange.name != ""

/-- The names and types of the queues of a route's retries. -/
def expectedAuxiliary (arithmetic : FloatArithmetic) (brokerRetry : Option RetryConfig) :
    Except TopologyFault (List (String × String)) :=
  match route.effectiveRetryConfig brokerRetry with
  | none => .ok []
  | some config => do
      let queues ← config.getDelayQueueDefinitions arithmetic route.queue.name
        (some route.queue.queueType) none
      return queues.map fun queue => (queue.name, queueTypeText queue.declareArguments)

end Route

def expectedExchanges (routes : List Route) : OrderedDict String RabbitExchange :=
  OrderedDict.empty.assignAll ((routes.filterMap Route.expectedExchange).map fun exchange =>
    (exchange.name, exchange))

def expectedQueues (routes : List Route) : OrderedDict String RabbitQueue :=
  OrderedDict.empty.assignAll (routes.map fun route => (route.queue.name, route.queue))

def expectedBindings (routes : List Route) : List QueueBinding :=
  routes.flatMap fun route => route.expectedExchange.toList.map route.binding

def retriedQueues (brokerRetry : Option RetryConfig) (routes : List Route) : List String :=
  (routes.filter fun route => route.hasRetryEnabled brokerRetry).map fun route => route.queue.name

/-- `expected_topology`. -/
def expectedTopology (arithmetic : FloatArithmetic) (brokerRetry : Option RetryConfig)
    (routes : List Route) : Except TopologyFault ExpectedTopology := do
  let auxiliary ← routes.mapM fun route => route.expectedAuxiliary arithmetic brokerRetry
  return {
    exchanges := expectedExchanges routes
    queues := expectedQueues routes
    bindings := expectedBindings routes
    needsDeadLetter := retriedQueues brokerRetry routes
    auxiliary := OrderedDict.empty.assignAll auxiliary.flatten }

def skippedArguments : List String := ["x-queue-type", "x-quorum-initial-group-size"]

/-- One argument in `_check_queue`. -/
def checkArgument (queue : RabbitQueue) (record : QueueRecord) (entry : String × ArgumentValue) :
    TopologyFinding where
  entity := .queue
  name := queue.name
  check := "argument:" ++ entry.1
  status := .ofBool ((record.arguments.get? entry.1).any (ArgumentValue.pyEq · entry.2))

/-- `_check_queue`. -/
def checkQueue (queue : RabbitQueue) (record : QueueRecord) : List TopologyFinding :=
  [⟨.queue, queue.name, "type",
      .ofBool (queueTypeText record.arguments == queue.queueType.value)⟩,
   ⟨.queue, queue.name, "durable", .ofBool (record.durable == queue.durable)⟩] ++
    (queue.declareArguments.entries.filter fun entry => entry.1 ∉ skippedArguments).map
      (checkArgument queue record)

namespace Server

variable (server : Server)

def exchangeFindings (exchange : RabbitExchange) : List TopologyFinding :=
  match server.exchanges.get? exchange.name with
  | none => [⟨.exchange, exchange.name, "exists", .failed⟩]
  | some record =>
    [⟨.exchange, exchange.name, "type", .ofBool (record.type == exchange.type)⟩,
     ⟨.exchange, exchange.name, "durable", .ofBool (record.durable == exchange.durable)⟩]

def queueFindings (queue : RabbitQueue) : List TopologyFinding :=
  match server.queues.get? queue.name with
  | none => [⟨.queue, queue.name, "exists", .failed⟩]
  | some record => checkQueue queue record

def deadLetterFindings (name : String) : List TopologyFinding :=
  match server.queues.get? name with
  | none => []
  | some record =>
    [⟨.queue, name, "dead-letter-path",
      .ofBool (record.arguments.get? "x-dead-letter-exchange").isSome⟩]

def auxiliaryFindings (expected : String × String) : List TopologyFinding :=
  match server.queues.get? expected.1 with
  | none => [⟨.queue, expected.1, "exists", .failed⟩]
  | some record =>
    [⟨.queue, expected.1, "type", .ofBool (queueTypeText record.arguments == expected.2)⟩]

/-- The bindings of a queue that does not exist cannot be read. -/
def bindingFindings (binding : QueueBinding) : List TopologyFinding :=
  match server.queues.get? binding.queue with
  | none => [⟨.binding, binding.exchange ++ "->" ++ binding.queue,
      "routing_key=" ++ binding.routingKey, .unverified⟩]
  | some _ => [⟨.binding, binding.exchange ++ "->" ++ binding.queue,
      "routing_key=" ++ binding.routingKey,
      .ofBool (server.queueBindings.any fun existing => existing.queue == binding.queue &&
        existing.exchange == binding.exchange && existing.routingKey == binding.routingKey)⟩]

/-- `verify_topology`, with the answers of the server. -/
def findings (expected : ExpectedTopology) : List TopologyFinding :=
  (expected.exchanges.entries.map Prod.snd).flatMap server.exchangeFindings ++
    ((expected.queues.entries.map Prod.snd).flatMap server.queueFindings ++
    (expected.needsDeadLetter.flatMap server.deadLetterFindings ++
    (expected.auxiliary.entries.flatMap server.auxiliaryFindings ++
    expected.bindings.flatMap server.bindingFindings)))

end Server

def unverifiedFindings (expected : ExpectedTopology) : List TopologyFinding :=
  (expected.exchanges.entries.map fun entry =>
      ⟨.exchange, entry.2.name, "type,durable", .unverified⟩) ++
    ((expected.queues.entries.map fun entry =>
      ⟨.queue, entry.2.name, "type,durable,arguments", .unverified⟩) ++
    ((expected.bindings.map fun binding =>
      ⟨.binding, binding.exchange ++ "->" ++ binding.queue,
        "routing_key=" ++ binding.routingKey, .unverified⟩) ++
    (expected.needsDeadLetter.map fun name =>
      ⟨.queue, name, "dead-letter-path", .unverified⟩)))

/-- `verify_topology`, with a management client of a server or without one. -/
def verifyTopology (arithmetic : FloatArithmetic) (brokerRetry : Option RetryConfig)
    (routes : List Route) (management : Option Server) :
    Except TopologyFault (List TopologyFinding) := do
  let expected ← expectedTopology arithmetic brokerRetry routes
  return match management with
  | none => unverifiedFindings expected
  | some server => server.findings expected

namespace Route

variable (route : Route)

def hasRetryMiddleware : Bool :=
  route.middlewares.any fun middleware => middleware matches .retry _

/-- `retry_middleware_insertion_index`. -/
def retryInsertionIndex : Nat :=
  (route.middlewares.takeWhile fun middleware => middleware matches .exceptions).length

/-- One route of `_wire_retry_middleware`.  A middleware of the user's own only gets the
broker's publish function. -/
def wireRetryMiddleware (brokerRetry : Option RetryConfig) : Except TopologyFault Route :=
  match route.effectiveRetryConfig brokerRetry with
  | none => .ok route
  | some config =>
    if route.middlewares.any fun middleware => middleware matches .signing then
      .error (.routeInvalid route.queue.name .signingWithRetry)
    else if route.hasRetryMiddleware then .ok route
    else .ok { route with
      middlewares := route.middlewares.insertIdx route.retryInsertionIndex (.retry config) }

end Route

/-- The record has the type, durability and arguments of a definition. -/
structure RabbitQueue.AgreesWith (queue : RabbitQueue) (record : QueueRecord) : Prop where
  type : queueTypeText record.arguments = queue.queueType.value
  durable : record.durable = queue.durable
  arguments : ∀ key value, queue.declareArguments.get? key = some value →
    key ∉ skippedArguments →
    ∃ actual, record.arguments.get? key = some actual ∧ actual.pyEq value = true

/-- A queue without options agrees with every record of its type and durability. -/
theorem RabbitQueue.AgreesWith.of_skipped {queue : RabbitQueue} {record : QueueRecord}
    (type : queueTypeText record.arguments = queue.queueType.value)
    (durable : record.durable = queue.durable)
    (skipped : ∀ entry ∈ queue.declareArguments.entries, entry.1 ∈ skippedArguments) :
    queue.AgreesWith record where
  type := type
  durable := durable
  arguments key value declared checked :=
    absurd (skipped (key, value) (OrderedDict.mem_entries_of_get? declared)) checked

theorem failedFindings_append (first second : List TopologyFinding) :
    failedFindings (first ++ second) = [] ↔
      failedFindings first = [] ∧ failedFindings second = [] := by
  simp only [failedFindings, filter_append, append_eq_nil_iff]

theorem failedFindings_flatMap {α : Type} (items : List α) (check : α → List TopologyFinding) :
    failedFindings (items.flatMap check) = [] ↔
      ∀ item ∈ items, failedFindings (check item) = [] := by
  induction items with
  | nil => simp [failedFindings]
  | cons item items ih =>
    rw [flatMap_cons, failedFindings_append, ih, forall_mem_cons]

@[simp]
theorem failedFindings_cons_ofBool (entity : TopologyEntity) (name check : String) (holds : Bool)
    (rest : List TopologyFinding) :
    failedFindings (⟨entity, name, check, .ofBool holds⟩ :: rest) = [] ↔
      holds = true ∧ failedFindings rest = [] := by
  cases holds <;> simp [failedFindings, PreflightStatus.ofBool]

@[simp]
theorem failedFindings_failed (entity : TopologyEntity) (name check : String) :
    failedFindings [⟨entity, name, check, .failed⟩] ≠ [] := by
  simp [failedFindings]

@[simp]
theorem failedFindings_nil : failedFindings [] = [] := rfl

theorem checkQueue_clean_iff (queue : RabbitQueue) (record : QueueRecord) :
    failedFindings (checkQueue queue record) = [] ↔ queue.AgreesWith record := by
  have argumentsClean : failedFindings ((queue.declareArguments.entries.filter fun entry =>
        entry.1 ∉ skippedArguments).map (checkArgument queue record)) = [] ↔
      ∀ key value, queue.declareArguments.get? key = some value → key ∉ skippedArguments →
        ∃ actual, record.arguments.get? key = some actual ∧ actual.pyEq value = true := by
    rw [map_eq_flatMap, failedFindings_flatMap]
    constructor
    · intro clean key value declared checked
      have listed : (key, value) ∈ queue.declareArguments.entries.filter fun entry =>
          entry.1 ∉ skippedArguments :=
        mem_filter.mpr ⟨OrderedDict.mem_entries_of_get? declared, by simpa using checked⟩
      have holds := ((failedFindings_cons_ofBool _ _ _ _ _).mp (clean _ listed)).1
      simpa [Option.any_eq_true] using holds
    · intro holds entry listed
      obtain ⟨declared, checked⟩ := mem_filter.mp listed
      obtain ⟨actual, found, same⟩ := holds entry.1 entry.2
        (OrderedDict.get?_of_mem_entries declared) (by simpa using checked)
      refine (failedFindings_cons_ofBool _ _ _ _ _).mpr ⟨?_, rfl⟩
      rw [found]
      exact same
  unfold checkQueue
  rw [failedFindings_append, argumentsClean, failedFindings_cons_ofBool,
    failedFindings_cons_ofBool, beq_iff_eq, beq_iff_eq]
  constructor
  · rintro ⟨⟨type, durable, _⟩, arguments⟩
    exact ⟨type, durable, arguments⟩
  · rintro ⟨type, durable, arguments⟩
    exact ⟨⟨type, durable, rfl⟩, arguments⟩

/-- A server that has everything the routes rely on. -/
structure Server.Provides (server : Server) (expected : ExpectedTopology) : Prop where
  exchanges : ∀ entry ∈ expected.exchanges.entries,
    ∃ record, server.exchanges.get? entry.2.name = some record ∧
      record.type = entry.2.type ∧ record.durable = entry.2.durable
  queues : ∀ entry ∈ expected.queues.entries,
    ∃ record, server.queues.get? entry.2.name = some record ∧ entry.2.AgreesWith record
  deadLetter : ∀ name ∈ expected.needsDeadLetter, ∀ record, server.queues.get? name = some record →
    ∃ exchange, record.arguments.get? "x-dead-letter-exchange" = some exchange
  auxiliary : ∀ entry ∈ expected.auxiliary.entries,
    ∃ record, server.queues.get? entry.1 = some record ∧
      queueTypeText record.arguments = entry.2
  bindings : ∀ binding ∈ expected.bindings, ∀ record,
    server.queues.get? binding.queue = some record →
    ∃ existing ∈ server.queueBindings, existing.queue = binding.queue ∧
      existing.exchange = binding.exchange ∧ existing.routingKey = binding.routingKey

section

variable (server : Server)

theorem exchangeFindings_clean_iff (exchange : RabbitExchange) :
    failedFindings (server.exchangeFindings exchange) = [] ↔
      ∃ record, server.exchanges.get? exchange.name = some record ∧
        record.type = exchange.type ∧ record.durable = exchange.durable := by
  unfold exchangeFindings
  cases server.exchanges.get? exchange.name <;> simp

theorem queueFindings_clean_iff (queue : RabbitQueue) :
    failedFindings (server.queueFindings queue) = [] ↔
      ∃ record, server.queues.get? queue.name = some record ∧ queue.AgreesWith record := by
  unfold queueFindings
  cases server.queues.get? queue.name with
  | none => simp
  | some record => simp [checkQueue_clean_iff]

theorem deadLetterFindings_clean_iff (name : String) :
    failedFindings (server.deadLetterFindings name) = [] ↔
      ∀ record, server.queues.get? name = some record →
        ∃ exchange, record.arguments.get? "x-dead-letter-exchange" = some exchange := by
  unfold deadLetterFindings
  cases server.queues.get? name <;> simp [Option.isSome_iff_exists]

theorem auxiliaryFindings_clean_iff (expected : String × String) :
    failedFindings (server.auxiliaryFindings expected) = [] ↔
      ∃ record, server.queues.get? expected.1 = some record ∧
        queueTypeText record.arguments = expected.2 := by
  unfold auxiliaryFindings
  cases server.queues.get? expected.1 <;> simp

theorem bindingFindings_clean_iff (binding : QueueBinding) :
    failedFindings (server.bindingFindings binding) = [] ↔
      ∀ record, server.queues.get? binding.queue = some record →
        ∃ existing ∈ server.queueBindings, existing.queue = binding.queue ∧
          existing.exchange = binding.exchange ∧ existing.routingKey = binding.routingKey := by
  unfold bindingFindings
  cases server.queues.get? binding.queue with
  | none => simp [failedFindings]
  | some record => simp [and_assoc]

theorem findings_clean_iff (expected : ExpectedTopology) :
    failedFindings (server.findings expected) = [] ↔ server.Provides expected := by
  unfold findings
  simp only [failedFindings_append, failedFindings_flatMap, exchangeFindings_clean_iff,
    queueFindings_clean_iff, deadLetterFindings_clean_iff, auxiliaryFindings_clean_iff,
    bindingFindings_clean_iff, List.forall_mem_map]
  constructor
  · rintro ⟨exchanges, queues, deadLetter, auxiliary, bindings⟩
    exact ⟨exchanges, queues, deadLetter, auxiliary, bindings⟩
  · rintro ⟨exchanges, queues, deadLetter, auxiliary, bindings⟩
    exact ⟨exchanges, queues, deadLetter, auxiliary, bindings⟩

end

theorem Route.hasRetryMiddleware_of_wired {route wired : Route} {brokerRetry : Option RetryConfig}
    (success : route.wireRetryMiddleware brokerRetry = .ok wired)
    (unwired : route.hasRetryMiddleware = false) : wired.hasRetryMiddleware = true ↔
      ∃ config, route.effectiveRetryConfig brokerRetry = some config := by
  unfold wireRetryMiddleware at success
  cases effective : route.effectiveRetryConfig brokerRetry with
  | none =>
    simp only [effective] at success
    cases success
    simp [unwired]
  | some config =>
    simp only [effective, unwired] at success
    split at success
    · cases success
    · cases success
      have inserted : RouteMiddleware.retry config ∈
          route.middlewares.insertIdx route.retryInsertionIndex (.retry config) :=
        List.mem_insertIdx ( List.takeWhile_prefix _).length_le |>.mpr (.inl rfl)
      simp only [hasRetryMiddleware, List.any_eq_true, Option.some.injEq, exists_eq', iff_true]
      exact ⟨_, inserted, rfl⟩

end RabbitKit
