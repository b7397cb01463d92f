import RabbitKit.DeclarationTables
import RabbitKit.RetryTopology

/-! # Declaring the topology of a broker's routes

At start a broker walks over its routes and declares for each the exchange, the queue with its
dead-letter arguments, the binding and the queues of its retries or of its safety net. The
synchronous and the asynchronous broker run the same steps; their transports differ in what they do
when the server refuses a definition.
-/

namespace RabbitKit

structure QueueRecord where
  durable : Bool
  exclusive : Bool
  autoDelete : Bool
  arguments : ArgumentTable

structure ExchangeRecord where
  type : ExchangeType
  durable : Bool
  autoDelete : Bool
  internal : Bool
  arguments : ArgumentTable

structure QueueBinding where
  queue : String
  exchange : String
  routingKey : String
  arguments : ArgumentTable

structure ExchangeBinding where
  destination : String
  source : String
  routingKey : String
  arguments : ArgumentTable

/-- The entities of one virtual host, except those every server starts with. -/
structure Server where
  exchanges : OrderedDict String ExchangeRecord := .empty
  queues : OrderedDict String QueueRecord := .empty
  queueBindings : List QueueBinding := []
  exchangeBindings : List ExchangeBinding := []

def sameArguments (first second : ArgumentTable) : Bool :=
  (first.keys ++ second.keys).all fun key => first.get? key == second.get? key

/-- Stricter than RabbitMQ, which compares only the arguments it knows, and numbers of any type by
their value. -/
def QueueRecord.equivalent (existing declared : QueueRecord) : Bool :=
  existing.durable == declared.durable && existing.exclusive == declared.exclusive &&
    existing.autoDelete == declared.autoDelete &&
    sameArguments existing.arguments declared.arguments

def ExchangeRecord.equivalent (existing declared : ExchangeRecord) : Bool :=
  existing.type == declared.type && existing.durable == declared.durable &&
    existing.autoDelete == declared.autoDelete && existing.internal == declared.internal &&
    sameArguments existing.arguments declared.arguments

/-- `RabbitQueue.to_declare_kwargs`. -/
def QueueSpec.record (spec : QueueSpec) : QueueRecord where
  durable := spec.durable
  exclusive := spec.exclusive
  autoDelete := spec.autoDelete
  arguments := spec.declareArguments

/-- `RabbitExchange.to_declare_kwargs`. -/
def ExchangeSpec.record (spec : ExchangeSpec) : ExchangeRecord where
  type := spec.type
  durable := spec.durable
  autoDelete := spec.autoDelete
  internal := spec.internal
  arguments := spec.arguments

inductive TopologyMode
  | autoDeclare
  | passiveOnly
  | manual
  deriving DecidableEq

inductive TopoAction
  | skip
  | passive
  | declare
  deriving DecidableEq

/-- `TopologyDispatcher.queue_action` and `exchange_action`. -/
def TopologyMode.entityAction : TopologyMode → Bool → TopoAction
  | .manual, _ => .skip
  | .passiveOnly, _ => .passive
  | .autoDeclare, passive => if passive then .passive else .declare

/-- `TopologyDispatcher.binding_action`. -/
def TopologyMode.bindingAction : TopologyMode → TopoAction
  | .autoDeclare => .declare
  | _ => .skip

inductive RejectWithoutDlxPolicy
  | autoProvision
  | error
  | discard
  deriving DecidableEq

inductive TopologyConflictPolicy
  | raise
  | warnContinue
  deriving DecidableEq

structure SafetyConfig where
  rejectWithoutDlx : RejectWithoutDlxPolicy := .autoProvision
  dlqSuffix : String := ".dlq"
  onTopologyConflict : TopologyConflictPolicy := .raise
  suffix_nonempty : dlqSuffix ≠ "" := by decide

inductive BrokerKind
  | sync
  | async
  deriving DecidableEq

structure BrokerSetup where
  kind : BrokerKind
  mode : TopologyMode := .autoDeclare
  retry : Option RetryConfig := none
  safety : SafetyConfig := {}
  brokerMajor : Option Nat := none
  arithmetic : FloatArithmetic

inductive RetryOverride
  | inherited
  | disabled
  | config (config : RetryConfig)

inductive RouteMiddleware
  | exceptions
  | metrics
  | signing
  | retry (config : RetryConfig)
  | other

structure Route where
  queue : RabbitQueue
  exchange : Option RabbitExchange := none
  ackPolicy : AckPolicy := .auto
  retryOverride : RetryOverride := .inherited
  hasFilter : Bool := false
  rejectWithoutDlx : Option RejectWithoutDlxPolicy := none
  middlewares : List RouteMiddleware := []

namespace Route

variable (route : Route)

/-- `effective_retry_config`. -/
def effectiveRetryConfig (brokerRetry : Option RetryConfig) : Option RetryConfig :=
  match route.retryOverride with
  | .disabled => none
  | .config config => some config
  | .inherited => brokerRetry

/-- `has_retry_enabled`. -/
def hasRetryEnabled (brokerRetry : Option RetryConfig) : Bool :=
  (route.effectiveRetryConfig brokerRetry).isSome

/-- `validate_headers_binding`: a headers binding says what it matches. -/
def headersUnmatched : Bool :=
  match route.exchange with
  | none => false
  | some exchange =>
    exchange.type == .headers &&
      (route.queue.bindArguments.entries.isEmpty ||
        !(["all", "any", "all-with-x", "any-with-x"].any fun wanted =>
          route.queue.bindArguments.getD "x-match" (.text "all") == .text wanted))

def checks (brokerRetry : Option RetryConfig) : List (Bool × RouteProblem) :=
  let retried := route.hasRetryEnabled brokerRetry
  [(route.queue.isStream && route.ackPolicy == .ackFirst, .streamAckFirst),
   (route.queue.isStream && retried, .streamRetry),
   (retried && route.ackPolicy == .manual, .retryManualAck),
   (retried && route.ackPolicy == .ackFirst, .retryAckFirst),
   (retried && route.queue.deadLetterExchange.isSome, .retryDeadLetterExchange),
   (retried && route.queue.deadLetterRoutingKey.isSome, .retryDeadLetterRoutingKey),
   (route.headersUnmatched, .headersWithoutArguments)]

/-- `validate`. -/
def validate (brokerRetry : Option RetryConfig) : Except TopologyFault Unit :=
  firstFault ((route.checks brokerRetry).map fun check =>
    (check.1, .routeInvalid route.queue.name check.2))

/-- `can_reject_without_dlx`. -/
def canRejectWithoutDlx (brokerRetry : Option RetryConfig) : Bool :=
  if route.queue.isStream then false
  else if (route.effectiveRetryConfig brokerRetry).isSome then false
  else if route.queue.deadLetterExchange.isSome then false
  else !(route.ackPolicy == .ackFirst && !route.hasFilter)

/-- `resolve_safety_dlq`. -/
def resolveSafetyDlq (safety : SafetyConfig) (brokerRetry : Option RetryConfig) :
    Except TopologyFault (Option String) :=
  if route.canRejectWithoutDlx brokerRetry then
    match route.rejectWithoutDlx.getD safety.rejectWithoutDlx with
    | .autoProvision => .ok (some (route.queue.name ++ safety.dlqSuffix))
    | .error => .error (.unsafeTopology route.queue.name)
    | .discard => .ok none
  else .ok none

end Route

/-- The routes of a broker: each passed its checks, and no two consume one queue. -/
structure Registry (brokerRetry : Option RetryConfig) where
  routes : List Route
  valid : ∀ route ∈ routes, route.validate brokerRetry = .ok ()
  distinct : (routes.map fun route => route.queue.name).Nodup

/-- A route segment such as `{name}`. -/
def isNamedSegment (segment : List Char) : Bool :=
  2 < segment.length && segment.head? == some '\x7b' && segment.getLast? == some '\x7d'

/-- `to_binding_key`. -/
def toBindingKey (routingKey : String) : String :=
  if '\x7b' ∈ routingKey.toList then
    String.ofList (List.intercalate ['.'] ((routingKey.toList.splitOn '.').map fun segment =>
      if isNamedSegment segment then ['*'] else segment))
  else routingKey

namespace BrokerSetup

variable (setup : BrokerSetup)

/-- A refused queue is left as it is under `warn_continue`.  The synchronous transport
makes an exception of declarations with a dead-letter exchange. -/
def continuesOver (declared : QueueRecord) : Bool :=
  setup.safety.onTopologyConflict == .warnContinue &&
    !(setup.kind == .sync && (declared.arguments.get? "x-dead-letter-exchange").isSome)

def acceptsQueue (existing declared : QueueRecord) : Bool :=
  existing.equivalent declared || setup.continuesOver declared

def acceptsExchange (existing declared : ExchangeRecord) : Bool :=
  existing.equivalent declared || setup.safety.onTopologyConflict == .warnContinue

/-- `declare_queue` of both transports. -/
def declareQueue (server : Server) (queue : RabbitQueue) : Except TopologyFault Server :=
  match setup.mode.entityAction queue.passive with
  | .skip => .ok server
  | .passive =>
    if (server.queues.get? queue.name).isSome then .ok server else .error (.notFound queue.name)
  | .declare =>
    match server.queues.get? queue.name with
    | none => .ok { server with queues := server.queues.set queue.name queue.record }
    | some existing =>
      if setup.acceptsQueue existing queue.record then .ok server
      else .error (.preconditionFailed queue.name)

/-- `declare_exchange`.  Nobody may declare the default exchange. -/
def declareExchange (server : Server) (exchange : RabbitExchange) : Except TopologyFault Server :=
  match setup.mode.entityAction exchange.passive with
  | .skip => .ok server
  | .passive =>
    if exchange.name = "" then .error (.accessRefused exchange.name)
    else if (server.exchanges.get? exchange.name).isSome then .ok server
    else .error (.notFound exchange.name)
  | .declare =>
    if exchange.name = "" then .error (.accessRefused exchange.name)
    else
      match server.exchanges.get? exchange.name with
      | none => .ok { server with
          exchanges := server.exchanges.set exchange.name exchange.record }
      | some existing =>
        if setup.acceptsExchange existing exchange.record then .ok server
        else .error (.preconditionFailed exchange.name)

/-- `bind_exchange`, with the binding of `to_bind_kwargs`. -/
def bindExchange (server : Server) (exchange : RabbitExchange) : Except TopologyFault Server :=
  match exchange.bindTo, setup.mode.bindingAction with
  | some source, .declare =>
    if source = "" then .error (.accessRefused source)
    else if (server.exchanges.get? source).isSome then
      .ok { server with exchangeBindings := server.exchangeBindings ++
        [⟨exchange.name, source, exchange.routingKey, exchange.bindArguments⟩] }
    else .error (.notFound source)
  | _, _ => .ok server

/-- `bind_queue` of both transports. -/
def bindQueue (server : Server) (binding : QueueBinding) : Server :=
  match setup.mode.bindingAction with
  | .declare => { server with queueBindings := server.queueBindings ++ [binding] }
  | _ => server

/-- `_declare_dlq` of both brokers. -/
def declareDlq (server : Server) (dlq : RabbitQueue) : Except TopologyFault Server :=
  if dlq.isQuorum && setup.mode == .autoDeclare && (server.queues.get? dlq.name).isSome then
    .ok server
  else setup.declareQueue server dlq

end BrokerSetup

/-- Where the terminal rejects of a route go. -/
inductive DeadLetterPlan
  | retry (config : RetryConfig)
  | safety (dlq : String)
  | untouched

namespace Route

variable (route : Route) (routes : List Route) (setup : BrokerSetup)

/-- The queue has the name of another route's dead-letter queue.  No queue has the name
of its own. -/
def isAnothersDlq : Bool := routes.any fun other => route.queue.name == dlqName other.queue.name

/-- `retry_config` after the exception for consumers of dead-letter queues. -/
def declaredRetry : Option RetryConfig :=
  match route.isAnothersDlq routes, route.retryOverride with
  | true, .inherited => none
  | _, _ => route.effectiveRetryConfig setup.retry

/-- The safety net of a route, as `_declare_topology` asks for it. -/
def safetyDlq : Except TopologyFault (Option String) :=
  match setup.mode with
  | .autoDeclare => route.resolveSafetyDlq setup.safety setup.retry
  | _ => .ok none

def planFor (safetyDlq : Option String) : DeadLetterPlan :=
  match route.declaredRetry routes setup with
  | some config => .retry config
  | none =>
    match safetyDlq with
    | some dlq => if route.isAnothersDlq routes then .untouched else .safety dlq
    | none => .untouched

/-- What `_declare_topology` adds to the queue of a route. -/
def deadLetterPlan : Except TopologyFault DeadLetterPlan := do
  let safetyDlq ← route.safetyDlq setup
  return route.planFor routes setup safetyDlq

/-- The queue of a route with a dead-letter path. -/
def withDeadLetter (dlq : String) : QueueSpec :=
  { route.queue.toQueueSpec with deadLetterExchange := some "", deadLetterRoutingKey := some dlq }

/-- A consumed quorum dead-letter queue gets the delivery limit its owner gives it. -/
def asQuorumDlq : QueueSpec :=
  { route.queue.toQueueSpec with
    deliveryLimit := route.queue.deliveryLimit.or (dlqDeliveryLimit setup.brokerMajor) }

/-- The queue is declared as the dead-letter queue of another route. -/
def consumesQuorumDlq : Bool := route.isAnothersDlq routes && route.queue.isQuorum

def declareSource (server : Server) : DeadLetterPlan → Except TopologyFault Server
  | .retry _ => do
      let queue ← (route.withDeadLetter (dlqName route.queue.name)).construct
      setup.declareQueue server queue
  | .safety dlq => do
      let queue ← (route.withDeadLetter dlq).construct
      setup.declareQueue server queue
  | .untouched =>
    if route.consumesQuorumDlq routes then do
      let queue ← (route.asQuorumDlq setup).construct
      setup.declareDlq server queue
    else setup.declareQueue server route.queue

def binding (exchange : RabbitExchange) : QueueBinding where
  queue := route.queue.name
  exchange := exchange.name
  routingKey := toBindingKey route.queue.routingKey
  arguments := route.queue.bindArguments

def declareExchanges (server : Server) : Except TopologyFault Server :=
  match route.exchange with
  | none => .ok server
  | some exchange => do
      let server ← setup.declareExchange server exchange
      setup.bindExchange server exchange

def bindSource (server : Server) : Server :=
  match route.exchange with
  | none => server
  | some exchange => setup.bindQueue server (route.binding exchange)

/-- The delay queues, and the dead-letter queue with its own rule. -/
def declareRetryQueue (server : Server) (queue : RabbitQueue) : Except TopologyFault Server :=
  if queue.name = dlqName route.queue.name then setup.declareDlq server queue
  else setup.declareQueue server queue

/-- The delay queues and the dead-letter queue. -/
def declareAuxiliary (server : Server) : DeadLetterPlan → Except TopologyFault Server
  | .retry config => do
      let queues ← config.getDelayQueueDefinitions setup.arithmetic route.queue.name
        (some route.queue.queueType) setup.brokerMajor
      queues.foldlM (route.declareRetryQueue setup) server
  | .safety dlq => do
      let queue ← dlqQueueDefinition dlq route.queue.isQuorum setup.brokerMajor none
      setup.declareDlq server queue
  | .untouched => .ok server

/-- One route of `_declare_topology`. -/
def declare (server : Server) : Except TopologyFault Server := do
  let exchanged ← route.declareExchanges setup server
  let plan ← route.deadLetterPlan routes setup
  let declared ← route.declareSource routes setup exchanged plan
  route.declareAuxiliary setup (route.bindSource setup declared) plan

end Route

/-- `_declare_topology` of both brokers. -/
def BrokerSetup.declareTopology (setup : BrokerSetup) (routes : List Route) (server : Server) :
    Except TopologyFault Server :=
  routes.foldlM (fun server route => route.declare routes setup server) server

end RabbitKit
