import RabbitKit.RetryCopies

/-! # Queue and exchange definitions

`RabbitQueue` and `RabbitExchange` describe what the library wants to exist on the broker.
Constructing one, also by `dataclasses.replace`, runs its checks, so the structures carry the fact
that the checks passed.

The argument table of a declaration is assembled from the typed options, and the raw `arguments` of
the user are written over it last.
-/

namespace RabbitKit

/-- A value of an argument table.  Python values that are no text, integer or boolean
are told apart by a number. -/
inductive ArgumentValue
  | text (value : String)
  | number (value : Int)
  | flag (value : Bool)
  | other (identity : Nat)
  deriving DecidableEq

abbrev ArgumentTable := OrderedDict String ArgumentValue

inductive ExchangeType
  | direct
  | fanout
  | topic
  | headers
  deriving DecidableEq

def QueueType.value : QueueType → String
  | .classic => "classic"
  | .quorum => "quorum"
  | .stream => "stream"

def DeadLetterStrategy.value : DeadLetterStrategy → String
  | .atMostOnce => "at-most-once"
  | .atLeastOnce => "at-least-once"

inductive QueueProblem
  | nameRequired
  | quorumNotDurable
  | quorumExclusive
  | quorumLazy
  | quorumPriorities
  | streamNotDurable
  | streamExclusive
  | streamLazy
  | streamPriorities
  | streamMessageTtl
  | streamConsumerTimeout
  | streamOption (option : String)
  | streamOnly (option : String)
  | maxAgeFormat (value : String)
  | notPositiveBytes (option : String)
  | consumerTimeoutNotPositive
  | classicDeliveryLimit
  | quorumOnly (option : String)
  | groupSizeNotPositive
  | overflowNotRejectPublish
  deriving DecidableEq

inductive ExchangeProblem
  | nameRequired
  | internalAutoDelete
  deriving DecidableEq

inductive RouteProblem
  | streamAckFirst
  | streamRetry
  | retryManualAck
  | retryAckFirst
  | retryDeadLetterExchange
  | retryDeadLetterRoutingKey
  | headersWithoutArguments
  | signingWithRetry
  deriving DecidableEq

/-- What ends the definition, declaration or wiring of a topology. -/
inductive TopologyFault
  | queueInvalid (name : String) (problem : QueueProblem)
  | exchangeInvalid (name : String) (problem : ExchangeProblem)
  | routeInvalid (queue : String) (problem : RouteProblem)
  | shortstrTooLong (field : String)
  | indexError
  | overflowError
  | unsafeTopology (queue : String)
  | preconditionFailed (name : String)
  | notFound (name : String)
  | accessRefused (name : String)
  deriving DecidableEq

/-- `validate_amqp_shortstr`. -/
def exceedsShortstr (text : String) : Bool := 255 < text.utf8ByteSize

def firstFault (checks : List (Bool × TopologyFault)) : Except TopologyFault Unit :=
  match checks.find? Prod.fst with
  | some (_, fault) => .error fault
  | none => .ok ()

/-- The fields of `RabbitQueue`. -/
structure QueueSpec where
  name : String
  durable : Bool := true
  exclusive : Bool := false
  passive : Bool := false
  autoDelete : Bool := false
  routingKey : String := ""
  bindArguments : ArgumentTable := .empty
  queueType : QueueType := .classic
  deadLetterExchange : Option String := none
  deadLetterRoutingKey : Option String := none
  messageTtl : Option Int := none
  maxLength : Option Int := none
  maxLengthBytes : Option Int := none
  consumerTimeout : Option Int := none
  isLazy : Bool := false
  maxPriority : Option Int := none
  deliveryLimit : Option Int := none
  singleActiveConsumer : Bool := false
  quorumInitialGroupSize : Option Int := none
  deadLetterStrategy : Option DeadLetterStrategy := none
  overflow : Option String := none
  expires : Option Int := none
  arguments : ArgumentTable := .empty
  maxAge : Option String := none
  streamMaxSegmentSizeBytes : Option Int := none

namespace QueueSpec

variable (spec : QueueSpec)

/-- `[1-9][0-9]*[YMDhms]`. -/
def isMaxAge (text : String) : Bool :=
  match text.toList with
  | [] => false
  | first :: rest =>
    first.isDigit && first != '0' &&
      match rest.reverse with
      | [] => false
      | unit :: digits => "YMDhms".toList.contains unit && digits.all Char.isDigit

/-- `arguments.get("x-overflow", overflow)`. -/
def overflowSetting : Option ArgumentValue :=
  (spec.arguments.get? "x-overflow").or (spec.overflow.map .text)

def quorumChecks : List (Bool × QueueProblem) :=
  [(!spec.durable, .quorumNotDurable),
   (spec.exclusive, .quorumExclusive),
   (spec.isLazy, .quorumLazy),
   (spec.maxPriority.isSome, .quorumPriorities)]

def streamChecks : List (Bool × QueueProblem) :=
  [(!spec.durable, .streamNotDurable),
   (spec.exclusive, .streamExclusive),
   (spec.isLazy, .streamLazy),
   (spec.maxPriority.isSome, .streamPriorities),
   (spec.messageTtl.isSome, .streamMessageTtl),
   (spec.consumerTimeout.isSome, .streamConsumerTimeout),
   (spec.deadLetterExchange.isSome, .streamOption "dead_letter_exchange"),
   (spec.deadLetterRoutingKey.isSome, .streamOption "dead_letter_routing_key"),
   (spec.maxLength.isSome, .streamOption "max_length"),
   (spec.overflow.isSome, .streamOption "overflow"),
   (spec.expires.isSome, .streamOption "expires"),
   (spec.deliveryLimit.isSome, .streamOption "delivery_limit"),
   (spec.singleActiveConsumer, .streamOption "single_active_consumer")]

def notStreamChecks : List (Bool × QueueProblem) :=
  [(spec.maxAge.isSome, .streamOnly "max_age"),
   (spec.streamMaxSegmentSizeBytes.isSome, .streamOnly "stream_max_segment_size_bytes")]

def isStream : Bool := spec.queueType == .stream

def isQuorum : Bool := spec.queueType == .quorum

/-- The checks of `validate` after those of the queue's type. -/
def optionChecks : List (Bool × QueueProblem) :=
  [(spec.maxAge.any (!isMaxAge ·), .maxAgeFormat (spec.maxAge.getD "")),
   (spec.isStream && spec.maxLengthBytes.any (· < 1), .notPositiveBytes "max_length_bytes"),
   (spec.isStream && spec.streamMaxSegmentSizeBytes.any (· < 1),
     .notPositiveBytes "stream_max_segment_size_bytes"),
   (spec.consumerTimeout.any (· ≤ 0), .consumerTimeoutNotPositive),
   (spec.queueType == .classic && spec.deliveryLimit.isSome, .classicDeliveryLimit),
   (!spec.isQuorum && spec.quorumInitialGroupSize.isSome, .quorumOnly "quorum_initial_group_size"),
   (!spec.isQuorum && spec.deadLetterStrategy.isSome, .quorumOnly "dead_letter_strategy"),
   (spec.quorumInitialGroupSize.any (· < 1), .groupSizeNotPositive),
   (spec.deadLetterStrategy == some .atLeastOnce &&
     spec.overflowSetting != some (.text "reject-publish"), .overflowNotRejectPublish)]

def checks : List (Bool × TopologyFault) :=
  [(spec.name == "", .queueInvalid spec.name .nameRequired),
   (exceedsShortstr spec.name, .shortstrTooLong "Queue name"),
   (exceedsShortstr spec.routingKey, .shortstrTooLong "Queue routing_key")] ++
    ((if spec.isQuorum then spec.quorumChecks else []) ++
      (if spec.isStream then spec.streamChecks else spec.notStreamChecks) ++
      spec.optionChecks).map fun check => (check.1, .queueInvalid spec.name check.2)

/-- `RabbitQueue.validate`. -/
def validate : Except TopologyFault Unit := firstFault spec.checks

/-- `to_declare_kwargs()["arguments"]`. -/
def declareArguments : ArgumentTable :=
  (((((((((((((((((OrderedDict.empty.set "x-queue-type" (.text spec.queueType.value)
    ).setSome "x-dead-letter-exchange" (spec.deadLetterExchange.map .text)
    ).setSome "x-dead-letter-routing-key" (spec.deadLetterRoutingKey.map .text)
    ).setSome "x-message-ttl" (spec.messageTtl.map .number)
    ).setSome "x-max-length" (spec.maxLength.map .number)
    ).setSome "x-max-length-bytes" (spec.maxLengthBytes.map .number)
    ).setSome "x-consumer-timeout" (spec.consumerTimeout.map .number)
    ).setSome "x-queue-mode" (if spec.isLazy then some (.text "lazy") else none)
    ).setSome "x-max-priority" (spec.maxPriority.map .number)
    ).setSome "x-delivery-limit" (spec.deliveryLimit.map .number)
    ).setSome "x-single-active-consumer"
      (if spec.singleActiveConsumer then some (.flag true) else none)
    ).setSome "x-quorum-initial-group-size" (spec.quorumInitialGroupSize.map .number)
    ).setSome "x-dead-letter-strategy"
      (spec.deadLetterStrategy.map fun strategy => .text strategy.value)
    ).setSome "x-overflow" (spec.overflow.map .text)
    ).setSome "x-expires" (spec.expires.map .number)
    ).setSome "x-max-age" (spec.maxAge.map .text)
    ).setSome "x-stream-max-segment-size-bytes" (spec.streamMaxSegmentSizeBytes.map .number)
    ).update spec.arguments

theorem get?_declareArguments_type : spec.declareArguments.get? "x-queue-type" =
    (spec.arguments.get? "x-queue-type").or (some (.text spec.queueType.value)) := by
  simp [declareArguments]

theorem get?_declareArguments_deadLetterExchange :
    spec.declareArguments.get? "x-dead-letter-exchange" =
      (spec.arguments.get? "x-dead-letter-exchange").or (spec.deadLetterExchange.map .text) := by
  simp [declareArguments]

theorem get?_declareArguments_deadLetterRoutingKey :
    spec.declareArguments.get? "x-dead-letter-routing-key" =
      (spec.arguments.get? "x-dead-letter-routing-key").or
        (spec.deadLetterRoutingKey.map .text) := by
  simp [declareArguments]

end QueueSpec

structure RabbitQueue extends QueueSpec where
  valid : toQueueSpec.validate = .ok ()

/-- `RabbitQueue.__post_init__`. -/
def QueueSpec.construct (spec : QueueSpec) : Except TopologyFault RabbitQueue :=
  match checked : spec.validate with
  | .ok () => .ok ⟨spec, checked⟩
  | .error fault => .error fault

theorem QueueSpec.construct_eq_ok {spec : QueueSpec} {queue : RabbitQueue}
    (constructed : spec.construct = .ok queue) : queue.toQueueSpec = spec := by
  unfold construct at constructed
  split at constructed
  · cases constructed
    rfl
  · cases constructed

theorem QueueSpec.construct_of_valid {spec : QueueSpec} (valid : spec.validate = .ok ()) :
    spec.construct = .ok ⟨spec, valid⟩ := by
  unfold construct
  split
  · rfl
  next fault failed =>
    rw [valid] at failed
    cases failed

structure ExchangeSpec where
  name : String
  type : ExchangeType := .direct
  durable : Bool := true
  autoDelete : Bool := false
  passive : Bool := false
  internal : Bool := false
  arguments : ArgumentTable := .empty
  bindTo : Option String := none
  bindArguments : ArgumentTable := .empty
  routingKey : String := ""

namespace ExchangeSpec

variable (spec : ExchangeSpec)

def checks : List (Bool × TopologyFault) :=
  [(spec.name == "" && spec.type != .direct, .exchangeInvalid spec.name .nameRequired),
   (spec.internal && spec.autoDelete, .exchangeInvalid spec.name .internalAutoDelete),
   (exceedsShortstr spec.name, .shortstrTooLong "Exchange name"),
   (exceedsShortstr spec.routingKey, .shortstrTooLong "Exchange routing_key")]

/-- `RabbitExchange.validate`. -/
def validate : Except TopologyFault Unit := firstFault spec.checks

end ExchangeSpec

structure RabbitExchange extends ExchangeSpec where
  valid : toExchangeSpec.validate = .ok ()

/-- `dlq_delivery_limit`: unlimited on 4.x, no argument on older or unknown brokers.
The major version is the one `broker_major_version` reads. -/
def dlqDeliveryLimit (brokerMajor : Option Nat) : Option Int :=
  if brokerMajor.any (4 ≤ ·) then some (-1) else none

/-- The queue of `dlq_queue_definition`. -/
def dlqQueueSpec (name : String) (quorum : Bool) (brokerMajor : Option Nat)
    (initialGroupSize : Option Int) : QueueSpec :=
  if quorum then
    { name := name
      queueType := .quorum
      deliveryLimit := dlqDeliveryLimit brokerMajor
      quorumInitialGroupSize := initialGroupSize }
  else { name := name, queueType := .classic }

@[simp]
theorem name_dlqQueueSpec (name : String) (quorum : Bool) (brokerMajor : Option Nat)
    (initialGroupSize : Option Int) :
    (dlqQueueSpec name quorum brokerMajor initialGroupSize).name = name := by
  unfold dlqQueueSpec
  split <;> rfl

/-- `dlq_queue_definition`. -/
def dlqQueueDefinition (name : String) (quorum : Bool) (brokerMajor : Option Nat)
    (initialGroupSize : Option Int) : Except TopologyFault RabbitQueue :=
  (dlqQueueSpec name quorum brokerMajor initialGroupSize).construct

end RabbitKit
