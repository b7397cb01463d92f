import RabbitKit.AsyncFailurePath
import RabbitKit.OrderedDict

/-! # Copies of a failed delivery

`RetryMiddleware` keeps its state on the message. It reads how many retries a delivery has behind it
from the retry header and from the `x-death` history of the broker, and it writes the next attempt,
the failure metadata and the delay queue of that attempt on the copy it publishes.
-/

namespace RabbitKit

/-- What `int` makes of a float or a decimal. -/
inductive RealReading
  | finite (truncated : Int)
  | nan
  | infinite
  deriving DecidableEq

inductive HeaderField
  | null
  | boolean (value : Bool)
  | integer (value : Int)
  | real (value : RealReading)
  | text (value : String)
  | bytes (value : List UInt8)
  | list (values : List HeaderField)
  | table (entries : List (String × HeaderField))
  | other

abbrev HeaderTable := OrderedDict String HeaderField

/-- Python's conversions of text.  `int` and `intBytes` are `none` where `int` raises
`ValueError`, as it does on numerals of thousands of digits. -/
structure PythonText where
  int : String → Option Int
  intBytes : List UInt8 → Option Int
  isdigit : String → Bool
  decode : List UInt8 → String
  int_numeral : ∀ n : Nat, (toString n).length ≤ 255 → int (toString n) = some (n : Int)
  isdigit_numeral : ∀ n : Nat, isdigit (toString n) = true

/-- What the library takes from its Python: text conversions, the md5 number of a
text, and which values `parse_iso` reads as a time. -/
structure RetryRuntime where
  text : PythonText
  md5 : String → Nat
  isIsoTime : HeaderField → Bool

namespace RetryRuntime

variable (runtime : RetryRuntime)

/-- `header_text`. -/
def headerText : HeaderField → String
  | .text value => value
  | .bytes value => runtime.text.decode value
  | _ => ""

def overflowError : Failure where
  classes := [.named "OverflowError", .named "ArithmeticError", .exception]

def valueError : Failure where
  classes := [.valueError, .exception]

/-- `header_int`: only the `OverflowError` of an infinite number gets through. -/
def headerInt : HeaderField → Except Failure Nat
  | .integer value => .ok value.toNat
  | .real (.finite truncated) => .ok truncated.toNat
  | .real .infinite => .error overflowError
  | .text value => .ok ((runtime.text.int value).getD 0).toNat
  | .bytes value => .ok ((runtime.text.intBytes value).getD 0).toNat
  | _ => .ok 0

/-- `header_int(headers.get(name, 0))`. -/
def headerCount (headers : HeaderTable) (name : String) : Except Failure Nat :=
  runtime.headerInt (headers.getD name (.integer 0))

/-- `header_text(headers.get(name))`. -/
def headerTextOf (headers : HeaderTable) (name : String) : String :=
  match headers.get? name with
  | some value => runtime.headerText value
  | none => ""

end RetryRuntime

def originalQueueHeader : String := "x-rabbitkit-original-queue"

def xDeathHeader : String := "x-death"

def delayQueueStem (source : String) : String := source ++ ".retry."

/-- `_shard_queue_name`. -/
def shardQueueName (source : String) (attempt shard : Nat) : String :=
  if shard = 0 then delayQueueStem source ++ toString attempt
  else delayQueueStem source ++ toString attempt ++ ".s" ++ toString shard

/-- `RetryRouter.get_dlq_name`. -/
def dlqName (source : String) : String := source ++ ".dlq"

/-- The tier in the name of a delay queue, as `_xdeath_retry_floor` reads it. -/
def delayTier (source queue : String) : Option String :=
  if (delayQueueStem source).toList.isPrefixOf queue.toList then
    some (String.ofList
      ((queue.toList.drop (delayQueueStem source).toList.length).takeWhile (· ≠ '.')))
  else none

namespace RetryRuntime

variable (runtime : RetryRuntime)

/-- The queue named by one entry of the history; entries that are no tables count
for nothing. -/
def deathQueue : HeaderField → String
  | .table entries =>
    match entries.find? fun entry => entry.1 = "queue" with
    | some entry => runtime.headerText entry.2
    | none => ""
  | _ => ""

/-- One round of the loop of `_xdeath_retry_floor`. -/
def raiseFloor (source : String) (floor : Nat) (death : HeaderField) : Except Failure Nat :=
  match delayTier source (runtime.deathQueue death) with
  | none => .ok floor
  | some tier =>
    if runtime.text.isdigit tier then
      match runtime.text.int tier with
      | some value => .ok (max floor value.toNat)
      | none => .error valueError
    else .ok floor

/-- `_xdeath_retry_floor`. -/
def xdeathRetryFloor (headers : HeaderTable) (source : String) : Except Failure Nat :=
  match headers.get? xDeathHeader with
  | some (.list deaths) => deaths.foldlM (runtime.raiseFloor source) 0
  | _ => .ok 0

end RetryRuntime

inductive QueueType
  | classic
  | quorum
  | stream
  deriving DecidableEq

inductive RetryQueueType
  | classic
  | quorum
  | inherit
  deriving DecidableEq

inductive DeadLetterStrategy
  | atMostOnce
  | atLeastOnce
  deriving DecidableEq

/-- A validated `RetryConfig`, with the fields the retry path and its topology read. -/
structure RetryConfig where
  maxRetries : Nat := 4
  delays : List Nat := [5, 30, 120, 600]
  retryHeader : String := "x-rabbitkit-retry-count"
  jitterFactor : ℚ := 1 / 10
  sharded : Bool := false
  jitterShards : Nat := 3
  strictDelays : Bool := true
  delayQueueType : RetryQueueType := .classic
  dlqQueueType : RetryQueueType := .inherit
  quorumInitialGroupSize : Option Nat := none
  delayQueueDeadLetterStrategy : Option DeadLetterStrategy := none
  trustRetryHeader : Bool := true
  shards_valid : sharded = true → 2 ≤ jitterShards ∧ 0 < jitterFactor ∧ jitterFactor < 1 := by simp
  delays_valid : strictDelays = true → maxRetries ≤ delays.length := by simp
  groupSize_valid : ∀ size ∈ quorumInitialGroupSize, 1 ≤ size := by simp
  strategy_valid : delayQueueDeadLetterStrategy ≠ none → delayQueueType ≠ .classic := by simp

namespace RetryConfig

variable (config : RetryConfig) (runtime : RetryRuntime)

/-- The queue a delivery was consumed from.  The broker sets the header to the text
of its name before anything reads it. -/
def sourceQueue (headers : HeaderTable) : String :=
  runtime.headerTextOf headers originalQueueHeader

/-- The count that `_get_retry_count` takes from the retry header. -/
def claimedRetries (headers : HeaderTable) : Except Failure Nat :=
  if config.trustRetryHeader then runtime.headerCount headers config.retryHeader else .ok 0

/-- The count that `_get_retry_count` takes from `x-death`. -/
def historyRetries (headers : HeaderTable) : Except Failure Nat :=
  if sourceQueue runtime headers = "" then .ok 0
  else runtime.xdeathRetryFloor headers (sourceQueue runtime headers)

/-- `_get_retry_count`. -/
def retryCount (headers : HeaderTable) : Except Failure Nat := do
  let claimed ← config.claimedRetries runtime headers
  let floor ← historyRetries runtime headers
  return RetryMiddleware.retryCount
    { maxRetries := config.maxRetries, trustRetryHeader := config.trustRetryHeader }
    { retryHeader := claimed
      sourceQueue := sourceQueue runtime headers
      xdeathRetryFloor := floor }

/-- `_decide` on a classified failure: the category of a terminal failure, or `none`,
and the retry count. -/
def decideRetry (headers : HeaderTable) (severity : ErrorSeverity) (ageExceeded : Bool) :
    Except Failure (Nat × Option FailureCategory) := do
  let count ← config.retryCount runtime headers
  if severity ≠ .transient then return (count, some .permanent)
  else if config.maxRetries ≤ count then return (count, some .exhausted)
  else if ageExceeded then return (count, some .retryAgeExceeded)
  else return (count, none)

end RetryConfig

/-- The delivery a copy is made of: its headers and its message id, empty when it
has none. -/
structure FailedDelivery where
  headers : HeaderTable
  messageId : String := ""

structure FailureStamp where
  exchange : String := ""
  routingKey : String := ""
  severity : String := "transient"
  code : String := ""
  summary : String := ""
  errorCategory : String := "retryable"
  failureCategory : String := "transient"
  now : String := ""
  expiration : String := ""
  freshId : String := ""

structure RetryEnvelope where
  routingKey : String
  headers : HeaderTable
  messageId : String

def setDefault (headers : HeaderTable) (name : String) (value : HeaderField) : HeaderTable :=
  match headers.get? name with
  | none => headers.set name value
  | some _ => headers

namespace FailureStamp

variable (stamp : FailureStamp) (runtime : RetryRuntime)

/-- The headers of `stamp_failure` that say where the message came from. -/
def stampOrigin (headers : HeaderTable) : HeaderTable :=
  setDefault (setDefault (setDefault headers
    "x-rabbitkit-original-exchange" (.text stamp.exchange))
    "x-rabbitkit-original-routing-key" (.text stamp.routingKey))
    originalQueueHeader (.text "")

/-- The headers of `stamp_failure` that describe the error; the text of an earlier
error is dropped. -/
def stampError (headers : HeaderTable) : HeaderTable :=
  let headers := ((headers.erase "x-rabbitkit-error-message").set
    "x-rabbitkit-error-category" (.text stamp.severity)).set
    "x-rabbitkit-error-type" (.text stamp.code)
  let headers := if stamp.summary = "" then headers
    else headers.set "x-rabbitkit-error-message" (.text stamp.summary)
  ((headers.set "x-rabbitkit-error-category" (.text stamp.errorCategory)).set
    "x-rabbitkit-error-class" (.text stamp.code)).set
    "x-rabbitkit-failure-category" (.text stamp.failureCategory)

def knowsFirstFailure (headers : HeaderTable) : Bool :=
  match headers.get? "x-rabbitkit-first-failed-at" with
  | some value => runtime.isIsoTime value
  | none => false

/-- The headers of `stamp_failure` that hold times. -/
def stampTimes (headers : HeaderTable) : HeaderTable :=
  let headers := if knowsFirstFailure runtime headers then headers
    else headers.set "x-rabbitkit-first-failed-at" (.text stamp.now)
  let headers := headers.set "x-rabbitkit-last-failed-at" (.text stamp.now)
  if stamp.expiration = "" then headers
  else setDefault headers "x-rabbitkit-original-expiration" (.text stamp.expiration)

/-- `stamp_failure`. -/
def stampFailure (attempts : Nat) (headers : HeaderTable) : Except Failure HeaderTable := do
  let headers := stamp.stampError (stamp.stampOrigin headers)
  let claimed ← runtime.headerCount headers "x-rabbitkit-attempts"
  return stamp.stampTimes runtime
    (headers.set "x-rabbitkit-attempts" (.integer (max attempts claimed : Nat)))

end FailureStamp

namespace FailedDelivery

variable (delivery : FailedDelivery) (runtime : RetryRuntime)

/-- `stable_message_id`: the id of the copy, and the headers that record it. -/
def stableMessageId (freshId : String) : String × HeaderTable :=
  let recorded := runtime.headerTextOf delivery.headers "x-rabbitkit-original-message-id"
  if recorded = "" then
    let original := if delivery.messageId = "" then freshId else delivery.messageId
    (original, delivery.headers.set "x-rabbitkit-original-message-id" (.text original))
  else (if delivery.messageId = "" then recorded else delivery.messageId, delivery.headers)

end FailedDelivery

namespace RetryConfig

variable (config : RetryConfig) (runtime : RetryRuntime)

/-- `_shard_index`. -/
def shardIndex (messageId : String) : Nat :=
  if messageId = "" then 0 else runtime.md5 messageId % config.jitterShards

/-- The routing key of `_build_retry_envelope`. -/
def delayQueueFor (source messageId : String) (attempt : Nat) : String :=
  if config.sharded then shardQueueName source attempt (config.shardIndex runtime messageId)
  else delayQueueStem source ++ toString attempt

/-- The attempt counter that `_build_retry_envelope` writes on the copy. -/
def attemptCounter (headers : HeaderTable) (attempt : Nat) : Except Failure Nat := do
  let claimed ← runtime.headerCount headers config.retryHeader
  return max attempt claimed

/-- `message.headers.get(_H_ORIGINAL_QUEUE, "unknown")`, on a header that is text. -/
def namedSource (headers : HeaderTable) : String :=
  match headers.get? originalQueueHeader with
  | some value => runtime.headerText value
  | none => "unknown"

def configValidationError : Failure where
  classes := [.named "ConfigValidationError", .valueError, .exception]

/-- `_build_retry_envelope`.  A routing key over 255 bytes is refused when the
envelope is constructed. -/
def buildRetryEnvelope (delivery : FailedDelivery) (retryCount : Nat) (stamp : FailureStamp) :
    Except Failure RetryEnvelope := do
  let attempt := retryCount + 1
  let source := namedSource runtime delivery.headers
  let identified := delivery.stableMessageId runtime stamp.freshId
  let delayQueue := config.delayQueueFor runtime source identified.1 attempt
  let counter ← config.attemptCounter runtime delivery.headers attempt
  let headers ← stamp.stampFailure runtime attempt
    (identified.2.set config.retryHeader (.integer (counter : Nat)))
  if 255 < delayQueue.utf8ByteSize then throw configValidationError
  else return { routingKey := delayQueue, headers := headers, messageId := identified.1 }

/-- The routing key of `_build_dlq_envelope`. -/
def terminalQueue (headers : HeaderTable) : Option String :=
  let source := sourceQueue runtime headers
  if source = "" then none else some (dlqName source)

end RetryConfig
end RabbitKit
