import RabbitKit.RetryCopies

/-! # The retry budget of a message

A message lives through its deliveries: a failed one is copied to a delay queue,
the copy expires, the broker notes the expiry in the `x-death` history and delivers
the copy to the source queue again.  A delivery whose copy could not be handed off
is requeued as it is.

The history alone bounds the number of copies.  A copy of attempt `n` comes back
with an entry for the delay queue of `n`, so that the next copy is one of a later
attempt whatever the headers claimed to begin with.
-/

namespace RabbitKit

open RetryConfig RetryRuntime OrderedDict FailureStamp List

/-- The broker's note of an expiry, in front of the history; `rest` are the other
fields of the entry. -/
def prependDeath (headers : HeaderTable) (queue : String) (rest : List (String × HeaderField)) :
    HeaderTable :=
  let earlier := match headers.get? xDeathHeader with
    | some (.list deaths) => deaths
    | _ => []
  headers.set xDeathHeader (.list (.table (("queue", .text queue) :: rest) :: earlier))

/-- A failure of the handler, with the time check of `max_retry_age` and whether the
copy, if one is made, is handed off. -/
structure LifeEvent where
  severity : ErrorSeverity := .transient
  ageExceeded : Bool := false
  stamp : FailureStamp := {}
  handedOff : Bool := true
  deathFields : List (String × HeaderField) := []

structure RetryCopy where
  attempt : Nat
  counter : Nat
  routingKey : String
  deriving DecidableEq

inductive LifeEnd
  | waiting (delivery : FailedDelivery)
  | terminal (category : FailureCategory)
  | raised (failure : Failure)

structure SourceQueue where
  name : String
  named : name ≠ ""

structure RetryRoute where
  config : RetryConfig
  runtime : RetryRuntime
  source : SourceQueue

namespace RetryRoute

variable (route : RetryRoute)

/-- The consumer callback of `_start_consumer` writes the name of the queue. -/
def consumed (delivery : FailedDelivery) : FailedDelivery :=
  { delivery with
    headers := delivery.headers.set originalQueueHeader (.text route.source.name) }

def redelivered (envelope : RetryEnvelope) (event : LifeEvent) : FailedDelivery where
  headers := prependDeath envelope.headers envelope.routingKey event.deathFields
  messageId := envelope.messageId

def copyDelivery (delivery : FailedDelivery) (count : Nat) (event : LifeEvent) :
    Except Failure (RetryCopy × FailedDelivery) := do
  let counter ← route.config.attemptCounter route.runtime delivery.headers (count + 1)
  let envelope ← route.config.buildRetryEnvelope route.runtime delivery count event.stamp
  return (⟨count + 1, counter, envelope.routingKey⟩, redelivered envelope event)

def live (delivery : FailedDelivery) (event : LifeEvent) : Option RetryCopy × LifeEnd :=
  match route.config.decideRetry route.runtime (route.consumed delivery).headers event.severity
      event.ageExceeded with
  | .error failure => (none, .raised failure)
  | .ok (_, some category) => (none, .terminal category)
  | .ok (count, none) =>
    match route.copyDelivery (route.consumed delivery) count event with
    | .error failure => (none, .raised failure)
    | .ok (copy, next) =>
      if event.handedOff then (some copy, .waiting next) else (none, .waiting delivery)

def life (delivery : FailedDelivery) : List LifeEvent → List RetryCopy × LifeEnd
  | [] => ([], .waiting delivery)
  | event :: events =>
    match route.live delivery event with
    | (copy, .waiting next) =>
      (copy.toList ++ (life next events).1, (life next events).2)
    | (copy, ended) => (copy.toList, ended)

end RetryRoute

theorem numeral_toList (n : Nat) : (toString n).toList = Nat.toDigits 10 n := by
  rw [Nat.toString_eq_ofList_toDigits, String.toList_ofList]

theorem ne_dot_of_mem_numeral {n : Nat} {c : Char} (member : c ∈ (toString n).toList) :
    c ≠ '.' := by
  rw [numeral_toList] at member
  rintro rfl
  have digit : '.'.isDigit = true :=
    Nat.isDigit_of_mem_toDigits (Nat.zero_lt_succ 9) le_rfl member
  exact absurd digit (by decide)

theorem takeWhile_numeral (n : Nat) (rest : List Char) (stops : ∀ c ∈ rest.head?, c = '.') :
    ((toString n).toList ++ rest).takeWhile (· ≠ '.') = (toString n).toList := by
  rw [takeWhile_append_of_pos fun c member => by simpa using ne_dot_of_mem_numeral member]
  cases rest with
  | nil => simp
  | cons c rest =>
    have dot : c = '.' := stops c (by simp)
    simp [dot]

theorem delayTier_of_append (source : String) (n : Nat) (rest : String)
    (stops : ∀ c ∈ rest.toList.head?, c = '.') :
    delayTier source (delayQueueStem source ++ toString n ++ rest) = some (toString n) := by
  have split : (delayQueueStem source ++ toString n ++ rest).toList =
      (delayQueueStem source).toList ++ ((toString n).toList ++ rest.toList) := by
    simp [String.toList_append]
  have starts : (delayQueueStem source).toList.isPrefixOf
      (delayQueueStem source ++ toString n ++ rest).toList = true := by
    rw [split, isPrefixOf_iff_prefix]
    exact prefix_append _ _
  unfold delayTier
  rw [if_pos starts, split, drop_left, takeWhile_numeral n rest.toList stops,
    String.ofList_toList]

theorem delayTier_shardQueueName (source : String) (attempt shard : Nat) :
    delayTier source (shardQueueName source attempt shard) = some (toString attempt) := by
  unfold shardQueueName
  split
  · have tier := delayTier_of_append source attempt "" (by simp)
    simpa using tier
  · rw [String.append_assoc]
    exact delayTier_of_append source attempt (".s" ++ toString shard)
      (by simp [String.toList_append])

theorem RetryConfig.delayTier_delayQueueFor (config : RetryConfig) (runtime : RetryRuntime)
    (source messageId : String) (attempt : Nat) :
    delayTier source (config.delayQueueFor runtime source messageId attempt) =
      some (toString attempt) := by
  unfold delayQueueFor
  split
  · exact delayTier_shardQueueName source attempt _
  · have tier := delayTier_shardQueueName source attempt 0
    simpa [shardQueueName] using tier

theorem ok_of_bind {ε α β : Type} {program : Except ε α} {next : α → Except ε β} {result : β}
    (success : (program >>= next) = .ok result) :
    ∃ value, program = .ok value ∧ next value = .ok result := by
  cases program with
  | error failure => cases success
  | ok value => exact ⟨value, rfl, success⟩

namespace RetryRuntime

variable {runtime : RetryRuntime} {source : String}

variable {floor result : Nat}

theorem raiseFloor_max (bound : Nat) {death : HeaderField}
    (raised : runtime.raiseFloor source floor death = .ok result) :
    runtime.raiseFloor source (max floor bound) death = .ok (max result bound) := by
  unfold raiseFloor at raised ⊢
  cases queue : delayTier source (runtime.deathQueue death) with
  | none =>
    simp only [queue] at raised
    cases raised
    rfl
  | some tier =>
    simp only [queue] at raised
    dsimp only
    by_cases digits : runtime.text.isdigit tier = true
    · rw [if_pos digits] at raised ⊢
      cases value : runtime.text.int tier with
      | none =>
        rw [value] at raised
        cases raised
      | some value' =>
        rw [value] at raised
        cases raised
        exact congrArg Except.ok (max_right_comm floor bound value'.toNat)
    · rw [if_neg digits] at raised ⊢
      cases raised
      rfl

theorem foldlM_raiseFloor_max {deaths : List HeaderField} (bound : Nat)
    (folded : deaths.foldlM (runtime.raiseFloor source) floor = .ok result) :
    deaths.foldlM (runtime.raiseFloor source) (max floor bound) = .ok (max result bound) := by
  induction deaths generalizing floor with
  | nil =>
    cases folded
    rfl
  | cons death deaths ih =>
    rw [foldlM_cons] at folded ⊢
    cases raised : runtime.raiseFloor source floor death with
    | error failure =>
      rw [raised] at folded
      cases folded
    | ok next =>
      rw [raised] at folded
      rw [raiseFloor_max bound raised]
      exact ih folded

variable {queue : String}

theorem length_le_utf8ByteSize (text : String) : text.length ≤ text.utf8ByteSize := by
  induction text using String.push_induction with
  | empty => simp
  | push text c ih =>
    rw [String.length_push, String.utf8ByteSize_push]
    have := c.utf8Size_pos
    omega

theorem length_le_of_delayTier {tier : String} (found : delayTier source queue = some tier) :
    tier.length ≤ queue.utf8ByteSize := by
  unfold delayTier at found
  split at found
  · cases found
    calc (String.ofList _).length
      _ ≤ (queue.toList.drop (delayQueueStem source).toList.length).length := by
        rw [String.length_ofList]
        exact ( takeWhile_prefix _).length_le
      _ ≤ queue.length := by
        rw [length_drop, String.length_toList]
        exact Nat.sub_le _ _
      _ ≤ queue.utf8ByteSize := length_le_utf8ByteSize queue
  · cases found

theorem raiseFloor_delayQueue {n : Nat} (rest : List (String × HeaderField))
    (tier : delayTier source queue = some (toString n)) (short : queue.utf8ByteSize ≤ 255) :
    runtime.raiseFloor source 0 (.table (("queue", .text queue) :: rest)) = .ok n := by
  have numeral := runtime.text.int_numeral n ((length_le_of_delayTier tier).trans short)
  have named : runtime.deathQueue (.table (("queue", .text queue) :: rest)) = queue := by
    simp [deathQueue, headerText]
  simp only [raiseFloor, named, tier, runtime.text.isdigit_numeral, numeral, if_true,
    Int.toNat_natCast, Nat.zero_max]

/-- An expiry out of the delay queue of attempt `n` is remembered as `n` retries. -/
theorem xdeathRetryFloor_prependDeath {headers : HeaderTable} {n floor : Nat}
    (rest : List (String × HeaderField)) (tier : delayTier source queue = some (toString n))
    (short : queue.utf8ByteSize ≤ 255)
    (earlier : runtime.xdeathRetryFloor headers source = .ok floor) :
    runtime.xdeathRetryFloor (prependDeath headers queue rest) source = .ok (max floor n) := by
  unfold xdeathRetryFloor at earlier
  have fold (deaths : List HeaderField)
      (folded : deaths.foldlM (runtime.raiseFloor source) 0 = .ok floor) :
      (.table (("queue", .text queue) :: rest) :: deaths).foldlM
        (runtime.raiseFloor source) 0 = .ok (max floor n) := by
    rw [foldlM_cons, raiseFloor_delayQueue rest tier short]
    have raised := foldlM_raiseFloor_max n folded
    rwa [Nat.zero_max] at raised
  cases history : headers.get? xDeathHeader with
  | none =>
    rw [history] at earlier
    simp only [xdeathRetryFloor, prependDeath, history, get?_set, if_true]
    exact fold [] earlier
  | some value =>
    rw [history] at earlier
    cases value with
    | list deaths =>
      simp only [xdeathRetryFloor, prependDeath, history, get?_set, if_true]
      exact fold deaths earlier
    | _ =>
      simp only [xdeathRetryFloor, prependDeath, history, get?_set, if_true]
      exact fold [] earlier

end RetryRuntime

def stampedHeaders : List String :=
  ["x-rabbitkit-original-exchange", "x-rabbitkit-original-routing-key", originalQueueHeader,
    "x-rabbitkit-error-message", "x-rabbitkit-error-category", "x-rabbitkit-error-type",
    "x-rabbitkit-error-class", "x-rabbitkit-failure-category", "x-rabbitkit-attempts",
    "x-rabbitkit-first-failed-at", "x-rabbitkit-last-failed-at",
    "x-rabbitkit-original-expiration"]

def errorHeaders : List String :=
  ["x-rabbitkit-error-message", "x-rabbitkit-error-category", "x-rabbitkit-error-type",
    "x-rabbitkit-error-class", "x-rabbitkit-failure-category"]

def timeHeaders : List String :=
  ["x-rabbitkit-first-failed-at", "x-rabbitkit-last-failed-at",
    "x-rabbitkit-original-expiration"]

theorem get?_setDefault_of_ne {headers : HeaderTable} {name other : String} {value : HeaderField}
    (different : other ≠ name) : (setDefault headers name value).get? other = headers.get? other :=
    by
  unfold setDefault
  split
  · simp [different]
  · rfl

/-- Every written value is text or a number, which `header_int` can read. -/
def Readable (runtime : RetryRuntime) (name : String) (headers : HeaderTable) : Prop :=
  ∃ n, runtime.headerCount headers name = .ok n

namespace Readable

variable {runtime : RetryRuntime} {name key : String} {headers : HeaderTable}

theorem set {value : HeaderField} (reads : ∃ n, runtime.headerInt value = .ok n)
    (readable : Readable runtime name headers) : Readable runtime name (headers.set key value) := by
  unfold Readable headerCount OrderedDict.getD at *
  by_cases same : name = key
  · simpa [same] using reads
  · simpa [same] using readable

theorem setText (value : String) (readable : Readable runtime name headers) :
    Readable runtime name (headers.set key (.text value)) :=
  readable.set ⟨_, rfl⟩

theorem setNat (value : Nat) (readable : Readable runtime name headers) :
    Readable runtime name (headers.set key (.integer value)) :=
  readable.set ⟨_, rfl⟩

theorem setDefault (value : String) (readable : Readable runtime name headers) :
    Readable runtime name (setDefault headers key (.text value)) := by
  unfold RabbitKit.setDefault
  split
  · exact readable.setText value
  · exact readable

theorem erase (readable : Readable runtime name headers) :
    Readable runtime name (headers.erase key) := by
  unfold Readable headerCount OrderedDict.getD at *
  by_cases same : name = key
  · exact ⟨0, by simp [same, headerInt]⟩
  · simpa [same] using readable

end Readable

namespace FailureStamp

variable {stamp : FailureStamp} {runtime : RetryRuntime} {headers stamped : HeaderTable}
  {attempts : Nat} {name : String}

theorem get?_stampOrigin (untouched : name ∉ stampedHeaders) :
    (stamp.stampOrigin headers).get? name = headers.get? name := by
  simp only [stampedHeaders, mem_cons, not_or] at untouched
  unfold stampOrigin
  rw [get?_setDefault_of_ne untouched.2.2.1, get?_setDefault_of_ne untouched.2.1,
    get?_setDefault_of_ne untouched.1]

theorem get?_stampError (untouched : name ∉ errorHeaders) :
    (stamp.stampError headers).get? name = headers.get? name := by
  simp only [errorHeaders, mem_cons, not_or] at untouched
  obtain ⟨message, category, type, cls, failureCategory, _⟩ := untouched
  unfold stampError
  split <;> simp [message, category, type, cls, failureCategory]

theorem get?_stampTimes (untouched : name ∉ timeHeaders) :
    (stamp.stampTimes runtime headers).get? name = headers.get? name := by
  simp only [timeHeaders, mem_cons, not_or] at untouched
  obtain ⟨first, last, expiration, _⟩ := untouched
  unfold stampTimes
  simp only
  split
  · split <;> simp [first, last]
  · rw [get?_setDefault_of_ne expiration]
    split <;> simp [first, last]

theorem stampFailure_eq (success : stamp.stampFailure runtime attempts headers = .ok stamped) :
    ∃ claimed : Nat, stamped = stamp.stampTimes runtime
      ((stamp.stampError (stamp.stampOrigin headers)).set "x-rabbitkit-attempts"
        (.integer (max attempts claimed : Nat))) := by
  obtain ⟨claimed, _, result⟩ := ok_of_bind success
  cases result
  exact ⟨claimed, rfl⟩

theorem get?_stampFailure (untouched : name ∉ stampedHeaders)
    (success : stamp.stampFailure runtime attempts headers = .ok stamped) :
    stamped.get? name = headers.get? name := by
  have counted : name ≠ "x-rabbitkit-attempts" := by
    rintro rfl
    exact untouched (by simp [stampedHeaders])
  have noError : name ∉ errorHeaders := fun member =>
    untouched ((by decide : errorHeaders ⊆ stampedHeaders) member)
  have noTime : name ∉ timeHeaders := fun member =>
    untouched ((by decide : timeHeaders ⊆ stampedHeaders) member)
  obtain ⟨claimed, rfl⟩ := stampFailure_eq success
  rw [get?_stampTimes noTime, get?_set, if_neg counted, get?_stampError noError,
    get?_stampOrigin untouched]

theorem readable_stampError (readable : Readable runtime name headers) :
    Readable runtime name (stamp.stampError (stamp.stampOrigin headers)) := by
  have origin : Readable runtime name (stamp.stampOrigin headers) :=
    ((readable.setDefault _).setDefault _).setDefault _
  unfold stampError
  simp only
  split
  · exact ((((origin.erase.setText _).setText _).setText _).setText _).setText _
  · exact (((((origin.erase.setText _).setText _).setText _).setText _).setText _).setText _

theorem readable_stampFailure (readable : Readable runtime name headers)
    (success : stamp.stampFailure runtime attempts headers = .ok stamped) :
    Readable runtime name stamped := by
  obtain ⟨claimed, rfl⟩ := stampFailure_eq success
  have counted : Readable runtime name
      ((stamp.stampError (stamp.stampOrigin headers)).set "x-rabbitkit-attempts"
        (.integer (max attempts claimed : Nat))) := (readable_stampError readable).setNat _
  unfold stampTimes
  simp only
  split
  · split
    · exact counted.setText _
    · exact (counted.setText _).setText _
  · split
    · exact (counted.setText _).setDefault _
    · exact ((counted.setText _).setText _).setDefault _

end FailureStamp

def rewrittenHeaders : List String := xDeathHeader :: stampedHeaders

namespace RetryConfig

variable {config : RetryConfig} {runtime : RetryRuntime} {delivery : FailedDelivery}
  {count : Nat} {stamp : FailureStamp} {envelope : RetryEnvelope}

/-- What `_build_retry_envelope` does when it returns. -/
structure Builds (config : RetryConfig) (runtime : RetryRuntime) (delivery : FailedDelivery)
    (count : Nat) (stamp : FailureStamp) (envelope : RetryEnvelope) (counter : Nat) : Prop where
  counted : config.attemptCounter runtime delivery.headers (count + 1) = .ok counter
  addressed : ∃ messageId, envelope.routingKey =
    config.delayQueueFor runtime (namedSource runtime delivery.headers) messageId (count + 1)
  short : envelope.routingKey.utf8ByteSize ≤ 255
  stamped : stamp.stampFailure runtime (count + 1)
    ((delivery.stableMessageId runtime stamp.freshId).2.set config.retryHeader
      (.integer (counter : Nat))) = .ok envelope.headers

theorem builds_of_success
    (success : config.buildRetryEnvelope runtime delivery count stamp = .ok envelope) :
    ∃ counter, Builds config runtime delivery count stamp envelope counter := by
  obtain ⟨counter, counted, afterCount⟩ := ok_of_bind success
  obtain ⟨headers, stamped, afterStamp⟩ := ok_of_bind afterCount
  split at afterStamp
  · cases afterStamp
  next short =>
    cases afterStamp
    exact ⟨counter, counted, ⟨_, rfl⟩, Nat.le_of_not_lt short, stamped⟩

theorem get?_stableMessageId {name : String} (different : name ≠ "x-rabbitkit-original-message-id")
    :
    (delivery.stableMessageId runtime stamp.freshId).2.get? name = delivery.headers.get? name := by
  unfold FailedDelivery.stableMessageId
  simp only
  split
  · simp [different]
  · rfl

namespace Builds

variable {counter : Nat}

section

variable (builds : Builds config runtime delivery count stamp envelope counter)
include builds

/-- A copy keeps the history it was made with, unless the counter is written over
it. -/
theorem xdeathRetryFloor_eq {source : String} {floor : Nat}
    (history : runtime.xdeathRetryFloor delivery.headers source = .ok floor) :
    ∃ kept, runtime.xdeathRetryFloor envelope.headers source = .ok kept := by
  have unstamped : xDeathHeader ∉ stampedHeaders := by decide
  have copied := get?_stampFailure unstamped builds.stamped
  rw [get?_set, get?_stableMessageId (by decide)] at copied
  unfold xdeathRetryFloor at history ⊢
  by_cases same : xDeathHeader = config.retryHeader
  · rw [if_pos same] at copied
    exact ⟨0, by simp [copied]⟩
  · rw [if_neg same] at copied
    exact ⟨floor, by rw [copied]; exact history⟩

theorem readable : Readable runtime config.retryHeader envelope.headers := by
  refine readable_stampFailure ⟨counter, ?_⟩ builds.stamped
  simp [headerCount, OrderedDict.getD, headerInt]

theorem get?_retryHeader (untouched : config.retryHeader ∉ rewrittenHeaders) :
    envelope.headers.get? config.retryHeader = some (.integer (counter : Nat)) := by
  have unstamped : config.retryHeader ∉ stampedHeaders :=
    fun member => untouched (mem_cons_of_mem _ member)
  rw [get?_stampFailure unstamped builds.stamped, get?_set, if_pos rfl]

end

end Builds
end RetryConfig

namespace RetryRoute

variable {route : RetryRoute} {delivery next : FailedDelivery} {event : LifeEvent}
  {copy : RetryCopy} {count : Nat}

def floorOf (route : RetryRoute) (delivery : FailedDelivery) : Except Failure Nat :=
  route.runtime.xdeathRetryFloor (route.consumed delivery).headers route.source.name

def claimOf (route : RetryRoute) (delivery : FailedDelivery) : Except Failure Nat :=
  route.runtime.headerCount (route.consumed delivery).headers route.config.retryHeader

@[simp]
theorem sourceQueue_consumed :
    sourceQueue route.runtime (route.consumed delivery).headers = route.source.name := by
  simp [sourceQueue, consumed, headerTextOf, headerText]

@[simp]
theorem namedSource_consumed :
    namedSource route.runtime (route.consumed delivery).headers = route.source.name := by
  simp [namedSource, consumed, headerText]

theorem floorOf_eq : route.floorOf delivery =
      route.runtime.xdeathRetryFloor delivery.headers route.source.name := by
  have different : xDeathHeader ≠ originalQueueHeader := by decide
  simp [floorOf, consumed, xdeathRetryFloor, different]

/-- The count of a delivery is that of its history and, where it is trusted, of its
header. -/
theorem retryCount_consumed
    (success : route.config.retryCount route.runtime (route.consumed delivery).headers =
      .ok count) :
    ∃ claimed floor, (route.config.trustRetryHeader = true → route.claimOf delivery = .ok claimed) ∧
      (route.config.trustRetryHeader = false → claimed = 0) ∧ route.floorOf delivery = .ok floor ∧
      count = min (max claimed floor) route.config.maxRetries := by
  obtain ⟨claimed, readClaim, afterClaim⟩ := ok_of_bind success
  obtain ⟨floor, readFloor, afterFloor⟩ := ok_of_bind afterClaim
  cases afterFloor
  unfold claimedRetries at readClaim
  rw [historyRetries, sourceQueue_consumed, if_neg route.source.named] at readFloor
  refine ⟨claimed, floor, ?_, ?_, readFloor, ?_⟩
  · intro trusted
    rwa [if_pos trusted] at readClaim
  · intro untrusted
    rw [if_neg (by simp [untrusted])] at readClaim
    cases readClaim
    rfl
  · simp only [RetryMiddleware.retryCount, sourceQueue_consumed, if_neg route.source.named]
    by_cases trusted : route.config.trustRetryHeader = true
    · rw [if_pos trusted]
    · rw [if_neg trusted] at readClaim ⊢
      cases readClaim
      rfl

theorem decideRetry_none
    (success : route.config.decideRetry route.runtime (route.consumed delivery).headers
      event.severity event.ageExceeded = .ok (count, none)) :
    route.config.retryCount route.runtime (route.consumed delivery).headers = .ok count ∧
      count < route.config.maxRetries := by
  obtain ⟨counted, readCount, afterCount⟩ := ok_of_bind success
  split at afterCount
  · cases afterCount
  · split at afterCount
    · cases afterCount
    next below =>
      split at afterCount
      · cases afterCount
      · cases afterCount
        exact ⟨readCount, Nat.lt_of_not_le below⟩

/-- What the publication of one copy says about the delivery it was made of and about
the delivery it comes back as. -/
structure Copied (route : RetryRoute) (delivery : FailedDelivery) (copy : RetryCopy)
    (next : FailedDelivery) : Prop where
  withinBudget : copy.attempt ≤ route.config.maxRetries
  history : ∃ floor, route.floorOf delivery = .ok floor ∧ floor < copy.attempt
  claim : ∃ claimed, route.claimOf delivery = .ok claimed ∧ copy.counter = max copy.attempt claimed
    ∧
    (route.config.trustRetryHeader = true → claimed < copy.attempt)
  nextHistory : ∃ floor, route.floorOf next = .ok floor ∧ copy.attempt ≤ floor
  nextClaim : ∃ claimed, route.claimOf next = .ok claimed ∧
    (route.config.retryHeader ∉ rewrittenHeaders → claimed = copy.counter)

variable {envelope : RetryEnvelope}

theorem nextHistory_of_builds {counter floor : Nat}
    (builds : Builds route.config route.runtime (route.consumed delivery) count event.stamp
      envelope counter) (history : route.floorOf delivery = .ok floor) :
    ∃ floor, route.floorOf (redelivered envelope event) = .ok floor ∧ count + 1 ≤ floor := by
  obtain ⟨kept, keptHistory⟩ := builds.xdeathRetryFloor_eq history
  obtain ⟨messageId, addressed⟩ := builds.addressed
  rw [namedSource_consumed] at addressed
  have tier : delayTier route.source.name envelope.routingKey = some (toString (count + 1)) := by
    rw [addressed, delayTier_delayQueueFor]
  refine ⟨max kept (count + 1), ?_, le_max_right _ _⟩
  rw [floorOf_eq]
  exact xdeathRetryFloor_prependDeath event.deathFields tier builds.short keptHistory

theorem nextClaim_of_builds {counter : Nat}
    (builds : Builds route.config route.runtime (route.consumed delivery) count event.stamp
      envelope counter) : ∃ claimed, route.claimOf (redelivered envelope event) = .ok claimed ∧
      (route.config.retryHeader ∉ rewrittenHeaders → claimed = counter) := by
  have readable : Readable route.runtime route.config.retryHeader
      (route.consumed (redelivered envelope event)).headers :=
    (builds.readable.set ⟨0, rfl⟩).setText _
  obtain ⟨claimed, read⟩ := readable
  refine ⟨claimed, read, fun untouched => ?_⟩
  have notDeath : route.config.retryHeader ≠ xDeathHeader := by
    intro same
    exact untouched (same ▸ mem_cons_self)
  have notQueue : route.config.retryHeader ≠ originalQueueHeader := by
    intro same
    exact untouched (same ▸ by decide)
  have kept : (route.consumed (redelivered envelope event)).headers.get? route.config.retryHeader =
      some (.integer (counter : Nat)) := by
    simp [consumed, redelivered, prependDeath, notDeath, notQueue,
      builds.get?_retryHeader untouched]
  have same : Except.ok claimed = Except.ok (ε := Failure) counter := by
    rw [← read]
    simp [headerCount, OrderedDict.getD, kept, headerInt]
  exact Except.ok.inj same

theorem copied_of_success
    (decided : route.config.decideRetry route.runtime (route.consumed delivery).headers
      event.severity event.ageExceeded = .ok (count, none))
    (success : route.copyDelivery (route.consumed delivery) count event = .ok (copy, next)) :
    route.Copied delivery copy next := by
  obtain ⟨counted, below⟩ := decideRetry_none decided
  obtain ⟨claimed, floor, trusted, untrusted, history, count_eq⟩ := retryCount_consumed counted
  obtain ⟨counter, readCounter, afterCounter⟩ := ok_of_bind success
  obtain ⟨envelope, built, afterBuild⟩ := ok_of_bind afterCounter
  cases afterBuild
  obtain ⟨counter', builds⟩ := builds_of_success built
  have sameCounter : counter' = counter := Except.ok.inj (builds.counted.symm.trans readCounter)
  subst sameCounter
  obtain ⟨read, readClaim, counter_eq⟩ := ok_of_bind readCounter
  refine ⟨below, ⟨floor, history, ?_⟩, ⟨read, readClaim, ?_, ?_⟩,
    nextHistory_of_builds builds history, nextClaim_of_builds builds⟩
  · dsimp only
    omega
  · cases counter_eq
    rfl
  · intro trust
    have same : claimed = read := Except.ok.inj ((trusted trust).symm.trans readClaim)
    dsimp only
    omega

/-- Every way one failed delivery can end. -/
theorem live_cases (route : RetryRoute) (delivery : FailedDelivery) (event : LifeEvent) :
    (∃ copy next, route.live delivery event = (some copy, .waiting next) ∧
      route.Copied delivery copy next) ∨ route.live delivery event = (none, .waiting delivery) ∨
    (∃ category, route.live delivery event = (none, .terminal category)) ∨
    ∃ failure, route.live delivery event = (none, .raised failure) := by
  unfold live
  cases decided : route.config.decideRetry route.runtime (route.consumed delivery).headers
      event.severity event.ageExceeded with
  | error failure => exact .inr (.inr (.inr ⟨failure, rfl⟩))
  | ok decision =>
    obtain ⟨count, category⟩ := decision
    cases category with
    | some category => exact .inr (.inr (.inl ⟨category, rfl⟩))
    | none =>
      dsimp only
      cases success : route.copyDelivery (route.consumed delivery) count event with
      | error failure => exact .inr (.inr (.inr ⟨failure, rfl⟩))
      | ok copied =>
        obtain ⟨copy, next⟩ := copied
        dsimp only
        split
        · exact .inl ⟨copy, next, rfl, copied_of_success decided success⟩
        · exact .inr (.inl rfl)

variable {events : List LifeEvent}

theorem life_of_copied (first : route.live delivery event = (some copy, .waiting next)) :
    route.life delivery (event :: events) =
      (copy :: (route.life next events).1, (route.life next events).2) := by
  simp [life, first]

theorem life_of_requeued (first : route.live delivery event = (none, .waiting delivery)) :
    route.life delivery (event :: events) = route.life delivery events := by
  simp [life, first]

theorem life_of_terminal {category : FailureCategory}
    (first : route.live delivery event = (none, .terminal category)) :
    route.life delivery (event :: events) = ([], .terminal category) := by
  simp [life, first]

theorem life_of_raised {failure : Failure}
    (first : route.live delivery event = (none, .raised failure)) :
    route.life delivery (event :: events) = ([], .raised failure) := by
  simp [life, first]

/-- The copies of a life, each made of what the one before came back as. -/
inductive Lived (route : RetryRoute) : FailedDelivery → List RetryCopy → LifeEnd → Prop
  | stopped {delivery : FailedDelivery} {ending : LifeEnd}
      (here : ∀ final, ending = .waiting final → final = delivery) :
      Lived route delivery [] ending
  | copied {delivery next : FailedDelivery} {copy : RetryCopy} {copies : List RetryCopy}
      {ending : LifeEnd} (copied : route.Copied delivery copy next)
      (rest : Lived route next copies ending) : Lived route delivery (copy :: copies) ending

/-- Requeued deliveries leave no trace in a life. -/
theorem lived_life (route : RetryRoute) (delivery : FailedDelivery) (events : List LifeEvent) :
    route.Lived delivery (route.life delivery events).1 (route.life delivery events).2 := by
  induction events generalizing delivery with
  | nil => exact .stopped fun final same => (LifeEnd.waiting.inj same).symm
  | cons event events ih =>
    rcases route.live_cases delivery event with
      ⟨copy, next, first, copied⟩ | requeued | ⟨category, terminal⟩ | ⟨failure, raised⟩
    · rw [life_of_copied first]
      exact .copied copied (ih next)
    · rw [life_of_requeued requeued]
      exact ih delivery
    · rw [life_of_terminal terminal]
      exact .stopped fun final same => by cases same
    · rw [life_of_raised raised]
      exact .stopped fun final same => by cases same

/-- Copies of later and later attempts, all after attempt `spent`. -/
structure WithinBudget (config : RetryConfig) (spent : Nat) (copies : List RetryCopy) : Prop where
  bounded : copies.length ≤ config.maxRetries - spent
  later : ∀ copy ∈ copies, spent < copy.attempt ∧ copy.attempt ≤ config.maxRetries
  increasing : copies.Pairwise fun earlier later => earlier.attempt < later.attempt

variable {spent : Nat} {config : RetryConfig}

theorem withinBudget_nil : WithinBudget config spent [] :=
  ⟨Nat.zero_le _, by simp, List.Pairwise.nil⟩

variable {copies : List RetryCopy}

theorem WithinBudget.cons
    (rest : WithinBudget config copy.attempt copies) (fresh : spent < copy.attempt)
    (budget : copy.attempt ≤ config.maxRetries) : WithinBudget config spent (copy :: copies) := by
  have bounded := rest.bounded
  refine ⟨?_, ?_, .cons (fun later member => (rest.later later member).1) rest.increasing⟩
  · rw [length_cons]
    omega
  · intro other member
    rcases mem_cons.mp member with rfl | member
    · exact ⟨fresh, budget⟩
    · obtain ⟨after, within⟩ := rest.later other member
      exact ⟨by omega, within⟩

section Lives

variable {copies : List RetryCopy} {ending : LifeEnd}

variable {spent : Nat}

section

variable (lived : route.Lived delivery copies ending)
include lived

/-- A delivery whose history shows `spent` retries has that much less of its budget
left. -/
theorem Lived.withinBudget (past : ∀ floor, route.floorOf delivery = .ok floor → spent ≤ floor) :
    WithinBudget route.config spent copies := by
  induction lived generalizing spent with
  | stopped => exact withinBudget_nil
  | copied copied _ ih =>
    obtain ⟨floor, history, fresh⟩ := copied.history
    obtain ⟨nextFloor, nextHistory, reached⟩ := copied.nextHistory
    refine (ih fun floor' history' => ?_).cons (lt_of_le_of_lt (past floor history) fresh)
      copied.withinBudget
    have same : floor' = nextFloor := Except.ok.inj (history'.symm.trans nextHistory)
    omega

theorem Lived.counter_of_trusted (trust : route.config.trustRetryHeader = true) : ∀ copy ∈ copies,
    copy.counter = copy.attempt := by
  induction lived with
  | stopped => simp
  | @copied delivery next copy copies ending copied _ ih =>
    intro other member
    rcases mem_cons.mp member with rfl | later
    · obtain ⟨claimed, _, counter, below⟩ := copied.claim
      have := below trust
      omega
    · exact ih other later

theorem Lived.counters (untouched : route.config.retryHeader ∉ rewrittenHeaders)
    (past : ∀ claimed, route.claimOf delivery = .ok claimed → spent ≤ claimed) :
    (∀ copy ∈ copies, spent ≤ copy.counter) ∧
      copies.Pairwise fun earlier later => earlier.counter ≤ later.counter := by
  induction lived generalizing spent with
  | stopped => simp
  | @copied delivery next copy copies ending copied _ ih =>
    obtain ⟨claimed, claim, counter, _⟩ := copied.claim
    obtain ⟨nextClaimed, nextClaim, kept⟩ := copied.nextClaim
    have fresh : spent ≤ copy.counter := by
      have := past claimed claim
      omega
    have nextPast : ∀ claimed', route.claimOf next = .ok claimed' → copy.counter ≤ claimed' := by
      intro claimed' claim'
      have same : claimed' = nextClaimed := Except.ok.inj (claim'.symm.trans nextClaim)
      have := kept untouched
      omega
    obtain ⟨later, increasing⟩ := ih nextPast
    refine ⟨?_, .cons later increasing⟩
    intro other member
    rcases mem_cons.mp member with rfl | member
    · exact fresh
    · exact fresh.trans (later other member)

end

end Lives

/-- The history of a delivery shows `spent` retries and its header can be read. -/
def Reached (route : RetryRoute) (spent : Nat) (delivery : FailedDelivery) : Prop :=
  (∃ floor, route.floorOf delivery = .ok floor ∧ spent ≤ floor) ∧
    ∃ claimed, route.claimOf delivery = .ok claimed

theorem Copied.reached (copied : route.Copied delivery copy next) :
    route.Reached copy.attempt next := by
  obtain ⟨claimed, claim, _⟩ := copied.nextClaim
  exact ⟨copied.nextHistory, claimed, claim⟩

theorem Reached.mono {less more : Nat} (reached : route.Reached more delivery)
    (fewer : less ≤ more) : route.Reached less delivery := by
  obtain ⟨⟨floor, history, spent⟩, claim⟩ := reached
  exact ⟨⟨floor, history, fewer.trans spent⟩, claim⟩

theorem Reached.copied (reached : route.Reached spent delivery)
    (copied : route.Copied delivery copy next) : spent < copy.attempt := by
  obtain ⟨⟨floor, history, enough⟩, _⟩ := reached
  obtain ⟨floor', history', fresh⟩ := copied.history
  have same : floor = floor' := Except.ok.inj (history.symm.trans history')
  omega

variable {final : FailedDelivery} {ending : LifeEnd}

theorem Lived.keeps_reached (lived : route.Lived delivery copies ending)
    (reached : route.Reached spent delivery) (waits : ending = .waiting final) :
    route.Reached spent final := by
  induction lived with
  | stopped here => exact here final waits ▸ reached
  | copied copied _ ih => exact ih (copied.reached.mono (reached.copied copied).le) waits

theorem Lived.reached
    (lived : route.Lived delivery copies ending) (waits : ending = .waiting final) :
    ∀ copy ∈ copies, route.Reached copy.attempt final := by
  induction lived with
  | stopped => simp
  | copied copied rest ih =>
    intro other member
    rcases mem_cons.mp member with rfl | later
    · exact rest.keeps_reached copied.reached waits
    · exact ih waits other later

theorem Reached.retryCount (reached : route.Reached route.config.maxRetries delivery) :
    route.config.retryCount route.runtime (route.consumed delivery).headers =
      .ok route.config.maxRetries := by
  obtain ⟨⟨floor, history, spent⟩, claimed, claim⟩ := reached
  have read : ∃ value, route.config.claimedRetries route.runtime (route.consumed delivery).headers =
      .ok value := by
    unfold claimedRetries
    split
    · exact ⟨claimed, claim⟩
    · exact ⟨0, rfl⟩
  obtain ⟨value, read⟩ := read
  have shown : historyRetries route.runtime (route.consumed delivery).headers = .ok floor := by
    rw [historyRetries, sourceQueue_consumed, if_neg route.source.named]
    exact history
  simp only [RetryConfig.retryCount, read, shown, bind, Except.bind, pure, Except.pure,
    RetryMiddleware.retryCount, sourceQueue_consumed, if_neg route.source.named,
    Except.ok.injEq]
  omega

theorem live_of_reached (event : LifeEvent)
    (reached : route.Reached route.config.maxRetries delivery) :
    ∃ category, route.live delivery event = (none, .terminal category) := by
  have decided : ∃ category, route.config.decideRetry route.runtime
    (route.consumed delivery).headers
      event.severity event.ageExceeded = .ok (route.config.maxRetries, some category) := by
    simp only [decideRetry, reached.retryCount, bind, Except.bind, pure, Except.pure]
    split
    · exact ⟨_, rfl⟩
    · rw [if_pos le_rfl]
      exact ⟨_, rfl⟩
  obtain ⟨category, decided⟩ := decided
  exact ⟨category, by simp only [live, decided]⟩

theorem life_append {events more : List LifeEvent}
    (waits : (route.life delivery events).2 = .waiting final) :
    route.life delivery (events ++ more) =
      ((route.life delivery events).1 ++ (route.life final more).1, (route.life final more).2) := by
  induction events generalizing delivery with
  | nil =>
    cases waits
    simp [life]
  | cons event events ih =>
    rw [cons_append]
    rcases route.live_cases delivery event with
      ⟨copy, next, first, copied⟩ | requeued | ⟨category, terminal⟩ | ⟨failure, raised⟩
    · rw [life_of_copied first] at waits ⊢
      rw [life_of_copied first, ih waits, cons_append]
    · rw [life_of_requeued requeued] at waits ⊢
      rw [life_of_requeued requeued, ih waits]
    · rw [life_of_terminal terminal] at waits
      cases waits
    · rw [life_of_raised raised] at waits
      cases waits

theorem exists_late_attempt (nonempty : copies ≠ []) (later : ∀ copy ∈ copies, spent < copy.attempt)
    (increasing : copies.Pairwise fun earlier later => earlier.attempt < later.attempt) :
    ∃ last ∈ copies, spent + copies.length ≤ last.attempt := by
  induction copies generalizing spent with
  | nil => exact absurd rfl nonempty
  | cons copy copies ih =>
    have fresh := later copy mem_cons_self
    obtain ⟨after, rest⟩ := pairwise_cons.mp increasing
    by_cases empty : copies = []
    · subst empty
      exact ⟨copy, mem_cons_self, fresh⟩
    · obtain ⟨last, member, late⟩ := ih empty after rest
      refine ⟨last, mem_cons_of_mem copy member, ?_⟩
      rw [length_cons]
      omega

structure KeepsBudget (route : RetryRoute) (delivery : FailedDelivery) (events : List LifeEvent) :
    Prop where
  bounded : (route.life delivery events).1.length ≤ route.config.maxRetries
  attempts : (route.life delivery events).1.Pairwise fun earlier later =>
    earlier.attempt < later.attempt
  trustedCounters : route.config.trustRetryHeader = true →
    (route.life delivery events).1.Pairwise fun earlier later => earlier.counter < later.counter
  counters : route.config.retryHeader ∉ rewrittenHeaders →
    (route.life delivery events).1.Pairwise fun earlier later => earlier.counter ≤ later.counter
  lastAttempt : (route.life delivery events).1.length = route.config.maxRetries →
    (route.life delivery events).1 ≠ [] →
    ∃ copy ∈ (route.life delivery events).1, copy.attempt = route.config.maxRetries
  terminal : ∀ final event, (route.life delivery events).2 = .waiting final →
    (∃ copy ∈ (route.life delivery events).1, copy.attempt = route.config.maxRetries) →
    ∃ category, route.life delivery (events ++ [event]) =
      ((route.life delivery events).1, .terminal category)

/-- For any headers to begin with and any failures: at most `max_retries` copies, of
later and later attempts, and after the last attempt the terminal path. -/
theorem retry_budget (route : RetryRoute) (delivery : FailedDelivery) (events : List LifeEvent) :
    route.KeepsBudget delivery events := by
  have lived := route.lived_life delivery events
  have within : WithinBudget route.config 0 (route.life delivery events).1 :=
    lived.withinBudget fun floor _ => Nat.zero_le floor
  refine ⟨within.bounded, within.increasing, ?_, ?_, ?_, ?_⟩
  · intro trust
    refine within.increasing.imp_of_mem ?_
    intro earlier later memberEarlier memberLater before
    rwa [lived.counter_of_trusted trust earlier memberEarlier,
      lived.counter_of_trusted trust later memberLater]
  · intro untouched
    exact (lived.counters untouched fun claimed _ => Nat.zero_le claimed).2
  · intro full nonempty
    obtain ⟨last, member, late⟩ := exists_late_attempt nonempty
      (fun copy member => (within.later copy member).1) within.increasing
    have budget := (within.later last member).2
    exact ⟨last, member, by omega⟩
  · rintro final event waits ⟨copy, member, last⟩
    have reached : route.Reached route.config.maxRetries final :=
      last ▸ lived.reached waits copy member
    obtain ⟨category, ended⟩ := live_of_reached event reached
    refine ⟨category, ?_⟩
    rw [life_append waits, life_of_terminal ended, append_nil]

def asciiText : PythonText where
  int text := if text.toList.all Char.isDigit then some (Nat.ofDigitChars 10 text.toList 0) else
    none
  intBytes _ := none
  isdigit text := text.toList.all Char.isDigit
  decode _ := ""
  int_numeral n _ := by
    have digits : (toString n).toList.all Char.isDigit = true := by
      rw [numeral_toList, List.all_eq_true]
      exact fun c member =>
        Nat.isDigit_of_mem_toDigits (Nat.zero_lt_succ 9) (le_refl 10) member
    rw [if_pos digits, numeral_toList, Nat.ofDigitChars_ten_toDigits]
  isdigit_numeral n := by
    rw [numeral_toList, List.all_eq_true]
    exact fun c member => Nat.isDigit_of_mem_toDigits (Nat.zero_lt_succ 9) (le_refl 10) member

def untrustedRoute : RetryRoute where
  config := { trustRetryHeader := false }
  runtime := { text := asciiText, md5 := fun _ => 0, isIsoTime := fun _ => true }
  source := ⟨"orders", by decide⟩

/-- A forged count stays on every copy, so that the counters do not grow. -/
theorem forged_counter_repeats : ((untrustedRoute.life
      { headers := OrderedDict.empty.set "x-rabbitkit-retry-count" (.integer 100) }
      [{}, {}, {}]).1.map fun copy => (copy.attempt, copy.counter)) =
      [(1, 100), (2, 100), (3, 100)] := by
  decide

end RetryRoute
end RabbitKit
