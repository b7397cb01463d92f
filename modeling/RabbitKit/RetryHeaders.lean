import RabbitKit.DeadLetterReplay
import RabbitKit.RetryBudget
import RabbitKit.TopologyDeclaration

/-! # Headers that the retry budget is read from

How many retries a delivery has behind it is read from the retry header, from the queue it was
consumed from and from the `x-death` history; its age from the time of its first failure; and how
often it was replayed from a header of its own.  Anybody can publish such headers.  A replay
resets them, and `strip_reserved_headers` takes them off what the application publishes.
-/

namespace RabbitKit

open RetryConfig RetryRuntime OrderedDict

variable {config : RetryConfig} {runtime : RetryRuntime} {delivery : FailedDelivery}
  {headers headers' : HeaderTable}

def firstFailedAtHeader : String := "x-rabbitkit-first-failed-at"

/-- `_retry_age_exceeded`; `age` is how long ago the time is that `parse_iso` reads. -/
def retryAgeExceeded (maxRetryAge : Option ℚ) (age : HeaderField → Option ℚ)
    (headers : HeaderTable) : Bool :=
  match maxRetryAge, (headers.get? firstFailedAtHeader).bind age with
  | some limit, some passed => limit < passed
  | _, _ => false

/-- `_build_dlq_envelope` with `dead_letter_envelope`; there is no copy when the source queue is
unknown. -/
def RetryConfig.buildDlqEnvelope (runtime : RetryRuntime) (delivery : FailedDelivery)
    (retryCount : Nat) (stamp : FailureStamp) : Except Failure (Option RetryEnvelope) :=
  match terminalQueue runtime delivery.headers with
  | none => .ok none
  | some dlq => do
    let identified := delivery.stableMessageId runtime stamp.freshId
    let headers ← stamp.stampFailure runtime (retryCount + 1) identified.2
    if 255 < dlq.utf8ByteSize then throw configValidationError
    else return some {
      routingKey := dlq
      headers := headers.set "x-rabbitkit-dead-lettered-at" (.text stamp.now)
      messageId := identified.1 }

theorem retryCount_of_no_history (history : headers.get? xDeathHeader = none) :
    config.retryCount runtime headers =
      (config.claimedRetries runtime headers).map (min · config.maxRetries) := by
  have floor : historyRetries runtime headers = .ok 0 := by
    simp [historyRetries, xdeathRetryFloor, history]
  unfold retryCount claimedRetries
  rw [floor]
  split
  next trusted =>
    cases runtime.headerCount headers config.retryHeader <;>
      simp [bind, Except.bind, pure, Except.pure, Except.map, RetryMiddleware.retryCount, trusted]
  next untrusted =>
    simp [bind, Except.bind, pure, Except.pure, Except.map, RetryMiddleware.retryCount, untrusted]

theorem retryCount_of_absent
    (unclaimed : config.trustRetryHeader = true → headers.get? config.retryHeader = none)
    (history : headers.get? xDeathHeader = none) : config.retryCount runtime headers = .ok 0 := by
  rw [retryCount_of_no_history history, claimedRetries]
  split
  next trusted =>
    simp [headerCount, getD, unclaimed trusted, headerInt, Except.map]
  · simp [Except.map]

theorem retryCount_congr (same : ∀ name ∈ [config.retryHeader, originalQueueHeader, xDeathHeader],
      headers'.get? name = headers.get? name) :
    config.retryCount runtime headers' = config.retryCount runtime headers := by
  have source : sourceQueue runtime headers' = sourceQueue runtime headers := by
    simp only [sourceQueue, headerTextOf, same originalQueueHeader (by simp)]
  have claimed :
      config.claimedRetries runtime headers' = config.claimedRetries runtime headers := by
    simp only [claimedRetries, headerCount, getD, same config.retryHeader (by simp)]
  have history : historyRetries runtime headers' = historyRetries runtime headers := by
    simp only [historyRetries, xdeathRetryFloor, source, same xDeathHeader (by simp)]
  simp only [retryCount, source, claimed, history]

theorem retryAgeExceeded_of_absent (maxRetryAge : Option ℚ) (age : HeaderField → Option ℚ)
    (absent : headers.get? firstFailedAtHeader = none) :
    retryAgeExceeded maxRetryAge age headers = false := by
  cases maxRetryAge <;> simp [retryAgeExceeded, absent]

theorem headerInt_ok_iff {value : HeaderField} :
    (∃ n, runtime.headerInt value = .ok n) ↔ value ≠ .real .infinite := by
  unfold headerInt
  split <;> simp_all

theorem readable_iff {name : String} :
    Readable runtime name headers ↔ headers.get? name ≠ some (.real .infinite) := by
  unfold Readable headerCount getD
  rw [headerInt_ok_iff]
  cases found : headers.get? name with
  | none => simp
  | some value => simp

/-- No count is an infinite number, and what `str.isdigit` takes for the attempt of a delay queue
in the history is a numeral for `int`. -/
structure Legible (config : RetryConfig) (runtime : RetryRuntime) (headers : HeaderTable) :
    Prop where
  finite : ∀ name ∈ [config.retryHeader, "x-rabbitkit-attempts", replayCountHeader],
    headers.get? name ≠ some (.real .infinite)
  numerals : ∀ deaths, headers.get? xDeathHeader = some (.list deaths) → ∀ death ∈ deaths,
    ∀ tier, delayTier (sourceQueue runtime headers) (runtime.deathQueue death) = some tier →
      runtime.text.isdigit tier = true → (runtime.text.int tier).isSome = true

theorem raiseFloor_ok_iff {source : String} {death : HeaderField} (floor : Nat) :
    (∃ n, runtime.raiseFloor source floor death = .ok n) ↔
      ∀ tier, delayTier source (runtime.deathQueue death) = some tier →
        runtime.text.isdigit tier = true → (runtime.text.int tier).isSome = true := by
  unfold raiseFloor
  cases delayTier source (runtime.deathQueue death) with
  | none => simp
  | some tier =>
    by_cases digits : runtime.text.isdigit tier = true
    · cases numeral : runtime.text.int tier <;> simp [digits, numeral]
    · simp [digits]

theorem foldlM_raiseFloor_ok_iff {source : String} {deaths : List HeaderField} (floor : Nat) :
    (∃ n, deaths.foldlM (runtime.raiseFloor source) floor = .ok n) ↔
      ∀ death ∈ deaths, ∀ tier, delayTier source (runtime.deathQueue death) = some tier →
        runtime.text.isdigit tier = true → (runtime.text.int tier).isSome = true := by
  induction deaths generalizing floor with
  | nil => simp [pure, Except.pure]
  | cons death deaths ih =>
    rw [List.forall_mem_cons, ← raiseFloor_ok_iff floor, List.foldlM_cons]
    cases raised : runtime.raiseFloor source floor death with
    | error failure => simp [bind, Except.bind]
    | ok next => simpa [bind, Except.bind] using ih next

theorem xdeathRetryFloor_ok_iff {source : String} :
    (∃ n, runtime.xdeathRetryFloor headers source = .ok n) ↔
      ∀ deaths, headers.get? xDeathHeader = some (.list deaths) → ∀ death ∈ deaths,
        ∀ tier, delayTier source (runtime.deathQueue death) = some tier →
          runtime.text.isdigit tier = true → (runtime.text.int tier).isSome = true := by
  unfold xdeathRetryFloor
  split
  next deaths found =>
    rw [foldlM_raiseFloor_ok_iff]
    simp [found]
  next other =>
    exact iff_of_true ⟨0, rfl⟩ fun deaths found => absurd found (other deaths)

theorem Legible.retryCount_ok (legible : Legible config runtime headers) :
    ∃ n ≤ config.maxRetries, config.retryCount runtime headers = .ok n := by
  obtain ⟨claimed, readClaim⟩ : ∃ n, config.claimedRetries runtime headers = .ok n := by
    unfold claimedRetries
    split
    · exact readable_iff.mpr (legible.finite _ (by simp))
    · exact ⟨0, rfl⟩
  obtain ⟨floor, readFloor⟩ : ∃ n, historyRetries runtime headers = .ok n := by
    unfold historyRetries
    split
    · exact ⟨0, rfl⟩
    · exact xdeathRetryFloor_ok_iff.mpr legible.numerals
  refine ⟨_, ?_, by rw [retryCount, readClaim, readFloor]; rfl⟩
  exact Nat.min_le_right _ _

theorem stampFailure_ok_iff (stamp : FailureStamp) (attempts : Nat) :
    (∃ stamped, stamp.stampFailure runtime attempts headers = .ok stamped) ↔
      Readable runtime "x-rabbitkit-attempts" headers := by
  have same : runtime.headerCount (stamp.stampError (stamp.stampOrigin headers))
      "x-rabbitkit-attempts" = runtime.headerCount headers "x-rabbitkit-attempts" := by
    unfold headerCount getD FailureStamp.stampOrigin
    rw [FailureStamp.get?_stampError (by decide), get?_setDefault_of_ne (by decide),
      get?_setDefault_of_ne (by decide), get?_setDefault_of_ne (by decide)]
  unfold FailureStamp.stampFailure Readable
  simp only [same]
  cases runtime.headerCount headers "x-rabbitkit-attempts" <;>
    simp [bind, Except.bind, pure, Except.pure]

theorem Readable.stableMessageId {name : String} (freshId : String)
    (readable : Readable runtime name delivery.headers) :
    Readable runtime name (delivery.stableMessageId runtime freshId).2 := by
  unfold FailedDelivery.stableMessageId
  dsimp only
  split
  · exact readable.setText _
  · exact readable

/-- The copy is built, or it is refused for the length of the routing key. -/
def BuiltFor {α : Type} (routingKey : String) (built : Except Failure α) : Prop :=
  (∃ envelope, built = .ok envelope) ∨
    255 < routingKey.utf8ByteSize ∧ built = .error configValidationError

theorem builtFor_buildRetryEnvelope {stamp : FailureStamp} {count : Nat}
    (counts : Readable runtime config.retryHeader delivery.headers)
    (attempted : Readable runtime "x-rabbitkit-attempts" delivery.headers) :
    BuiltFor (config.delayQueueFor runtime (namedSource runtime delivery.headers)
        (delivery.stableMessageId runtime stamp.freshId).1 (count + 1))
      (config.buildRetryEnvelope runtime delivery count stamp) := by
  obtain ⟨claimed, counted⟩ := counts
  have numbered : Readable runtime "x-rabbitkit-attempts" ((delivery.stableMessageId runtime
      stamp.freshId).2.set config.retryHeader (.integer (max (count + 1) claimed : Nat))) :=
    (attempted.stableMessageId stamp.freshId).setNat _
  obtain ⟨stamped, success⟩ := (stampFailure_ok_iff stamp (count + 1)).mpr numbered
  have counter : config.attemptCounter runtime delivery.headers (count + 1) =
      .ok (max (count + 1) claimed) := by
    rw [attemptCounter, counted]
    rfl
  simp only [BuiltFor, buildRetryEnvelope, counter, success, bind, Except.bind]
  split
  next long =>
    exact .inr ⟨long, rfl⟩
  · exact .inl ⟨_, rfl⟩

theorem readable_of_builtFor {stamp : FailureStamp} {count : Nat} {routingKey : String}
    (built : BuiltFor routingKey (config.buildRetryEnvelope runtime delivery count stamp)) :
    Readable runtime config.retryHeader delivery.headers := by
  cases counted : runtime.headerCount delivery.headers config.retryHeader with
  | ok claimed => exact ⟨claimed, counted⟩
  | error failure =>
    have raises : config.buildRetryEnvelope runtime delivery count stamp = .error failure := by
      rw [buildRetryEnvelope, attemptCounter, counted]
      rfl
    have overflows : failure = overflowError := by
      unfold headerCount headerInt at counted
      split at counted <;> cases counted
      rfl
    rcases built with ⟨envelope, returned⟩ | ⟨_, refused⟩
    · rw [raises] at returned
      cases returned
    · rw [raises, overflows] at refused
      simp [overflowError, configValidationError] at refused

theorem builtFor_buildDlqEnvelope {stamp : FailureStamp} {count : Nat}
    (attempted : Readable runtime "x-rabbitkit-attempts" delivery.headers) :
    BuiltFor ((terminalQueue runtime delivery.headers).getD "")
      (buildDlqEnvelope runtime delivery count stamp) := by
  obtain ⟨stamped, success⟩ := (stampFailure_ok_iff stamp (count + 1)).mpr
    (attempted.stableMessageId stamp.freshId)
  cases found : terminalQueue runtime delivery.headers with
  | none => exact .inl ⟨none, by simp [buildDlqEnvelope, found]⟩
  | some dlq =>
    simp only [BuiltFor, buildDlqEnvelope, found, success, bind, Except.bind]
    split
    next long =>
      exact .inr ⟨long, rfl⟩
    · exact .inl ⟨_, rfl⟩

/-- `header_int` reads every value but an infinite number.  All the readers return on a header
table, with a count within the budget, and a copy is refused for nothing but the length of its
routing key, exactly when the table is legible. -/
theorem readers_total (count : Nat) (stamp : FailureStamp) :
    (∀ value, (∃ n, runtime.headerInt value = .ok n) ↔ value ≠ .real .infinite) ∧
      ((∃ n, runtime.replayCount delivery.headers = .ok n) ∧
        (∃ n, runtime.xdeathRetryFloor delivery.headers (sourceQueue runtime delivery.headers) =
          .ok n) ∧ (∃ n ≤ config.maxRetries, config.retryCount runtime delivery.headers = .ok n) ∧
        (∃ stamped, stamp.stampFailure runtime count delivery.headers = .ok stamped) ∧
        BuiltFor (config.delayQueueFor runtime (namedSource runtime delivery.headers)
            (delivery.stableMessageId runtime stamp.freshId).1 (count + 1))
          (config.buildRetryEnvelope runtime delivery count stamp) ∧
        BuiltFor ((terminalQueue runtime delivery.headers).getD "")
          (buildDlqEnvelope runtime delivery count stamp) ↔
      Legible config runtime delivery.headers) := by
  refine ⟨fun _ => headerInt_ok_iff, fun total => ?_, fun legible => ?_⟩
  · obtain ⟨replays, floor, _, stamped, retried, _⟩ := total
    have attempted := (stampFailure_ok_iff stamp count).mp stamped
    refine ⟨?_, xdeathRetryFloor_ok_iff.mp floor⟩
    simp only [List.forall_mem_cons, List.not_mem_nil, false_implies, implies_true, and_true]
    exact ⟨readable_iff.mp (readable_of_builtFor retried), readable_iff.mp attempted,
      readable_iff.mp replays⟩
  · have counts : Readable runtime config.retryHeader delivery.headers :=
      readable_iff.mpr (legible.finite _ (by simp))
    have attempted : Readable runtime "x-rabbitkit-attempts" delivery.headers :=
      readable_iff.mpr (legible.finite _ (by simp))
    exact ⟨readable_iff.mpr (legible.finite _ (by simp)),
      xdeathRetryFloor_ok_iff.mpr legible.numerals, legible.retryCount_ok,
      (stampFailure_ok_iff stamp count).mpr attempted,
      builtFor_buildRetryEnvelope counts attempted, builtFor_buildDlqEnvelope attempted⟩

def trustedRetry : RetryConfig :=
  { RetryRoute.untrustedRoute.config with trustRetryHeader := true }

def asciiRuntime : RetryRuntime where
  text := RetryRoute.asciiText
  md5 _ := 0
  isIsoTime _ := true

def labelled (name : String) (value : HeaderField) : FailedDelivery where
  headers := OrderedDict.empty.set name value

/-- Python's digits include a superscript two, which `int` refuses. -/
def superscriptText : PythonText :=
  { RetryRoute.asciiText with
    isdigit := fun text => text == "²" || RetryRoute.asciiText.isdigit text
    isdigit_numeral := fun n => by rw [RetryRoute.asciiText.isdigit_numeral, Bool.or_true] }

theorem retryCount_raises : trustedRetry.retryCount asciiRuntime
        (labelled "x-rabbitkit-retry-count" (.real .infinite)).headers =
        .error RetryRuntime.overflowError ∧
      trustedRetry.retryCount { asciiRuntime with text := superscriptText }
          ((labelled originalQueueHeader (.text "orders")).headers.set xDeathHeader
            (.list [.table [("queue", .text "orders.retry.²")]])) =
        .error RetryRuntime.valueError :=
  ⟨rfl, rfl⟩

def replayedHeaders : List String :=
  [previousRetryCountHeader, replayCountHeader, replayedAtHeader, replayedByHeader]

theorem get?_resetRetryBudget {retryHeader name : String}
    (other : name ≠ previousRetryCountHeader) : (resetRetryBudget retryHeader headers).get? name =
      if name ∈ resetStripHeaders ∨ name = retryHeader then none else headers.get? name := by
  have popped : ((headers.erase retryHeader).eraseAll resetStripHeaders).get? name =
      if name ∈ resetStripHeaders ∨ name = retryHeader then none else headers.get? name := by
    rw [get?_eraseAll, get?_erase, ite_or]
  unfold resetRetryBudget
  split
  · exact popped
  · exact popped
  · rwa [get?_eraseAll, get?_set, if_neg other, ← get?_eraseAll]

theorem get?_prepareReplayHeaders {resetRetryCount : Bool} {retryHeader actor now name : String}
    (other : name ∉ replayedHeaders) (prepared :
      runtime.prepareReplayHeaders resetRetryCount retryHeader actor now headers = .ok headers') :
    headers'.get? name =
      if resetRetryCount = true ∧ (name ∈ resetStripHeaders ∨ name = retryHeader) then none
      else headers.get? name := by
  simp only [replayedHeaders, List.mem_cons, List.not_mem_nil, or_false, not_or] at other
  obtain ⟨notPrevious, notCount, notAt, notBy⟩ := other
  obtain ⟨count, _, result⟩ := ok_of_bind prepared
  cases result
  simp only [get?_set, notCount, notAt, notBy, if_false]
  cases resetRetryCount with
  | true => simpa using get?_resetRetryBudget notPrevious
  | false => simp

/-- A replay that resets the retry count gives the message its full budget, and one that does not
leaves the count as it was. -/
theorem replay_resets_budget {resetRetryCount : Bool} {actor now : String}
    (maxRetryAge : Option ℚ) (age : HeaderField → Option ℚ)
    (separate : config.retryHeader ∉ replayedHeaders)
    (prepared : runtime.prepareReplayHeaders resetRetryCount config.retryHeader actor now headers =
      .ok headers') : (resetRetryCount = true → config.retryCount runtime headers' = .ok 0 ∧
        retryAgeExceeded maxRetryAge age headers' = false) ∧ (resetRetryCount = false →
        config.retryCount runtime headers' = config.retryCount runtime headers) := by
  refine ⟨fun reset => ⟨retryCount_of_absent (fun _ => ?_) ?_, ?_⟩, fun kept => ?_⟩
  · simp [get?_prepareReplayHeaders separate prepared, reset]
  · rw [get?_prepareReplayHeaders (by decide) prepared, if_pos ⟨reset, .inl (by decide)⟩]
  · refine retryAgeExceeded_of_absent maxRetryAge age ?_
    rw [get?_prepareReplayHeaders (by decide) prepared, if_pos ⟨reset, .inl (by decide)⟩]
  · refine retryCount_congr fun name member => ?_
    have other : name ∉ replayedHeaders := by
      simp only [List.mem_cons, List.not_mem_nil, or_false] at member
      rcases member with rfl | rfl | rfl
      · exact separate
      · decide
      · decide
    simp [get?_prepareReplayHeaders other prepared, kept]

def customRetryHeader : RetryConfig :=
  { trustedRetry with retryHeader := "x-tries" }

theorem replay_resets_budget_custom :
    ∃ prepared, asciiRuntime.prepareReplayHeaders true "x-tries" "ops" "now"
        (labelled "x-tries" (.integer 3)).headers = .ok prepared ∧
      customRetryHeader.retryCount asciiRuntime prepared = .ok 0 := by
  have prepared : asciiRuntime.prepareReplayHeaders true customRetryHeader.retryHeader "ops" "now"
      (labelled "x-tries" (.integer 3)).headers = .ok _ := rfl
  exact ⟨_, prepared, ((replay_resets_budget none (fun _ => none) (by decide) prepared).1 rfl).1⟩

/-- The default name of the retry header is not the one that the route counts with. -/
theorem replay_keeps_custom_count :
    (asciiRuntime.prepareReplayHeaders true retryCountHeader "ops" "now"
        (labelled "x-tries" (.integer 3)).headers >>=
      customRetryHeader.retryCount asciiRuntime) = .ok 3 :=
  rfl

/-- `RESERVED_HEADERS`. -/
def reservedHeaders : List String :=
  ["x-death", "x-rabbitkit-retry-count", "x-rabbitkit-attempts", "x-rabbitkit-first-failed-at",
    "x-rabbitkit-last-failed-at", "x-rabbitkit-original-queue", "x-rabbitkit-original-exchange",
    "x-rabbitkit-original-routing-key", "x-rabbitkit-original-message-id",
    "x-rabbitkit-original-expiration", "x-rabbitkit-error", "x-rabbitkit-error-category",
    "x-rabbitkit-error-class", "x-rabbitkit-error-message", "x-rabbitkit-error-type",
    "x-rabbitkit-failure-category", "x-rabbitkit-dead-lettered-at", "x-rabbitkit-replay-count",
    "x-rabbitkit-replayed-at", "x-rabbitkit-replayed-by", "x-rabbitkit-previous-retry-count"]

/-- The names that the stripper of a broker with this retry default removes. -/
def strippedHeaders (brokerRetry : Option RetryConfig) : List String :=
  reservedHeaders ++ (brokerRetry.map (·.retryHeader)).toList

/-- The headers of an application publish when it is first delivered to a route. -/
def firstDelivery (brokerRetry : Option RetryConfig) (queue : String) (headers : HeaderTable) :
    HeaderTable :=
  (headers.eraseAll (strippedHeaders brokerRetry)).set originalQueueHeader (.text queue)

theorem get?_firstDelivery (brokerRetry : Option RetryConfig) (queue name : String) :
    (firstDelivery brokerRetry queue headers).get? name =
      if name = originalQueueHeader then some (.text queue)
      else if name ∈ strippedHeaders brokerRetry then none else headers.get? name := by
  simp only [firstDelivery, get?_set, get?_eraseAll]

theorem get?_firstDelivery_reserved (brokerRetry : Option RetryConfig) (queue : String)
    {name : String} (other : name ≠ originalQueueHeader) (reserved : name ∈ reservedHeaders) :
    (firstDelivery brokerRetry queue headers).get? name = none := by
  rw [get?_firstDelivery, if_neg other, if_pos]
  exact List.mem_append_left _ reserved

/-- What a delivery claims under a name: the name of its queue, under the header that the consumer
callback writes, and else what the application published. -/
def claimUnder (queue : String) (headers : HeaderTable) (name : String) : HeaderField :=
  if name = originalQueueHeader then .text queue else headers.getD name (.integer 0)

/-- A retry header that is trusted is one that the stripper knows, or reads as no retries. -/
def Unspent (runtime : RetryRuntime) (brokerRetry : Option RetryConfig) (queue : String)
    (headers : HeaderTable) (config : RetryConfig) : Prop :=
  config.trustRetryHeader = true →
    config.retryHeader ∈ strippedHeaders brokerRetry ∧ config.retryHeader ≠ originalQueueHeader ∨
      ∃ claimed, runtime.headerInt (claimUnder queue headers config.retryHeader) = .ok claimed ∧
        (claimed = 0 ∨ config.maxRetries = 0)

theorem retryCount_firstDelivery_iff (brokerRetry : Option RetryConfig) (queue : String) :
    config.retryCount runtime (firstDelivery brokerRetry queue headers) = .ok 0 ↔
      Unspent runtime brokerRetry queue headers config := by
  rw [retryCount_of_no_history
    (get?_firstDelivery_reserved brokerRetry queue (by decide) (by decide)), claimedRetries]
  unfold Unspent
  split
  next trusted =>
    by_cases known : config.retryHeader ∈ strippedHeaders brokerRetry ∧
        config.retryHeader ≠ originalQueueHeader
    · simp [headerCount, getD, get?_firstDelivery, known.1, known.2, headerInt, Except.map,
        trusted]
    · have read : runtime.headerCount (firstDelivery brokerRetry queue headers)
          config.retryHeader = runtime.headerInt (claimUnder queue headers config.retryHeader) := by
        unfold headerCount claimUnder getD
        rw [get?_firstDelivery]
        by_cases own : config.retryHeader = originalQueueHeader
        · simp [own]
        · have kept : config.retryHeader ∉ strippedHeaders brokerRetry :=
            fun stripped => known ⟨stripped, own⟩
          simp [own, kept]
      rw [read]
      cases runtime.headerInt (claimUnder queue headers config.retryHeader) <;>
        simp [known, trusted, Except.map]
  next untrusted =>
    simp [untrusted, Except.map]

/-- A published table spends retries of a route exactly when the route trusts a retry header that
the stripper does not know and that reads as some; nothing else of it counts. -/
theorem stripped_publish_fresh (brokerRetry : Option RetryConfig) (route : Route)
    (queue : String) (maxRetryAge : Option ℚ) (age : HeaderField → Option ℚ) :
    ((∀ config ∈ route.effectiveRetryConfig brokerRetry,
        config.retryCount runtime (firstDelivery brokerRetry queue headers) = .ok 0) ↔
      ∀ config ∈ route.effectiveRetryConfig brokerRetry,
        Unspent runtime brokerRetry queue headers config) ∧
      retryAgeExceeded maxRetryAge age (firstDelivery brokerRetry queue headers) = false ∧
      runtime.replayCount (firstDelivery brokerRetry queue headers) = .ok 0 ∧ ∀ other : HeaderTable,
        (∀ name ∉ strippedHeaders brokerRetry, other.get? name = headers.get? name) →
        ∀ name, (firstDelivery brokerRetry queue other).get? name =
          (firstDelivery brokerRetry queue headers).get? name := by
  refine ⟨forall₂_congr fun _ _ => retryCount_firstDelivery_iff brokerRetry queue, ?_, ?_,
    fun other same name => ?_⟩
  · refine retryAgeExceeded_of_absent maxRetryAge age ?_
    exact get?_firstDelivery_reserved brokerRetry queue (by decide) (by decide)
  · have absent : (firstDelivery brokerRetry queue headers).get? replayCountHeader = none :=
      get?_firstDelivery_reserved brokerRetry queue (by decide) (by decide)
    simp [RetryRuntime.replayCount, RetryRuntime.headerCount, OrderedDict.getD, absent,
      RetryRuntime.headerInt]
  · rw [get?_firstDelivery, get?_firstDelivery]
    by_cases stripped : name ∈ strippedHeaders brokerRetry
    · simp [stripped]
    · simp [stripped, same name stripped]

def overridingRoute (override : RetryOverride) : Route where
  queue := ⟨{ name := "orders" }, by decide⟩
  retryOverride := override

theorem override_counts_published :
    (overridingRoute (.config customRetryHeader)).effectiveRetryConfig (some trustedRetry) =
        some customRetryHeader ∧ customRetryHeader.retryCount asciiRuntime
        (firstDelivery (some trustedRetry) "orders" (labelled "x-tries" (.integer 9)).headers) =
          .ok 4 :=
  ⟨rfl, rfl⟩

end RabbitKit
