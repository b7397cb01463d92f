import RabbitKit.AsyncSettlement

/-! # Items of a bulk publish

A bulk publish turns each input into one item with a status and a bounded reason
code.  The preparer looks at an input before anything is sent, and the two
classifiers turn what a publish returned or raised into the vocabulary of the
items, where anything that may have reached the broker is `unknown`.
-/

namespace RabbitKit

inductive BulkPublishStatus
  | confirmed
  | unroutable
  | nacked
  | invalid
  | notSent
  | unknown
  deriving DecidableEq

/-- The bounds of one operation.  A timeout that is `none` never passes. -/
structure BulkPublishOptions where
  maxInFlight : Nat := 256
  maxBufferBytes : Nat := 8 * 1024 * 1024
  admissionTimeout : ℚ := 5
  confirmTimeout : Option ℚ := none
  overallTimeout : Option ℚ := some 30
  drainGrace : ℚ := 2
  maxInFlight_pos : 1 ≤ maxInFlight := by decide
  maxBufferBytes_pos : 1 ≤ maxBufferBytes := by decide
  admissionTimeout_pos : 0 < admissionTimeout := by decide
  confirmTimeout_pos : ∀ seconds ∈ confirmTimeout, 0 < seconds := by decide
  overallTimeout_pos : ∀ seconds ∈ overallTimeout, 0 < seconds := by decide
  drainGrace_nonneg : 0 ≤ drainGrace := by decide

structure BulkPublishItem where
  index : Nat
  status : BulkPublishStatus
  reason : String
  deriving DecidableEq

/-- `PublishReason.ALL`. -/
def publishReasons : List String :=
  ["admission_timeout", "publisher_closed", "not_connected", "channel_unavailable",
    "exceeds_max_in_flight_bytes", "backpressure_dropped", "connection_lost", "channel_closed",
    "shutdown", "cancelled", "confirm_timeout", "publish_timeout", "returned", "nacked",
    "exchange_not_found", "access_refused", "precondition_failed", "invalid_envelope",
    "publish_error"]

def backpressureError : ExceptionClass := .named "BackpressureError"
def brokerNotStartedError : ExceptionClass := .named "BrokerNotStartedError"
def messageTooLargeError : ExceptionClass := .named "MessageTooLargeError"

structure PublishOutcome where
  status : PublishStatus
  reason : Option String := none
  error : Option Failure := none

/-- The exceptions that prove that nothing was submitted. -/
def provenUnsubmitted (failure : Failure) : Option (BulkPublishStatus × String) :=
  if failure.isInstance backpressureError then some (.notSent, "backpressure_dropped")
  else if failure.isInstance brokerNotStartedError then some (.notSent, "broker_not_started")
  else if failure.isInstance messageTooLargeError then some (.invalid, "body_too_large")
  else if failure.isInstanceOfAny [.valueError, .typeError] then some (.invalid, "invalid_envelope")
  else none

/-- `classify_publish_outcome`. -/
def classifyPublishOutcome : Option PublishOutcome → BulkPublishStatus × String
  | none => (.unknown, "no_outcome")
  | some outcome =>
    let reason := outcome.reason.filter (· ∈ publishReasons)
    match outcome.status with
    | .returned => (.unroutable, "returned")
    | .confirmed => (.confirmed, "confirmed")
    | .sent => (.unknown, "sent_unconfirmed")
    | .nacked => (.nacked, "nacked")
    | .timeout => (.unknown, reason.getD "confirm_timeout")
    | .unknown => (.unknown, reason.getD "publish_error")
    | .notSent =>
      let refused := outcome.error.any (·.isInstance backpressureError)
      (.notSent, reason.getD (if refused then "backpressure_dropped" else "not_sent"))
    | .error =>
      if reason = some "exchange_not_found" then (.unroutable, "exchange_not_found")
      else (outcome.error.bind provenUnsubmitted).getD (.unknown, reason.getD "publish_error")

/-- `classify_publish_exception`. -/
def classifyPublishException (failure : Failure) : BulkPublishStatus × String :=
  if failure.isInstance .cancelledError then (.unknown, "cancelled")
  else if failure.isInstance .timeoutError then (.unknown, "confirm_timeout")
  else (provenUnsubmitted failure).getD (.unknown, "publish_error")

/-- `_not_sent`. -/
def notSentItem (index : Nat) (reason : String) : BulkPublishItem := ⟨index, .notSent, reason⟩

/-- `_from_outcome`. -/
def fromOutcome (index : Nat) (outcome : Option PublishOutcome) : BulkPublishItem :=
  ⟨index, (classifyPublishOutcome outcome).1, (classifyPublishOutcome outcome).2⟩

/-- `_from_exception`. -/
def fromException (index : Nat) (failure : Failure) (reasonOverride : Option String) :
    BulkPublishItem :=
  ⟨index, (classifyPublishException failure).1,
    reasonOverride.getD (classifyPublishException failure).2⟩

def cancelledFailure : Failure where
  classes := [.cancelledError]

theorem provenUnsubmitted_status {failure : Failure} {verdict : BulkPublishStatus × String}
    (proven : provenUnsubmitted failure = some verdict) :
    verdict.1 = .notSent ∨ verdict.1 = .invalid := by
  unfold provenUnsubmitted at proven
  split at proven
  · cases proven
    exact .inl rfl
  · split at proven
    · cases proven
      exact .inl rfl
    · split at proven
      · cases proven
        exact .inr rfl
      · split at proven <;> cases proven
        exact .inr rfl

theorem getD_provenUnsubmitted_ne_confirmed (error : Option Failure) (reason : String) :
    ((error.bind provenUnsubmitted).getD (.unknown, reason)).1 ≠ .confirmed := by
  cases proven : error.bind provenUnsubmitted with
  | none => simp
  | some verdict =>
    obtain ⟨failure, _, found⟩ := Option.bind_eq_some_iff.mp proven
    rcases provenUnsubmitted_status found with here | here <;> simp [here]

variable {preparer : PublishPreparer} {index : Nat} {raw : BulkInput}

theorem fromOutcome_confirmed {outcome : Option PublishOutcome}
    (confirmed : (fromOutcome index outcome).status = .confirmed) :
    ∃ returned, outcome = some returned ∧ returned.status = .confirmed := by
  cases outcome with
  | none => cases confirmed
  | some returned =>
    refine ⟨returned, rfl, ?_⟩
    cases status : returned.status with
    | confirmed => rfl
    | error =>
      simp only [fromOutcome, classifyPublishOutcome, status] at confirmed
      split at confirmed
      · cases confirmed
      · exact absurd confirmed (getD_provenUnsubmitted_ne_confirmed _ _)
    | sent | nacked | timeout | returned | notSent | unknown =>
      simp [fromOutcome, classifyPublishOutcome, status] at confirmed

theorem fromException_ne_confirmed (index : Nat) (failure : Failure)
    (reasonOverride : Option String) :
    (fromException index failure reasonOverride).status ≠ .confirmed := by
  unfold fromException classifyPublishException
  split
  · simp
  · split
    · simp
    · exact getD_provenUnsubmitted_ne_confirmed (some failure) "publish_error"

/-- A header value, as far as the check of AMQP field tables tells values apart;
a table entry says whether its key is a string. -/
inductive FieldTableValue
  | scalar
  | sequence (values : List FieldTableValue)
  | table (entries : List (Bool × FieldTableValue))
  | other

/-- `_validate_header_value`, with the number of levels still allowed below. -/
def validateHeaderValue : Nat → FieldTableValue → Bool
  | 0, _ => false
  | levels + 1, value =>
    match value with
    | .scalar => true
    | .sequence values => values.all (validateHeaderValue levels)
    | .table entries => entries.all fun entry => entry.1 && validateHeaderValue levels entry.2
    | .other => false

inductive BulkInput
  | envelope (bodyBytes : Nat) (headers : List (Bool × FieldTableValue))
  | other

structure PublishPreparer where
  maxMessageBytes : Nat
  maxBufferBytes : Nat

/-- `prepare`. -/
def PublishPreparer.prepare (preparer : PublishPreparer) (index : Nat) :
    BulkInput → Except BulkPublishItem Nat
  | .other => .error ⟨index, .invalid, "invalid_type"⟩
  | .envelope bodyBytes headers =>
    if preparer.maxMessageBytes ≠ 0 ∧ preparer.maxMessageBytes < bodyBytes then
      .error ⟨index, .invalid, "body_too_large"⟩
    else if preparer.maxBufferBytes < bodyBytes then
      .error ⟨index, .invalid, "exceeds_max_buffer_bytes"⟩
    else if headers.all fun entry => entry.1 && validateHeaderValue 9 entry.2 then .ok bodyBytes
    else .error ⟨index, .invalid, "invalid_headers"⟩

theorem PublishPreparer.prepare_error
    {item : BulkPublishItem} (refused : preparer.prepare index raw = .error item) :
    item.index = index ∧ item.status = .invalid := by
  cases raw with
  | other =>
    cases refused
    exact ⟨rfl, rfl⟩
  | envelope bodyBytes headers =>
    simp only [prepare] at refused
    split at refused
    · cases refused
      exact ⟨rfl, rfl⟩
    · split at refused
      · cases refused
        exact ⟨rfl, rfl⟩
      · split at refused <;> cases refused
        exact ⟨rfl, rfl⟩

theorem PublishPreparer.prepare_ok {index bytes : Nat}
    (prepared : preparer.prepare index raw = .ok bytes) : bytes ≤ preparer.maxBufferBytes := by
  cases raw with
  | other => cases prepared
  | envelope bodyBytes headers =>
    simp only [prepare] at prepared
    split at prepared
    · cases prepared
    · split at prepared
      · cases prepared
      next fits =>
        split at prepared <;> cases prepared
        exact not_lt.mp fits

end RabbitKit
