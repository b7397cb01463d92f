import Mathlib.Data.List.Basic

/-! # Failures and their classification

What the failure path of the pipeline reads of a Python exception: the classes it is an instance of,
the attributes that `RetryMiddleware`, `ExceptionMiddleware` and the pipeline hand to each other on
the exception object, and which new attributes its class refuses. `classifyError` turns a failure
into a category of the failure taxonomy.
-/

namespace RabbitKit

/-- The exception classes the library itself names; an application adds its own. -/
inductive ExceptionClass
  | exception
  | timeoutError
  | eofError
  | osError
  | jsonDecodeError
  | keyError
  | valueError
  | typeError
  | unicodeDecodeError
  | attributeError
  | missingDependencyError
  | invalidMessageError
  | inboundMessageTooLargeError
  | handlerTimeoutError
  | settlementError
  | ackMessage
  | nackMessage
  | rejectMessage
  | cancelledError
  | keyboardInterrupt
  | systemExit
  | named (name : String)
  deriving DecidableEq

inductive ErrorSeverity
  | transient
  | permanent
  deriving DecidableEq

inductive ErrorCategory
  | retryable
  | permanent
  | invalidMessage
  | unknownOutcome
  | infrastructure
  | shutdown
  deriving DecidableEq

/-- `severity`. -/
def ErrorCategory.severity : ErrorCategory → ErrorSeverity
  | .permanent | .invalidMessage => .permanent
  | _ => .transient

/-- The attributes the library assigns on an exception object it was handed. -/
inductive FailureAttribute
  | errorCategory
  | terminal
  | deadLettered
  | deadLetterFailed
  | onDeadLettered
  deriving DecidableEq

/-- An exception object.  `classes` is the method resolution order of its type,
`requeue` the field of the settlement signals, and `refuses` what its class raises
when an attribute is assigned, as a frozen dataclass does for each of them. -/
structure Failure where
  classes : List ExceptionClass
  requeue : Bool := false
  declared : Option ErrorCategory := none
  channelGone : Bool := false
  terminal : Bool := false
  deadLettered : Bool := false
  deadLetterFailed : Bool := false
  refuses : FailureAttribute → Option Failure := fun _ => none

namespace Failure

def isInstance (failure : Failure) (cls : ExceptionClass) : Bool :=
  decide (cls ∈ failure.classes)

def isInstanceOfAny (failure : Failure) (classes : List ExceptionClass) : Bool :=
  classes.any failure.isInstance

/-- One attribute assignment, which the class of the exception may refuse. -/
def assign (failure : Failure) (name : FailureAttribute) (stored : Failure) :
    Except Failure Failure :=
  match failure.refuses name with
  | some refusal => .error refusal
  | none => .ok stored

/-- `AckMessage`, `NackMessage` and `RejectMessage` are control flow, never retried. -/
def isSettlementSignal (failure : Failure) : Bool :=
  failure.isInstanceOfAny [.ackMessage, .nackMessage, .rejectMessage]

/-- `HandlerTimeoutError`. -/
def handlerTimeout : Failure where
  classes := [.handlerTimeoutError, .timeoutError, .osError, .exception]

/-- `InboundMessageTooLargeError`. -/
def inboundMessageTooLarge : Failure where
  classes := [.inboundMessageTooLargeError, .invalidMessageError, .valueError, .exception]
  declared := some .invalidMessage

/-- The tag on a failure to decode the body or of an `on_receive` hook.  A failure
that declares a category keeps it, and one that refuses the tag goes untagged. -/
def markInvalidMessage (failure : Failure) : Except Failure Failure :=
  match failure.declared with
  | some _ => .ok failure
  | none =>
    match failure.assign .errorCategory { failure with declared := some .invalidMessage } with
    | .ok marked => .ok marked
    | .error refusal =>
      if refusal.isInstanceOfAny [.attributeError, .typeError] then .ok failure
      else .error refusal

end Failure

def shutdownErrors : List ExceptionClass :=
  [.cancelledError, .keyboardInterrupt, .systemExit]

def transientErrors : List ExceptionClass :=
  [.timeoutError, .eofError, .osError]

def permanentErrors : List ExceptionClass :=
  [.jsonDecodeError, .keyError, .valueError, .typeError, .unicodeDecodeError, .attributeError,
    .missingDependencyError]

/-- What a predicate of the application says about a failure. -/
inductive PredicateOpinion
  | transient
  | permanent
  | category (category : ErrorCategory)
  | none
  deriving DecidableEq

/-- A predicate is code of the application and may raise itself. -/
abbrev ErrorPredicate := Failure → Except Failure PredicateOpinion

structure ClassifierOptions where
  predicates : List ErrorPredicate := []
  infrastructure : List ExceptionClass := []
  unknownPolicy : ErrorSeverity := .permanent

/-- The predicates are asked in their order. -/
def firstOpinion (failure : Failure) : List ErrorPredicate → Except Failure (Option ErrorCategory)
  | [] => .ok none
  | predicate :: predicates =>
    match predicate failure with
    | .error raised => .error raised
    | .ok .transient => .ok (some .retryable)
    | .ok .permanent => .ok (some .permanent)
    | .ok (.category category) => .ok (some category)
    | .ok .none => firstOpinion failure predicates

/-- `_classify`, by the class of the exception. -/
def categoryByClass (options : ClassifierOptions) (failure : Failure) : ErrorCategory :=
  if failure.isInstanceOfAny options.infrastructure then .infrastructure
  else if failure.isInstanceOfAny transientErrors then .retryable
  else if failure.isInstanceOfAny permanentErrors then .permanent
  else if options.unknownPolicy = .transient then .retryable
  else .permanent

/-- `classify_error`. -/
def classifyError (options : ClassifierOptions) (failure : Failure) :
    Except Failure ErrorCategory :=
  if failure.isInstanceOfAny shutdownErrors then .ok .shutdown
  else
    match failure.declared with
    | some category => .ok category
    | none =>
      match firstOpinion failure options.predicates with
      | .error raised => .error raised
      | .ok (some category) => .ok category
      | .ok none => .ok (categoryByClass options failure)

end RabbitKit
