import RabbitKit.InteractionScripts
import RabbitKit.AsyncSettlement

/-! # What code around one delivery can do

The application's code and the pipeline touch a delivery through the same calls: they look at the
disposition of the message, call `ack`, `nack` or `reject`, and hand an envelope to a publisher.

The sync and the async message answer the settlement calls differently when the transport raises.
The sync one stays pending, the async one keeps its claim.
-/

namespace RabbitKit

open InteractionScripts

/-- An outgoing message.  Values of headers are kept as text. -/
structure MessageEnvelope where
  routingKey : String
  body : List UInt8
  exchange : String := ""
  headers : List (String × String) := []
  messageId : String
  correlationId : Option String := none
  replyTo : Option String := none
  timestamp : Option Int := none
  contentType : String := "application/json"
  contentEncoding : Option String := none
  expiration : Option String := none
  priority : Option Int := none
  mandatory : Bool := false
  deliveryMode : Nat := 2
  type : Option String := none
  userId : Option String := none
  appId : Option String := none
  deriving DecidableEq

/-- What is handed to a publisher while a delivery is processed: the result of the
handler, or a copy of the delivery. -/
inductive Publication
  | result (envelope : MessageEnvelope)
  | copy (target : CopyTarget)
  deriving DecidableEq

inductive MessageCall
  | disposition
  | settle (settlement : Settlement)
  | publish (publication : Publication)
  deriving DecidableEq

@[reducible]
def MessageCall.Answer : MessageCall → Type
  | .disposition => Disposition
  | .settle _ => Option Interrupt
  | .publish _ => PublishAnswer

abbrev MessageScript := Script MessageCall MessageCall.Answer Interrupt

/-- How the transport answers: what the settlement function raises for each frame
it is handed, and the outcome of each publish, counted from the first. -/
structure Transport where
  settle : Nat → Option Interrupt
  publish : Nat → PublishAnswer

/-- The frames and envelopes handed to the transport, and what the message knows of
its settlement. -/
structure MessageWorld where
  disposition : Disposition := .pending
  frames : List Settlement := []
  published : List Publication := []
  deriving DecidableEq

namespace Transport

variable (transport : Transport)

/-- `ack`, `nack` and `reject`: the disposition is set after the settlement function
has returned. -/
def settleSync (settlement : Settlement) (w : MessageWorld) : Option Interrupt × MessageWorld :=
  if w.disposition = .pending then
    match transport.settle w.frames.length with
    | none =>
      (none, { w with
        disposition := settlement.disposition
        frames := w.frames ++ [settlement] })
    | some interrupt => (some interrupt, { w with frames := w.frames ++ [settlement] })
  else (none, w)

/-- `_settle_async`: the disposition is set before the settlement function is called
and kept when it raises. -/
def settleAsync (settlement : Settlement) (w : MessageWorld) : Option Interrupt × MessageWorld :=
  if w.disposition = .pending then
    (transport.settle w.frames.length, { w with
      disposition := settlement.disposition
      frames := w.frames ++ [settlement] })
  else (none, w)

def publishOne (publication : Publication) (w : MessageWorld) : PublishAnswer × MessageWorld :=
  (transport.publish w.published.length,
    { w with published := w.published ++ [publication] })

def syncWorld : (call : MessageCall) → MessageWorld → call.Answer × MessageWorld
  | .disposition, w => (w.disposition, w)
  | .settle settlement, w => transport.settleSync settlement w
  | .publish publication, w => transport.publishOne publication w

def asyncWorld : (call : MessageCall) → MessageWorld → call.Answer × MessageWorld
  | .disposition, w => (w.disposition, w)
  | .settle settlement, w => transport.settleAsync settlement w
  | .publish publication, w => transport.publishOne publication w

end Transport

namespace MessageScript

variable {α : Type}

/-- `if not message.is_settled: ...`. -/
def unlessSettled (script : MessageScript Unit) : MessageScript Unit :=
  .calls .disposition fun disposition => if disposition = .pending then script else pure ()

def raiseFailure (failure : Failure) : MessageScript α := .raise (.raised failure)

def raiseAny : Option Failure → MessageScript Unit
  | some failure => raiseFailure failure
  | none => pure ()

def ofExcept (result : Except Interrupt α) : MessageScript α := .ends result

def settle (settlement : Settlement) : MessageScript Unit :=
  .calls (.settle settlement) fun
    | none => pure ()
    | some interrupt => .raise interrupt

/-- `try: body except Exception as exc: handler(exc)`. -/
def exceptException (body : MessageScript α) (handler : Failure → MessageScript α) :
    MessageScript α :=
  body.catching fun
    | .raised failure => handler failure
    | .cancelled => .raise .cancelled

def publish (publication : Publication) : MessageScript (Option PublishStatus) :=
  .calls (.publish publication) fun
    | .outcome status => pure (some status)
    | .nothing => pure none
    | .raised failure => raiseFailure failure
    | .cancelled => .raise .cancelled

def markingInvalid (body : MessageScript α) : MessageScript α :=
  exceptException body fun failure =>
    match failure.markInvalidMessage with
    | .ok marked => raiseFailure marked
    | .error refusal => raiseFailure refusal

end MessageScript
end RabbitKit
