import RabbitKit.AsyncSettlement
import RabbitKit.LabelledRun
import RabbitKit.OrderedDict

/-! # Publishes on the channels of the asynchronous transport

`_publish_on_channel` looks up the exchange, waits for an earlier publish with the same message id
on the same channel, registers a future of its own under that key, calls `exchange.publish` and
waits for the confirm. The client library gives a returned message to a publish with its message id
on its channel, if it gives it to any; which one is part of the action.
-/

namespace RabbitKit

open LabelledRun

/-- The members of `PublishReason` that a transport answers. -/
inductive PublishReason
  | admissionTimeout
  | publisherClosed
  | notConnected
  | channelUnavailable
  | exceedsByteBudget
  | cancelled
  | connectionLost
  | channelClosed
  | shutdown
  | confirmTimeout
  | publishTimeout
  | returned
  | nacked
  | exchangeNotFound
  | accessRefused
  | preconditionFailed
  | invalidEnvelope
  | publishError
  deriving DecidableEq

structure PublishVerdict where
  status : PublishStatus
  reason : Option PublishReason := none
  deriving DecidableEq

namespace PublishVerdict

/-- `AsyncTransportImpl._not_sent`. -/
def notSent (reason : PublishReason) : PublishVerdict := ⟨.notSent, some reason⟩

/-- `AsyncTransportImpl._unknown`. -/
def unknown (reason : PublishReason) : PublishVerdict := ⟨.unknown, some reason⟩

def error (reason : PublishReason) : PublishVerdict := ⟨.error, some reason⟩

end PublishVerdict

/-- What `exchange.publish` raises besides the answers of the broker. -/
inductive ExchangeFailure
  | notFound (named : Bool)
  | accessRefused
  | preconditionFailed
  | invalid
  | connection
  | other
  deriving DecidableEq

/-- `AsyncTransportImpl._classify_publish_failure`. -/
def classifyExchangeFailure (exclusive shutdown : Bool) : ExchangeFailure → PublishVerdict
  | .notFound named =>
    if exclusive || named then .error .exchangeNotFound else .unknown .channelClosed
  | .accessRefused => if exclusive then .error .accessRefused else .unknown .channelClosed
  | .preconditionFailed =>
    if exclusive then .error .preconditionFailed else .unknown .channelClosed
  | .invalid => .error .invalidEnvelope
  | .connection => .unknown (if shutdown then .shutdown else .connectionLost)
  | .other => .error .publishError

/-- A publish on a channel: `unroutable` says how the broker will find the message. -/
structure SendRequest where
  channel : Nat := 0
  messageId : Nat := 0
  mandatory : Bool := false
  unroutable : Bool := false
  exclusive : Bool := false
  callerBound : Bool := false
  deriving DecidableEq

def SendRequest.key (request : SendRequest) : Nat × Nat := (request.channel, request.messageId)

def SendRequest.returns (request : SendRequest) : Bool := request.mandatory && request.unroutable

inductive Confirmation
  | acked
  | nacked
  | returned
  deriving DecidableEq

def Confirmation.verdict : Confirmation → PublishVerdict
  | .acked => ⟨.confirmed, none⟩
  | .nacked => ⟨.nacked, some .nacked⟩
  | .returned => ⟨.returned, some .returned⟩

/-- Where a publish stands; `posted` is the call of the path without confirms. -/
inductive SendStage
  | unstarted
  | building
  | waiting (prior : Nat)
  | sent
  | posted
  | ended (verdict : PublishVerdict)
  | cancelled
  deriving DecidableEq

def SendStage.settled : SendStage → Bool
  | .ended _ | .cancelled => true
  | _ => false

structure ChannelSend where
  request : SendRequest := {}
  stage : SendStage := .unstarted
  confirmation : Option Confirmation := none
  deriving DecidableEq

/-- `inflight` is `_inflight_message_ids`, a future named by its publish, `log` the calls of
`exchange.publish`; `returned` and `answered` list what the broker has sent back and confirmed. -/
structure ChannelSends where
  sends : List ChannelSend := []
  inflight : OrderedDict (Nat × Nat) Nat := .empty
  log : List Nat := []
  returned : List Nat := []
  answered : List Nat := []

/-- How the message is built and the exchange found; `expired` if the time of the caller is up
when the publish is to be sent. -/
inductive ExchangeLookup
  | found (expired : Bool)
  | invalid
  | unavailable
  deriving DecidableEq

inductive SendStep
  | lookup (result : ExchangeLookup)
  | wake (expired : Bool)
  | waitExpires (expired : Bool)
  | resume
  | timeout
  | fail (failure : ExchangeFailure) (shutdown : Bool)
  | cancel
  deriving DecidableEq

inductive SendAction
  | join
  | start (id : Nat) (request : SendRequest)
  | post (id : Nat)
  | act (id : Nat) (step : SendStep)
  | acked (id : Nat)
  | nacked (id : Nat)
  | returned (id : Nat) (recipient : Option Nat)
  deriving DecidableEq

namespace ChannelSends

variable (state : ChannelSends)

def put (id : Nat) (send : ChannelSend) : ChannelSends :=
  { state with sends := state.sends.set id send }

def stageOf (id : Nat) : Option SendStage := state.sends[id]?.map ChannelSend.stage

def settled (id : Nat) : Bool := state.sends[id]?.all (·.stage.settled)

/-- From the registration of the own future to the call of `exchange.publish`. -/
def register (id : Nat) (send : ChannelSend) (expired : Bool) : ChannelSends :=
  if expired then
    { state with inflight := state.inflight.erase send.request.key }.put id
      { send with stage := .ended (.notSent .admissionTimeout) }
  else
    { state with
      inflight := state.inflight.set send.request.key id
      log := state.log ++ [id] }.put id { send with stage := .sent }

/-- The `finally` clause of `_publish_on_channel`: the future of the publish is done. -/
def release (id : Nat) (send : ChannelSend) (stage : SendStage) : ChannelSends :=
  let key := send.request.key
  { state with
    inflight :=
      if state.inflight.get? key = some id then state.inflight.erase key else state.inflight }.put
    id { send with stage := stage }

/-- A step of `_publish_on_channel`. -/
def advance (id : Nat) (send : ChannelSend) : SendStep → SendStage → Option ChannelSends
  | .lookup .invalid, .building =>
    some (state.put id { send with stage := .ended (.error .invalidEnvelope) })
  | .lookup .unavailable, .building =>
    some (state.put id { send with stage := .ended (.notSent .channelUnavailable) })
  | .lookup (.found expired), .building =>
    match state.inflight.get? send.request.key with
    | none => some (state.register id send expired)
    | some prior =>
      if state.settled prior then some (state.register id send expired)
      else some (state.put id { send with stage := .waiting prior })
  | .wake expired, .waiting prior =>
    if state.settled prior then some (state.register id send expired) else none
  | .waitExpires expired, .waiting _ => some (state.register id send expired)
  | .resume, .sent =>
    send.confirmation.map fun confirmation => state.release id send (.ended confirmation.verdict)
  | .timeout, .sent =>
    some (state.release id send (.ended ⟨.timeout,
      some (if send.request.callerBound then .publishTimeout else .confirmTimeout)⟩))
  | .fail failure shutdown, .sent =>
    some (state.release id send
      (.ended (classifyExchangeFailure send.request.exclusive shutdown failure)))
  | .cancel, .building | .cancel, .waiting _ =>
    some (state.put id { send with stage := .cancelled })
  | .cancel, .sent => some (state.release id send .cancelled)
  | _, _ => none

/-- The first answer decides how `exchange.publish` ends. -/
def answer (id : Nat) (confirmation : Confirmation) : ChannelSends :=
  match state.sends[id]? with
  | some send =>
    if send.stage = .sent ∧ send.confirmation = none then
      state.put id { send with confirmation := some confirmation }
    else state
  | none => state

def handBack (id : Nat) (recipient : Option Nat) : ChannelSends :=
  let state := { state with returned := state.returned ++ [id] }
  match recipient with
  | some holder => state.answer holder .returned
  | none => state

def confirm (id : Nat) (confirmation : Confirmation) : ChannelSends :=
  { state with answered := state.answered ++ [id] }.answer id confirmation

def step : SendAction → Option ChannelSends
  | .join => some { state with sends := state.sends ++ [{}] }
  | .start id request =>
    state.sends[id]?.bind fun send =>
      if send.stage = .unstarted then
        some (state.put id { send with request := request, stage := .building })
      else none
  | .post id =>
    state.sends[id]?.bind fun send =>
      if send.stage = .unstarted then
        some ({ state with log := state.log ++ [id] }.put id { send with stage := .posted })
      else none
  | .act id step =>
    state.sends[id]?.bind fun send => state.advance id send step send.stage
  | .acked id =>
    state.sends[id]?.bind fun send =>
      if id ∈ state.log ∧ id ∉ state.answered ∧
          (send.request.returns = true → id ∈ state.returned) then
        some (state.confirm id .acked)
      else none
  | .nacked id =>
    if id ∈ state.log ∧ id ∉ state.answered then some (state.confirm id .nacked) else none
  | .returned id recipient =>
    state.sends[id]?.bind fun send =>
      if id ∈ state.log ∧ id ∉ state.answered ∧ id ∉ state.returned ∧
          send.request.returns = true ∧ (∀ holder ∈ recipient,
            state.sends[holder]?.any (·.request.key = send.request.key) = true) then
        some (state.handBack id recipient)
      else none

end ChannelSends
end RabbitKit
