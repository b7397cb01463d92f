import RabbitKit.LabelledRun
import RabbitKit.OrderedDict

/-! # Clients of remote procedure calls

`RPCClient` and `AsyncRPCClient` send requests with `reply_to` set to the direct reply queue and
wait for the reply with the correlation id of the request. A correlation id is the number of its
call.

A call is cut into steps at every access to shared state, at every lock-protected section and at
every operation of the transport. The synchronous client never holds its lock across such an
operation, so a section is one step; the asynchronous client holds it while it starts the consumer,
and `lock` says so.
-/

namespace RabbitKit

open LabelledRun

/-- How `call` waits: `RPCClient` with a reply connection that it pumps, `RPCClient` without one,
and `AsyncRPCClient`. -/
inductive RpcVariant
  | pumping
  | blocking
  | async
  deriving DecidableEq

structure RpcConfig where
  variant : RpcVariant
  maxPending : Nat
  maxReplyBytes : Option Nat := none

/-- A reply without a correlation id, or with an empty one, has none. -/
structure RpcReply where
  correlationId : Option Nat
  size : Nat
  deriving DecidableEq

/-- The test of `_ReplyRouter.resolve`. -/
def RpcConfig.tooLarge (config : RpcConfig) (reply : RpcReply) : Bool :=
  config.maxReplyBytes.any (· < reply.size)

/-- The future of a waiter: open, resolved by a reply, failed by an oversized one, failed by
`close`, or cancelled with the task that awaits it. -/
inductive ReplyFuture
  | pending
  | result (reply : RpcReply)
  | tooLarge
  | closed
  | cancelled
  deriving DecidableEq

inductive RpcError
  | closed
  | consumeFailed
  | maxPending
  | invalidEnvelope
  | publishError
  | publishRaised
  | tooLarge
  | timeout
  | pumpRaised
  | cancelled
  deriving DecidableEq

/-- Where a call stands, named after what it is about to do or waits for. -/
inductive CallStage
  | arrived
  | ensuring
  | locking
  | consuming
  | consumed (tag : Nat)
  | consumeFailed
  | registering
  | sending
  | publishing
  | undelivered
  | waiting
  | expiring (error : RpcError)
  | finishing
  | returned (reply : RpcReply)
  | raised (error : RpcError)
  deriving DecidableEq

structure RpcCall where
  stage : CallStage := .arrived
  future : ReplyFuture := .pending
  deriving DecidableEq

/-- The task of an asynchronous call is cancelled in its `await`, and the future with it. -/
def RpcCall.cancel (call : RpcCall) (stage : CallStage) : RpcCall :=
  { stage := stage, future := if call.future = .pending then .cancelled else call.future }

inductive RpcCloseStage
  | started
  | cancelling (tag : Nat)
  | locking
  | resetting
  | done
  deriving DecidableEq

/-- The client, its calls and closes; `consumers` are the reply consumers that the broker has,
`consumed` says that a consume has ever succeeded, and `handed` lists the requests that were
handed to the transport and whether a consume had succeeded by then. -/
structure RpcClient where
  closed : Bool := false
  consuming : Bool := false
  starting : Bool := false
  consumerTag : Option Nat := none
  lock : Option Nat := none
  pending : OrderedDict Nat Unit := .empty
  calls : List RpcCall := []
  closes : List RpcCloseStage := []
  consumers : List Nat := []
  tags : Nat := 0
  consumed : Bool := false
  handed : List (Nat × Bool) := []

inductive RpcCallStep
  | check
  | recheck
  | ensure
  | consumeOk
  | consumeFails
  | record
  | clear
  | register
  | envelopeRaises
  | send
  | published (undelivered : Bool)
  | publishRaises
  | wake
  | expire
  | pumpRaises
  | drop
  | finish
  | cancel
  deriving DecidableEq

inductive RpcCloseStep
  | read
  | cancelled (done : Bool)
  | closeAll
  | reset
  deriving DecidableEq

inductive RpcAction
  | call
  | act (id : Nat) (step : RpcCallStep)
  | reply (reply : RpcReply)
  | close
  | actClose (index : Nat) (step : RpcCloseStep)
  deriving DecidableEq

/-- What `fut.result()` answers, once the future is done. -/
def ReplyFuture.outcome : ReplyFuture → CallStage
  | .result reply => .returned reply
  | .tooLarge => .raised .tooLarge
  | .closed => .raised .closed
  | .cancelled | .pending => .raised .cancelled

namespace RpcClient

variable (config : RpcConfig) (client : RpcClient)

def move (id : Nat) (stage : CallStage) : RpcClient :=
  { client with calls := client.calls.modify id fun call => { call with stage := stage } }

/-- `_ReplyRouter.pop`. -/
def pop (id : Nat) : RpcClient := { client with pending := client.pending.erase id }

/-- The lock is free; the synchronous client never holds it between steps. -/
def isFree : Bool := client.lock.isNone

/-- The section of `_ensure_consuming`. -/
def ensure (id : Nat) : RpcClient :=
  match config.variant with
  | .pumping | .blocking =>
    if client.consuming || client.starting then client.move id .registering
    else { client with starting := true }.move id .consuming
  | .async =>
    if client.consuming then client.move id .registering
    else { client with lock := some id }.move id .consuming

/-- `transport.consume` returns a tag; the asynchronous client records it at once. -/
def consumeOk (id : Nat) : RpcClient :=
  let client :=
    { client with
      consumers := client.consumers ++ [client.tags]
      tags := client.tags + 1
      consumed := true }
  match config.variant with
  | .pumping | .blocking => client.move id (.consumed (client.tags - 1))
  | .async =>
    { client with
      lock := none
      consumerTag := some (client.tags - 1)
      consuming := true }.move id .registering

/-- `consume` raises in `_ensure_consuming`. -/
def consumeFails (id : Nat) : RpcClient :=
  match config.variant with
  | .pumping | .blocking => client.move id .consumeFailed
  | .async => { client with lock := none }.move id (.raised .consumeFailed)

/-- The section of `call` that registers the waiter. -/
def register (id : Nat) : RpcClient :=
  if config.maxPending ≤ client.pending.size then client.move id (.raised .maxPending)
  else { client with pending := client.pending.set id () }.move id .sending

/-- The call wakes up with its future done.  Without a connection to pump the exception of the
future is raised at once. -/
def wake (id : Nat) (future : ReplyFuture) : Option RpcClient :=
  match future, config.variant with
  | .pending, _ => none
  | .result _, _ | _, .pumping => some (client.move id .finishing)
  | .tooLarge, _ | .closed, _ | .cancelled, _ => some (client.move id future.outcome)

/-- The task of a waiting call is cancelled. -/
def cancelWait (id : Nat) (stage : CallStage) : RpcClient :=
  { client with calls := client.calls.modify id fun call => call.cancel stage }

/-- The timeout of a waiting call passes. -/
def expire (id : Nat) (future : ReplyFuture) : RpcClient :=
  match config.variant, future with
  | .async, _ => client.cancelWait id (.expiring .timeout)
  | _, .pending => client.move id (.expiring .timeout)
  | _, _ => client.move id .finishing

/-- `process_data_events` raises. -/
def pumpRaises (id : Nat) (future : ReplyFuture) : RpcClient :=
  match future with
  | .pending => client.move id (.expiring .pumpRaised)
  | _ => client.move id (.raised .pumpRaised)

/-- The `pop` of a call that gives up.  The synchronous client then looks at the future again. -/
def drop (id : Nat) (error : RpcError) (future : ReplyFuture) : RpcClient :=
  match config.variant, error, future with
  | .async, _, _ => (client.pop id).move id (.raised error)
  | _, .timeout, .pending => (client.pop id).move id (.raised .timeout)
  | _, .timeout, _ => (client.pop id).move id future.outcome
  | _, _, _ => (client.pop id).move id (.raised error)

/-- A step of `call`.  It is possible in the stage that waits for it; a section needs the lock.
`MessageEnvelope` refuses a routing key or an exchange of over 255 bytes. -/
def advance (id : Nat) (future : ReplyFuture) : RpcCallStep → CallStage → Option RpcClient
  | .check, .arrived =>
    some (client.move id (if client.closed then .raised .closed else .ensuring))
  | .recheck, .ensuring =>
    some (client.move id (if client.closed then .raised .closed else .locking))
  | .ensure, .locking => if client.isFree then some (client.ensure config id) else none
  | .consumeOk, .consuming => some (client.consumeOk config id)
  | .consumeFails, .consuming => some (client.consumeFails config id)
  | .record, .consumed tag =>
    some ({ client with
      consumerTag := some tag
      consuming := true
      starting := false }.move id .registering)
  | .clear, .consumeFailed =>
    some ({ client with starting := false }.move id (.raised .consumeFailed))
  | .register, .registering => if client.isFree then some (client.register config id) else none
  | .envelopeRaises, .sending => some (client.move id (.raised .invalidEnvelope))
  | .send, .sending =>
    some ({ client with handed := client.handed ++ [(id, client.consumed)] }.move id .publishing)
  | .published undelivered, .publishing =>
    some (client.move id (if undelivered then .undelivered else .waiting))
  | .publishRaises, .publishing => some (client.move id (.raised .publishRaised))
  | .drop, .undelivered =>
    if client.isFree then some ((client.pop id).move id (.raised .publishError)) else none
  | .wake, .waiting => client.wake config id future
  | .expire, .waiting => some (client.expire config id future)
  | .pumpRaises, .waiting =>
    if config.variant = .pumping then some (client.pumpRaises id future) else none
  | .drop, .expiring error =>
    if client.isFree then some (client.drop config id error future) else none
  | .finish, .finishing =>
    if client.isFree then some ((client.pop id).move id future.outcome) else none
  | .cancel, .consuming =>
    if config.variant = .async then
      some ({ client with lock := none }.move id (.raised .cancelled))
    else none
  | .cancel, .waiting =>
    if config.variant = .async then some (client.cancelWait id (.raised .cancelled)) else none
  | .cancel, .locking | .cancel, .registering | .cancel, .publishing | .cancel, .undelivered
  | .cancel, .expiring _ | .cancel, .finishing =>
    if config.variant = .async then some (client.move id (.raised .cancelled)) else none
  | _, _ => none

/-- A future is resolved or failed. -/
def setFuture (id : Nat) (future : ReplyFuture) : RpcClient :=
  { client with calls := client.calls.modify id fun call => { call with future := future } }

/-- `_ReplyRouter.resolve`. -/
def resolve (reply : RpcReply) : RpcClient :=
  match reply.correlationId with
  | none => client
  | some id =>
    if (client.pending.get? id).isSome &&
        client.calls[id]?.any (fun call => call.future = .pending) then
      client.setFuture id (if config.tooLarge reply then .tooLarge else .result reply)
    else client

/-- `_ReplyRouter.close_all`. -/
def failPending : RpcClient :=
  { client with
    pending := .empty
    calls := client.calls.mapIdx fun id call =>
      if (client.pending.get? id).isSome && call.future = .pending then
        { call with future := .closed }
      else call }

def moveClose (index : Nat) (stage : RpcCloseStage) : RpcClient :=
  { client with closes := client.closes.set index stage }

/-- A step of `close`. -/
def advanceClose (index : Nat) : RpcCloseStep → RpcCloseStage → Option RpcClient
  | .read, .started =>
    match client.consumerTag with
    | some tag => some (client.moveClose index (.cancelling tag))
    | none => some (client.moveClose index .locking)
  | .cancelled done, .cancelling tag =>
    if done then
      some ({ client with consumers := client.consumers.erase tag }.moveClose index .locking)
    else some (client.moveClose index .locking)
  | .closeAll, .locking =>
    if client.isFree then
      some ({ client.failPending with closed := true }.moveClose index .resetting)
    else none
  | .reset, .resetting =>
    some ({ client with consuming := false, consumerTag := none }.moveClose index .done)
  | _, _ => none

def step : RpcAction → Option RpcClient
  | .call => some { client with calls := client.calls ++ [{}] }
  | .act id action =>
    client.calls[id]?.bind fun call => client.advance config id call.future action call.stage
  | .reply reply => if client.isFree then some (client.resolve config reply) else none
  | .close => some { client with closes := client.closes ++ [.started] }
  | .actClose index action =>
    client.closes[index]?.bind fun stage => client.advanceClose index action stage

end RpcClient
end RabbitKit
