import RabbitKit.HandlerPipelines
import RabbitKit.RetryCopies

/-! # Replay from a dead-letter queue

`DLQInspector.replay` and `replay_async` fetch messages from a dead-letter queue, republish the ones
that match and are allowed to, and ack an original once its republish has an ok outcome. Everything
else is held unsettled and given back, by a nack with requeue, when the loop has ended in whatever
way.

What the broker, the transport, the predicate and the authorizer answer is a parameter.
-/

namespace RabbitKit

def retryCountHeader : String := "x-rabbitkit-retry-count"
def originalRoutingKeyHeader : String := "x-rabbitkit-original-routing-key"
def previousRetryCountHeader : String := "x-rabbitkit-previous-retry-count"
def replayCountHeader : String := "x-rabbitkit-replay-count"
def replayedAtHeader : String := "x-rabbitkit-replayed-at"
def replayedByHeader : String := "x-rabbitkit-replayed-by"
def deliveryCountHeader : String := "x-delivery-count"

def resetStripHeaders : List String :=
  ["x-death", "x-first-death-exchange", "x-first-death-queue", "x-first-death-reason",
    "x-last-death-exchange", "x-last-death-queue", "x-last-death-reason",
    "x-rabbitkit-first-failed-at"]

/-- The first entry of `x-death`. -/
def newestDeath (headers : HeaderTable) : Option (List (String × HeaderField)) :=
  match headers.get? xDeathHeader with
  | some (.list (.table entries :: _)) => some entries
  | _ => none

/-- What `reset_retry_count` takes off, with the old count kept under another name. -/
def resetRetryBudget (retryHeader : String) (headers : HeaderTable) : HeaderTable :=
  let popped := headers.erase retryHeader
  let kept := match headers.get? retryHeader with
    | none | some .null => popped
    | some previous => popped.set previousRetryCountHeader previous
  kept.eraseAll resetStripHeaders

namespace RetryRuntime

variable (runtime : RetryRuntime)

/-- `_header_str`. -/
def headerStr (value : HeaderField) : Option String :=
  (some (runtime.headerText value)).filter (· ≠ "")

/-- `original_queue`. -/
def originalQueue (headers : HeaderTable) : Option String :=
  ((headers.get? originalQueueHeader).bind runtime.headerStr).or <|
    ((headers.get? "x-last-death-queue").bind runtime.headerStr).or <|
      (newestDeath headers).bind fun death =>
        (OrderedDict.lookup "queue" death).bind runtime.headerStr

/-- `original_routing_key`. -/
def originalRoutingKey (headers : HeaderTable) : Option String :=
  ((headers.get? originalRoutingKeyHeader).bind runtime.headerStr).or <|
    (newestDeath headers).bind fun death =>
      match OrderedDict.lookup "routing-keys" death with
      | some (.list (key :: _)) => runtime.headerStr key
      | _ => none

/-- `replay_count`, which reads its header as `header_int` does. -/
def replayCount (headers : HeaderTable) : Except Failure Nat :=
  runtime.headerCount headers replayCountHeader

/-- `resolve_replay_routing_key`. -/
def resolveReplayRoutingKey (headers : HeaderTable) (fallback exchange : String)
    (routingKey : Option String) : String :=
  match routingKey.filter (· ≠ "") with
  | some routingKey => routingKey
  | none =>
    if exchange ≠ "" then (runtime.originalRoutingKey headers).getD fallback
    else (runtime.originalQueue headers).getD fallback

/-- `prepare_replay_headers`. -/
def prepareReplayHeaders (resetRetryCount : Bool) (retryHeader actor now : String)
    (headers : HeaderTable) : Except Failure HeaderTable := do
  let count ← runtime.replayCount headers
  let out := if resetRetryCount then resetRetryBudget retryHeader headers else headers
  return ((out.set replayCountHeader (.integer (count + 1 : Nat))).set
    replayedAtHeader (.text now)).set replayedByHeader (.text actor)

end RetryRuntime

structure ReplayCandidate where
  headers : HeaderTable := .empty
  routingKey : String
  body : List UInt8 := []
  messageId : Option String := none
  correlationId : Option String := none
  contentType : Option String := none
  contentEncoding : Option String := none
  replyTo : Option String := none
  priority : Option Int := none
  expiration : Option String := none
  timestamp : Option Int := none
  deliveryMode : Option Nat := none
  type : Option String := none
  appId : Option String := none
  userId : Option String := none

/-- An envelope to republish: the envelope without headers, and its headers. -/
structure ReplayEnvelope where
  envelope : MessageEnvelope
  headers : HeaderTable

structure ReplayRequest where
  queue : String
  targetQueue : Option String := none
  targetExchange : Option String := none
  resetRetryCount : Bool := false
  limit : Option Int := none
  allowSelfReplay : Bool := false
  maxReplays : Option Int := some 3
  actor : String := "unknown"

/-- How everything outside `replay` answers.  Answers about single messages are given
by the index at which the message was fetched.  `deliveries` is what `basic_get` returns
or raises, call by call, until it finds the queue empty; an outcome of a publish is
`none` or says whether it is ok.  `management` is what the management API says about the
queue: that it does not know it, or that requeueing is safe and whether it is a quorum
queue. -/
structure ReplaySurroundings where
  runtime : RetryRuntime
  now : Nat → String := fun _ => ""
  authorizer : Except Interrupt Unit := .ok ()
  checkDeliveryLimit : Bool := true
  knownQuorum : Bool := false
  wholeQueue : Bool := false
  management : Option (Except Interrupt (Option Bool)) := none
  sessionOpener : Except Interrupt Unit := .ok ()
  deliveries : List (Except Interrupt ReplayCandidate)
  predicate : Option (Nat → ReplayCandidate → Except Interrupt Bool) := none
  publish : Nat → ReplayEnvelope → Except Interrupt (Option Bool)
  ackRaises : Nat → Option Interrupt := fun _ => none
  nackRaises : Nat → Bool := fun _ => false

structure ReplayResult where
  replayed : Nat
  failed : Nat
  requeued : Nat
  skipped : Nat
  refused : Nat
  deriving DecidableEq

inductive ReplayEvent
  | fetched (index : Nat)
  | published (index : Nat) (ok : Bool)
  | acked (index : Nat) (returned : Bool)
  | released (index : Nat) (returned : Bool)
  deriving DecidableEq

/-- The local variables of `replay`, the sets of the inspector as far as they hold the
queue, and a log. -/
structure ReplayState where
  replayed : Nat := 0
  failed : Nat := 0
  requeued : Nat := 0
  skipped : Nat := 0
  refused : Nat := 0
  fetched : Nat := 0
  held : List Nat := []
  vetted : Option Bool := none
  knownQuorum : Bool := false
  wholeQueue : Bool := false
  log : List ReplayEvent := []

inductive SettlementStyle
  | sync
  | async
  deriving DecidableEq

abbrev Replay := ExceptT Interrupt (StateM ReplayState)

/-- `msg.is_settled` for a fetched message: a sync message counts as settled when a call
returned, an async one when it was made. -/
def ReplayState.isSettled (state : ReplayState) (style : SettlementStyle) (index : Nat) : Bool :=
  state.log.any fun event =>
    match event with
    | .acked other returned | .released other returned =>
      decide (other = index) && (returned || style == .async)
    | _ => false

def unsafeToBrowse : Interrupt :=
  .raised { classes := [.named "UnsafeToBrowseError", .exception] }

def orRaise {α : Type} : Except Interrupt α → Replay α
  | .ok value => pure value
  | .error interrupt => throw interrupt

namespace ReplayRequest

variable (request : ReplayRequest) (outside : ReplaySurroundings)

/-- `_build_replay_envelope`. -/
def buildReplayEnvelope (index : Nat) (message : ReplayCandidate) : Except Interrupt ReplayEnvelope
  := do
  let headers ← (outside.runtime.prepareReplayHeaders request.resetRetryCount retryCountHeader
    request.actor (outside.now index) message.headers).mapError .raised
  let envelope ← MessageEnvelope.validated {
    routingKey := outside.runtime.resolveReplayRoutingKey message.headers message.routingKey
      (request.targetExchange.getD "") request.targetQueue
    body := message.body
    exchange := request.targetExchange.getD ""
    messageId := message.messageId.getD ""
    correlationId := message.correlationId
    contentType := message.contentType.getD ""
    contentEncoding := message.contentEncoding
    replyTo := message.replyTo
    priority := message.priority
    expiration := message.expiration
    timestamp := message.timestamp
    deliveryMode := (message.deliveryMode.filter fun mode => mode = 1 ∨ mode = 2).getD 2
    type := message.type
    appId := message.appId
    userId := message.userId
    mandatory := true }
  return { envelope, headers }

/-- `_over_replay_limit`. -/
def overReplayLimit (message : ReplayCandidate) : Except Interrupt Bool :=
  match request.maxReplays with
  | none => .ok false
  | some maxReplays => do
    let count ← (outside.runtime.replayCount message.headers).mapError .raised
    return decide (maxReplays ≤ count)

/-- `_is_self_replay`. -/
def isSelfReplay (envelope : ReplayEnvelope) : Bool :=
  !(request.allowSelfReplay || envelope.envelope.exchange ≠ "" ||
    envelope.envelope.routingKey ≠ request.queue)

/-- `_ensure_browsable`. -/
def ensureBrowsable : Replay Bool :=
  if !outside.checkDeliveryLimit then pure true
  else do
    if (← get).knownQuorum then throw unsafeToBrowse
    else
      match outside.management with
      | none => pure false
      | some (.error interrupt) => throw interrupt
      | some (.ok none) => pure false
      | some (.ok (some quorum)) => do
          modify fun state => { state with wholeQueue := quorum }
          pure true

/-- `_tripwire` together with `_raise_tripwire`. -/
def tripwire (message : ReplayCandidate) (vetted : Bool) : Replay Unit :=
  if vetted || (message.headers.get? deliveryCountHeader).isNone then pure ()
  else do
    modify fun state => { state with knownQuorum := true }
    throw unsafeToBrowse

def checkFetched (message : ReplayCandidate) : Replay Unit := do
  match (← get).vetted with
  | some vetted => tripwire message vetted
  | none => pure ()

/-- `_vet_requeue`, with the assignment of its result. -/
def vetRequeue (message : ReplayCandidate) : Replay Unit := do
  let vetted ← (do
    match (← get).vetted with
    | some vetted => pure vetted
    | none => ensureBrowsable outside)
  tripwire message vetted
  modify fun state => { state with vetted := some vetted }

def selects (index : Nat) (message : ReplayCandidate) : Except Interrupt Bool :=
  match outside.predicate with
  | none => .ok true
  | some predicate => predicate index message

def fetch (index : Nat) : Replay Unit :=
  modify fun state => { state with
    fetched := state.fetched + 1
    held := state.held ++ [index]
    log := state.log ++ [.fetched index] }

def publish (index : Nat) (envelope : ReplayEnvelope) : Replay Bool := do
  let outcome ← orRaise (outside.publish index envelope)
  modify fun state => { state with log := state.log ++ [.published index (outcome == some true)] }
  pure (outcome == some true)

/-- `msg.ack()` or `await msg.ack_async()`, unless the message is settled. -/
def ack (style : SettlementStyle) (index : Nat) : Replay Unit := do
  if (← get).isSettled style index then pure ()
  else do
    modify fun state => { state with
      log := state.log ++ [.acked index (outside.ackRaises index).isNone] }
    match outside.ackRaises index with
    | some interrupt => throw interrupt
    | none => pure ()

def republish (style : SettlementStyle) (index : Nat) (message : ReplayCandidate)
    (envelope : ReplayEnvelope) : Replay Unit := do
  let ok ← publish outside index envelope
  if !ok then do
    modify fun state => { state with failed := state.failed + 1 }
    vetRequeue outside message
  else do
    ack outside style index
    modify fun state => { state with
      held := state.held.dropLast
      replayed := state.replayed + 1 }

/-- One round of the loop in `replay`. -/
def handleMessage (style : SettlementStyle) (index : Nat) (message : ReplayCandidate) : Replay Unit
  := do
  checkFetched message
  let selected ← orRaise (selects outside index message)
  if !selected then
    modify fun state => { state with requeued := state.requeued + 1 }
  else do
    let beyond ← orRaise (request.overReplayLimit outside message)
    if beyond then do
      modify fun state => { state with refused := state.refused + 1 }
      vetRequeue outside message
    else do
      let envelope ← orRaise (request.buildReplayEnvelope outside index message)
      if request.isSelfReplay envelope then do
        modify fun state => { state with skipped := state.skipped + 1 }
        vetRequeue outside message
      else republish outside style index message envelope

/-- The fetch loop over what `basic_get` still has to answer. -/
def drain (style : SettlementStyle) : List (Except Interrupt ReplayCandidate) → Replay Unit
  | [] => pure ()
  | answer :: rest => do
      let index := (← get).fetched
      if request.limit.any fun limit => limit ≤ (index : Int) then pure ()
      else do
        let message ← orRaise answer
        fetch index
        request.handleMessage outside style index message
        drain style rest

/-- `_release_messages` and `_release_messages_async`: an exception of a nack is
swallowed. -/
def release (style : SettlementStyle) : List Nat → Replay Unit
  | [] => pure ()
  | index :: rest => do
      if (← get).isSettled style index then pure ()
      else modify fun state => { state with
        log := state.log ++ [.released index (!outside.nackRaises index)] }
      release style rest

/-- `_ensure_browsable` before the first fetch, if there is a predicate. -/
def vetUpFront : Replay Unit :=
  if outside.predicate.isSome then do
    let vetted ← ensureBrowsable outside
    modify fun state => { state with vetted := some vetted }
  else pure ()

/-- `_check_partial_replay`. -/
def checkPartialReplay : Replay Unit := do
  if (← get).wholeQueue && outside.predicate.isSome && request.limit.isSome then
    throw unsafeToBrowse
  else pure ()

def raiseAgain : Option Interrupt → Replay Unit
  | some interrupt => throw interrupt
  | none => pure ()

/-- The loop with its `finally` clause: what is held is released, then an interrupt goes
on. -/
def drainAndRelease (style : SettlementStyle) : Replay Unit := do
  let interrupt ← tryCatch (request.drain outside style outside.deliveries >>= fun _ => pure none)
    fun interrupt => pure (some interrupt)
  release outside style (← get).held
  raiseAgain interrupt

def prepare : Replay Unit := do
  orRaise outside.authorizer
  vetUpFront outside
  request.checkPartialReplay outside
  orRaise outside.sessionOpener

/-- `replay` and `replay_async`, which differ in how they settle. -/
def replayWith (style : SettlementStyle) : Replay ReplayResult := do
  request.prepare outside
  request.drainAndRelease outside style
  let state ← get
  pure ⟨state.replayed, state.failed, state.requeued, state.skipped, state.refused⟩

/-- `replay`. -/
def replay : Replay ReplayResult := request.replayWith outside .sync

/-- `replay_async`. -/
def replayAsync : Replay ReplayResult := request.replayWith outside .async

end ReplayRequest

def ReplaySurroundings.runReplay (outside : ReplaySurroundings) (program : Replay ReplayResult) :
    Except Interrupt ReplayResult × ReplayState :=
  program.run.run { knownQuorum := outside.knownQuorum, wholeQueue := outside.wholeQueue }

end RabbitKit
