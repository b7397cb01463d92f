import RabbitKit.AsyncSettlement
import RabbitKit.LabelledRun

/-! # Deduplication of deliveries

`DeduplicationMiddleware` remembers the keys of processed messages in Redis and, as an option, in a
cache of its own process. With the mark policy `on_success` it looks a key up before the handler and
writes it when the delivery is acknowledged; with `claim` it also holds the key while the handler
runs.

The model follows all deliveries of one key. Every Redis command and every stretch of code between
two of them is a step of its own, so that a run is an arbitrary interleaving; deliveries, expiry of
the key, evictions and crashes come at any time. Redis values and cache entries carry the delivery
that wrote them, which no step reads.
-/

namespace RabbitKit

inductive MarkPolicy
  | onSuccess
  | claim
  deriving DecidableEq

inductive InFlightPolicy
  | nackRequeue
  | ackSkip
  deriving DecidableEq

/-- `encodable` are the results that fit the envelope of a stored result. -/
structure DeduplicationConfig (ρ : Type) where
  markPolicy : MarkPolicy := .onSuccess
  hasLocalCache : Bool := false
  storeResults : Bool := false
  encodable : ρ → Bool := fun _ => true
  onInFlight : InFlightPolicy := .nackRequeue
  claim_of_storeResults : storeResults = true → markPolicy = .claim := by decide

/-- The value of the key in Redis, with the delivery that wrote it. -/
inductive RedisValue (ρ : Type)
  | inFlight (owner : Nat)
  | completed (writer : Nat)
  | result (writer : Nat) (value : ρ)
  deriving DecidableEq

def RedisValue.author {ρ : Type} : RedisValue ρ → Nat
  | .inFlight owner => owner
  | .completed writer => writer
  | .result writer _ => writer

inductive Mark (ρ : Type)
  | completed
  | result (value : ρ)
  deriving DecidableEq

def Mark.value {ρ : Type} (writer : Nat) : Mark ρ → RedisValue ρ
  | .completed => .completed writer
  | .result value => .result writer value

/-- `_completed_value`: a result that can be stored travels with the mark. -/
def DeduplicationConfig.completedValue {ρ : Type} (config : DeduplicationConfig ρ) :
    Option ρ → Mark ρ
  | some value => if config.storeResults && config.encodable value then .result value else
    .completed
  | none => .completed

/-- `_write_mark`: `SET NX` under `on_success`, a plain `SET` under `claim`. -/
def DeduplicationConfig.writeMark {ρ : Type} (config : DeduplicationConfig ρ) (writer : Nat)
    (mark : Mark ρ) (key : Option (RedisValue ρ)) : Option (RedisValue ρ) :=
  match config.markPolicy, key with
  | .onSuccess, some value => some value
  | _, _ => some (mark.value writer)

/-- Where a delivery stands, named after the command or the code it waits for; `hooked` says
that the middleware has put its hooks on the settlement functions. -/
inductive DedupPhase (ρ : Type)
  | arrived
  | querying
  | reading
  | running
  | marking (mark : Mark ρ)
  | returned (hooked : Bool)
  | acking
  | caching (hooked : Bool)
  | sending (hooked : Bool)
  | deleting (hooked : Bool)
  | uncaching (hooked : Bool)
  | ended
  deriving DecidableEq

/-- On whose account a delivery was acknowledged. -/
inductive AckOrigin
  | handler
  | successPath
  | failurePath
  | duplicate
  | inFlight
  deriving DecidableEq

inductive ChainEnd (ρ : Type)
  | raised
  | requeuedForRetry
  | returned (result : Option ρ)
  deriving DecidableEq

inductive PipelineEnd
  | success
  | publishFailed
  | failure (settlement : Settlement)
  | unsettled
  deriving DecidableEq

/-- `returned` is the result of a chain that returned, `acknowledged` whether an
acknowledgement reached the broker; `duplicateOf` and `replayOf` name the delivery
this one was taken for a duplicate of. -/
structure DedupDelivery (ρ : Type) where
  process : Nat
  phase : DedupPhase ρ := .arrived
  settled : Option Settlement := none
  ackOrigin : Option AckOrigin := none
  acknowledged : Bool := false
  returned : Option (Option ρ) := none
  duplicateOf : Option Nat := none
  replayOf : Option (Nat × ρ) := none
  deriving DecidableEq

namespace DedupDelivery

variable {ρ : Type}

def skip (delivery : DedupDelivery ρ) (writer : Nat) : DedupDelivery ρ :=
  { delivery with
    phase := .ended
    settled := some .ack
    ackOrigin := some .duplicate
    duplicateOf := some writer }

/-- `_handle_in_flight_duplicate`: the key is claimed by another delivery. -/
def inFlightDuplicate (config : DeduplicationConfig ρ) (delivery : DedupDelivery ρ) :
    DedupDelivery ρ :=
  match config.onInFlight with
  | .ackSkip =>
    { delivery with phase := .ended, settled := some .ack, ackOrigin := some .inFlight }
  | .nackRequeue => { delivery with phase := .ended, settled := some (.nack true) }

/-- A settlement by the handler or by a middleware inside, `RateLimitMiddleware` and
`LockMiddleware` among them. -/
def settleInside (delivery : DedupDelivery ρ) : Option Settlement → DedupDelivery ρ
  | none => delivery
  | some .ack =>
    { delivery with
      settled := some .ack, ackOrigin := some .handler, acknowledged := true }
  | some settlement => { delivery with settled := some settlement }

/-- After a chain that did not succeed: `claim` releases the key. -/
def abandon (config : DeduplicationConfig ρ) (delivery : DedupDelivery ρ) : DedupDelivery ρ :=
  match config.markPolicy with
  | .onSuccess => { delivery with phase := .ended }
  | .claim => { delivery with phase := .deleting false }

/-- `_mark_on_ack`: a settled delivery is marked at once, as is one whose result is
stored; otherwise the mark waits for the acknowledgement. -/
def complete (config : DeduplicationConfig ρ) (delivery : DedupDelivery ρ) (result : Option ρ) :
    DedupDelivery ρ :=
  match config.completedValue result, delivery.settled with
  | .result value, _ =>
    { delivery with returned := some result, phase := .marking (.result value) }
  | .completed, some _ => { delivery with returned := some result, phase := .marking .completed }
  | .completed, none => { delivery with returned := some result, phase := .returned true }

def acknowledge (delivery : DedupDelivery ρ) (origin : AckOrigin) (hooked : Bool) :
    DedupDelivery ρ :=
  { delivery with
    settled := some .ack
    ackOrigin := some origin
    phase := if hooked then .acking else .sending false }

/-- A nack or a reject; the hook of `_release_claim_on_failure` deletes the key after it. -/
def refuse (config : DeduplicationConfig ρ) (delivery : DedupDelivery ρ)
    (settlement : Settlement) (hooked : Bool) : DedupDelivery ρ :=
  { delivery with
    settled := some settlement
    phase := if hooked && config.markPolicy == .claim then .deleting true else .ended }

def settleAfter (config : DeduplicationConfig ρ) (delivery : DedupDelivery ρ) (hooked : Bool) :
    PipelineEnd → DedupDelivery ρ
  | .success => delivery.acknowledge .successPath hooked
  | .publishFailed => delivery.refuse config (.nack true) hooked
  | .failure .ack => delivery.acknowledge .failurePath hooked
  | .failure settlement => delivery.refuse config settlement hooked
  | .unsettled => { delivery with phase := .ended }

end DedupDelivery

/-- A delivery with the key in Redis and the cache entry of its process. -/
structure DedupView (ρ : Type) where
  delivery : DedupDelivery ρ
  key : Option (RedisValue ρ)
  cached : Option Nat

inductive DedupStep (ρ : Type)
  | begin
  | query
  | read
  | endChain (settles : Option Settlement) (chainEnd : ChainEnd ρ)
  | mark
  | cache
  | finish (pipelineEnd : PipelineEnd)
  | send (sent : Bool)
  | delete
  | uncache
  | raise
  | cancel
  deriving DecidableEq

namespace DedupView

variable {ρ : Type} (config : DeduplicationConfig ρ) (self : Nat) (view : DedupView ρ)

/-- `_local_is_dup`. -/
def begin : DedupView ρ :=
  match view.cached with
  | some writer => { view with delivery := view.delivery.skip writer }
  | none => { view with delivery.phase := .querying }

/-- `EXISTS` under `on_success`, `SET NX` of the claim under `claim`. -/
def query : DedupView ρ :=
  match config.markPolicy, view.key with
  | .onSuccess, none => { view with delivery.phase := .running }
  | .onSuccess, some value => { view with delivery := view.delivery.skip value.author }
  | .claim, none => { view with key := some (.inFlight self), delivery.phase := .running }
  | .claim, some _ => { view with delivery.phase := .reading }

/-- `GET` of a key that another delivery holds. -/
def read : DedupView ρ :=
  match view.key with
  | none => { view with delivery := view.delivery.inFlightDuplicate config }
  | some (.inFlight _) => { view with delivery := view.delivery.inFlightDuplicate config }
  | some (.completed writer) => { view with delivery := view.delivery.skip writer }
  | some (.result writer value) =>
    if config.storeResults then
      { view with
        delivery.phase := .returned false
        delivery.replayOf := some (writer, value) }
    else { view with delivery := view.delivery.skip writer }

/-- What follows `call_next`. -/
def endChain (settles : Option Settlement) : ChainEnd ρ → DedupView ρ
  | .raised => { view with delivery := (view.delivery.settleInside settles).abandon config }
  | .requeuedForRetry =>
    { view with delivery := (view.delivery.settleInside settles).abandon config }
  | .returned result =>
    { view with delivery := (view.delivery.settleInside settles).complete config result }

/-- The `SET` of a mark, `hooked` when the acknowledgement waits for it. -/
def write (mark : Mark ρ) (hooked : Bool) : DedupView ρ :=
  { view with
    key := config.writeMark self mark view.key
    delivery.phase := .caching hooked }

/-- `_local_mark`. -/
def cache (hooked : Bool) : DedupView ρ :=
  { view with
    cached := if config.hasLocalCache then some self else view.cached
    delivery.phase := if hooked then .sending true else .returned false }

/-- How the pipeline ends the delivery after the scope. -/
def finish (hooked : Bool) (pipelineEnd : PipelineEnd) : DedupView ρ :=
  match view.delivery.settled with
  | some _ => { view with delivery.phase := .ended }
  | none => { view with delivery := view.delivery.settleAfter config hooked pipelineEnd }

/-- The settlement function of a sync message has raised: the message is pending, its hooks
are in place, and the code around the middleware may settle it again. -/
def reopen (hooked : Bool) : DedupView ρ :=
  { view with
    delivery.phase := .returned hooked
    delivery.settled := none
    delivery.ackOrigin := none }

/-- A step is possible in the phase that waits for it.  A cancellation comes in any
phase, and releases a claim only while the chain runs. -/
def advance (step : DedupStep ρ) : Option (DedupView ρ) :=
  match step, view.delivery.phase with
  | .begin, .arrived => some view.begin
  | .query, .querying => some (view.query config self)
  | .read, .reading => some (view.read config)
  | .endChain settles chainEnd, .running => some (view.endChain config settles chainEnd)
  | .mark, .marking mark => some (view.write config self mark false)
  | .mark, .acking => some (view.write config self .completed true)
  | .cache, .caching hooked => some (view.cache config self hooked)
  | .finish pipelineEnd, .returned hooked => some (view.finish config hooked pipelineEnd)
  | .send sent, .sending _ =>
    some { view with delivery.phase := .ended, delivery.acknowledged := sent }
  | .delete, .deleting hooked =>
    some { view with key := none, delivery.phase := .uncaching hooked }
  | .uncache, .uncaching _ => some { view with cached := none, delivery.phase := .ended }
  | .raise, .sending hooked => some (view.reopen hooked)
  | .raise, .uncaching true => some (DedupView.reopen { view with cached := none } true)
  | .cancel, .running => some { view with delivery := view.delivery.abandon config }
  | .cancel, _ => some { view with delivery.phase := .ended }
  | _, _ => none

end DedupView

/-- The key in Redis, the writers in the caches of the processes, and every delivery
there has been. -/
structure DedupWorld (ρ : Type) where
  key : Option (RedisValue ρ) := none
  caches : OrderedDict Nat Nat := .empty
  deliveries : List (DedupDelivery ρ) := []

inductive DedupAction (ρ : Type)
  | deliver (process : Nat)
  | act (index : Nat) (step : DedupStep ρ)
  | expire
  | evict (process : Nat)
  | crash (process : Nat)
  deriving DecidableEq

namespace DedupWorld

variable {ρ : Type} (config : DeduplicationConfig ρ)

def view (w : DedupWorld ρ) (delivery : DedupDelivery ρ) : DedupView ρ where
  delivery := delivery
  key := w.key
  cached := w.caches.get? delivery.process

def update (w : DedupWorld ρ) (index process : Nat) (view : DedupView ρ) : DedupWorld ρ where
  key := view.key
  caches :=
    match view.cached with
    | some writer => w.caches.set process writer
    | none => w.caches.erase process
  deliveries := w.deliveries.set index view.delivery

/-- What a crash leaves of a delivery; the broker delivers its message again. -/
def crashed (process : Nat) (delivery : DedupDelivery ρ) : DedupDelivery ρ :=
  if delivery.process = process then { delivery with phase := .ended } else delivery

def step (w : DedupWorld ρ) : DedupAction ρ → Option (DedupWorld ρ)
  | .deliver process => some { w with deliveries := w.deliveries ++ [{ process := process }] }
  | .act index step => do
      let delivery ← w.deliveries[index]?
      let view ← (w.view delivery).advance config index step
      return w.update index delivery.process view
  | .expire => some { w with key := none }
  | .evict process => some { w with caches := w.caches.erase process }
  | .crash process =>
    some { w with
      caches := w.caches.erase process
      deliveries := w.deliveries.map (crashed process) }

end DedupWorld

end RabbitKit
