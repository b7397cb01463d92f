import RabbitKit.OrderedDict
import Mathlib.Algebra.Order.Ring.Unbundled.Rat

/-! # The position of a stream consumer

`StreamOffsetTracker` remembers the offsets delivered by a subscription in the order of their
delivery and moves a watermark over the longest prefix that was settled. The watermark is committed
to an offset store from time to time, and the consume arguments follow it so that a new subscription
resumes behind it.

Each function is one section of code under the tracker's lock. A commit takes the lock twice, before
and after the store is asked to save, and is therefore split in two.
-/

namespace RabbitKit

/-- Where a stream consumer starts: the `x-stream-offset` consume argument. -/
inductive StreamOffset
  | first
  | last
  | next
  | offset (value : Nat)
  | timestamp (value : ℚ)
  deriving DecidableEq

structure StreamConsumerConfig where
  offset : StreamOffset := .next
  commitEvery : Nat := 100
  commitInterval : Option ℚ := some 5
  commitEvery_pos : 1 ≤ commitEvery := by decide
  commitInterval_pos : ∀ seconds ∈ commitInterval, 0 < seconds := by decide

def resubscribeClockMargin : ℚ := 5

structure StreamOffsetTracker where
  processed : Option Nat
  committed : Option Nat
  pending : OrderedDict Nat Bool := .empty
  lastTag : Option Nat := none
  lastOffset : Option Nat := none
  generation : Nat := 0
  sinceCommit : Nat := 0
  lastCommitAt : ℚ
  closing : Bool := false
  subscribedAt : Option ℚ := none
  argument : StreamOffset
  commitFailures : Nat := 0
  failed : Nat := 0

namespace StreamOffsetTracker

def init (config : StreamConsumerConfig) (stored : Option Nat) (now : ℚ) :
    StreamOffsetTracker where
  processed := stored
  committed := stored
  lastCommitAt := now
  argument :=
    match stored with
    | some offset => .offset (offset + 1)
    | none => config.offset

/-- `subscribed`. -/
def subscribed (t : StreamOffsetTracker) (config : StreamConsumerConfig) (wallClock : ℚ) :
    StreamOffsetTracker :=
  let since := t.subscribedAt.getD wallClock
  { t with
    closing := false
    subscribedAt := some since
    argument :=
      if t.processed = none ∧ (config.offset = .next ∨ config.offset = .last) then
        .timestamp (since - resubscribeClockMargin)
      else t.argument }

/-- `begin_shutdown`. -/
def beginShutdown (t : StreamOffsetTracker) : StreamOffsetTracker :=
  { t with closing := true }

/-- A tag or an offset that does not grow tells a new subscription. -/
def restarted (t : StreamOffsetTracker) (tag : Option Nat) (offset : Nat) : Bool :=
  (match tag, t.lastTag with
    | some tag, some last => decide (tag ≤ last)
    | _, _ => false) ||
  t.lastOffset.any (offset ≤ ·)

/-- A new subscription delivers again what is still pending: forget it. -/
def renewed (t : StreamOffsetTracker) (tag : Option Nat) (offset : Nat) : StreamOffsetTracker :=
  if t.restarted tag offset then
    { t with generation := t.generation + 1, pending := .empty }
  else t

/-- The beginning of `track`: the last delivery is remembered. -/
def noted (t : StreamOffsetTracker) (tag : Option Nat) (offset : Nat) : StreamOffsetTracker :=
  { t.renewed tag offset with lastTag := tag, lastOffset := some offset }

/-- Record a delivery.  The generation its settlement is hooked with is returned
unless there is nothing to hook. -/
def track (t : StreamOffsetTracker) (tag offset : Option Nat) :
    StreamOffsetTracker × Option Nat :=
  match offset with
  | none => (t, none)
  | some offset =>
    let noted := t.noted tag offset
    if noted.processed.any (offset ≤ ·) then (noted, none)
    else ({ noted with pending := noted.pending.set offset false }, some noted.generation)

/-- `_settled`: the watermark passes what is settled. -/
def advance : (entries : List (Nat × Bool)) → (entries.map Prod.fst).Nodup → Option Nat → Nat →
    OrderedDict Nat Bool × Option Nat × Nat
  | (first, true) :: rest, nodup, _, advanced =>
    advance rest (List.nodup_cons.mp nodup).2 (some first) (advanced + 1)
  | entries, nodup, processed, advanced => (⟨entries, nodup⟩, processed, advanced)

/-- `_commit_due`. -/
def commitDue (t : StreamOffsetTracker) (config : StreamConsumerConfig) (now : ℚ) : Bool :=
  config.commitEvery ≤ t.sinceCommit ∨ config.commitInterval.any (· ≤ now - t.lastCommitAt)

/-- A settlement frame for a hooked delivery was sent.  The flag returned says
that a commit is due. -/
def settled (t : StreamOffsetTracker) (config : StreamConsumerConfig) (now : ℚ)
    (offset generation : Nat) (failed : Bool) : StreamOffsetTracker × Bool :=
  if generation ≠ t.generation ∨ t.pending.get? offset = none then (t, false)
  else if failed ∧ t.closing then (t, false)
  else
    let noted := t.pending.set offset true
    let moved := advance noted.entries noted.nodupKeys t.processed 0
    let after : StreamOffsetTracker :=
      { t with
        pending := moved.1
        processed := moved.2.1
        failed := if failed then t.failed + 1 else t.failed
        argument :=
          match moved.2.2, moved.2.1 with
          | 0, _ => t.argument
          | _, some processed => .offset (processed + 1)
          | _, none => t.argument
        sinceCommit := t.sinceCommit + moved.2.2 }
    (after, 0 < moved.2.2 ∧ after.commitDue config now)

/-- What `commit` is about to save. -/
def commitTarget (t : StreamOffsetTracker) : Option (Nat × Nat) :=
  match t.processed with
  | none => none
  | some target => if t.committed.any (target ≤ ·) then none else some (target, t.sinceCommit)

/-- `commit` when saving has raised. -/
def commitFailed (t : StreamOffsetTracker) : StreamOffsetTracker :=
  { t with commitFailures := t.commitFailures + 1 }

/-- `commit` after saving. -/
def commitSaved (t : StreamOffsetTracker) (target covered : Nat) (now : ℚ) :
    StreamOffsetTracker :=
  { t with
    committed := some target
    sinceCommit := t.sinceCommit - covered
    lastCommitAt := now }

end StreamOffsetTracker
end RabbitKit
