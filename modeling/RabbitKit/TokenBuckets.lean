import RabbitKit.LabelledRun
import Mathlib.Tactic.Linarith
import Mathlib.Tactic.NormNum
import Mathlib.Tactic.Ring

/-! # Token buckets

The consumer side and the publisher side limit their rates by the same bucket: it is refilled
at the start of every call and holds at most its capacity.  Whatever calls are made at
non-decreasing times, a window of time sees no more grants than the capacity and what is
refilled within it.
-/

namespace RabbitKit

open LabelledRun

structure TokenBucket where
  rate : ℚ
  capacity : ℚ
  tokens : ℚ
  lastRefill : ℚ

inductive BucketWait
  | granted
  | timedOut
  | sleeps (seconds : ℚ)

namespace TokenBucket

variable (b : TokenBucket) (now : ℚ)

/-- A new bucket is full. -/
def full (rate capacity now : ℚ) : TokenBucket := ⟨rate, capacity, capacity, now⟩

/-- The bucket of the consumer side. -/
def ofRateLimit (maxRate : ℚ) (burst : Nat) (now : ℚ) : TokenBucket := full maxRate burst now

/-- The sync and the async bucket of the publisher side. -/
def ofBackpressure (rate : Nat) (now : ℚ) : TokenBucket := full rate rate now

def refill : TokenBucket :=
  { b with
    tokens := min b.capacity (b.tokens + (now - b.lastRefill) * b.rate)
    lastRefill := now }

/-- `try_acquire` of the consumer side and `acquire` of both publisher buckets. -/
def tryAcquire : TokenBucket × Bool :=
  let refilled := b.refill now
  if 1 ≤ refilled.tokens then ({ refilled with tokens := refilled.tokens - 1 }, true)
  else (refilled, false)

def waitTime : TokenBucket × ℚ :=
  let refilled := b.refill now
  (refilled, if 1 ≤ refilled.tokens then 0 else (1 - refilled.tokens) / refilled.rate)

/-- One round of the async `wait`, with the time that remains until its deadline.  It does under
the lock what `acquire` does; the sync `wait` polls `acquire` itself. -/
def waitAsync (remaining : Option ℚ) : TokenBucket × BucketWait :=
  match b.tryAcquire now with
  | (after, true) => (after, .granted)
  | (after, false) =>
    let sleepFor := (1 - after.tokens) / after.rate
    match remaining with
    | none => (after, .sleeps sleepFor)
    | some remaining =>
      if remaining ≤ 0 then (after, .timedOut) else (after, .sleeps (min sleepFor remaining))

end TokenBucket

inductive BucketCall
  | tryAcquire
  | waitTime

/-- A bucket in use.  `grants` is bookkeeping: how many tokens were taken. -/
structure BucketWorld where
  bucket : TokenBucket
  grants : Nat := 0

namespace BucketWorld

def step (w : BucketWorld) (call : ℚ × BucketCall) : Option BucketWorld :=
  if call.1 < w.bucket.lastRefill then none
  else
    match call.2 with
    | .tryAcquire =>
      let answer := w.bucket.tryAcquire call.1
      some ⟨answer.1, if answer.2 then w.grants + 1 else w.grants⟩
    | .waitTime => some { w with bucket := (w.bucket.waitTime call.1).1 }

variable {w w' v : BucketWorld} {call : ℚ × BucketCall} {calls : List (ℚ × BucketCall)}
  {b : TokenBucket} {rate capacity now time : ℚ}

theorem step_cases (taken : w.step call = some w') : w.bucket.lastRefill ≤ call.1 ∧
      (w' = { w with bucket := w.bucket.refill call.1 } ∨ 1 ≤ (w.bucket.refill call.1).tokens ∧
          w' = ⟨{ w.bucket.refill call.1 with tokens := (w.bucket.refill call.1).tokens - 1 },
            w.grants + 1⟩) := by
  unfold step at taken
  split at taken
  · cases taken
  next later =>
    refine ⟨not_lt.mp later, ?_⟩
    split at taken
    · by_cases holds : 1 ≤ (w.bucket.refill call.1).tokens
      · simp only [TokenBucket.tryAcquire, if_pos holds] at taken
        exact .inr ⟨holds, (Option.some.inj taken).symm⟩
      · simp only [TokenBucket.tryAcquire, if_neg holds] at taken
        exact .inl (Option.some.inj taken).symm
    · exact .inl (Option.some.inj taken).symm

/-- A bucket of this rate and capacity, with tokens between zero and the capacity. -/
structure Filled (rate capacity : ℚ) (b : TokenBucket) : Prop where
  sameRate : b.rate = rate
  sameCapacity : b.capacity = capacity
  nonneg : 0 ≤ b.tokens
  le : b.tokens ≤ capacity

section Refill

variable (filled : Filled rate capacity b) (positive : 0 < rate) (later : b.lastRefill ≤ now)
include filled

theorem Filled.refill_le : (b.refill now).tokens ≤ b.tokens + rate * (now - b.lastRefill) := by
  rw [mul_comm, ← filled.sameRate]
  exact min_le_right _ _

include positive later

theorem Filled.gained : 0 ≤ (now - b.lastRefill) * b.rate :=
  mul_nonneg (sub_nonneg.mpr later) (filled.sameRate ▸ positive.le)

theorem Filled.refill : Filled rate capacity (b.refill now) := by
  have gained := filled.gained positive later
  refine ⟨filled.sameRate, filled.sameCapacity, le_min ?_ ?_, ?_⟩
  · exact filled.sameCapacity ▸ filled.nonneg.trans filled.le
  · exact add_nonneg filled.nonneg gained
  · exact filled.sameCapacity ▸ min_le_left _ _

theorem Filled.refill_refill (latest : now ≤ time) :
    (b.refill now).refill time = b.refill time := by
  have rest : 0 ≤ (time - now) * b.rate := (filled.refill positive later).gained positive latest
  have added : b.tokens + (time - b.lastRefill) * b.rate =
      b.tokens + (now - b.lastRefill) * b.rate + (time - now) * b.rate := by ring
  have tokens : ((b.refill now).refill time).tokens = (b.refill time).tokens := by
    change min b.capacity (min b.capacity _ + (time - now) * b.rate) = min b.capacity _
    rw [added]
    rcases le_total b.capacity (b.tokens + (now - b.lastRefill) * b.rate) with full | room
    · rw [min_eq_left full, min_eq_left (le_add_of_nonneg_right rest),
        min_eq_left (full.trans (le_add_of_nonneg_right rest))]
    · rw [min_eq_right room]
  exact congrArg (fun tokens => { b.refill time with tokens := tokens }) tokens

end Refill

theorem Filled.step (filled : Filled rate capacity w.bucket) (positive : 0 < rate)
    (taken : w.step call = some w') : Filled rate capacity w'.bucket := by
  obtain ⟨later, rfl | ⟨holds, rfl⟩⟩ := step_cases taken
  · exact filled.refill positive later
  · have refilled := filled.refill positive later
    exact ⟨refilled.sameRate, refilled.sameCapacity, sub_nonneg.mpr holds,
      (sub_le_self _ zero_le_one).trans refilled.le⟩

/-- In a window of time the grants and the tokens left are covered by the capacity and what was
refilled since the window began. -/
theorem grants_within {first last : ℚ} (filled : Filled rate capacity w.bucket)
    (positive : 0 < rate)
    (run : RunWithin step (fun _ call => first ≤ call.1 ∧ call.1 ≤ last) w calls v) :
    Filled rate capacity v.bucket ∧ (v = w ∨ v.bucket.lastRefill ≤ last ∧
      v.grants + v.bucket.tokens ≤ w.grants + capacity + rate * (v.bucket.lastRefill - first)) := by
  induction run with
  | nil => exact ⟨filled, .inl rfl⟩
  | @snoc middle _ _ call _ inside taken ih =>
    obtain ⟨filled, before⟩ := ih
    obtain ⟨later, moved⟩ := step_cases taken
    have covered : middle.grants + (middle.bucket.refill call.1).tokens ≤
        w.grants + capacity + rate * (call.1 - first) := by
      rcases before with rfl | ⟨_, covered⟩
      · have gained := mul_nonneg positive.le (sub_nonneg.mpr inside.1)
        linarith [(filled.refill positive later).le]
      · have gained : (middle.bucket.refill call.1).tokens ≤ _ := filled.refill_le
        linarith
    refine ⟨filled.step positive taken, .inr ?_⟩
    rcases moved with rfl | ⟨_, rfl⟩
    · exact ⟨inside.2, covered⟩
    · refine ⟨inside.2, ?_⟩
      push_cast
      change _ ≤ _ + rate * (call.1 - first)
      linarith

/-- As long as no token is taken, a later refill finds what it would have found at first. -/
theorem refill_of_ungranted (filled : Filled rate capacity w.bucket) (positive : 0 < rate)
    (run : Run step w calls v) : w.grants ≤ v.grants ∧ Filled rate capacity v.bucket ∧
      (v.grants = w.grants → ∀ time, v.bucket.lastRefill ≤ time →
        v.bucket.refill time = w.bucket.refill time) := by
  induction run with
  | nil => exact ⟨le_refl _, filled, fun _ _ _ => rfl⟩
  | snoc _ _ last ih =>
    obtain ⟨fewer, filled, found⟩ := ih
    have still := filled.step positive last
    obtain ⟨later, rfl | ⟨holds, rfl⟩⟩ := step_cases last
    · refine ⟨fewer, still, fun same time latest => ?_⟩
      rw [← found same time (later.trans latest)]
      exact filled.refill_refill positive later latest
    · exact ⟨fewer.trans (Nat.le_succ _), still, fun same => by dsimp only at same; omega⟩

theorem one_le_refill_of_waited (filled : Filled rate capacity b) (positive : 0 < rate)
    (least : 1 ≤ capacity) (later : b.lastRefill ≤ now)
    (waited : now + (b.waitTime now).2 ≤ time) : 1 ≤ ((b.refill now).refill time).tokens := by
  have refilled := filled.refill positive later
  refine le_min (refilled.sameCapacity ▸ least) ?_
  by_cases holds : 1 ≤ (b.refill now).tokens
  · have pause : (b.waitTime now).2 = 0 := if_pos holds
    rw [pause, add_zero] at waited
    exact holds.trans (le_add_of_nonneg_right (refilled.gained positive waited))
  · have pause : (b.waitTime now).2 = (1 - (b.refill now).tokens) / b.rate := if_neg holds
    have positive : 0 < b.rate := filled.sameRate ▸ positive
    have enough : (1 - (b.refill now).tokens) / b.rate ≤ time - now := by linarith
    have gain : 1 - (b.refill now).tokens ≤ (time - (b.refill now).lastRefill) * b.rate :=
      (div_le_iff₀ positive).mp enough
    exact sub_le_iff_le_add'.mp gain

end BucketWorld
end RabbitKit
