import RabbitKit.AsyncSettlement
import RabbitKit.LabelledRun

/-! # How fresh the answers of the dead-letter guard are

Checks of several routes share one guard and overlap across their probes.  The positive
answers are cached by dead-letter target, while `set_target` drops the entry under the name
of the source queue.  A cached answer is therefore as fresh as its probe, but outlives a
declaration of the queue that is checked.
-/

namespace RabbitKit

open LabelledRun

/-- `set_target`. -/
def DeadLetterGuard.setTarget (guard : DeadLetterGuard) (queue : String)
    (exchange routingKey : Option String) : DeadLetterGuard :=
  { guard with
    targets := guard.targets.set queue
      (if exchange = some "" ∧ routingKey ≠ some "" then routingKey else none)
    verifiedUntil := guard.verifiedUntil.erase queue }

/-- `check` up to the await of its probe: an answer, or the target that it probes. -/
def DeadLetterGuard.beginCheck (guard : DeadLetterGuard) (queue : ConsumedQueue) (now : ℚ) :
    GuardVerdict ⊕ String :=
  match guard.targetFor queue with
  | none => .inl .unverifiable
  | some target =>
    if queue.brokerRetainsDeadLetters then .inl (.retainedByBroker target)
    else if guard.verifiedUntil.getD target 0 > now then .inl (.verifiedRecently target)
    else .inr target

structure TargetProbe where
  target : String
  started : ℚ

/-- `check` from the end of its probe on.  A cancelled call leaves the guard as it was. -/
def DeadLetterGuard.endCheck (guard : DeadLetterGuard) (probe : TargetProbe) :
    ProbeAnswer → DeadLetterGuard
  | .answered true =>
    { guard with verifiedUntil :=
        guard.verifiedUntil.set probe.target (probe.started + guard.ttl) }
  | .answered false | .raised =>
    { guard with verifiedUntil := guard.verifiedUntil.erase probe.target }
  | .cancelled => guard

inductive GuardEvent
  | probed (probe : TargetProbe) (answer : ProbeAnswer)
  | retargeted (queue : String)

/-- The events after which nothing is known of a target: a probe of it that was negative or
failed, and a declaration of the queue of that name. -/
def GuardEvent.Clears (target : String) : GuardEvent → Prop
  | .probed probe answer => probe.target = target ∧ (answer = .answered false ∨ answer = .raised)
  | .retargeted queue => queue = target

/-- The last event of the history that tells something about the target of a probe is that the
probe succeeded. -/
def TargetProbe.Stands (probe : TargetProbe) : List GuardEvent → Prop
  | [] => False
  | event :: older =>
    event = .probed probe (.answered true) ∨ ¬ event.Clears probe.target ∧ probe.Stands older

/-- A guard, the calls of `check` that await their probes, and what has happened, the latest
first. -/
structure GuardWorld where
  guard : DeadLetterGuard
  probing : List TargetProbe := []
  history : List GuardEvent := []

inductive GuardAction
  | setTarget (queue : String) (exchange routingKey : Option String)
  | check (queue : ConsumedQueue) (now : ℚ)
  | probeEnds (index : Nat) (answer : ProbeAnswer)

namespace GuardWorld

def step (w : GuardWorld) : GuardAction → Option GuardWorld
  | .setTarget queue exchange routingKey =>
    some { w with
      guard := w.guard.setTarget queue exchange routingKey
      history := .retargeted queue :: w.history }
  | .check queue now =>
    match w.guard.beginCheck queue now with
    | .inl _ => some w
    | .inr target => some { w with probing := w.probing ++ [⟨target, now⟩] }
  | .probeEnds index answer =>
    w.probing[index]?.map fun probe =>
      { guard := w.guard.endCheck probe answer
        probing := w.probing.eraseIdx index
        history := .probed probe answer :: w.history }

/-- Each entry of the cache is due to a probe that still stands. -/
structure Backed (ttl : ℚ) (w : GuardWorld) : Prop where
  lifetime : w.guard.ttl = ttl
  cached : ∀ target expiry, w.guard.verifiedUntil.get? target = some expiry →
    ∃ started, expiry = started + ttl ∧ (TargetProbe.mk target started).Stands w.history

variable {ttl : ℚ} {w w' : GuardWorld} {action : GuardAction}

theorem Backed.cons (backed : Backed ttl w) (event : GuardEvent) {target : String} {expiry : ℚ}
    (found : w.guard.verifiedUntil.get? target = some expiry) (silent : ¬ event.Clears target) :
    ∃ started, expiry = started + ttl ∧
      (TargetProbe.mk target started).Stands (event :: w.history) := by
  obtain ⟨started, since, stands⟩ := backed.cached target expiry found
  exact ⟨started, since, .inr ⟨silent, stands⟩⟩

theorem Backed.erase (backed : Backed ttl w) (event : GuardEvent) {key : String}
    (only : ∀ target, event.Clears target → key = target)
    (targets : OrderedDict String (Option String)) (probing : List TargetProbe) :
    Backed ttl
      { guard := { w.guard with
          targets := targets, verifiedUntil := w.guard.verifiedUntil.erase key }
        probing := probing, history := event :: w.history } := by
  refine ⟨backed.lifetime, fun target expiry found => ?_⟩
  rw [OrderedDict.get?_erase] at found
  split at found
  · cases found
  next other =>
    exact backed.cons event found fun clears => other (only target clears).symm

theorem Backed.step (backed : Backed ttl w) (taken : w.step action = some w') : Backed ttl w' := by
  cases action with
  | setTarget queue exchange routingKey =>
    cases taken
    exact backed.erase (.retargeted queue) (fun _ clears => clears) _ _
  | check queue now =>
    simp only [step] at taken
    split at taken
    all_goals
      cases taken
      exact ⟨backed.lifetime, backed.cached⟩
  | probeEnds index answer =>
    obtain ⟨probe, _, rfl⟩ := Option.map_eq_some_iff.mp taken
    match answer with
    | .answered false => exact backed.erase (.probed probe _) (fun _ clears => clears.1) _ _
    | .raised => exact backed.erase (.probed probe _) (fun _ clears => clears.1) _ _
    | .cancelled =>
      exact ⟨backed.lifetime, fun _ _ found =>
        backed.cons _ found (by simp [GuardEvent.Clears])⟩
    | .answered true =>
      refine ⟨backed.lifetime, fun target expiry found => ?_⟩
      simp only [DeadLetterGuard.endCheck, OrderedDict.get?_set] at found
      split at found
      next same =>
        cases found
        exact ⟨probe.started, by rw [backed.lifetime], .inl (by rw [same])⟩
      · exact backed.cons _ found (by simp [GuardEvent.Clears])

/-- Where the target has to exist and the clock is not negative, a check is answered without a
probe only as long as a successful probe of the target stands that started less than the
time to live ago. -/
theorem cached_answer_fresh {actions : List GuardAction}
    (run : Run step { guard := { ttl := ttl } } actions w) {queue : ConsumedQueue} {now : ℚ}
    {target : String} (verifiable : w.guard.targetFor queue = some target)
    (exposed : queue.brokerRetainsDeadLetters = false) (nonneg : 0 ≤ now)
    {verdict : GuardVerdict} (answered : w.guard.beginCheck queue now = .inl verdict) :
    ∃ started, now < started + ttl ∧ (TargetProbe.mk target started).Stands w.history := by
  have backed : Backed ttl w := run.invariant (fun held _ => held.step)
    ⟨rfl, fun target expiry found => by cases found⟩
  simp only [DeadLetterGuard.beginCheck, verifiable, exposed, OrderedDict.getD] at answered
  cases found : w.guard.verifiedUntil.get? target with
  | none => simp [found, nonneg.not_gt] at answered
  | some expiry =>
    obtain ⟨started, rfl, stands⟩ := backed.cached target expiry found
    refine ⟨started, ?_, stands⟩
    by_contra expired
    simp [found, expired] at answered

def orders : ConsumedQueue := { name := "orders" }

/-- Two probes of a shared target overlap, and the one that failed ended first. -/
theorem cached_answer_fresh_overlapping : ∃ w, Run step { guard := { ttl := 5 } }
        [.setTarget "orders" (some "") (some "dlq"), .setTarget "refunds" (some "") (some "dlq"),
          .check orders 1, .check { name := "refunds" } 2, .probeEnds 1 .raised,
          .probeEnds 0 (.answered true)] w ∧
      ∃ started, 4 < started + 5 ∧ (TargetProbe.mk "dlq" started).Stands w.history :=
  exists_runWithin_of_check
    (fun w => decide (w.guard.targetFor orders = some "dlq" ∧
      w.guard.beginCheck orders 4 = .inl (.verifiedRecently "dlq")))
    (by decide +kernel) fun _ run checked =>
      have checked := of_decide_eq_true checked
      cached_answer_fresh run checked.1 rfl (by decide) checked.2

/-- An answer outlives a declaration of the queue that is checked.  An unverifiable target is
never probed, nor is any before the zero of the clock. -/
theorem cached_answer_outlives_target : (∃ w, Run step { guard := { ttl := 5 } }
        [.setTarget "orders" (some "") (some "dlq"), .check orders 1,
          .probeEnds 0 (.answered true), .setTarget "orders" (some "") (some "dlq")] w ∧
      w.guard.beginCheck orders 2 = .inl (.verifiedRecently "dlq")) ∧
    ({} : DeadLetterGuard).beginCheck orders 2 = .inl .unverifiable ∧
    (({} : DeadLetterGuard).setTarget "orders" (some "") (some "dlq")).beginCheck orders (-1) =
      .inl (.verifiedRecently "dlq") :=
  ⟨exists_runWithin_of_decide (by decide +kernel), by decide +kernel, by decide +kernel⟩

end GuardWorld
end RabbitKit
