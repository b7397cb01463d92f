import RabbitKit.DeduplicationMiddleware

/-! # Exclusion by claims

Under the mark policy `claim` a delivery runs its handler only after `SET NX` has put its claim
into Redis, and from then on until it writes the mark or deletes the key nobody else can get
past `SET NX`.  The release deletes the key whatever its value is, so all rests on the claim
outliving the handler and the settlement of its delivery, and on a delivery being settled only
once: a sync settlement that raises leaves the message pending with the hook in place, and the
next nack or reject deletes the key of whoever has claimed it since.
-/

namespace RabbitKit

open LabelledRun Option
open DedupDelivery (acknowledge refuse settleAfter skip)

variable {ρ : Type} {config : DeduplicationConfig ρ}

/-- The delivery has claimed the key and has neither written the mark nor released it. -/
def DedupPhase.claims : DedupPhase ρ → Bool
  | .running | .marking _ | .returned true | .acking | .deleting _ => true
  | _ => false

def RedisValue.isMark : RedisValue ρ → Bool
  | .inFlight _ => false
  | .completed _ | .result _ _ => true

def RedisValue.claimant : RedisValue ρ → Option Nat
  | .inFlight owner => some owner
  | .completed _ | .result _ _ => none

/-- What a step of a delivery does to the key and to its claim. -/
inductive ClaimStep (self : Nat) (view : DedupView ρ) : DedupView ρ → Prop
  | keeps {view' : DedupView ρ} (key : view'.key = view.key)
      (claims : view'.delivery.phase.claims = true → view.delivery.phase.claims = true) :
      ClaimStep self view view'
  | claims {view' : DedupView ρ} (free : view.key = none)
      (key : view'.key = some (.inFlight self)) : ClaimStep self view view'
  | ends {view' : DedupView ρ} (claimed : view.delivery.phase.claims = true)
      (ended : view'.delivery.phase.claims = false) : ClaimStep self view view'

namespace ClaimStep

variable {self : Nat} {view : DedupView ρ}

theorem begin : ClaimStep self view view.begin := by
  unfold DedupView.begin
  split
  · exact .keeps rfl (by simp [skip, DedupPhase.claims])
  · exact .keeps rfl (by simp [DedupPhase.claims])

theorem query (claim : config.markPolicy = .claim) :
    ClaimStep self view (view.query config self) := by
  unfold DedupView.query
  split
  · simp_all
  · simp_all
  next free =>
    exact .claims free rfl
  · exact .keeps rfl (by simp [DedupPhase.claims])

theorem inFlightDuplicate :
    ClaimStep self view { view with delivery := view.delivery.inFlightDuplicate config } := by
  refine .keeps rfl ?_
  unfold DedupDelivery.inFlightDuplicate
  split <;> simp [DedupPhase.claims]

theorem read : ClaimStep self view (view.read config) := by
  unfold DedupView.read
  split
  · exact inFlightDuplicate
  · exact inFlightDuplicate
  · exact .keeps rfl (by simp [skip, DedupPhase.claims])
  · split
    · exact .keeps rfl (by simp [DedupPhase.claims])
    · exact .keeps rfl (by simp [skip, DedupPhase.claims])

theorem endChain (running : view.delivery.phase = .running) (settles : Option Settlement)
    (chainEnd : ChainEnd ρ) : ClaimStep self view (view.endChain config settles chainEnd) := by
  refine .keeps ?_ fun _ => by rw [running]; rfl
  cases chainEnd <;> rfl

theorem finish {hooked : Bool} (returned : view.delivery.phase = .returned hooked)
    (pipelineEnd : PipelineEnd) : ClaimStep self view (view.finish config hooked pipelineEnd) := by
  unfold DedupView.finish
  split
  · exact .keeps rfl (by simp [DedupPhase.claims])
  · refine .keeps rfl ?_
    rw [returned]
    cases hooked with
    | true => exact fun _ => rfl
    | false =>
      rcases pipelineEnd with _ | _ | settlement | _
      · simp [settleAfter, acknowledge, DedupPhase.claims]
      · simp [settleAfter, refuse, DedupPhase.claims]
      · cases settlement <;> simp [settleAfter, refuse, acknowledge, DedupPhase.claims]
      · simp [settleAfter, DedupPhase.claims]

theorem cancel {delivery : DedupDelivery ρ} (key : view.delivery.phase.claims = true ∨
    delivery.phase.claims = false) : ClaimStep self view { view with delivery := delivery } := by
  refine .keeps rfl fun claims => ?_
  rcases key with was | ended
  · exact was
  · cases ended.symm.trans claims

theorem advance (claim : config.markPolicy = .claim) {step : DedupStep ρ} (once : step ≠ .raise)
    {view' : DedupView ρ} (advanced : view.advance config self step = some view') :
    ClaimStep self view view' := by
  unfold DedupView.advance at advanced
  split at advanced
  case h_1 => cases advanced; exact begin
  case h_2 => cases advanced; exact query claim
  case h_3 => cases advanced; exact read
  case h_4 running => cases advanced; exact endChain running _ _
  case h_5 marking =>
    cases advanced
    exact .ends (by rw [marking]; rfl) rfl
  case h_6 acking =>
    cases advanced
    exact .ends (by rw [acking]; rfl) rfl
  case h_7 caching =>
    rename_i hooked
    cases advanced
    refine .keeps rfl ?_
    cases hooked <;> simp [DedupView.cache, DedupPhase.claims]
  case h_8 returned => cases advanced; exact finish returned _
  case h_9 => cases advanced; exact .keeps rfl (by simp [DedupPhase.claims])
  case h_10 deleting =>
    cases advanced
    exact .ends (by rw [deleting]; rfl) rfl
  case h_11 => cases advanced; exact .keeps rfl (by simp [DedupPhase.claims])
  case h_12 => exact absurd rfl once
  case h_13 => exact absurd rfl once
  case h_14 running =>
    cases advanced
    exact cancel (.inl (by rw [running]; rfl))
  case h_15 => cases advanced; exact cancel (.inr rfl)
  case h_16 => cases advanced

end ClaimStep

namespace DedupWorld

variable {w w' : DedupWorld ρ} {action : DedupAction ρ}

/-- A claim expires only once the handler and the settlement of its delivery have ended. -/
def Timely (w : DedupWorld ρ) : DedupAction ρ → Prop
  | .expire => ∀ owner ∈ w.key.bind RedisValue.claimant,
      ∀ delivery ∈ w.deliveries[owner]?, delivery.phase = .ended
  | _ => True

instance [DecidableEq ρ] (w : DedupWorld ρ) : DecidablePred w.Timely := fun action => by
  unfold Timely
  split <;> infer_instance

/-- No settlement function raises and leaves its sync message to be settled again. -/
def SettlesOnce : DedupAction ρ → Prop
  | .act _ .raise => False
  | _ => True

instance : DecidablePred (SettlesOnce (ρ := ρ)) := fun action => by
  unfold SettlesOnce
  split <;> infer_instance

theorem SettlesOnce.ne_raise {index : Nat} {step : DedupStep ρ}
    (once : SettlesOnce (.act index step)) : step ≠ .raise := by
  rintro rfl
  exact once

/-- Claims outlive their deliveries, and a delivery is settled once. -/
def Orderly (w : DedupWorld ρ) (action : DedupAction ρ) : Prop :=
  w.Timely action ∧ SettlesOnce action

instance [DecidableEq ρ] (w : DedupWorld ρ) : DecidablePred w.Orderly :=
  fun _ => inferInstanceAs (Decidable (_ ∧ _))

/-- Whoever has claimed the key is its owner in Redis. -/
structure Exclusive (w : DedupWorld ρ) : Prop where
  owner : ∀ {index : Nat} {delivery : DedupDelivery ρ}, w.deliveries[index]? = some delivery →
    delivery.phase.claims = true → w.key = some (.inFlight index)

theorem Exclusive.update (exclusive : w.Exclusive) {index process : Nat}
    {delivery : DedupDelivery ρ} {view' : DedupView ρ}
    (found : w.deliveries[index]? = some delivery)
    (claimStep : ClaimStep index (w.view delivery) view') :
    (w.update index process view').Exclusive := by
  refine ⟨fun {other seen} located claims => ?_⟩
  have stood := getElem?_of_moved found located
  cases claimStep with
  | keeps key kept =>
    refine key.trans ?_
    rcases stood with ⟨rfl, rfl⟩ | ⟨_, before⟩
    · exact exclusive.owner found (kept claims)
    · exact exclusive.owner before claims
  | claims free key =>
    rcases stood with ⟨rfl, rfl⟩ | ⟨_, before⟩
    · exact key
    · cases free.symm.trans (exclusive.owner before claims)
  | ends claimed ended =>
    rcases stood with ⟨rfl, rfl⟩ | ⟨different, before⟩
    · cases ended.symm.trans claims
    · -- both would own the key
      have same := (exclusive.owner found claimed).symm.trans (exclusive.owner before claims)
      cases some.inj same
      exact absurd rfl different

theorem claims_of_crashed {process : Nat} {delivery : DedupDelivery ρ}
    (claims : (crashed process delivery).phase.claims = true) : delivery.phase.claims = true := by
  unfold crashed at claims
  split at claims
  · cases claims
  · exact claims

section

variable (claim : config.markPolicy = .claim)
include claim

theorem Exclusive.step (exclusive : w.Exclusive)
    (orderly : w.Orderly action) (taken : w.step config action = some w') : w'.Exclusive := by
  cases action with
  | deliver process =>
    cases taken
    refine ⟨fun {index delivery} located claims => ?_⟩
    rcases getElem?_of_joined located with stood | ⟨_, rfl⟩
    · exact exclusive.owner stood claims
    · cases claims
  | act index step =>
    simp only [DedupWorld.step, bind_eq_bind, bind_eq_some_iff, pure_def, some.injEq] at taken
    obtain ⟨delivery, found, view', advanced, rfl⟩ := taken
    exact exclusive.update found (.advance claim orderly.2.ne_raise advanced)
  | expire =>
    cases taken
    refine ⟨fun {index delivery} located claims => ?_⟩
    have owner : w.key.bind RedisValue.claimant = some index := by
      rw [exclusive.owner located claims]
      rfl
    rw [orderly.1 index owner delivery located] at claims
    cases claims
  | evict process =>
    cases taken
    exact ⟨exclusive.owner⟩
  | crash process =>
    cases taken
    refine ⟨fun {index delivery} located claims => ?_⟩
    simp only [List.getElem?_map] at located
    obtain ⟨before, stood, rfl⟩ := map_eq_some_iff.mp located
    exact exclusive.owner stood (claims_of_crashed claims)

theorem isMark_step (exclusive : w.Exclusive)
    {value : RedisValue ρ} (key : w.key = some value) (isMark : value.isMark = true)
    (once : SettlesOnce action) (lasting : action ≠ .expire)
    (taken : w.step config action = some w') : w'.key = w.key := by
  cases action with
  | deliver | evict | crash =>
    cases taken
    rfl
  | act index step =>
    simp only [DedupWorld.step, bind_eq_bind, bind_eq_some_iff, pure_def, some.injEq] at taken
    obtain ⟨delivery, found, view', advanced, rfl⟩ := taken
    cases ClaimStep.advance claim once.ne_raise advanced with
    | keeps same _ => exact same
    | claims free _ => cases key.symm.trans free
    | ends claimed _ =>
      cases some.inj (key.symm.trans (exclusive.owner found claimed))
      cases isMark
  | expire => exact absurd rfl lasting

theorem exclusive_of_run {actions : List (DedupAction ρ)}
    (run : RunWithin (step config) Orderly {} actions w) : w.Exclusive :=
  run.invariant (fun held orderly taken => held.step claim orderly taken) ⟨by simp⟩

end

/-- The result of the handler is lost and the nack raises, though it was sent: the copy of
another process claims the key that the release has freed, and the second nack frees it again. -/
def nackedTwice : List (DedupAction Nat) :=
  [.deliver 0, .act 0 .begin, .act 0 .query, .act 0 (.endChain none (.returned none)),
    .act 0 (.finish .publishFailed), .act 0 .delete, .act 0 .raise,
    .deliver 1, .act 1 .begin, .act 1 .query,
    .act 0 (.finish (.failure (.nack true))), .act 0 .delete, .act 0 .uncache,
    .deliver 2, .act 2 .begin, .act 2 .query]

/-- The ack raises after the mark was written, and the nack that follows deletes the mark. -/
def ackedThenNacked : List (DedupAction Nat) :=
  [.deliver 0, .act 0 .begin, .act 0 .query, .act 0 (.endChain none (.returned none)),
    .act 0 (.finish .success), .act 0 .mark, .act 0 .cache, .act 0 .raise,
    .act 0 (.finish (.failure (.nack true))), .act 0 .delete, .act 0 .uncache,
    .deliver 1, .act 1 .begin, .act 1 .query]

end DedupWorld

end RabbitKit
