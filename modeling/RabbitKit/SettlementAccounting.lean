import RabbitKit.SettlementCoverage

/-! # The settlement counters

A registered delivery is pending, settled, unresolved or was dropped with its generation, and only
pending deliveries are reserved.  Each reservation is that of a command which an emission of the
generation has yet to resolve.  So a tag that becomes successful is free, and the planner covers it
before it was held once too often.
-/

namespace RabbitKit

open SettlementCoordinator LabelledRun
open ChannelWorld (afterPrepare init step_mark)

variable {w w' : ChannelWorld} {action : ChannelAction} {c c' : SettlementCoordinator}
  {e e' : Emission} {emissionAction : EmissionAction} {command : SettlementCommand}
  {tag batchId : Nat}

def Emission.owed (e : Emission) : List Nat :=
  e.unresolved.flatMap SettlementCommand.covers

def Reserving (w : ChannelWorld) : Prop :=
  ∀ tag batchId, w.coordinator.reserved.get? tag = some batchId →
    ∃ e ∈ w.emissions, e.batch.generation = w.coordinator.generation ∧ tag ∈ e.owed

theorem Emission.owed_of_resolved (awaiting : e.phase = .awaiting command)
    (left : e'.unresolved = e.remaining) (owed : tag ∈ e.owed) (apart : tag ∉ command.covers) :
    tag ∈ e'.owed := by
  rw [Emission.owed, Emission.unresolved, awaiting, List.flatMap_cons] at owed
  rw [Emission.owed, left]
  exact (List.mem_append.mp owed).resolve_left apart

/-- What stays reserved in a step of an emission was reserved before, and is still owed. -/
theorem EmissionStep.reserved_owed (stepped : EmissionStep c e emissionAction c' e')
    (holds : e.batch.generation = c.generation → e.Holds c)
    (reserved : c'.reserved.get? tag = some batchId) :
    c.reserved.get? tag = some batchId ∧ c'.generation = c.generation ∧
      (e.batch.generation = c.generation → tag ∈ e.owed → tag ∈ e'.owed) := by
  cases stepped with
  | handOver command rest idle first =>
    refine ⟨reserved, rfl, fun _ owed => ?_⟩
    simpa [Emission.owed, Emission.unresolved, idle, first] using owed
  | commit command awaiting =>
    rw [commitCommand_reserved] at reserved
    split at reserved
    · cases reserved
    · rename_i apart
      exact ⟨reserved, (commitCommand_shrinks c e.batch command).generation,
        fun current owed => Emission.owed_of_resolved awaiting rfl owed
          fun covered => apart ⟨current, covered⟩⟩
  | failNegative command awaiting | failHarmless command awaiting =>
    rw [recordFailure_reserved] at reserved
    split at reserved
    · cases reserved
    · rename_i apart
      exact ⟨reserved, (recordFailure_shrinks c e.batch command).generation,
        fun current owed => Emission.owed_of_resolved awaiting rfl owed
          fun covered => apart ⟨current, covered⟩⟩
  | invalidate => cases reserved
  | withhold command releasing =>
    rw [releaseCommands_reserved] at reserved
    split at reserved
    · cases reserved
    · rename_i apart
      refine ⟨reserved, (releaseCommands_shrinks c e.batch e.remaining).generation,
        fun current owed => absurd ⟨current, ?_, ?_⟩ apart⟩
      · simpa [Emission.owed, Emission.unresolved, releasing] using owed
      · obtain ⟨left, member, covered⟩ := List.mem_flatMap.mp owed
        exact (holds current).reserved left member tag covered
  | interrupt command awaiting =>
    refine ⟨reserved, rfl, fun _ owed => ?_⟩
    simpa [Emission.owed, Emission.unresolved, awaiting] using owed

theorem Reserving.step (reserving : Reserving w) (inv : CoverageInvariant w)
    (taken : w.step action = some w') : Reserving w' := by
  intro tag batchId reserved
  cases ChannelWorld.step_emissionsStep taken with
  | same emissions _ kept =>
    rcases (ChannelWorld.step_ledgerStep taken).generation_cases with same | restarted
    · rcases kept with kept | restarted
      · rw [kept] at reserved
        rw [emissions, same]
        exact reserving tag batchId reserved
      · rw [restarted] at reserved
        cases reserved
    · rw [restarted] at reserved
      cases reserved
  | planned forceIndividual =>
    simp only [afterPrepare, prepare_reserved] at reserved
    split at reserved
    · rename_i covered
      exact ⟨Emission.start (w.coordinator.prepare forceIndividual).2,
        by simp [afterPrepare], by simp [Emission.start, afterPrepare],
        covered⟩
    · obtain ⟨e, member, current, owed⟩ := reserving tag batchId reserved
      exact ⟨e, List.mem_append_left _ member, by simpa [afterPrepare] using current,
        owed⟩
  | moved index e emissionAction c after found stepped =>
    obtain ⟨before, same, owes⟩ :=
      stepped.reserved_owed (inv.holds e (List.mem_of_getElem? found)) reserved
    obtain ⟨other, member, current, owed⟩ := reserving tag batchId before
    obtain ⟨position, located⟩ := List.mem_iff_getElem?.mp member
    rcases getElem?_moved after found located with ⟨rfl, now⟩ | stands
    · refine ⟨after, List.mem_of_getElem? now, ?_, owes current owed⟩
      rw [stepped.batch_eq]
      exact current.trans same.symm
    · exact ⟨other, List.mem_of_getElem? stands, current.trans same.symm, owed⟩

def ChannelAction.isRelease : ChannelAction → Bool
  | .release _ _ => true
  | _ => false

structure Accounts (c : SettlementCoordinator) : Prop where
  balance : c.registeredCount =
    c.ledger.size + c.settledCount + c.unresolvedCount + c.droppedOnInvalidate
  reserved : ∀ tag batchId, c.reserved.get? tag = some batchId →
    ∃ state, c.ledger.get? tag = some state

namespace Accounts

section

variable (accounts : Accounts c)
include accounts

theorem register (absent : c.ledger.get? tag = none)
    (accepted : c.register tag = .ok c') : Accounts c' := by
  have size := OrderedDict.size_set_of_absent .outstanding absent
  have balance := accounts.balance
  unfold SettlementCoordinator.register at accepted
  split at accepted
  · cases accepted
  split at accepted
  · cases accepted
  split at accepted
  · cases accepted
  cases accepted
  refine ⟨by dsimp only; omega, fun other batchId reserved => ?_⟩
  obtain ⟨state, present⟩ := accounts.reserved other batchId reserved
  by_cases same : other = tag
  · exact ⟨.outstanding, by simp [same]⟩
  · exact ⟨state, by simpa [same] using present⟩

theorem mark {decision : Decision} (accepted : c.mark tag decision = .ok c') : Accounts c' := by
  obtain ⟨current, present, ⟨_, rfl, _⟩ | ⟨_, rfl⟩⟩ := mark_ok accepted
  · exact accounts
  · refine ⟨?_, fun other batchId reserved => ?_⟩
    · rw [OrderedDict.size_set_of_present decision.state present]
      exact accounts.balance
    · obtain ⟨state, found⟩ := accounts.reserved other batchId reserved
      by_cases same : other = tag
      · exact ⟨decision.state, by simp [same]⟩
      · exact ⟨state, by simpa [same] using found⟩

theorem prepare (forceIndividual : Bool) : Accounts (c.prepare forceIndividual).1 := by
  refine ⟨?_, fun tag batchId reserved => ?_⟩
  · unfold SettlementCoordinator.prepare
    split
    · exact accounts.balance
    · exact accounts.balance
  · rw [(prepare_kept _ _).1]
    rw [prepare_reserved] at reserved
    split at reserved
    · rename_i covered
      obtain ⟨command, inBatch, inCovers⟩ := List.mem_flatMap.mp covered
      exact ((prepare_planned c forceIndividual command inBatch).waiting tag inCovers).1
    · exact accounts.reserved tag batchId reserved

/-- Reserved tags leave the ledger together with their reservations. -/
theorem settleTags (tags : List Nat) (distinct : tags.Nodup)
    (held : ∀ tag ∈ tags, c.reserved.get? tag = some batchId) :
    (c.settleTags tags).ledger.size + tags.length = c.ledger.size ∧
      ∀ tag batchId, (c.settleTags tags).reserved.get? tag = some batchId →
        ∃ state, (c.settleTags tags).ledger.get? tag = some state := by
  refine ⟨OrderedDict.size_eraseAll distinct fun tag member =>
    accounts.reserved tag batchId (held tag member), fun tag batchId reserved => ?_⟩
  simp only [SettlementCoordinator.settleTags, OrderedDict.get?_eraseAll] at reserved ⊢
  split at reserved
  · cases reserved
  · rename_i apart
    rw [if_neg apart]
    exact accounts.reserved tag batchId reserved

theorem invalidated : Accounts c.invalidated := by
  have balance := accounts.balance
  refine ⟨?_, fun tag batchId reserved => by cases reserved⟩
  change c.registeredCount =
    0 + c.settledCount + c.unresolvedCount + (c.droppedOnInvalidate + c.ledger.size)
  omega

theorem emission (stepped : EmissionStep c e emissionAction c' e') (wellFormed : e.batch.WellFormed)
    (progress : e.batch.commands = e.attempted ++ e.remaining)
    (holds : e.batch.generation = c.generation → e.Holds c) : Accounts c' := by
  have balance := accounts.balance
  have settles (command : SettlementCommand) (awaiting : e.phase = .awaiting command)
      (current : e.batch.generation = c.generation) :
      (c.settleTags command.covers).ledger.size + command.covers.length = c.ledger.size ∧
        ∀ tag batchId, (c.settleTags command.covers).reserved.get? tag = some batchId →
          ∃ state, (c.settleTags command.covers).ledger.get? tag = some state := by
    refine accounts.settleTags command.covers ?_
      ((holds current).reserved command (by simp [Emission.unresolved, awaiting]))
    have each := (List.pairwise_flatMap.mp wellFormed.coversAscending).1 command
      (by simp [progress, Emission.attempted, awaiting])
    exact each.imp ne_of_lt
  cases stepped with
  | handOver | interrupt => exact accounts
  | commit command awaiting =>
    unfold commitCommand
    split
    · exact accounts
    · rename_i current
      obtain ⟨size, kept⟩ := settles command awaiting (not_not.mp current)
      exact ⟨by dsimp only [SettlementCoordinator.settleTags] at size ⊢; omega, kept⟩
  | failNegative command awaiting | failHarmless command awaiting =>
    unfold recordFailure
    split
    · exact accounts
    · rename_i current
      obtain ⟨size, kept⟩ := settles command awaiting (not_not.mp current)
      exact ⟨by dsimp only [SettlementCoordinator.settleTags] at size ⊢; omega, kept⟩
  | invalidate => exact accounts.invalidated
  | withhold =>
    refine ⟨?_, fun tag batchId reserved => ?_⟩
    · unfold releaseCommands
      split
      · exact balance
      · exact balance
    · rw [releaseCommands_reserved] at reserved
      rw [releaseCommands_ledger]
      split at reserved
      · cases reserved
      · exact accounts.reserved tag batchId reserved

end

theorem step (accounts : Accounts w.coordinator) (inv : CoverageInvariant w)
    (unreleased : action.isRelease = false) (taken : w.step action = some w') :
    Accounts w'.coordinator := by
  cases action with
  | deliver | settleElsewhere tag =>
    cases taken
    exact accounts
  | land command =>
    rw [ChannelWorld.step_land taken]
    exact accounts
  | register tag =>
    rcases ChannelWorld.step_register taken with rfl | ⟨c, accepted, rfl⟩
    · exact accounts
    · refine accounts.register ?_ accepted
      by_contra present
      obtain ⟨state, present⟩ := Option.ne_none_iff_exists'.mp present
      obtain ⟨record, recorded, _⟩ := inv.batches.ledger.recorded tag state present
      have within := ((inv.batches.ledger.bounded _ _ _ recorded).2 rfl).2
      exact absurd (register_ok accepted).above (Nat.not_lt.mpr within)
  | mark origin tag decision =>
    rcases step_mark taken with rfl | ⟨c, accepted, rfl⟩
    · exact accounts
    · exact accounts.mark accepted
  | release => cases unreleased
  | prepare forceIndividual =>
    rw [ChannelWorld.step_prepare taken]
    exact accounts.prepare forceIndividual
  | emission index emissionAction =>
    obtain ⟨e, c, next, found, stepped, rfl⟩ := ChannelWorld.step_emission taken
    have here := List.mem_of_getElem? found
    exact accounts.emission (Emission.step_cases stepped) (inv.batches.wellFormed e here)
      (inv.batches.progress e here) (inv.holds e here)
  | reconnect =>
    cases taken
    exact accounts.invalidated

end Accounts

section Run

variable {generation : Nat} {coalesce : Bool} {maxHold maxPending : Int}
  {actions : List ChannelAction}

theorem reserving_of_run (run : Run ChannelWorld.step (init generation coalesce maxHold maxPending)
      actions w) : CoverageInvariant w ∧ Reserving w := by
  have preserved : ∀ {before : ChannelWorld} {action : ChannelAction} {after : ChannelWorld},
      CoverageInvariant before ∧ Reserving before → True → before.step action = some after →
      CoverageInvariant after ∧ Reserving after :=
    fun inv _ taken => ⟨inv.1.step taken, inv.2.step inv.1 taken⟩
  refine run.invariant preserved ⟨coverageInvariant_of_run .nil, fun tag batchId reserved => ?_⟩
  cases reserved

theorem Emission.owed_of_report (reported : e.report.isSome = true) : e.owed = [] := by
  cases phase : e.phase <;> cases left : e.remaining <;>
    simp_all [Emission.report, Emission.owed, Emission.unresolved]

/-- A tag that becomes successful is held by no batch. -/
theorem CoverageInvariant.released_of_success (inv : CoverageInvariant w)
    (reserving : Reserving w) {origin : Nat} (taken : w.step (.mark origin tag .success) = some w')
    (before : w.coordinator.ledger.get? tag ≠ some .success)
    (success : w'.coordinator.ledger.get? tag = some .success) : Released w' tag := by
  rcases step_mark taken with rfl | ⟨c, accepted, rfl⟩
  · exact absurd success before
  obtain ⟨current, present, ⟨repeated, _⟩ | ⟨legal, rfl⟩⟩ := mark_ok accepted
  · exact absurd (present.trans (congrArg some repeated)) before
  have unclaimed : ∀ e ∈ w.emissions, e.batch.generation = w.coordinator.generation →
      tag ∉ e.claims := by
    intro e member now claimed
    have inBatch := Emission.claims_subset_batch (inv.batches.progress e member) claimed
    obtain ⟨command, inCommands, covered⟩ := List.mem_flatMap.mp inBatch
    obtain ⟨record, recorded, final⟩ :=
      (inv.batches.faithful e member command inCommands).final covered
    obtain ⟨record', recorded', state, _⟩ := inv.batches.ledger.recorded tag current present
    rw [now, recorded'] at recorded
    cases recorded
    rw [← state, final] at legal
    cases legal
  refine ⟨⟨.success, success, .inl rfl⟩, ?_, unclaimed⟩
  by_contra reserved
  obtain ⟨batchId, reserved⟩ := Option.ne_none_iff_exists'.mp reserved
  obtain ⟨e, member, now, owed⟩ := reserving tag batchId reserved
  obtain ⟨left, inLeft, covered⟩ := List.mem_flatMap.mp owed
  exact unclaimed e member now
    (List.mem_flatMap.mpr ⟨left, List.mem_append_right _ inLeft, covered⟩)

/-- A success that nothing releases is covered by one of the first `max_hold + 1` batches prepared
after it was recorded, whatever happens to the deliveries below it. -/
theorem success_covered_in_time
    (run : Run ChannelWorld.step (init generation coalesce maxHold maxPending)
      actions w) {origin : Nat} (taken : w.step (.mark origin tag .success) = some w')
    (before : w.coordinator.ledger.get? tag ≠ some .success)
    (success : w'.coordinator.ledger.get? tag = some .success) {later : List ChannelAction}
    {w₂ : ChannelWorld} (following : Run ChannelWorld.step w' later w₂)
    (valid : w₂.coordinator.generation = w'.coordinator.generation)
    (unreleased : ∀ origin, .release origin tag ∉ later)
    (prepared : w'.coordinator.maxHold < later.countP ChannelAction.isPrepare) :
    ∃ batch ∈ w₂.batches.drop w'.batches.length, tag ∈ batch.coveredTags := by
  obtain ⟨inv, reserving⟩ := reserving_of_run run
  have released := inv.released_of_success reserving taken before success
  obtain ⟨_, _, _, covered | waiting⟩ := released.run (inv.step taken) following unreleased
  · exact covered
  · obtain ⟨_, _, counted, bounded⟩ := waiting valid
    omega

/-- Held once below an open delivery, then acknowledged alone. -/
theorem success_covered_in_time_second :
    ∃ w w' w₂, Run ChannelWorld.step (init 0 true 1 0) [.register 1, .register 2] w ∧
      w.step (.mark 0 2 .success) = some w' ∧
      Run ChannelWorld.step w' [.prepare false, .prepare false] w₂ ∧
      ∃ batch ∈ w₂.batches.drop w'.batches.length, 2 ∈ batch.coveredTags := by
  obtain ⟨w, run, checked⟩ := exists_runWithin_of_any ChannelWorld.step (fun _ _ => True)
    (init 0 true 1 0) [.register 1, .register 2]
    (fun w => w.coordinator.ledger.get? 2 != some .success &&
      (w.step (.mark 0 2 .success)).any fun w' : ChannelWorld =>
        (w'.coordinator.ledger.get? 2 == some .success && w'.coordinator.maxHold == 1) &&
        (execute ChannelWorld.step w' [.prepare false, .prepare false]).any
          fun w₂ : ChannelWorld => w₂.coordinator.generation == w'.coordinator.generation)
    (by decide)
  simp only [Bool.and_eq_true, Option.any_eq_true, beq_iff_eq, bne_iff_ne] at checked
  obtain ⟨before, w', taken, ⟨success, hold⟩, w₂, executed, valid⟩ := checked
  have following : Run ChannelWorld.step w' [.prepare false, .prepare false] w₂ :=
    runWithin_of_executeWithin executed
  exact ⟨w, w', w₂, run, taken, following, success_covered_in_time run taken before success
    following valid (by simp) (by rw [hold]; decide)⟩

end Run
end RabbitKit
