import RabbitKit.SettlementBatches

/-! # Each tag is handed to the channel at most once

A batch reserves the tags it covers, so at any time each of them is either still
reserved for that batch, or has left the ledger, or was handed back.  From this
`CoverageInvariant` follow the two directions of the reservation protocol: a tag
that was handed over is never planned again, and a tag whose command was
withheld is.
-/

namespace RabbitKit

open SettlementCoordinator LabelledRun Emission ChannelWorld List Option

def Emission.unresolved (e : Emission) : List SettlementCommand :=
  match e.phase with
  | .idle => e.remaining
  | .awaiting command => command :: e.remaining
  | .invalidating _ => e.remaining
  | .releasing _ => e.remaining
  | .finished _ _ => []
  | .interrupted command => command :: e.remaining

def Emission.resolved (e : Emission) : List SettlementCommand :=
  match e.phase with
  | .idle => e.emitted
  | .awaiting _ => e.emitted
  | .invalidating command => e.emitted ++ [command]
  | .releasing command => e.emitted ++ [command]
  | .finished command _ => e.emitted ++ [command]
  | .interrupted _ => e.emitted

def Emission.claims (e : Emission) : List Nat :=
  (e.resolved ++ e.unresolved).flatMap SettlementCommand.covers

/-- `covered_tags`. -/
def SettlementBatch.coveredTags (batch : SettlementBatch) : List Nat :=
  batch.commands.flatMap SettlementCommand.covers

structure Emission.Holds (c : SettlementCoordinator) (e : Emission) : Prop where
  reserved : ∀ command ∈ e.unresolved, ∀ tag ∈ command.covers,
    c.reserved.get? tag = some e.batch.batchId
  settled : ∀ command ∈ e.resolved, ∀ tag ∈ command.covers, c.ledger.get? tag = none

structure CoverageInvariant (w : ChannelWorld) : Prop where
  batches : BatchInvariant w
  holds : ∀ e ∈ w.emissions, e.batch.generation = w.coordinator.generation →
    e.Holds w.coordinator
  fresh : ∀ (i j : Nat) (e e' : Emission), i < j → w.emissions[i]? = some e → w.emissions[j]? = some
    e' →
    e.batch.generation = e'.batch.generation →
    ∀ tag ∈ e.claims, tag ∉ e'.batch.coveredTags
  once : ∀ generation,
    ((w.handed.filter fun command => command.generation = generation).flatMap
      SettlementCommand.covers).Nodup

variable {w w' : ChannelWorld} {action : ChannelAction}

variable {tag : Nat} {command : SettlementCommand} {e : Emission}

theorem Emission.attempted_subset_claims
    (member : command ∈ e.attempted) (covered : tag ∈ command.covers) : tag ∈ e.claims := by
  refine mem_flatMap.mpr ⟨command, ?_, covered⟩
  cases phase : e.phase <;> simp [attempted, resolved, unresolved, phase] at member ⊢ <;> tauto

theorem Emission.claims_subset_batch (progress : e.batch.commands = e.attempted ++ e.remaining)
    (claimed : tag ∈ e.claims) : tag ∈ e.batch.coveredTags := by
  obtain ⟨command, member, covered⟩ := mem_flatMap.mp claimed
  refine mem_flatMap.mpr ⟨command, ?_, covered⟩
  rw [progress]
  cases phase : e.phase <;> simp [attempted, resolved, unresolved, phase] at member ⊢ <;> tauto

variable {c c' : SettlementCoordinator} {emissionAction : EmissionAction}

theorem EmissionStep.claims_subset {e e' : Emission}
    (stepped : EmissionStep c e emissionAction c' e') (claimed : tag ∈ e'.claims) :
    tag ∈ e.claims := by
  obtain ⟨command, member, covered⟩ := mem_flatMap.mp claimed
  refine mem_flatMap.mpr ⟨command, ?_, covered⟩
  cases stepped with
  | handOver handed rest idle first =>
    simp [resolved, unresolved, idle, first] at member ⊢
    tauto
  | commit _ awaiting | failNegative _ awaiting | failHarmless _ awaiting | interrupt _ awaiting =>
    simp [resolved, unresolved, awaiting] at member ⊢
    tauto
  | invalidate failed invalidating =>
    simp [resolved, unresolved, invalidating] at member ⊢
    tauto
  | withhold failed releasing =>
    simp [resolved, unresolved, releasing] at member ⊢
    tauto

theorem CoverageInvariant.disjoint (inv : CoverageInvariant w) {i j : Nat} {e e' : Emission}
    (distinct : i ≠ j) (found : w.emissions[i]? = some e) (found' : w.emissions[j]? = some e')
    (same : e.batch.generation = e'.batch.generation) (claimed : tag ∈ e.claims) :
    tag ∉ e'.claims := by
  intro claimed'
  have member := mem_of_getElem? found
  have member' := mem_of_getElem? found'
  rcases Nat.lt_or_gt_of_ne distinct with before | after
  · exact inv.fresh i j e e' before found found' same tag claimed
      (claims_subset_batch (inv.batches.progress e' member') claimed')
  · exact inv.fresh j i e' e after found' found same.symm tag claimed'
      (claims_subset_batch (inv.batches.progress e member) claimed)

theorem Emission.Holds.not_plannable {c : SettlementCoordinator}
    (holds : e.Holds c) (claimed : tag ∈ e.claims) :
    c.ledger.get? tag = none ∨ c.reserved.get? tag = some e.batch.batchId := by
  obtain ⟨command, member, covered⟩ := mem_flatMap.mp claimed
  rcases mem_append.mp member with resolved | unresolved
  · exact .inl (holds.settled command resolved tag covered)
  · exact .inr (holds.reserved command unresolved tag covered)

theorem Emission.Holds.transfer (holds : e.Holds c)
    (reserved : ∀ tag ∈ e.claims, c'.reserved.get? tag = c.reserved.get? tag)
    (ledger : ∀ tag ∈ e.claims, c.ledger.get? tag = none → c'.ledger.get? tag = none) :
    e.Holds c' where
  reserved := by
    intro command member tag covered
    rw [reserved tag (mem_flatMap.mpr ⟨command, mem_append_right _ member, covered⟩)]
    exact holds.reserved command member tag covered
  settled := by
    intro command member tag covered
    exact ledger tag (mem_flatMap.mpr ⟨command, mem_append_left _ member, covered⟩)
      (holds.settled command member tag covered)

theorem Emission.awaiting_disjoint {command other : SettlementCommand}
    (wellFormed : e.batch.WellFormed) (progress : e.batch.commands = e.attempted ++ e.remaining)
    (attempted : command ∈ e.attempted) (left : other ∈ e.remaining)
    (covered : tag ∈ command.covers) : tag ∉ other.covers := by
  intro covered'
  have separated := (pairwise_flatMap.mp wellFormed.coversAscending).2
  rw [progress] at separated
  have below := (pairwise_append.mp separated).2.2 command attempted other left
  exact lt_irrefl _ (below tag covered tag covered')

theorem Emission.Holds.resolve {e e' : Emission} (holds : e.Holds c)
    (wellFormed : e.batch.WellFormed) (progress : e.batch.commands = e.attempted ++ e.remaining)
    (awaiting : e.phase = .awaiting command) (sameBatch : e'.batch = e.batch)
    (unresolved : e'.unresolved = e.remaining) (resolved : e'.resolved = e.emitted ++ [command])
    (shrinks : Shrinks c c') (dropped : ∀ tag ∈ command.covers, c'.ledger.get? tag = none)
    (reserved : ∀ tag ∉ command.covers, c'.reserved.get? tag = c.reserved.get? tag) :
    e'.Holds c' where
  reserved := by
    intro other left tag covered
    rw [unresolved] at left
    have apart : tag ∉ command.covers := fun inFlight =>
      awaiting_disjoint wellFormed progress (by simp [attempted, awaiting]) left inFlight covered
    rw [reserved tag apart, sameBatch]
    exact holds.reserved other (by simp [Emission.unresolved, awaiting, left]) tag covered
  settled := by
    intro other done tag covered
    rw [resolved] at done
    rcases mem_append.mp done with earlier | last
    · exact shrinks.ledger_none
        (holds.settled other (by simp [Emission.resolved, awaiting, earlier]) tag covered)
    · obtain rfl : other = command := by simpa using last
      exact dropped tag covered

theorem EmissionStep.holds {e e' : Emission} (stepped : EmissionStep c e emissionAction c' e')
    (wellFormed : e.batch.WellFormed) (progress : e.batch.commands = e.attempted ++ e.remaining)
    (older : e.batch.generation ≤ c.generation)
    (holds : e.batch.generation = c.generation → e.Holds c)
    (current : e.batch.generation = c'.generation) : e'.Holds c' := by
  cases stepped with
  | handOver command rest idle first =>
    have before := holds current
    refine ⟨fun other left => before.reserved other ?_, fun other done => before.settled other ?_⟩
    · simpa [unresolved, idle, first] using left
    · simpa [resolved, idle] using done
  | commit command awaiting =>
    have shrinks := commitCommand_shrinks c e.batch command
    have now : e.batch.generation = c.generation := current.trans shrinks.generation
    refine (holds now).resolve wellFormed progress awaiting rfl rfl rfl shrinks ?_ ?_
    · exact fun tag covered => by rw [commitCommand_ledger, if_pos ⟨now, covered⟩]
    · exact fun tag apart => by rw [commitCommand_reserved, if_neg fun both => apart both.2]
  | failNegative command awaiting | failHarmless command awaiting =>
    have shrinks := recordFailure_shrinks c e.batch command
    have now : e.batch.generation = c.generation := current.trans shrinks.generation
    refine (holds now).resolve wellFormed progress awaiting rfl rfl rfl shrinks ?_ ?_
    · exact fun tag covered => by rw [recordFailure_ledger, if_pos ⟨now, covered⟩]
    · exact fun tag apart => by rw [recordFailure_reserved, if_neg fun both => apart both.2]
  | invalidate command invalidating =>
    simp only [invalidated] at current
    omega
  | withhold command releasing =>
    have shrinks := releaseCommands_shrinks c e.batch e.remaining
    have before := holds (current.trans shrinks.generation)
    refine ⟨fun other left => ?_, fun other done tag covered => ?_⟩
    · simp [unresolved] at left
    · rw [releaseCommands_ledger]
      exact before.settled other (by simpa [resolved, releasing] using done) tag covered
  | interrupt command awaiting =>
    have before := holds current
    refine ⟨fun other left => before.reserved other ?_, fun other done => before.settled other ?_⟩
    · simpa [unresolved, awaiting] using left
    · simpa [resolved, awaiting] using done

structure SameAt (c c' : SettlementCoordinator) (tag : Nat) : Prop where
  ledger : c'.ledger.get? tag = c.ledger.get? tag
  reserved : c'.reserved.get? tag = c.reserved.get? tag
  hold : c'.hold.get? tag = c.hold.get? tag
  maxHold : c'.maxHold = c.maxHold

theorem SameAt.refl (c : SettlementCoordinator) (tag : Nat) : SameAt c c tag := ⟨rfl, rfl, rfl, rfl⟩

variable {batch : SettlementBatch}

theorem commands_sameAt {c : SettlementCoordinator}
    (apart : batch.generation = c.generation → tag ∉ command.covers) :
    SameAt c (c.commitCommand batch command) tag ∧
      SameAt c (c.recordFailure batch command).1 tag := by
  by_cases current : batch.generation = c.generation
  · have outside := apart current
    constructor <;> constructor <;>
      simp [commitCommand, recordFailure, settleTags, current, outside]
  · constructor <;> constructor <;> simp [commitCommand, recordFailure, current]

theorem EmissionStep.sameAt_of_unclaimed {e e' : Emission}
    (stepped : EmissionStep c e emissionAction c' e') (same : c'.generation = c.generation)
    (unclaimed : e.batch.generation = c.generation → tag ∉ e.claims) : SameAt c c' tag := by
  have apart : ∀ command ∈ e.unresolved, e.batch.generation = c.generation →
      tag ∉ command.covers := fun command member current covered =>
    unclaimed current (mem_flatMap.mpr ⟨command, mem_append_right _ member, covered⟩)
  cases stepped with
  | handOver | interrupt => exact .refl c tag
  | commit command awaiting =>
    exact (commands_sameAt (apart command (by simp [unresolved, awaiting]))).1
  | failNegative command awaiting | failHarmless command awaiting =>
    exact (commands_sameAt (apart command (by simp [unresolved, awaiting]))).2
  | invalidate => simp [invalidated] at same
  | withhold command releasing =>
    have reserved : (c.releaseCommands e.batch e.remaining).reserved.get? tag =
        c.reserved.get? tag := by
      rw [releaseCommands_reserved, if_neg]
      rintro ⟨current, covered, _⟩
      obtain ⟨left, member, inLeft⟩ := mem_flatMap.mp covered
      exact apart left (by simpa [unresolved, releasing] using member) current inLeft
    refine ⟨by rw [releaseCommands_ledger], reserved, ?_, ?_⟩ <;>
      · unfold releaseCommands
        split <;> rfl

theorem BatchInvariant.claimed_le (inv : BatchInvariant w)
    (member : e ∈ w.emissions) (current : e.batch.generation = w.coordinator.generation)
    (claimed : tag ∈ e.claims) : tag ≤ w.coordinator.lastRegistered := by
  have inBatch := claims_subset_batch (inv.progress e member) claimed
  obtain ⟨command, inCommands, covered⟩ := mem_flatMap.mp inBatch
  obtain ⟨record, recorded, _⟩ := (inv.faithful e member command inCommands).final covered
  exact ((inv.ledger.bounded _ _ _ recorded).2 current).2

theorem CoverageInvariant.holds_other (inv : CoverageInvariant w) (ledgerStep : LedgerStep w w')
    (member : e ∈ w.emissions) (current : e.batch.generation = w'.coordinator.generation)
    (reserved : w'.coordinator.generation = w.coordinator.generation → ∀ tag ∈ e.claims,
      w'.coordinator.reserved.get? tag = w.coordinator.reserved.get? tag) :
    e.Holds w'.coordinator := by
  have older := inv.batches.generations e member
  have same : w'.coordinator.generation = w.coordinator.generation :=
    le_antisymm (current ▸ older) ledgerStep.generation_le
  have now := current.trans same
  refine (inv.holds e member now).transfer (reserved same) fun tag claimed absent => ?_
  exact ledgerStep.ledger_none absent (inv.batches.claimed_le member now claimed)

theorem CoverageInvariant.holds_step (inv : CoverageInvariant w) (taken : w.step action = some w') :
    ∀ e ∈ w'.emissions, e.batch.generation = w'.coordinator.generation →
      e.Holds w'.coordinator := by
  have ledgerStep := step_ledgerStep taken
  cases step_emissionsStep taken with
  | same emissions handed reserved =>
    rw [emissions]
    intro e member current
    refine inv.holds_other ledgerStep member current fun same tag _ => ?_
    rcases reserved with kept | restarted
    · rw [kept]
    · simp [restarted, invalidated] at same
  | planned forceIndividual =>
    intro e member current
    have planned := prepare_planned w.coordinator forceIndividual
    rcases mem_append.mp member with old | fresh
    · refine inv.holds_other ledgerStep old current fun same tag claimed => ?_
      have holds := inv.holds e old (current.trans same)
      simp only [afterPrepare, prepare_reserved]
      rw [if_neg]
      intro covered
      obtain ⟨command, inBatch, inCovers⟩ := mem_flatMap.mp covered
      obtain ⟨⟨state, inLedger⟩, free⟩ := (planned command inBatch).waiting tag inCovers
      rcases holds.not_plannable claimed with absent | taken
      · simp [absent] at inLedger
      · simp [free] at taken
    · obtain rfl : e = start (w.coordinator.prepare forceIndividual).2 := by
        simpa using fresh
      refine ⟨fun command inBatch tag covered => ?_, fun command done => ?_⟩
      · simp only [afterPrepare, prepare_reserved]
        exact if_pos (mem_flatMap.mpr ⟨command, inBatch, covered⟩)
      · simp [start, resolved] at done
  | moved index e emissionAction c after found stepped =>
    have here := mem_of_getElem? found
    intro other member current
    obtain ⟨position, located⟩ := mem_iff_getElem?.mp member
    rcases getElem?_of_moved found located with ⟨_, rfl⟩ | ⟨same, located'⟩
    · exact stepped.holds (inv.batches.wellFormed e here) (inv.batches.progress e here)
        (inv.batches.generations e here) (inv.holds e here) (stepped.batch_eq ▸ current)
    · refine inv.holds_other ledgerStep (mem_of_getElem? located') current
        fun sameGeneration tag claimed => ?_
      refine (stepped.sameAt_of_unclaimed sameGeneration fun now => ?_).reserved
      exact inv.disjoint (.symm same) located' found
        ((current.trans sameGeneration).trans now.symm) claimed

theorem CoverageInvariant.fresh_step (inv : CoverageInvariant w) (taken : w.step action = some w') :
    ∀ (i j : Nat) (e e' : Emission), i < j → w'.emissions[i]? = some e →
      w'.emissions[j]? = some e' → e.batch.generation = e'.batch.generation →
      ∀ tag ∈ e.claims, tag ∉ e'.batch.coveredTags := by
  cases step_emissionsStep taken with
  | same emissions =>
    rw [emissions]
    exact inv.fresh
  | planned forceIndividual =>
    intro i j e e' before found found' same tag claimed covered
    simp only [afterPrepare] at found found'
    have bound := (List.getElem?_eq_some_iff.mp found').1
    have earlier : i < w.emissions.length := by
      simp only [length_append, length_singleton] at bound
      omega
    rw [getElem?_append_left earlier] at found
    by_cases old : j < w.emissions.length
    · rw [getElem?_append_left old] at found'
      exact inv.fresh i j e e' before found found' same tag claimed covered
    · rw [getElem?_append_right (by omega), getElem?_singleton] at found'
      obtain rfl : start (w.coordinator.prepare forceIndividual).2 = e' := by
        split at found'
        · exact some.inj found'
        · cases found'
      have current : e.batch.generation = w.coordinator.generation := by
        simpa [start] using same
      obtain ⟨command, inBatch, inCovers⟩ := mem_flatMap.mp covered
      have planned := prepare_planned w.coordinator forceIndividual command inBatch
      obtain ⟨⟨state, inLedger⟩, free⟩ := planned.waiting tag inCovers
      rcases (inv.holds e (mem_of_getElem? found) current).not_plannable claimed with
        absent | reserved
      · simp [absent] at inLedger
      · simp [free] at reserved
  | moved index moving emissionAction c after found stepped =>
    have origin : ∀ (position : Nat) (e : Emission),
        (w.emissions.set index after)[position]? = some e →
        ∃ old, w.emissions[position]? = some old ∧ old.batch = e.batch ∧
          ∀ tag ∈ e.claims, tag ∈ old.claims := by
      intro position e located
      rcases getElem?_of_moved found located with ⟨rfl, rfl⟩ | ⟨_, located'⟩
      · exact ⟨moving, found, stepped.batch_eq.symm, fun tag => stepped.claims_subset⟩
      · exact ⟨e, located', rfl, fun _ => id⟩
    intro i j e e' before located located' same tag claimed covered
    obtain ⟨old, foundOld, batchOld, claimsOld⟩ := origin i e located
    obtain ⟨old', foundOld', batchOld', _⟩ := origin j e' located'
    refine inv.fresh i j old old' before foundOld foundOld' ?_ tag (claimsOld tag claimed) ?_
    · rw [batchOld, batchOld', same]
    · rw [batchOld']
      exact covered

variable {index : Nat}

/-- A command about to be handed over shares no tag with those handed before. -/
theorem CoverageInvariant.handed_apart (inv : CoverageInvariant w) {rest : List SettlementCommand}
    (found : w.emissions[index]? = some e) (first : e.remaining = command :: rest)
    (idle : e.phase = .idle) {earlier : SettlementCommand} (member : earlier ∈ w.handed)
    (same : earlier.generation = command.generation)
    (covered : tag ∈ earlier.covers) : tag ∉ command.covers := by
  intro covered'
  have here := mem_of_getElem? found
  obtain ⟨other, inEmissions, attempted⟩ := inv.batches.handed earlier member
  obtain ⟨position, located⟩ := mem_iff_getElem?.mp inEmissions
  by_cases samePosition : index = position
  · subst samePosition
    obtain rfl : e = other := by simpa [found] using located
    exact awaiting_disjoint (inv.batches.wellFormed e here)
      (inv.batches.progress e here) attempted (by simp [first]) covered covered'
  · have claimed : tag ∈ e.claims := by
      refine mem_flatMap.mpr ⟨command, mem_append_right _ ?_, covered'⟩
      simp [unresolved, idle, first]
    have generations : other.batch.generation = e.batch.generation := by
      have inBatch : earlier ∈ other.batch.commands := by
        rw [inv.batches.progress other inEmissions]
        exact mem_append_left _ attempted
      have inBatch' : command ∈ e.batch.commands := by
        rw [inv.batches.progress e here, first]
        simp
      rw [← (inv.batches.wellFormed other inEmissions).generation earlier inBatch, same,
        (inv.batches.wellFormed e here).generation command inBatch']
    exact inv.disjoint (.symm samePosition) located found generations
      (attempted_subset_claims attempted covered) claimed

theorem CoverageInvariant.once_step (inv : CoverageInvariant w)
    (taken : w.step action = some w') (generation : Nat) :
    ((w'.handed.filter fun command => command.generation = generation).flatMap
      SettlementCommand.covers).Nodup := by
  cases step_emissionsStep taken with
  | same _ handed =>
    rw [handed]
    exact inv.once generation
  | planned forceIndividual =>
    exact inv.once generation
  | moved index e emissionAction c after found stepped =>
    have here := mem_of_getElem? found
    cases stepped with
    | handOver command rest idle first =>
      simp only [afterEmission, handedBy, first, take_succ_cons,
        take_zero, filter_append, flatMap_append]
      by_cases same : command.generation = generation
      · have nodupCovers : command.covers.Nodup := by
          have each := (pairwise_flatMap.mp (inv.batches.wellFormed e here).coversAscending).1
          have inBatch : command ∈ e.batch.commands := by
            rw [inv.batches.progress e here, first]
            simp
          exact (each command inBatch).imp ne_of_lt
        simp only [filter_cons, same, decide_true, if_true, filter_nil,
          flatMap_cons, flatMap_nil, append_nil]
        refine (inv.once generation).append nodupCovers ?_
        intro tag handed covered
        obtain ⟨earlier, member, inEarlier⟩ := mem_flatMap.mp handed
        obtain ⟨inHanded, sameGeneration⟩ := mem_filter.mp member
        refine inv.handed_apart found first idle inHanded ?_ inEarlier covered
        rw [same]
        simpa using sameGeneration
      · simpa [same] using inv.once generation
    | _ => simpa [afterEmission, handedBy] using inv.once generation

theorem CoverageInvariant.step (inv : CoverageInvariant w) (taken : w.step action = some w') :
    CoverageInvariant w' :=
  ⟨inv.batches.step taken, inv.holds_step taken, inv.fresh_step taken, inv.once_step taken⟩

variable {actions : List ChannelAction}

theorem coverageInvariant_of_run {generation : Nat} {coalesce : Bool} {maxHold maxPending : Int}
    (run : Run step (init generation coalesce maxHold maxPending)
      actions w) : CoverageInvariant w := by
  refine run.invariant (fun inv _ taken => inv.step taken) ?_
  exact ⟨batchInvariant_init generation coalesce maxHold maxPending,
    by simp [ChannelWorld.init], by simp [ChannelWorld.init], by simp [ChannelWorld.init]⟩

/-- A decided tag that no batch of its generation holds any more. -/
structure Released (w : ChannelWorld) (tag : Nat) : Prop where
  decided : ∃ state, w.coordinator.ledger.get? tag = some state ∧
    (state = .success ∨ state = .nack ∨ state = .reject)
  free : w.coordinator.reserved.get? tag = none
  unclaimed : ∀ e ∈ w.emissions, e.batch.generation = w.coordinator.generation →
    tag ∉ e.claims

def ChannelAction.isPrepare : ChannelAction → Bool
  | .prepare _ => true
  | _ => false

section

variable (released : Released w tag) (inv : CoverageInvariant w) (taken : w.step action = some w')
  (planning : action.isPrepare = false) (unreleased : ∀ origin, action ≠ .release origin tag)
  (same : w'.coordinator.generation = w.coordinator.generation)
include released inv taken planning unreleased same

theorem Released.sameAt : SameAt w.coordinator w'.coordinator tag := by
  obtain ⟨state, inLedger, final⟩ := released.decided
  have known : tag ≤ w.coordinator.lastRegistered := by
    obtain ⟨record, recorded, _⟩ := inv.batches.ledger.recorded _ _ inLedger
    exact ((inv.batches.ledger.bounded _ _ _ recorded).2 rfl).2
  cases action with
  | deliver | settleElsewhere => cases taken; exact .refl _ tag
  | land command => rw [step_land taken]; exact SameAt.refl _ tag
  | register newTag =>
    rcases step_register taken with rfl | ⟨c, accepted, rfl⟩
    · exact .refl _ tag
    · have registers := register_ok accepted
      have above := registers.above
      have different : tag ≠ newTag := by omega
      exact ⟨by simp [afterRegister, registers.ledger, different],
        by simp [afterRegister, registers.reserved],
        by simp [afterRegister, registers.hold], registers.maxHold⟩
  | mark origin decidedTag decision =>
    rcases step_mark taken with rfl | ⟨c, accepted, rfl⟩
    · exact .refl _ tag
    · obtain ⟨current, present, ⟨_, rfl, _⟩ | ⟨legal, rfl⟩⟩ := mark_ok accepted
      · exact .refl _ tag
      · have different : tag ≠ decidedTag := by
          rintro rfl
          obtain rfl : state = current := by simpa [inLedger] using present
          rcases final with rfl | rfl | rfl <;> simp [DeliveryState.transitions] at legal
        exact ⟨by simp [afterMark, different], rfl, rfl, rfl⟩
  | release origin other =>
    cases taken
    have different : tag ≠ other := by
      rintro rfl
      exact unreleased origin rfl
    exact ⟨by simp [release, different], rfl, by simp [release, different], rfl⟩
  | prepare forceIndividual => simp [ChannelAction.isPrepare] at planning
  | emission index emissionAction =>
    obtain ⟨e, c, next, found, stepped, rfl⟩ := step_emission taken
    exact (Emission.step_cases stepped).sameAt_of_unclaimed same
      (released.unclaimed e (mem_of_getElem? found))
  | reconnect =>
    cases taken
    simp [invalidate, invalidated] at same

theorem Released.step : Released w' tag := by
  have kept := released.sameAt inv taken planning unreleased same
  refine ⟨kept.ledger ▸ released.decided, kept.reserved ▸ released.free, ?_⟩
  rw [same]
  cases step_emissionsStep taken with
  | same emissions =>
    rw [emissions]
    exact released.unclaimed
  | planned forceIndividual => simp [ChannelAction.isPrepare] at planning
  | moved index e emissionAction c after found stepped =>
    intro other member current
    rcases mem_emissions_afterEmission member with old | rfl
    · exact released.unclaimed other old current
    · intro claimed
      exact released.unclaimed e (mem_of_getElem? found) (stepped.batch_eq ▸ current)
        (stepped.claims_subset claimed)

end

theorem Released.prepare (released : Released w tag) (forceIndividual : Bool) :
    tag ∈ (w.coordinator.prepare forceIndividual).2.coveredTags ∨
      (Released (w.afterPrepare forceIndividual) tag ∧
        (w.afterPrepare forceIndividual).coordinator.hold.getD tag 0 =
          w.coordinator.hold.getD tag 0 + 1 ∧
        w.coordinator.hold.getD tag 0 < w.coordinator.maxHold) := by
  obtain ⟨state, inLedger, final⟩ := released.decided
  by_cases covered : tag ∈ (w.coordinator.prepare forceIndividual).2.coveredTags
  · exact .inl covered
  right
  rcases prepare_complete w.coordinator forceIndividual inLedger with planned | blocking | held
  · exact absurd planned covered
  · rcases blocking with reserved | undecided
    · simp [released.free] at reserved
    · have distinct := undecided state inLedger
      rcases final with rfl | rfl | rfl <;> simp at distinct
  · refine ⟨⟨⟨state, ?_, final⟩, ?_, fun e member current => ?_⟩, ?_, held.2.2.1⟩
    · simpa [afterPrepare] using inLedger
    · simp only [afterPrepare, prepare_reserved]
      exact (if_neg covered).trans released.free
    · rcases mem_append.mp member with old | fresh
      · exact released.unclaimed e old (by simpa [afterPrepare] using current)
      · obtain rfl : e = start (w.coordinator.prepare forceIndividual).2 := by
          simpa using fresh
        exact fun claimed => covered (claims_subset_batch rfl claimed)
    · simp only [afterPrepare, OrderedDict.getD, held.2.2.2, getD_some]

def ChannelWorld.batches (w : ChannelWorld) : List SettlementBatch :=
  w.emissions.map Emission.batch

theorem EmissionsStep.batches_eq (stepped : EmissionsStep w action w')
    (planning : action.isPrepare = false) : w'.batches = w.batches := by
  cases stepped with
  | same emissions => simp [batches, emissions]
  | planned forceIndividual => simp [ChannelAction.isPrepare] at planning
  | moved index e emissionAction c after found stepped =>
    have located : (w.emissions.map batch)[index]? = some after.batch := by
      rw [List.getElem?_map, found, stepped.batch_eq, Option.map_some]
    obtain ⟨bound, sameBatch⟩ := List.getElem?_eq_some_iff.mp located
    simp only [batches, afterEmission, List.map_set]
    rw [← sameBatch, set_getElem_self]

/-- Along a run in which nothing else releases it, a released tag is covered by
a new batch or was held once by each plan so far. -/
theorem Released.run {w₂ : ChannelWorld} (released : Released w tag) (inv : CoverageInvariant w)
    (run : Run ChannelWorld.step w actions w₂)
    (unreleased : ∀ origin, .release origin tag ∉ actions) :
    CoverageInvariant w₂ ∧ w.coordinator.generation ≤ w₂.coordinator.generation ∧
      w.batches.length ≤ w₂.batches.length ∧
      ((∃ batch ∈ w₂.batches.drop w.batches.length, tag ∈ batch.coveredTags) ∨
        (w₂.coordinator.generation = w.coordinator.generation →
          Released w₂ tag ∧ w₂.coordinator.maxHold = w.coordinator.maxHold ∧
          actions.countP ChannelAction.isPrepare ≤ w₂.coordinator.hold.getD tag 0 ∧
          (actions.countP ChannelAction.isPrepare = 0 ∨
            w₂.coordinator.hold.getD tag 0 ≤ w.coordinator.maxHold))) := by
  induction run with
  | nil => exact ⟨inv, le_refl _, le_refl _, .inr fun _ => by simp [released]⟩
  | @snoc middle final earlier action _ _ taken ih =>
    obtain ⟨middleInv, grown, more, progress⟩ :=
      ih fun origin member => unreleased origin (mem_append_left _ member)
    have later := (step_ledgerStep taken).generation_le
    refine ⟨middleInv.step taken, grown.trans later, ?_⟩
    cases planning : action.isPrepare with
    | false =>
      have sameBatches := (step_emissionsStep taken).batches_eq planning
      refine ⟨sameBatches ▸ more, ?_⟩
      rw [sameBatches]
      refine progress.imp_right fun waiting sameGeneration => ?_
      have middleSame : middle.coordinator.generation = w.coordinator.generation :=
        le_antisymm (sameGeneration ▸ later) grown
      obtain ⟨still, sameMax, counted, bounded⟩ := waiting middleSame
      have unreleasedHere : ∀ origin, action ≠ .release origin tag := by
        rintro origin rfl
        exact unreleased origin (by simp)
      have stepSame := sameGeneration.trans middleSame.symm
      have kept := still.sameAt middleInv taken planning unreleasedHere stepSame
      refine ⟨still.step middleInv taken planning unreleasedHere stepSame,
        kept.maxHold.trans sameMax, ?_, ?_⟩
      · simpa [planning, OrderedDict.getD, kept.hold] using counted
      · simpa [planning, OrderedDict.getD, kept.hold] using bounded
    | true =>
      obtain ⟨forceIndividual, rfl⟩ : ∃ forceIndividual, action = .prepare forceIndividual := by
        cases action <;> simp [ChannelAction.isPrepare] at planning
        exact ⟨_, rfl⟩
      obtain rfl := step_prepare taken
      have appended : (middle.afterPrepare forceIndividual).batches =
          middle.batches ++ [(middle.coordinator.prepare forceIndividual).2] := by
        simp [batches, afterPrepare, start]
      rw [appended, drop_append_of_le_length more]
      refine ⟨by simp; omega, ?_⟩
      rcases progress with ⟨batch, member, covered⟩ | waiting
      · exact .inl ⟨batch, mem_append_left _ member, covered⟩
      · have middleSame : (middle.afterPrepare forceIndividual).coordinator.generation =
            middle.coordinator.generation := by simp [afterPrepare]
        by_cases current : middle.coordinator.generation = w.coordinator.generation
        · obtain ⟨still, sameMax, counted, bounded⟩ := waiting current
          rcases still.prepare forceIndividual with covered | ⟨again, held, patient⟩
          · exact .inl ⟨_, mem_append_right _ (by simp), covered⟩
          · refine .inr fun _ => ⟨again, ?_, ?_, .inr ?_⟩
            · simpa [afterPrepare] using sameMax
            · rw [countP_append, held]
              simp [ChannelAction.isPrepare]
              exact counted
            · omega
        · exact .inr fun same => absurd (middleSame.symm.trans same) current

theorem DeliveryRecord.Final.state_cases {record : DeliveryRecord} (final : record.Final) :
    record.state = .success ∨ record.state = .nack ∨ record.state = .reject := by
  unfold DeliveryRecord.Final at final
  cases state : record.state <;> simp [state, DeliveryState.transitions] at final ⊢

theorem CoverageInvariant.withheld_released (inv : CoverageInvariant w)
    (taken : w.step (.emission index .withhold) = some w') (found : w.emissions[index]? = some e)
    (current : e.batch.generation = w.coordinator.generation)
    (withheld : tag ∈ e.remaining.flatMap SettlementCommand.covers)
    (present : ∃ state, w'.coordinator.ledger.get? tag = some state) : Released w' tag := by
  have here := mem_of_getElem? found
  obtain ⟨left, inRemaining, covered⟩ := mem_flatMap.mp withheld
  obtain ⟨moving, c, next, found', stepped, rfl⟩ := step_emission taken
  obtain rfl : e = moving := by simpa [found] using found'
  have progress := inv.batches.progress e here
  have wellFormed := inv.batches.wellFormed e here
  have holds := inv.holds e here current
  cases step_cases stepped with
  | withhold command releasing =>
    have shrinks := releaseCommands_shrinks w.coordinator e.batch e.remaining
    have unresolved : left ∈ e.unresolved := by
      simpa [unresolved, releasing] using inRemaining
    have claimed : tag ∈ e.claims := mem_flatMap.mpr ⟨left, mem_append_right _ unresolved, covered⟩
    have inBatch : left ∈ e.batch.commands := by
      rw [progress]
      exact mem_append_right _ inRemaining
    refine ⟨?_, ?_, ?_⟩
    · obtain ⟨state, inLedger⟩ := present
      obtain ⟨inLedger, _⟩ := shrinks.kept tag state inLedger
      obtain ⟨record, recorded, final⟩ := (inv.batches.faithful e here left inBatch).final covered
      obtain ⟨record', recorded', sameState, _⟩ := inv.batches.ledger.recorded _ _ inLedger
      rw [current, recorded'] at recorded
      obtain rfl := some.inj recorded
      refine ⟨state, ?_, sameState ▸ final.state_cases⟩
      simpa [afterEmission] using inLedger
    · simp only [afterEmission, releaseCommands_reserved]
      exact if_pos ⟨current, withheld, holds.reserved left unresolved tag covered⟩
    · intro other member sameGeneration claimedOther
      have now : other.batch.generation = e.batch.generation :=
        (sameGeneration.trans shrinks.generation).trans current.symm
      obtain ⟨position, located⟩ := mem_iff_getElem?.mp member
      rcases getElem?_of_moved found located with ⟨_, rfl⟩ | ⟨same, located'⟩
      · obtain ⟨done, inDone, covered'⟩ := mem_flatMap.mp claimedOther
        have attempted : done ∈ e.attempted := by
          simpa [Emission.resolved, Emission.unresolved, Emission.attempted, releasing] using inDone
        exact awaiting_disjoint wellFormed progress attempted inRemaining covered' covered
      · exact inv.disjoint same found located' now.symm claimed claimedOther

/-- Coverage and intent of the commands prepared and handed over so far. -/
structure SettlesOnce (w : ChannelWorld) : Prop where
  handedOnce : ∀ generation,
    ((w.handed.filter fun command => command.generation = generation).flatMap
      SettlementCommand.covers).Nodup
  handedPrepared : ∀ command ∈ w.handed, ∃ e ∈ w.emissions, command ∈ e.batch.commands
  wellFormed : ∀ e ∈ w.emissions, e.batch.WellFormed
  faithful : ∀ e ∈ w.emissions, ∀ command ∈ e.batch.commands,
    command.Faithful (w.records e.batch.generation)
  attemptedNotReplanned : ∀ (i j : Nat) (e e' : Emission), i < j →
    w.emissions[i]? = some e → w.emissions[j]? = some e' →
    e.batch.generation = e'.batch.generation →
    ∀ command ∈ e.attempted, ∀ tag ∈ command.covers, tag ∉ e'.batch.coveredTags
  withheldReplanned : ∀ (index tag : Nat) (e : Emission) (w₁ w₂ : ChannelWorld)
    (later : List ChannelAction), w.emissions[index]? = some e →
    w.step (.emission index .withhold) = some w₁ →
    e.batch.generation = w.coordinator.generation →
    tag ∈ e.remaining.flatMap SettlementCommand.covers →
    (∃ state, w₁.coordinator.ledger.get? tag = some state) →
    Run ChannelWorld.step w₁ later w₂ →
    w₂.coordinator.generation = w₁.coordinator.generation →
    (∀ origin, .release origin tag ∉ later) →
    w₁.coordinator.maxHold < later.countP ChannelAction.isPrepare →
    ∃ batch ∈ w₂.batches.drop w₁.batches.length, tag ∈ batch.coveredTags

/-- In every run each registered tag is covered by at most one command handed to
the channel, every command carries the recorded decision, tags of attempted
commands are never planned again, and withheld ones are once more plans were
made than a tag may be held. -/
theorem settlesOnce_of_run {generation : Nat} {coalesce : Bool} {maxHold maxPending : Int}
    {actions : List ChannelAction}
    (run : Run ChannelWorld.step (ChannelWorld.init generation coalesce maxHold maxPending)
      actions w) : SettlesOnce w := by
  have inv := coverageInvariant_of_run run
  refine ⟨inv.once, fun command member => ?_, inv.batches.wellFormed, inv.batches.faithful, ?_, ?_⟩
  · obtain ⟨e, here, attempted⟩ := inv.batches.handed command member
    refine ⟨e, here, ?_⟩
    rw [inv.batches.progress e here]
    exact mem_append_left _ attempted
  · intro i j e e' before found found' same command attempted tag covered
    exact inv.fresh i j e e' before found found' same tag
      (Emission.attempted_subset_claims attempted covered)
  · intro index tag e w₁ w₂ later found taken current withheld present run₂ same unreleased many
    have released := inv.withheld_released taken found current withheld present
    obtain ⟨_, _, _, covered | waiting⟩ := released.run (inv.step taken) run₂ unreleased
    · exact covered
    · omega

theorem settlesOnce_of_run_withheld : ∃ w, Run ChannelWorld.step (ChannelWorld.init 0 true 0 0)
        [.register 1, .register 2, .mark 0 1 .success, .mark 0 2 (.reject false),
          .prepare false, .emission 0 .handOver, .emission 0 .fail, .emission 0 .withhold,
          .prepare false, .emission 1 .handOver] w ∧ w.handed.length = 2 ∧ SettlesOnce w := by
  refine exists_runWithin_of_check (fun w => w.handed.length == 2) (by decide)
    fun w run checked => ?_
  exact ⟨by simpa using checked, settlesOnce_of_run run⟩

/-- However many batches of a generation are under way, no tag is claimed by two of them: while the
outcome of its command is open it is reserved for its batch, and afterwards it is not in the
ledger. -/
theorem concurrent_batches_exclusive {generation : Nat} {coalesce : Bool}
    {maxHold maxPending : Int} {actions : List ChannelAction}
    (run : Run ChannelWorld.step (ChannelWorld.init generation coalesce maxHold maxPending)
      actions w) {i j : Nat} {e e' : Emission} (found : w.emissions[i]? = some e)
    (found' : w.emissions[j]? = some e') (different : i ≠ j)
    (same : e.batch.generation = e'.batch.generation) : e.claims.Disjoint e'.claims ∧
      (e.batch.generation = w.coordinator.generation → e.Holds w.coordinator) := by
  have inv := coverageInvariant_of_run run
  refine ⟨fun tag claimed claimed' => ?_, inv.holds e (mem_of_getElem? found)⟩
  have progress := inv.batches.progress
  rcases Nat.lt_or_gt_of_ne different with before | after
  · exact inv.fresh i j e e' before found found' same tag claimed
      (Emission.claims_subset_batch (progress e' (mem_of_getElem? found')) claimed')
  · exact inv.fresh j i e' e after found' found same.symm tag claimed'
      (Emission.claims_subset_batch (progress e (mem_of_getElem? found)) claimed)

/-- The second batch is prepared while the frame of the first is on its way. -/
theorem concurrent_batches_exclusive_two : ∃ w, Run ChannelWorld.step
        (ChannelWorld.init 0 true 0 0) [.register 1, .mark 0 1 .success, .prepare false,
          .emission 0 .handOver, .register 2, .mark 0 2 .success, .prepare false] w ∧
      ∃ e e', w.emissions = [e, e'] ∧ e.claims = [1] ∧ e.claims.Disjoint e'.claims := by
  refine exists_runWithin_of_check (fun w => decide (w.emissions.map (fun e =>
    (e.claims, e.batch.generation)) = [([1], 0), ([2], 0)])) (by decide) fun w run checked => ?_
  obtain ⟨e, rest, emissions, first, others⟩ := map_eq_cons_iff.mp (of_decide_eq_true checked)
  obtain ⟨e', rfl, second⟩ := map_eq_singleton_iff.mp others
  have same : e.batch.generation = e'.batch.generation :=
    (congrArg Prod.snd first).trans (congrArg Prod.snd second).symm
  exact ⟨e, e', emissions, congrArg Prod.fst first, (concurrent_batches_exclusive run (i := 0)
    (j := 1) (by rw [emissions]; rfl) (by rw [emissions]; rfl) (by decide) same).1⟩

end RabbitKit
