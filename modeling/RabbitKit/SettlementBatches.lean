import RabbitKit.SettlementLedgerInvariant

/-! # Prepared batches and the decisions behind them

Whatever happens after a batch was prepared, its commands keep the order and the
covers the planner gave them, and every command still carries the decision that
was recorded for its tags: an acknowledgement covers only successes, a nack or
reject covers the one tag whose recorded kind and requeue flag it shows.
-/

namespace RabbitKit

open SettlementCoordinator LabelledRun Emission ChannelWorld List

structure SettlementBatch.WellFormed (batch : SettlementBatch) : Prop where
  coversAscending : (batch.commands.flatMap SettlementCommand.covers).Pairwise (· < ·)
  tagsAscending : batch.commands.Pairwise fun first second =>
    first.deliveryTag < second.deliveryTag
  maximum : ∀ command ∈ batch.commands, command.deliveryTag ∈ command.covers ∧
    ∀ tag ∈ command.covers, tag ≤ command.deliveryTag
  generation : ∀ command ∈ batch.commands, command.generation = batch.generation

/-- A command carries the decision recorded for the tags it covers. -/
def SettlementCommand.Faithful (command : SettlementCommand)
    (records : Nat → Option DeliveryRecord) : Prop :=
  match command.kind with
  | .ack => ∀ tag ∈ command.covers, records tag = some (.decided .success)
  | .nack => ∃ tag, command.covers = [tag] ∧
      records tag = some (.decided (.nack command.requeue))
  | .reject => ∃ tag, command.covers = [tag] ∧
      records tag = some (.decided (.reject command.requeue))

def Emission.attempted (e : Emission) : List SettlementCommand :=
  match e.phase with
  | .idle => e.emitted
  | .awaiting command => e.emitted ++ [command]
  | .invalidating command => e.emitted ++ [command]
  | .releasing command => e.emitted ++ [command]
  | .finished command _ => e.emitted ++ [command]
  | .interrupted command => e.emitted ++ [command]

/-- How a step may change the emissions and the commands handed over. -/
inductive EmissionsStep (w : ChannelWorld) : ChannelAction → ChannelWorld → Prop
  | same {action : ChannelAction} {w' : ChannelWorld}
      (emissions : w'.emissions = w.emissions) (handed : w'.handed = w.handed)
      (reserved : w'.coordinator.reserved = w.coordinator.reserved ∨
        w'.coordinator = w.coordinator.invalidated) : EmissionsStep w action w'
  | planned (forceIndividual : Bool) :
      EmissionsStep w (.prepare forceIndividual) (w.afterPrepare forceIndividual)
  | moved (index : Nat) (e : Emission) (action : EmissionAction)
      (c : SettlementCoordinator) (after : Emission)
      (found : w.emissions[index]? = some e)
      (stepped : EmissionStep w.coordinator e action c after) :
      EmissionsStep w (.emission index action) (w.afterEmission index e action c after)

variable {w w' : ChannelWorld} {action : ChannelAction}

theorem ChannelWorld.step_emissionsStep (taken : w.step action = some w') :
    EmissionsStep w action w' := by
  cases action with
  | deliver | settleElsewhere | release =>
    cases taken
    exact .same rfl rfl (.inl rfl)
  | land command =>
    rw [step_land taken]
    exact .same rfl rfl (.inl rfl)
  | register tag =>
    rcases step_register taken with rfl | ⟨c, accepted, rfl⟩
    · exact .same rfl rfl (.inl rfl)
    · exact .same rfl rfl (.inl (register_ok accepted).reserved)
  | mark origin tag decision =>
    rcases step_mark taken with rfl | ⟨c, accepted, rfl⟩
    · exact .same rfl rfl (.inl rfl)
    · obtain ⟨_, _, ⟨_, rfl, _⟩ | ⟨_, rfl⟩⟩ := mark_ok accepted
      · exact .same rfl rfl (.inl rfl)
      · exact .same rfl rfl (.inl rfl)
  | prepare forceIndividual =>
    rw [step_prepare taken]
    exact .planned forceIndividual
  | emission index emissionAction =>
    obtain ⟨e, c, next, found, stepped, rfl⟩ := step_emission taken
    exact .moved index e emissionAction c next found (step_cases stepped)
  | reconnect =>
    cases taken
    exact .same rfl rfl (.inr rfl)

theorem LedgerStep.generation_cases (stepped : LedgerStep w w') :
    w'.coordinator.generation = w.coordinator.generation ∨
      w'.coordinator = w.coordinator.invalidated := by
  cases stepped with
  | shrink shrinks => exact .inl shrinks.generation
  | register tag registers => exact .inl registers.generation
  | decide tag decision accepted =>
    obtain ⟨_, _, ⟨_, same, _⟩ | ⟨_, same⟩⟩ := mark_ok accepted <;> rw [same] <;> exact .inl rfl
  | restart restarted => exact .inr restarted

theorem LedgerStep.generation_le (stepped : LedgerStep w w') :
    w.coordinator.generation ≤ w'.coordinator.generation := by
  rcases stepped.generation_cases with same | restarted
  · exact le_of_eq same.symm
  · simp [restarted, invalidated]

variable {c c' : SettlementCoordinator} {e e' : Emission}

theorem ChannelWorld.step_generation (taken : w.step action = some w') :
    w'.coordinator.generation = w.coordinator.generation ∨ action = .reconnect ∨
      ∃ index, action = .emission index .invalidate := by
  cases action with
  | deliver | settleElsewhere | release =>
    cases taken
    exact .inl rfl
  | land command =>
    rw [step_land taken]
    exact .inl rfl
  | register tag =>
    rcases step_register taken with rfl | ⟨c, accepted, rfl⟩
    · exact .inl rfl
    · exact .inl (register_ok accepted).generation
  | mark origin tag decision =>
    rcases step_mark taken with rfl | ⟨c, accepted, rfl⟩
    · exact .inl rfl
    · obtain ⟨_, _, ⟨_, rfl, _⟩ | ⟨_, rfl⟩⟩ := mark_ok accepted
      · exact .inl rfl
      · exact .inl rfl
  | prepare forceIndividual =>
    rw [step_prepare taken]
    exact .inl (by simp [afterPrepare])
  | emission index emissionAction =>
    obtain ⟨e, c, next, _, stepped, rfl⟩ := step_emission taken
    rcases (step_cases stepped).ledger with shrinks | ⟨rfl, _⟩
    · exact .inl shrinks.generation
    · exact .inr (.inr ⟨index, rfl⟩)
  | reconnect => exact .inr (.inl rfl)

theorem EmissionStep.batch_eq {action : EmissionAction} (stepped : EmissionStep c e action c' e') :
    e'.batch = e.batch := by
  cases stepped <;> rfl

theorem EmissionStep.progress {action : EmissionAction} (stepped : EmissionStep c e action c' e') :
    e'.attempted ++ e'.remaining = e.attempted ++ e.remaining := by
  cases stepped with
  | handOver command rest idle first => simp [attempted, idle, first]
  | commit _ awaiting | failNegative _ awaiting | failHarmless _ awaiting | interrupt _ awaiting =>
    simp [attempted, awaiting]
  | invalidate command invalidating => simp [attempted, invalidating]
  | withhold command releasing => simp [attempted, releasing]

theorem EmissionStep.attempted_eq
    {action : EmissionAction} (stepped : EmissionStep c e action c' e') :
    e'.attempted = e.attempted ++ handedBy e action := by
  cases stepped with
  | handOver command rest idle first => simp [attempted, idle, first, handedBy]
  | commit _ awaiting | failNegative _ awaiting | failHarmless _ awaiting | interrupt _ awaiting =>
    simp [attempted, awaiting, handedBy]
  | invalidate command invalidating => simp [attempted, invalidating, handedBy]
  | withhold command releasing => simp [attempted, releasing, handedBy]

theorem prepare_wellFormed (c : SettlementCoordinator) (forceIndividual : Bool) :
    (c.prepare forceIndividual).2.WellFormed := by
  have planned := prepare_planned c forceIndividual
  have ascending := prepare_covers_ascending c forceIndividual
  have each := (pairwise_flatMap.mp ascending).1
  refine ⟨ascending, ?_, fun command member => ?_, fun command member => ?_⟩
  · rw [prepare_commands]
    exact planWalk_tags_ascending c forceIndividual
  · exact ⟨(planned command member).deliveryTag_mem,
      (planned command member).le_deliveryTag (each command member)⟩
  · rw [prepare_batch_generation, (planned command member).generation_eq]

variable {command : SettlementCommand}

theorem LedgerInvariant.planned_faithful {c : SettlementCoordinator}
    {records : Nat → Nat → Option DeliveryRecord} (inv : LedgerInvariant c records)
    {forceIndividual : Bool} (planned : Planned c forceIndividual command) :
    command.Faithful (records c.generation) := by
  cases planned with
  | cumulative safe _ _ _ ready =>
    exact fun tag member => inv.success_recorded (ready tag member).1
  | individual tag ready =>
    intro other member
    obtain rfl : other = tag := by simpa [individualAck] using member
    exact inv.success_recorded ready.1
  | negative tag state recorded refuses =>
    obtain ⟨record, found, stateEq, requeueEq⟩ := inv.recorded _ _ recorded
    cases record with
    | registered => rcases refuses with rfl | rfl <;> cases stateEq
    | decided decision =>
      cases decision with
      | nack flag | reject flag =>
        have noted := requeueEq flag rfl
        subst stateEq
        refine ⟨tag, rfl, ?_⟩
        simp [negativeCommand, DeliveryRecord.state, Decision.state, OrderedDict.getD, noted, found]
      | success | retryPending | failed | cancelled =>
        rcases refuses with rfl | rfl <;> cases stateEq

theorem SettlementCommand.Faithful.step {generation : Nat}
    (faithful : command.Faithful (w.records generation))
    (ledger : LedgerInvariant w.coordinator w.records) (stepped : LedgerStep w w') :
    command.Faithful (w'.records generation) := by
  unfold SettlementCommand.Faithful at faithful ⊢
  cases kind : command.kind with
  | ack =>
    simp only [kind] at faithful ⊢
    exact fun tag member => stepped.final_persists ledger (faithful tag member) rfl
  | nack | reject =>
    simp only [kind] at faithful ⊢
    obtain ⟨tag, covers, recorded⟩ := faithful
    exact ⟨tag, covers, stepped.final_persists ledger recorded rfl⟩

theorem SettlementCommand.Faithful.final
    {records : Nat → Option DeliveryRecord} (faithful : command.Faithful records)
    {tag : Nat} (member : tag ∈ command.covers) :
    ∃ record, records tag = some record ∧ record.Final := by
  unfold SettlementCommand.Faithful at faithful
  cases kind : command.kind with
  | ack =>
    simp only [kind] at faithful
    exact ⟨_, faithful tag member, rfl⟩
  | nack | reject =>
    simp only [kind] at faithful
    obtain ⟨single, covers, recorded⟩ := faithful
    obtain rfl : tag = single := by simpa [covers] using member
    exact ⟨_, recorded, rfl⟩

structure BatchInvariant (w : ChannelWorld) : Prop where
  ledger : LedgerInvariant w.coordinator w.records
  wellFormed : ∀ e ∈ w.emissions, e.batch.WellFormed
  progress : ∀ e ∈ w.emissions, e.batch.commands = e.attempted ++ e.remaining
  generations : ∀ e ∈ w.emissions, e.batch.generation ≤ w.coordinator.generation
  faithful : ∀ e ∈ w.emissions, ∀ command ∈ e.batch.commands,
    command.Faithful (w.records e.batch.generation)
  handed : ∀ command ∈ w.handed, ∃ e ∈ w.emissions, command ∈ e.attempted

theorem batchInvariant_init (generation : Nat) (coalesce : Bool) (maxHold maxPending : Int) :
    BatchInvariant (init generation coalesce maxHold maxPending) where
  ledger := ledgerInvariant_init generation coalesce maxHold maxPending
  wellFormed := by simp [ChannelWorld.init]
  progress := by simp [ChannelWorld.init]
  generations := by simp [ChannelWorld.init]
  faithful := by simp [ChannelWorld.init]
  handed := by simp [ChannelWorld.init]

theorem mem_emissions_afterEmission {index : Nat} {e next other : Emission}
    {action : EmissionAction} {c : SettlementCoordinator}
    (member : other ∈ (w.afterEmission index e action c next).emissions) :
    other ∈ w.emissions ∨ other = next :=
  mem_or_eq_of_mem_set member

theorem BatchInvariant.step (inv : BatchInvariant w) (taken : w.step action = some w') :
    BatchInvariant w' := by
  have ledgerStep := step_ledgerStep taken
  have ledger := inv.ledger.step ledgerStep
  have later := ledgerStep.generation_le
  have kept : ∀ e ∈ w.emissions, ∀ command ∈ e.batch.commands,
      command.Faithful (w'.records e.batch.generation) := fun e member command inBatch =>
    (inv.faithful e member command inBatch).step inv.ledger ledgerStep
  cases step_emissionsStep taken with
  | same emissions handed =>
    refine ⟨ledger, ?_, ?_, ?_, ?_, ?_⟩ <;> rw [emissions]
    · exact inv.wellFormed
    · exact inv.progress
    · exact fun e member => (inv.generations e member).trans later
    · exact kept
    · rw [handed]
      exact inv.handed
  | planned forceIndividual =>
    have split : ∀ e ∈ (w.afterPrepare forceIndividual).emissions,
        e ∈ w.emissions ∨ e = start (w.coordinator.prepare forceIndividual).2 := by
      intro e member
      simpa [afterPrepare] using member
    refine ⟨ledger, fun e member => ?_, fun e member => ?_, fun e member => ?_,
      fun e member => ?_, fun command member => ?_⟩
    · rcases split e member with old | rfl
      · exact inv.wellFormed e old
      · exact prepare_wellFormed w.coordinator forceIndividual
    · rcases split e member with old | rfl
      · exact inv.progress e old
      · rfl
    · rcases split e member with old | rfl
      · exact (inv.generations e old).trans later
      · simp [start, afterPrepare]
    · rcases split e member with old | rfl
      · exact kept e old
      · intro command inBatch
        have planned := prepare_planned w.coordinator forceIndividual command inBatch
        have faithful := inv.ledger.planned_faithful planned
        simpa [start, afterPrepare] using faithful
    · obtain ⟨e, old, attempted⟩ := inv.handed command member
      exact ⟨e, mem_append_left _ old, attempted⟩
  | moved index e emissionAction c after found stepped =>
    have here := mem_of_getElem? found
    refine ⟨ledger, fun other member => ?_, fun other member => ?_, fun other member => ?_,
      fun other member => ?_, fun command member => ?_⟩
    · rcases mem_emissions_afterEmission member with old | rfl
      · exact inv.wellFormed other old
      · exact stepped.batch_eq ▸ inv.wellFormed e here
    · rcases mem_emissions_afterEmission member with old | rfl
      · exact inv.progress other old
      · rw [stepped.batch_eq, stepped.progress]
        exact inv.progress e here
    · rcases mem_emissions_afterEmission member with old | rfl
      · exact (inv.generations other old).trans later
      · exact stepped.batch_eq ▸ (inv.generations e here).trans later
    · rcases mem_emissions_afterEmission member with old | rfl
      · exact kept other old
      · rw [stepped.batch_eq]
        exact kept e here
    · have moved : after ∈ w.emissions.set index after :=
        List.mem_set (List.getElem?_eq_some_iff.mp found).1 after
      rcases List.mem_append.mp member with earlier | fresh
      · obtain ⟨other, old, attempted⟩ := inv.handed command earlier
        obtain ⟨position, located⟩ := mem_iff_getElem?.mp old
        rcases getElem?_moved after found located with ⟨rfl, _⟩ | located'
        · refine ⟨after, moved, ?_⟩
          rw [stepped.attempted_eq]
          exact mem_append_left _ attempted
        · exact ⟨other, mem_of_getElem? located', attempted⟩
      · refine ⟨after, moved, ?_⟩
        rw [stepped.attempted_eq]
        exact mem_append_right _ fresh

end RabbitKit
