import RabbitKit.SettlementEmission

/-! # The ledger along every run

Each method of the coordinator either shrinks the ledger, registers one tag, records one decision,
or starts a new generation. `LedgerInvariant` is what these four kinds of steps keep: the ledger
agrees with the last record of each delivery, the records of a generation end at the last registered
tag, and no tag below the first gap is missing from them.
-/

namespace RabbitKit

open ChannelWorld Option

namespace SettlementCoordinator

structure Shrinks (c c' : SettlementCoordinator) : Prop where
  generation : c'.generation = c.generation
  lastRegistered : c'.lastRegistered = c.lastRegistered
  gapFloor : c'.gapFloor = c.gapFloor
  kept : ∀ tag state, c'.ledger.get? tag = some state →
    c.ledger.get? tag = some state ∧ c'.requeue.get? tag = c.requeue.get? tag

variable {c c' : SettlementCoordinator} {batch : SettlementBatch}
variable {command : SettlementCommand}

theorem Shrinks.refl (c : SettlementCoordinator) : Shrinks c c :=
  ⟨rfl, rfl, rfl, fun _ _ recorded => ⟨recorded, rfl⟩⟩

variable {tag : Nat}

theorem Shrinks.ledger_none {c c' : SettlementCoordinator} (shrinks : Shrinks c c')
    (absent : c.ledger.get? tag = none) : c'.ledger.get? tag = none := by
  cases present : c'.ledger.get? tag with
  | none => rfl
  | some state => simpa [absent] using (shrinks.kept tag state present).1

theorem release_shrinks (c : SettlementCoordinator) (tag : Nat) : Shrinks c (c.release tag) := by
  refine ⟨rfl, rfl, rfl, fun other state recorded => ?_⟩
  by_cases same : other = tag
  · simp [release, same] at recorded
  · exact ⟨by simpa [release, same] using recorded, by simp [release, same]⟩

theorem prepare_shrinks (c : SettlementCoordinator) (forceIndividual : Bool) :
    Shrinks c (c.prepare forceIndividual).1 :=
  ⟨by simp, by simp, by simp, fun _ _ recorded => ⟨by simpa using recorded, by simp⟩⟩

theorem settleTags_kept {tags : List Nat} {state : DeliveryState}
    (recorded : (c.settleTags tags).ledger.get? tag = some state) : c.ledger.get? tag = some state ∧
      (c.settleTags tags).requeue.get? tag = c.requeue.get? tag := by
  by_cases settled : tag ∈ tags
  · simp [settleTags, settled] at recorded
  · exact ⟨by simpa [settleTags, settled] using recorded, by simp [settleTags, settled]⟩

section

variable (c : SettlementCoordinator)

section

variable (batch : SettlementBatch)

theorem commitCommand_shrinks
    (command : SettlementCommand) : Shrinks c (c.commitCommand batch command) := by
  unfold commitCommand
  split
  · exact .refl c
  · exact ⟨rfl, rfl, rfl, fun _ _ recorded => settleTags_kept recorded⟩

theorem recordFailure_shrinks
    (command : SettlementCommand) : Shrinks c (c.recordFailure batch command).1 := by
  unfold recordFailure
  split
  · exact .refl c
  · exact ⟨rfl, rfl, rfl, fun _ _ recorded => settleTags_kept recorded⟩

theorem releaseCommands_shrinks
    (commands : List SettlementCommand) : Shrinks c (c.releaseCommands batch commands) := by
  unfold releaseCommands
  split
  · exact .refl c
  · exact ⟨rfl, rfl, rfl, fun _ _ recorded => ⟨recorded, rfl⟩⟩

section

variable (command : SettlementCommand) (tag : Nat)

theorem commitCommand_ledger : (c.commitCommand batch command).ledger.get? tag =
      if batch.generation = c.generation ∧ tag ∈ command.covers then none
      else c.ledger.get? tag := by
  by_cases current : batch.generation = c.generation <;> simp [commitCommand, settleTags, current]

theorem recordFailure_ledger : (c.recordFailure batch command).1.ledger.get? tag =
      if batch.generation = c.generation ∧ tag ∈ command.covers then none
      else c.ledger.get? tag := by
  by_cases current : batch.generation = c.generation <;> simp [recordFailure, settleTags, current]

theorem commitCommand_reserved : (c.commitCommand batch command).reserved.get? tag =
      if batch.generation = c.generation ∧ tag ∈ command.covers then none
      else c.reserved.get? tag := by
  by_cases current : batch.generation = c.generation <;> simp [commitCommand, settleTags, current]

theorem recordFailure_reserved : (c.recordFailure batch command).1.reserved.get? tag =
      if batch.generation = c.generation ∧ tag ∈ command.covers then none
      else c.reserved.get? tag := by
  by_cases current : batch.generation = c.generation <;> simp [recordFailure, settleTags, current]

end

end

end

theorem foldl_unreserve_get? (batchId : Nat) (tags : List Nat)
    (reserved : OrderedDict Nat Nat) (tag : Nat) :
    (tags.foldl (unreserve batchId) reserved).get? tag =
      if tag ∈ tags ∧ reserved.get? tag = some batchId then none else reserved.get? tag := by
  induction tags generalizing reserved with
  | nil => simp
  | cons first rest ih =>
    rw [List.foldl_cons, ih, unreserve]
    by_cases held : reserved.get? first = some batchId <;> by_cases same : tag = first <;>
      simp [held, same]

section

variable (c : SettlementCoordinator) (batch : SettlementBatch) (commands : List SettlementCommand)

theorem releaseCommands_reserved (tag : Nat) :
    (c.releaseCommands batch commands).reserved.get? tag = if batch.generation = c.generation ∧
          tag ∈ commands.flatMap SettlementCommand.covers ∧
          c.reserved.get? tag = some batch.batchId then none else c.reserved.get? tag := by
  by_cases current : batch.generation = c.generation
  · simp only [releaseCommands, current, ne_eq, not_true, if_false, foldl_unreserve_get?, true_and]
  · simp [releaseCommands, current]

@[simp]
theorem releaseCommands_ledger : (c.releaseCommands batch commands).ledger = c.ledger := by
  unfold releaseCommands
  split <;> rfl

end

structure Registers (c c' : SettlementCoordinator) (tag : Nat) : Prop where
  above : c.lastRegistered < tag
  generation : c'.generation = c.generation
  lastRegistered : c'.lastRegistered = tag
  gapFloor : c'.gapFloor =
    if c.lastRegistered + 1 < tag ∧ c.gapFloor = 0 then c.lastRegistered + 1 else c.gapFloor
  ledger : c'.ledger = c.ledger.set tag .outstanding
  requeue : c'.requeue = c.requeue
  reserved : c'.reserved = c.reserved
  hold : c'.hold = c.hold
  maxHold : c'.maxHold = c.maxHold

theorem register_ok (accepted : c.register tag = .ok c') : Registers c c' tag := by
  unfold register at accepted
  split at accepted
  · cases accepted
  split at accepted
  · cases accepted
  split at accepted
  · cases accepted
  rename_i increasing _
  cases accepted
  refine ⟨by omega, rfl, rfl, ?_, rfl, rfl, rfl, rfl, rfl⟩
  by_cases skipped : c.lastRegistered + 1 < tag <;> by_cases first : c.gapFloor = 0 <;>
    simp [skipped, first]

/-- An accepted decision repeats the recorded one or is a legal transition from it. -/
theorem mark_ok {decision : Decision} (accepted : c.mark tag decision = .ok c') :
    ∃ current, c.ledger.get? tag = some current ∧
      ((current = decision.state ∧ c' = c ∧
          ∀ requested, decision.requeue = some requested →
            c.requeue.get? tag = some requested) ∨
        (decision.state ∈ current.transitions ∧
          c' = { c with
            ledger := c.ledger.set tag decision.state
            requeue := match decision.requeue with
              | none => c.requeue
              | some requested => c.requeue.set tag requested })) := by
  rw [mark_eq_setIntent] at accepted
  unfold setIntent at accepted
  cases recorded : c.ledger.get? tag with
  | none => simp [recorded] at accepted
  | some current =>
    refine ⟨current, rfl, ?_⟩
    simp only [recorded] at accepted
    by_cases repeated : current = decision.state
    · left
      rw [if_pos repeated] at accepted
      cases requested : decision.requeue with
      | none =>
        rw [requested] at accepted
        cases accepted
        exact ⟨repeated, rfl, by simp⟩
      | some flag =>
        rw [requested] at accepted
        dsimp only at accepted
        by_cases changed : c.requeue.get? tag ≠ some flag
        · rw [if_pos changed] at accepted
          cases accepted
        · rw [if_neg changed] at accepted
          cases accepted
          refine ⟨repeated, rfl, fun other same => ?_⟩
          cases same
          simpa using changed
    · right
      rw [if_neg repeated] at accepted
      by_cases illegal : decision.state ∉ current.transitions
      · rw [if_pos illegal] at accepted
        cases accepted
      · rw [if_neg illegal] at accepted
        cases accepted
        exact ⟨by simpa using illegal, rfl⟩

end SettlementCoordinator

open SettlementCoordinator

def DeliveryRecord.requeue : DeliveryRecord → Option Bool
  | registered => none
  | decided decision => decision.requeue

def DeliveryRecord.Final (record : DeliveryRecord) : Prop :=
  record.state.transitions = []

structure LedgerInvariant (c : SettlementCoordinator)
    (records : Nat → Nat → Option DeliveryRecord) : Prop where
  recorded : ∀ tag state, c.ledger.get? tag = some state →
    ∃ record, records c.generation tag = some record ∧ record.state = state ∧
      ∀ flag, record.requeue = some flag → c.requeue.get? tag = some flag
  bounded : ∀ generation tag record, records generation tag = some record →
    generation ≤ c.generation ∧
      (generation = c.generation → 0 < tag ∧ tag ≤ c.lastRegistered)
  gapBound : c.gapFloor ≠ 0 → c.gapFloor ≤ c.lastRegistered
  belowGap : ∀ tag, 0 < tag → tag ≤ c.lastRegistered →
    (c.gapFloor = 0 ∨ tag < c.gapFloor) →
    ∃ record, records c.generation tag = some record

/-- The four things a step may do to the coordinator and the records. -/
inductive LedgerStep (w w' : ChannelWorld) : Prop
  | shrink (shrinks : Shrinks w.coordinator w'.coordinator)
      (unrecorded : w'.records = w.records)
  | register (tag : Nat) (registers : Registers w.coordinator w'.coordinator tag)
      (noted : w'.records =
        setRecord w.records w.coordinator.generation tag .registered)
  | decide (tag : Nat) (decision : Decision)
      (accepted : w.coordinator.mark tag decision = .ok w'.coordinator)
      (noted : w'.records =
        setRecord w.records w.coordinator.generation tag (.decided decision))
  | restart (restarted : w'.coordinator = w.coordinator.invalidated)
      (unrecorded : w'.records = w.records)

namespace ChannelWorld

variable {w w' : ChannelWorld} {action : ChannelAction}

theorem setRecord_apply (records : Nat → Nat → Option DeliveryRecord)
    (generation tag : Nat) (record : DeliveryRecord) (otherGeneration otherTag : Nat) :
    setRecord records generation tag record otherGeneration otherTag =
      if otherGeneration = generation ∧ otherTag = tag then some record
      else records otherGeneration otherTag := by
  unfold setRecord
  by_cases sameGeneration : otherGeneration = generation
  · subst sameGeneration
    by_cases sameTag : otherTag = tag
    · simp [sameTag]
    · simp [sameTag]
  · simp [sameGeneration]

theorem step_register {tag : Nat} (taken : w.step (.register tag) = some w') :
    w' = w ∨ ∃ c, w.coordinator.register tag = .ok c ∧ w' = w.afterRegister tag c := by
  simp only [step] at taken
  cases outcome : w.coordinator.register tag with
  | error _ => exact .inl (by simpa [outcome] using taken.symm)
  | ok c => exact .inr ⟨c, rfl, by simpa [outcome] using taken.symm⟩

theorem step_mark {origin tag : Nat} {decision : Decision}
    (taken : w.step (.mark origin tag decision) = some w') :
    w' = w ∨ ∃ c, w.coordinator.mark tag decision = .ok c ∧
      w' = w.afterMark origin tag decision c := by
  simp only [step] at taken
  cases outcome : w.coordinator.mark tag decision with
  | error _ => exact .inl (by simpa [outcome] using taken.symm)
  | ok c => exact .inr ⟨c, rfl, by simpa [outcome] using taken.symm⟩

theorem step_land {command : SettlementCommand} (taken : w.step (.land command) = some w') :
    w' = { w with unacked := command.settle w.unacked } := by
  simp only [step] at taken
  split at taken
  · exact (some.inj taken).symm
  · cases taken

theorem step_prepare {forceIndividual : Bool}
    (taken : w.step (.prepare forceIndividual) = some w') : w' = w.afterPrepare forceIndividual :=
  (some.inj taken).symm

theorem step_emission {index : Nat} {emissionAction : EmissionAction}
    (taken : w.step (.emission index emissionAction) = some w') :
    ∃ e c next, w.emissions[index]? = some e ∧
      e.step w.coordinator emissionAction = some (c, next) ∧
      w' = w.afterEmission index e emissionAction c next := by
  simp only [step] at taken
  cases found : w.emissions[index]? with
  | none => simp [found] at taken
  | some e =>
    cases stepped : e.step w.coordinator emissionAction with
    | none => simp [found, stepped] at taken
    | some result =>
      obtain ⟨c, next⟩ := result
      exact ⟨e, c, next, rfl, stepped, by simpa [found, stepped] using taken.symm⟩

end ChannelWorld

/-- What an emission's atomic section does, case by case. -/
inductive EmissionStep (c : SettlementCoordinator) (e : Emission) :
    EmissionAction → SettlementCoordinator → Emission → Prop
  | handOver (command : SettlementCommand) (rest : List SettlementCommand)
      (idle : e.phase = .idle) (next : e.remaining = command :: rest) :
      EmissionStep c e .handOver c
        { e with remaining := rest, phase := .awaiting command }
  | commit (command : SettlementCommand) (awaiting : e.phase = .awaiting command) :
      EmissionStep c e .commit (c.commitCommand e.batch command)
        { e with emitted := e.emitted ++ [command], phase := .idle }
  | failNegative (command : SettlementCommand) (awaiting : e.phase = .awaiting command)
      (current : e.batch.generation = c.generation)
      (negative : command.kind = .nack ∨ command.kind = .reject) :
      EmissionStep c e .fail (c.recordFailure e.batch command).1
        { e with phase := .invalidating command }
  | failHarmless (command : SettlementCommand) (awaiting : e.phase = .awaiting command)
      (harmless : e.batch.generation = c.generation → command.kind = .ack) :
      EmissionStep c e .fail (c.recordFailure e.batch command).1
        { e with phase := .releasing command }
  | invalidate (command : SettlementCommand) (invalidating : e.phase = .invalidating command) :
      EmissionStep c e .invalidate c.invalidated
        { e with phase := .finished command true }
  | withhold (command : SettlementCommand) (releasing : e.phase = .releasing command) :
      EmissionStep c e .withhold (c.releaseCommands e.batch e.remaining)
        { e with phase := .finished command false }
  | interrupt (command : SettlementCommand) (awaiting : e.phase = .awaiting command) :
      EmissionStep c e .interrupt c { e with phase := .interrupted command }

theorem recordFailure_snd (c : SettlementCoordinator) (batch : SettlementBatch)
    (command : SettlementCommand) : (c.recordFailure batch command).2 = true ↔
      batch.generation = c.generation ∧ (command.kind = .nack ∨ command.kind = .reject) := by
  unfold recordFailure
  by_cases stale : batch.generation = c.generation
  · simp [stale]
  · simp [stale]

variable {c c' : SettlementCoordinator} {action : EmissionAction} {e e' : Emission}

theorem Emission.step_cases (stepped : e.step c action = some (c', e')) :
    EmissionStep c e action c' e' := by
  cases action <;> simp only [step] at stepped
  case handOver =>
    split at stepped
    next command rest idle next =>
      cases stepped
      exact .handOver command rest idle next
    · cases stepped
  case commit =>
    split at stepped
    next command awaiting =>
      cases stepped
      exact .commit command awaiting
    · cases stepped
  case fail =>
    split at stepped
    next command awaiting =>
      cases stepped
      have flag := recordFailure_snd c e.batch command
      cases must : (c.recordFailure e.batch command).2 with
      | true =>
        have both := flag.mp must
        simpa [must] using .failNegative command awaiting both.1 both.2
      | false =>
        have harmless : e.batch.generation = c.generation → command.kind = .ack := by
          intro current
          cases kind : command.kind with
          | ack => rfl
          | nack => exact absurd (flag.mpr ⟨current, .inl kind⟩) (by simp [must])
          | reject => exact absurd (flag.mpr ⟨current, .inr kind⟩) (by simp [must])
        simpa [must] using .failHarmless command awaiting harmless
    · cases stepped
  case invalidate =>
    split at stepped
    next command invalidating =>
      cases stepped
      exact .invalidate command invalidating
    · cases stepped
  case withhold =>
    split at stepped
    next command releasing =>
      cases stepped
      exact .withhold command releasing
    · cases stepped
  case interrupt =>
    split at stepped
    next command awaiting =>
      cases stepped
      exact .interrupt command awaiting
    · cases stepped

variable {w w' : ChannelWorld}

theorem ChannelWorld.step_handOver {index : Nat}
    (taken : w.step (.emission index .handOver) = some w') :
    ∃ e command rest, w.emissions[index]? = some e ∧ e.phase = .idle ∧
      e.remaining = command :: rest ∧ w'.handed = w.handed ++ [command] := by
  obtain ⟨e, c, next, found, stepped, rfl⟩ := step_emission taken
  cases Emission.step_cases stepped with
  | handOver command rest idle first =>
    exact ⟨e, command, rest, found, idle, first, by simp [afterEmission, handedBy, first]⟩

theorem EmissionStep.ledger (stepped : EmissionStep c e action c' e') :
    Shrinks c c' ∨ action = .invalidate ∧ c' = c.invalidated := by
  cases stepped with
  | handOver | interrupt => exact .inl (.refl c)
  | commit command => exact .inl (commitCommand_shrinks c e.batch command)
  | failNegative command | failHarmless command =>
    exact .inl (recordFailure_shrinks c e.batch command)
  | invalidate => exact .inr ⟨rfl, rfl⟩
  | withhold => exact .inl (releaseCommands_shrinks c e.batch e.remaining)

theorem ChannelWorld.step_ledgerStep {action : ChannelAction}
    (taken : w.step action = some w') : LedgerStep w w' := by
  cases action with
  | deliver | settleElsewhere =>
    cases taken
    exact .shrink (.refl _) rfl
  | land command =>
    rw [step_land taken]
    exact .shrink (.refl _) rfl
  | register tag =>
    rcases step_register taken with rfl | ⟨c, accepted, rfl⟩
    · exact .shrink (.refl _) rfl
    · exact .register tag (register_ok accepted) rfl
  | mark origin tag decision =>
    rcases step_mark taken with rfl | ⟨c, accepted, rfl⟩
    · exact .shrink (.refl _) rfl
    · exact .decide tag decision accepted rfl
  | release origin tag =>
    cases taken
    exact .shrink (release_shrinks _ tag) rfl
  | prepare forceIndividual =>
    rw [step_prepare taken]
    exact .shrink (prepare_shrinks _ forceIndividual) rfl
  | emission index emissionAction =>
    obtain ⟨e, c, next, _, stepped, rfl⟩ := step_emission taken
    rcases (Emission.step_cases stepped).ledger with shrinks | ⟨_, restarted⟩
    · exact .shrink shrinks rfl
    · exact .restart restarted rfl
  | reconnect =>
    cases taken
    exact .restart rfl rfl

variable {records : Nat → Nat → Option DeliveryRecord}

theorem LedgerInvariant.shrink (inv : LedgerInvariant c records)
    (shrinks : Shrinks c c') : LedgerInvariant c' records where
  recorded := by
    intro tag state inLedger
    obtain ⟨before, sameRequeue⟩ := shrinks.kept tag state inLedger
    rw [shrinks.generation, sameRequeue]
    exact inv.recorded tag state before
  bounded := by
    rw [shrinks.generation, shrinks.lastRegistered]
    exact inv.bounded
  gapBound := by
    rw [shrinks.gapFloor, shrinks.lastRegistered]
    exact inv.gapBound
  belowGap := by
    rw [shrinks.generation, shrinks.gapFloor, shrinks.lastRegistered]
    exact inv.belowGap

variable {tag : Nat}

theorem LedgerInvariant.register (inv : LedgerInvariant c records)
    (registers : Registers c c' tag) :
    LedgerInvariant c' (setRecord records c.generation tag .registered) where
  recorded := by
    intro other state inLedger
    rw [registers.ledger, OrderedDict.get?_set] at inLedger
    rw [registers.generation, setRecord_apply, registers.requeue]
    by_cases same : other = tag
    · rw [if_pos same] at inLedger
      cases inLedger
      exact ⟨.registered, by simp [same], rfl, by simp [DeliveryRecord.requeue]⟩
    · rw [if_neg same] at inLedger
      simpa [same] using inv.recorded other state inLedger
  bounded := by
    intro generation other record recorded
    rw [setRecord_apply] at recorded
    rw [registers.generation, registers.lastRegistered]
    have above := registers.above
    split at recorded
    next same =>
      exact ⟨by omega, fun _ => by omega⟩
    · obtain ⟨older, within⟩ := inv.bounded generation other record recorded
      exact ⟨older, fun current => by have := within current; omega⟩
  gapBound := by
    have above := registers.above
    have bound := inv.gapBound
    rw [registers.gapFloor, registers.lastRegistered]
    split
    · omega
    · intro gap
      omega
  belowGap := by
    intro other positive within below
    rw [registers.generation, setRecord_apply]
    rw [registers.lastRegistered] at within
    rw [registers.gapFloor] at below
    have bound := inv.gapBound
    by_cases same : other = tag
    · exact ⟨.registered, by simp [same]⟩
    · have old : other ≤ c.lastRegistered ∧ (c.gapFloor = 0 ∨ other < c.gapFloor) := by
        by_cases first : c.lastRegistered + 1 < tag ∧ c.gapFloor = 0
        · rw [if_pos first] at below
          omega
        · rw [if_neg first] at below
          omega
      simpa [same] using inv.belowGap other positive old.1 old.2

variable {decision : Decision}

theorem LedgerInvariant.decide
    (inv : LedgerInvariant c records) (accepted : c.mark tag decision = .ok c') : LedgerInvariant c'
      (setRecord records c.generation tag (.decided decision)) := by
  obtain ⟨current, inLedger, outcome⟩ := mark_ok accepted
  obtain ⟨old, oldRecord, oldState, _⟩ := inv.recorded tag current inLedger
  have tagBound := (inv.bounded _ _ _ oldRecord).2 rfl
  have bounded : ∀ generation other record,
      setRecord records c.generation tag (.decided decision) generation other = some record →
      generation ≤ c.generation ∧
        (generation = c.generation → 0 < other ∧ other ≤ c.lastRegistered) := by
    intro generation other record recorded
    rw [setRecord_apply] at recorded
    split at recorded
    next same =>
      rw [same.1, same.2]
      exact ⟨le_refl _, fun _ => tagBound⟩
    · exact inv.bounded generation other record recorded
  have belowGap : ∀ other, 0 < other → other ≤ c.lastRegistered →
      (c.gapFloor = 0 ∨ other < c.gapFloor) →
      ∃ record, setRecord records c.generation tag (.decided decision)
        c.generation other = some record := by
    intro other positive within below
    rw [setRecord_apply]
    by_cases same : other = tag
    · exact ⟨_, if_pos ⟨rfl, same⟩⟩
    · simpa [same] using inv.belowGap other positive within below
  rcases outcome with ⟨repeated, rfl, sameRequeue⟩ | ⟨_, rfl⟩
  · refine ⟨?_, bounded, inv.gapBound, belowGap⟩
    intro other state recorded
    rw [setRecord_apply]
    by_cases same : other = tag
    · subst same
      have stateEq : current = state := by simpa [inLedger] using recorded
      exact ⟨_, if_pos ⟨rfl, rfl⟩, repeated.symm.trans stateEq, sameRequeue⟩
    · simpa [same] using inv.recorded other state recorded
  · refine ⟨?_, bounded, inv.gapBound, belowGap⟩
    intro other state recorded
    rw [setRecord_apply]
    rw [OrderedDict.get?_set] at recorded
    by_cases same : other = tag
    · subst same
      rw [if_pos rfl] at recorded
      refine ⟨_, if_pos ⟨rfl, rfl⟩, some.inj recorded, fun flag requested => ?_⟩
      have flagged : decision.requeue = some flag := requested
      simp [flagged]
    · rw [if_neg same] at recorded
      obtain ⟨record, found, stateEq, requeueEq⟩ := inv.recorded other state recorded
      refine ⟨record, by simpa [same] using found, stateEq, fun flag requested => ?_⟩
      have kept := requeueEq flag requested
      cases decision.requeue with
      | none => exact kept
      | some _ => simpa [same] using kept

theorem LedgerInvariant.restart {c : SettlementCoordinator} (inv : LedgerInvariant c records) :
    LedgerInvariant c.invalidated records where
  recorded := by simp [invalidated]
  bounded := by
    intro generation tag record recorded
    have older := (inv.bounded generation tag record recorded).1
    simp only [invalidated]
    exact ⟨by omega, by omega⟩
  gapBound := by simp [invalidated]
  belowGap := by
    intro tag positive within
    simp only [invalidated] at within
    omega

theorem LedgerInvariant.step
    (inv : LedgerInvariant w.coordinator w.records) (stepped : LedgerStep w w') :
    LedgerInvariant w'.coordinator w'.records := by
  cases stepped with
  | shrink shrinks unrecorded => exact unrecorded ▸ inv.shrink shrinks
  | register tag registers noted => exact noted ▸ inv.register registers
  | decide tag decision accepted noted => exact noted ▸ inv.decide accepted
  | restart restarted unrecorded => exact unrecorded ▸ restarted ▸ inv.restart

theorem ledgerInvariant_init (generation : Nat) (coalesce : Bool) (maxHold maxPending : Int) :
    LedgerInvariant (SettlementCoordinator.init generation coalesce maxHold maxPending)
      (fun _ _ => none) where
  recorded := by simp [SettlementCoordinator.init]
  bounded := by simp
  gapBound := by simp [SettlementCoordinator.init]
  belowGap := by
    intro tag positive within
    simp only [SettlementCoordinator.init] at within
    omega

theorem ledgerInvariant_of_run {admits : ChannelWorld → ChannelAction → Prop}
    {generation : Nat} {coalesce : Bool} {maxHold maxPending : Int}
    {actions : List ChannelAction} {w : ChannelWorld} (run : LabelledRun.RunWithin step admits
      (init generation coalesce maxHold maxPending) actions w) :
    LedgerInvariant w.coordinator w.records := by
  have preserved : ∀ {before : ChannelWorld} {action : ChannelAction} {after : ChannelWorld},
      LedgerInvariant before.coordinator before.records → admits before action →
      before.step action = some after → LedgerInvariant after.coordinator after.records :=
    fun inv _ taken => inv.step (step_ledgerStep taken)
  exact run.invariant preserved (ledgerInvariant_init generation coalesce maxHold maxPending)

theorem LedgerStep.ledger_none (stepped : LedgerStep w w')
    (absent : w.coordinator.ledger.get? tag = none) (known : tag ≤ w.coordinator.lastRegistered) :
    w'.coordinator.ledger.get? tag = none := by
  cases stepped with
  | shrink shrinks => exact shrinks.ledger_none absent
  | register newTag registers =>
    have above := registers.above
    have different : tag ≠ newTag := by omega
    simpa [registers.ledger, different] using absent
  | decide decidedTag decision accepted =>
    obtain ⟨current, inLedger, ⟨_, same, _⟩ | ⟨_, changed⟩⟩ := mark_ok accepted
    · rw [same, absent]
    · have different : tag ≠ decidedTag := by
        rintro rfl
        simp [absent] at inLedger
      simpa [changed, different] using absent
  | restart restarted => simp [restarted, invalidated]

theorem Decision.ext_state {first second : Decision} (state : first.state = second.state)
    (requeue : first.requeue = second.requeue) : first = second := by
  cases first <;> cases second <;> simp_all [Decision.state, Decision.requeue]

theorem LedgerInvariant.repeated_decision {c : SettlementCoordinator}
    (inv : LedgerInvariant c records) (inLedger : c.ledger.get? tag = some decision.state)
    (sameRequeue : ∀ requested, decision.requeue = some requested →
      c.requeue.get? tag = some requested) :
    records c.generation tag = some (.decided decision) := by
  obtain ⟨record, recorded, state, requeue⟩ := inv.recorded _ _ inLedger
  rw [recorded]
  cases record with
  | registered => cases decision <;> cases state
  | decided old =>
    have sameState : old.state = decision.state := state
    have sameFlag : old.requeue = decision.requeue := by
      cases old <;> cases decision <;>
        simp_all [Decision.state, Decision.requeue, DeliveryRecord.requeue]
    rw [Decision.ext_state sameState sameFlag]

theorem LedgerStep.final_persists (stepped : LedgerStep w w')
    (inv : LedgerInvariant w.coordinator w.records) {generation tag : Nat}
    {record : DeliveryRecord} (recorded : w.records generation tag = some record)
    (final : record.Final) : w'.records generation tag = some record := by
  cases stepped with
  | shrink _ unrecorded | restart _ unrecorded => rw [unrecorded, recorded]
  | register newTag registers noted =>
    rw [noted, setRecord_apply, if_neg, recorded]
    rintro ⟨rfl, rfl⟩
    have := ((inv.bounded _ _ _ recorded).2 rfl).2
    have := registers.above
    omega
  | decide decidedTag decision accepted noted =>
    rw [noted, setRecord_apply]
    split
    next same =>
      obtain ⟨rfl, rfl⟩ := same
      obtain ⟨current, inLedger, ⟨rfl, _, sameRequeue⟩ | ⟨legal, _⟩⟩ := mark_ok accepted
      · rw [← recorded, inv.repeated_decision inLedger sameRequeue]
      · obtain ⟨old, oldRecord, oldState, _⟩ := inv.recorded _ _ inLedger
        obtain rfl : old = record := by simpa [recorded] using oldRecord.symm
        rw [← oldState, final] at legal
        simp at legal
    · exact recorded

theorem LedgerInvariant.success_recorded {c : SettlementCoordinator}
    (inv : LedgerInvariant c records) (successful : c.ledger.get? tag = some .success) :
    records c.generation tag = some (.decided .success) := by
  obtain ⟨record, recorded, state, _⟩ := inv.recorded _ _ successful
  rw [recorded]
  cases record with
  | registered => cases state
  | decided decision => cases decision <;> first | rfl | cases state

end RabbitKit
