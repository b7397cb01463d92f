import RabbitKit.SettlementLedgerInvariant

/-! # How the emission of a batch ends

The commands of a batch are handed over in order up to the first that fails.  What was emitted or
failed leaves the ledger, what was withheld stays in it, and none of the tags stays reserved; after
a failed nack or reject the whole ledger is dropped.
-/

namespace RabbitKit

open SettlementCoordinator List

inductive AwaitResult
  | returned
  | raised
  | cancelled
  deriving DecidableEq

/-- A cancellation counts as a failure of the command in flight. -/
def AwaitResult.frame : AwaitResult → FrameResult
  | .returned => .returned
  | .raised => .raised
  | .cancelled => .raised

/-- The loop of `emit_batch_async`; there is no report when the cancellation is raised again. -/
def emitCommandsAsync (batch : SettlementBatch) (transport : SettlementCommand → AwaitResult) :
    List SettlementCommand → SettlementCoordinator → List SettlementCommand →
      SettlementCoordinator × Option EmissionReport
  | [], c, emitted =>
    (c, some { batchId := batch.batchId, generation := batch.generation, emitted := emitted })
  | command :: rest, c, emitted =>
    match transport command with
    | .returned =>
      emitCommandsAsync batch transport rest (c.commitCommand batch command)
        (emitted ++ [command])
    | result =>
      let (failed, invalidated) := c.failCommand batch command
      (if invalidated then failed else failed.releaseCommands batch rest,
        if result = .cancelled then none else some
          { batchId := batch.batchId
            generation := batch.generation
            emitted := emitted
            failed := some command
            notAttempted := rest
            invalidated := invalidated
            unresolvedTags := command.covers })

theorem emitCommandsAsync_eq (batch : SettlementBatch)
    (transport : SettlementCommand → AwaitResult) (remaining : List SettlementCommand)
    (c : SettlementCoordinator) (emitted : List SettlementCommand) :
    emitCommandsAsync batch transport remaining c emitted =
      ((emitCommands batch (fun command => (transport command).frame) remaining c emitted).1,
        some (emitCommands batch (fun command => (transport command).frame) remaining c emitted).2
          |>.filter fun report =>
            report.failed.all fun command => transport command ≠ .cancelled) := by
  induction remaining generalizing c emitted with
  | nil => rfl
  | cons command rest ih =>
    cases sent : transport command with
    | returned => simp [emitCommandsAsync, emitCommands, sent, AwaitResult.frame, ih]
    | raised | cancelled =>
      simp [emitCommandsAsync, emitCommands, sent, AwaitResult.frame, Option.filter]

/-- The end of an emission that began in one coordinator and ended in another. -/
structure EmissionOutcome (transport : SettlementCommand → FrameResult)
    (commands : List SettlementCommand) (before after : SettlementCoordinator)
    (emitted : List SettlementCommand) (report : EmissionReport) : Prop where
  partition : commands = emitted ++ report.failed.toList ++ report.notAttempted
  complete : report.failed = none → report.notAttempted = []
  returned : ∀ command ∈ emitted, transport command = .returned
  raised : ∀ command ∈ report.failed, transport command = .raised
  invalidated : report.invalidated = true ↔
    ∃ command ∈ report.failed, command.kind = .nack ∨ command.kind = .reject
  dropped : report.invalidated = true →
    after.ledger = .empty ∧ after.generation = before.generation + 1
  generation : report.invalidated = false → after.generation = before.generation
  ledger : report.invalidated = false → ∀ tag, after.ledger.get? tag =
    if tag ∈ (emitted ++ report.failed.toList).flatMap SettlementCommand.covers then none
    else before.ledger.get? tag
  reserved : ∀ tag, after.reserved.get? tag = none ∨
    tag ∉ commands.flatMap SettlementCommand.covers ∧
      after.reserved.get? tag = before.reserved.get? tag

variable {batch : SettlementBatch} {c : SettlementCoordinator}
  {transport : SettlementCommand → FrameResult} {command : SettlementCommand}
  {rest : List SettlementCommand}

/-- The tags that a batch has still to settle are reserved for nobody else. -/
def HeldFor (batch : SettlementBatch) (c : SettlementCoordinator)
    (commands : List SettlementCommand) : Prop :=
  ∀ tag ∈ commands.flatMap SettlementCommand.covers,
    c.reserved.get? tag = none ∨ c.reserved.get? tag = some batch.batchId

theorem emissionOutcome_raised (current : batch.generation = c.generation)
    (held : HeldFor batch c (command :: rest)) (raised : transport command = .raised)
    (emitted : List SettlementCommand) :
    (emitCommands batch transport (command :: rest) c emitted).2.emitted = emitted ∧
      EmissionOutcome transport (command :: rest) c
        (emitCommands batch transport (command :: rest) c emitted).1 []
        (emitCommands batch transport (command :: rest) c emitted).2 := by
  have negative := recordFailure_snd c batch command
  have ledger := recordFailure_ledger c batch command
  have reserved := recordFailure_reserved c batch command
  have generation := (recordFailure_shrinks c batch command).generation
  obtain ⟨⟨recorded, mustInvalidate⟩, recording⟩ :
      ∃ result, c.recordFailure batch command = result := ⟨_, rfl⟩
  simp only [recording, current, true_and] at negative ledger reserved generation
  cases mustInvalidate with
  | true =>
    have failing : c.failCommand batch command = (recorded.invalidate.1, true) := by
      simp [failCommand, recording]
    simp only [emitCommands, raised, failing]
    exact ⟨trivial, {
      partition := rfl
      complete := by simp
      returned := by simp
      raised := by simpa using raised
      invalidated := by simpa using negative
      dropped := fun _ => ⟨rfl, congrArg (· + 1) generation⟩
      generation := by simp
      ledger := by simp
      reserved := fun _ => .inl rfl }⟩
  | false =>
    have failing : c.failCommand batch command = (recorded, false) := by
      simp [failCommand, recording]
    simp only [emitCommands, raised, failing]
    have same := (releaseCommands_shrinks recorded batch rest).generation.trans generation
    refine ⟨trivial, {
      partition := rfl
      complete := by simp
      returned := by simp
      raised := by simpa using raised
      invalidated := by simpa using negative
      dropped := by simp
      generation := fun _ => same
      ledger := fun _ tag => by simpa using ledger tag
      reserved := fun tag => ?_ }⟩
    simp only [Bool.false_eq_true, if_false, releaseCommands_reserved, current, generation,
      true_and, reserved, flatMap_cons, mem_append]
    have owner := held tag
    grind

/-- Every emission of commands whose tags are held for their batch. -/
theorem emissionOutcome (transport : SettlementCommand → FrameResult)
    (commands : List SettlementCommand) (current : batch.generation = c.generation)
    (held : HeldFor batch c commands) (emitted : List SettlementCommand) :
    ∃ sent, (emitCommands batch transport commands c emitted).2.emitted = emitted ++ sent ∧
      EmissionOutcome transport commands c (emitCommands batch transport commands c emitted).1 sent
        (emitCommands batch transport commands c emitted).2 := by
  induction commands generalizing c emitted with
  | nil =>
    exact ⟨[], (append_nil _).symm, {
      partition := rfl
      complete := fun _ => rfl
      returned := by simp
      raised := by simp [emitCommands]
      invalidated := by simp [emitCommands]
      dropped := by simp [emitCommands]
      generation := fun _ => rfl
      ledger := fun _ _ => rfl
      reserved := fun _ => .inr ⟨by simp, rfl⟩ }⟩
  | cons command rest ih =>
    cases sent : transport command with
    | raised =>
      obtain ⟨same, outcome⟩ := emissionOutcome_raised current held sent emitted
      exact ⟨[], by rw [same, append_nil], outcome⟩
    | returned =>
      have generation := (commitCommand_shrinks c batch command).generation
      have ledger := commitCommand_ledger c batch command
      have reserved := commitCommand_reserved c batch command
      simp only [current, true_and] at ledger reserved
      have stillHeld : HeldFor batch (c.commitCommand batch command) rest := by
        intro tag member
        rw [reserved]
        split
        · exact .inl rfl
        · exact held tag (by simp [member])
      obtain ⟨later, emittedEq, outcome⟩ :=
        ih (current.trans generation.symm) stillHeld (emitted ++ [command])
      simp only [emitCommands, sent]
      refine ⟨command :: later, by rw [emittedEq, append_assoc, singleton_append], {
        partition := congrArg (command :: ·) outcome.partition
        complete := outcome.complete
        returned := by simpa using ⟨sent, outcome.returned⟩
        raised := outcome.raised
        invalidated := outcome.invalidated
        dropped := fun dropped => by rw [← generation]; exact outcome.dropped dropped
        generation := fun kept => (outcome.generation kept).trans generation
        ledger := fun kept tag => ?_
        reserved := fun tag => ?_ }⟩
      · rw [outcome.ledger kept, ledger, cons_append, flatMap_cons]
        by_cases covered : tag ∈ command.covers <;> simp [covered]
      · have after := outcome.reserved tag
        grind

/-- A batch is emitted in the coordinator that has just prepared it. -/
theorem emitBatch_outcome (c : SettlementCoordinator) (forceIndividual : Bool)
    (transport : SettlementCommand → FrameResult) :
    EmissionOutcome transport (c.prepare forceIndividual).2.commands c
      (emitBatch (c.prepare forceIndividual).2 (c.prepare forceIndividual).1 transport).1
      (emitBatch (c.prepare forceIndividual).2 (c.prepare forceIndividual).1 transport).2.emitted
      (emitBatch (c.prepare forceIndividual).2 (c.prepare forceIndividual).1 transport).2 ∧
    ∀ results : SettlementCommand → AwaitResult,
      emitCommandsAsync (c.prepare forceIndividual).2 results (c.prepare forceIndividual).2.commands
        (c.prepare forceIndividual).1 [] =
      ((emitBatch (c.prepare forceIndividual).2 (c.prepare forceIndividual).1
          fun command => (results command).frame).1,
        some (emitBatch (c.prepare forceIndividual).2 (c.prepare forceIndividual).1
          fun command => (results command).frame).2 |>.filter fun report =>
            report.failed.all fun command => results command ≠ .cancelled) := by
  refine ⟨?_, fun results => emitCommandsAsync_eq _ _ _ _ _⟩
  have held : HeldFor (c.prepare forceIndividual).2 (c.prepare forceIndividual).1
      (c.prepare forceIndividual).2.commands := by
    intro tag member
    rw [prepare_reserved, if_pos member]
    exact .inr rfl
  have current : (c.prepare forceIndividual).2.generation =
      (c.prepare forceIndividual).1.generation := by
    rw [prepare_batch_generation, prepare_generation]
  obtain ⟨sent, emitted, outcome⟩ := emissionOutcome transport
    (c.prepare forceIndividual).2.commands current held []
  rw [emitBatch, emitted]
  refine { outcome with dropped := ?_, generation := ?_, ledger := ?_, reserved := fun tag => ?_ }
  · simpa using outcome.dropped
  · simpa using outcome.generation
  · simpa using outcome.ledger
  · rcases outcome.reserved tag with gone | ⟨apart, same⟩
    · exact .inl gone
    · rw [same, prepare_reserved, if_neg apart]
      exact .inr ⟨apart, rfl⟩

theorem emitCommands_returned (commands : List SettlementCommand)
    (current : batch.generation = c.generation) (emitted : List SettlementCommand) :
    emitCommands batch (fun _ => .returned) commands c emitted =
      ({ c.settleTags (commands.flatMap SettlementCommand.covers) with
          settledCount := c.settledCount + (commands.flatMap SettlementCommand.covers).length
          framesSent := c.framesSent + commands.length
          coalescedCount := commands.foldl (fun count command =>
            if command.multiple && decide (1 < command.covers.length) then
              count + command.covers.length
            else count) c.coalescedCount },
        { batchId := batch.batchId
          generation := batch.generation
          emitted := emitted ++ commands }) := by
  induction commands generalizing c emitted with
  | nil => simp [emitCommands, settleTags, OrderedDict.eraseAll]
  | cons command rest ih =>
    have generation := (commitCommand_shrinks c batch command).generation
    rw [emitCommands, ih (current.trans generation.symm)]
    simp [commitCommand, current, settleTags, OrderedDict.eraseAll, foldl_append, Nat.add_assoc,
      Nat.add_comm 1]

/-- Planning and settling at once does what reserving, emitting and committing do on a channel
that takes every frame, except that it uses up no number for a batch. -/
theorem plan_settles_as_emitBatch (c : SettlementCoordinator) (forceIndividual : Bool) :
    (emitBatch (c.prepare forceIndividual).2 (c.prepare forceIndividual).1 fun _ => .returned).2 =
      { batchId := (c.prepare forceIndividual).2.batchId
        generation := c.generation
        emitted := (c.plan forceIndividual).2 } ∧
    { (emitBatch (c.prepare forceIndividual).2 (c.prepare forceIndividual).1
        fun _ => .returned).1 with
      nextBatchId := c.nextBatchId
      reserved := (c.plan forceIndividual).1.reserved } = (c.plan forceIndividual).1 ∧
    ∀ tag, (emitBatch (c.prepare forceIndividual).2 (c.prepare forceIndividual).1
      fun _ => .returned).1.reserved.get? tag = (c.plan forceIndividual).1.reserved.get? tag := by
  by_cases empty : c.ledger.size = 0
  · simp only [prepare, plan, if_pos empty]
    exact ⟨rfl, rfl, fun _ => rfl⟩
  · have covered := (planWalk_invariant c forceIndividual).covered
    simp only [prepare, plan, if_neg empty, planCommands_eq, emitBatch]
    rw [emitCommands_returned _ rfl, ← covered]
    refine ⟨rfl, rfl, fun tag => ?_⟩
    simp only [settleTags, OrderedDict.get?_eraseAll, OrderedDict.get?_setAll]
    split <;> rfl

end RabbitKit
