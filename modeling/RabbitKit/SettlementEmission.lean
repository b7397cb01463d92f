import RabbitKit.LabelledRun
import RabbitKit.SettlementPlanner
import Mathlib.Data.Finset.Basic

/-! # Emitting prepared batches on a shared channel

`emit_batch` hands one command after another to the channel, observes the
outcome and commits, fails or withholds.  That loop is cut at the points where
another thread or task may run, and any number of such emissions run next to the
coordinator's other callers and to the broker's side of the channel.
-/

namespace RabbitKit

open LabelledRun SettlementCoordinator

structure EmissionReport where
  batchId : Nat
  generation : Nat
  emitted : List SettlementCommand := []
  failed : Option SettlementCommand := none
  notAttempted : List SettlementCommand := []
  invalidated : Bool := false
  unresolvedTags : List Nat := []
  deriving DecidableEq

inductive FrameResult
  | returned
  | raised
  deriving DecidableEq

/-- The loop of `emit_batch` over the commands that are left. -/
def emitCommands (batch : SettlementBatch) (transport : SettlementCommand → FrameResult) :
    List SettlementCommand → SettlementCoordinator → List SettlementCommand →
      SettlementCoordinator × EmissionReport
  | [], c, emitted =>
    (c, { batchId := batch.batchId, generation := batch.generation, emitted := emitted })
  | command :: rest, c, emitted =>
    match transport command with
    | .returned =>
      emitCommands batch transport rest (c.commitCommand batch command)
        (emitted ++ [command])
    | .raised =>
      let (failed, invalidated) := c.failCommand batch command
      (if invalidated then failed else failed.releaseCommands batch rest,
        { batchId := batch.batchId
          generation := batch.generation
          emitted := emitted
          failed := some command
          notAttempted := rest
          invalidated := invalidated
          unresolvedTags := command.covers })

/-- `emit_batch`. -/
def emitBatch (batch : SettlementBatch) (c : SettlementCoordinator)
    (transport : SettlementCommand → FrameResult) :
    SettlementCoordinator × EmissionReport :=
  emitCommands batch transport batch.commands c []

/-- Where an emission stands between two of its atomic sections. -/
inductive EmissionPhase
  | idle
  | awaiting (command : SettlementCommand)
  | invalidating (command : SettlementCommand)
  | releasing (command : SettlementCommand)
  | finished (command : SettlementCommand) (invalidated : Bool)
  | interrupted (command : SettlementCommand)
  deriving DecidableEq

structure Emission where
  batch : SettlementBatch
  emitted : List SettlementCommand := []
  remaining : List SettlementCommand
  phase : EmissionPhase := .idle
  deriving DecidableEq

/-- The atomic sections of an emission.  `fail` covers an exception as well as a
cancellation; `interrupt` is an exception that `emit_batch` does not catch. -/
inductive EmissionAction
  | handOver
  | commit
  | fail
  | invalidate
  | withhold
  | interrupt
  deriving DecidableEq

namespace Emission

def start (batch : SettlementBatch) : Emission where
  batch := batch
  remaining := batch.commands

/-- The sections of `emit_batch_async`. -/
def step (c : SettlementCoordinator) (e : Emission) :
    EmissionAction → Option (SettlementCoordinator × Emission)
  | .handOver =>
    match e.phase, e.remaining with
    | .idle, command :: rest =>
      some (c, { e with remaining := rest, phase := .awaiting command })
    | _, _ => none
  | .commit =>
    match e.phase with
    | .awaiting command =>
      some (c.commitCommand e.batch command,
        { e with emitted := e.emitted ++ [command], phase := .idle })
    | _ => none
  | .fail =>
    match e.phase with
    | .awaiting command =>
      let (recorded, mustInvalidate) := c.recordFailure e.batch command
      some (recorded,
        { e with
          phase := if mustInvalidate then .invalidating command else .releasing command })
    | _ => none
  | .invalidate =>
    match e.phase with
    | .invalidating command =>
      some (c.invalidate.1, { e with phase := .finished command true })
    | _ => none
  | .withhold =>
    match e.phase with
    | .releasing command =>
      some (c.releaseCommands e.batch e.remaining,
        { e with phase := .finished command false })
    | _ => none
  | .interrupt =>
    match e.phase with
    | .awaiting command => some (c, { e with phase := .interrupted command })
    | _ => none

def report (e : Emission) : Option EmissionReport :=
  match e.phase, e.remaining with
  | .idle, [] =>
    some
      { batchId := e.batch.batchId
        generation := e.batch.generation
        emitted := e.emitted }
  | .finished command invalidated, rest =>
    some
      { batchId := e.batch.batchId
        generation := e.batch.generation
        emitted := e.emitted
        failed := some command
        notAttempted := rest
        invalidated := invalidated
        unresolvedTags := command.covers }
  | _, _ => none

def soloStep (state : SettlementCoordinator × Emission) (action : EmissionAction) :
    Option (SettlementCoordinator × Emission) :=
  state.2.step state.1 action

/-- With no other party running, the atomic sections perform `emit_batch`. -/
theorem exists_solo_run (batch : SettlementBatch)
    (transport : SettlementCommand → FrameResult) (remaining : List SettlementCommand)
    (c : SettlementCoordinator) (emitted : List SettlementCommand) : ∃ actions e, execute soloStep
        (c, { batch := batch, emitted := emitted, remaining := remaining }) actions =
          some ((emitCommands batch transport remaining c emitted).1, e) ∧
      e.report = some (emitCommands batch transport remaining c emitted).2 := by
  induction remaining generalizing c emitted with
  | nil => exact ⟨[], _, rfl, rfl⟩
  | cons command rest ih =>
    cases sent : transport command with
    | returned =>
      obtain ⟨actions, e, executed, reported⟩ :=
        ih (c.commitCommand batch command) (emitted ++ [command])
      refine ⟨.handOver :: .commit :: actions, e, ?_, ?_⟩
      · simpa [emitCommands, sent, execute,
          executeWithin, soloStep, step] using executed
      · simpa [emitCommands, sent] using reported
    | raised =>
      cases recording : c.recordFailure batch command with
      | mk recorded mustInvalidate =>
        refine ⟨[.handOver, .fail, if mustInvalidate then .invalidate else .withhold],
          { batch := batch
            emitted := emitted
            remaining := rest
            phase := .finished command mustInvalidate }, ?_, ?_⟩
        · cases mustInvalidate <;>
            simp [emitCommands, sent, failCommand, recording,
              execute, executeWithin, soloStep, step]
        · cases mustInvalidate <;>
            simp [emitCommands, sent, failCommand, recording,
              report]

/-- `emit_batch` is a run of the sections of an emission with nobody else in between: it leaves
the coordinator of that run and returns its report. -/
theorem emitBatch_solo_run (batch : SettlementBatch) (c : SettlementCoordinator)
    (transport : SettlementCommand → FrameResult) : ∃ actions e,
      execute soloStep (c, start batch) actions = some ((emitBatch batch c transport).1, e) ∧
      e.report = some (emitBatch batch c transport).2 :=
  exists_solo_run batch transport batch.commands c []

end Emission

inductive DeliveryRecord
  | registered
  | decided (decision : SettlementCoordinator.Decision)
  deriving DecidableEq

def DeliveryRecord.state : DeliveryRecord → DeliveryState
  | registered => .outstanding
  | decided decision => decision.state

/-- An accepted `mark_*` call and the generation of the delivery it was made for. -/
structure LoggedDecision where
  origin : Nat
  tag : Nat
  decision : SettlementCoordinator.Decision
  deriving DecidableEq

/-- The coordinator with its emissions, and the broker's side of the channel.
The last four fields are bookkeeping that no modelled code reads: the commands
handed to the channel, the tags registered since the channel was opened, the
last record of each delivery named by generation and tag, and the accepted
decisions. -/
structure ChannelWorld where
  coordinator : SettlementCoordinator
  emissions : List Emission := []
  delivered : Nat := 0
  unacked : Finset Nat := ∅
  frames : List SettlementCommand := []
  handed : List SettlementCommand := []
  registered : Finset Nat := ∅
  records : Nat → Nat → Option DeliveryRecord := fun _ _ => none
  decisions : List LoggedDecision := []

/-- Everything that may happen next.  A decision and a release name the
generation of the delivery they are made for. -/
inductive ChannelAction
  | deliver
  | settleElsewhere (tag : Nat)
  | land (command : SettlementCommand)
  | register (tag : Nat)
  | mark (origin tag : Nat) (decision : SettlementCoordinator.Decision)
  | release (origin tag : Nat)
  | prepare (forceIndividual : Bool)
  | emission (index : Nat) (action : EmissionAction)
  | reconnect
  deriving DecidableEq

/-- The tags still unacknowledged after a frame was processed by the broker. -/
def SettlementCommand.settle (command : SettlementCommand) (unacked : Finset Nat) :
    Finset Nat :=
  if command.multiple then unacked.filter (command.deliveryTag < ·)
  else unacked.erase command.deliveryTag

namespace ChannelWorld

def setRecord (records : Nat → Nat → Option DeliveryRecord) (generation tag : Nat)
    (record : DeliveryRecord) : Nat → Nat → Option DeliveryRecord :=
  Function.update records generation
    (Function.update (records generation) tag (some record))

def handedBy (e : Emission) : EmissionAction → List SettlementCommand
  | .handOver => e.remaining.take 1
  | _ => []

/-- A frame whose callable returned has been processed by the broker. -/
def unackedAfter (e : Emission) (unacked : Finset Nat) : EmissionAction → Finset Nat
  | .commit =>
    match e.phase with
    | .awaiting command => command.settle unacked
    | _ => unacked
  | _ => unacked

def afterRegister (w : ChannelWorld) (tag : Nat) (c : SettlementCoordinator) :
    ChannelWorld :=
  { w with
    coordinator := c
    registered := insert tag w.registered
    records := setRecord w.records w.coordinator.generation tag .registered }

def afterMark (w : ChannelWorld) (origin tag : Nat)
    (decision : SettlementCoordinator.Decision) (c : SettlementCoordinator) :
    ChannelWorld :=
  { w with
    coordinator := c
    records := setRecord w.records w.coordinator.generation tag (.decided decision)
    decisions := ⟨origin, tag, decision⟩ :: w.decisions }

def afterPrepare (w : ChannelWorld) (forceIndividual : Bool) : ChannelWorld :=
  { w with
    coordinator := (w.coordinator.prepare forceIndividual).1
    emissions :=
      w.emissions ++ [Emission.start (w.coordinator.prepare forceIndividual).2] }

def afterEmission (w : ChannelWorld) (index : Nat) (e : Emission) (action : EmissionAction)
    (c : SettlementCoordinator) (next : Emission) : ChannelWorld :=
  { w with
    coordinator := c
    emissions := w.emissions.set index next
    frames := w.frames ++ handedBy e action
    handed := w.handed ++ handedBy e action
    unacked := unackedAfter e w.unacked action }

/-- One section of the acker, of an emission or of the broker. -/
def step (w : ChannelWorld) : ChannelAction → Option ChannelWorld
  | .deliver =>
    some { w with
      delivered := w.delivered + 1
      unacked := insert (w.delivered + 1) w.unacked }
  | .settleElsewhere tag => some { w with unacked := w.unacked.erase tag }
  | .land command =>
    if command ∈ w.frames then some { w with unacked := command.settle w.unacked }
    else none
  | .register tag =>
    match w.coordinator.register tag with
    | .error _ => some w
    | .ok c => some (w.afterRegister tag c)
  | .mark origin tag decision =>
    match w.coordinator.mark tag decision with
    | .error _ => some w
    | .ok c => some (w.afterMark origin tag decision c)
  | .release _ tag => some { w with coordinator := w.coordinator.release tag }
  | .prepare forceIndividual => some (w.afterPrepare forceIndividual)
  | .emission index action =>
    match w.emissions[index]? with
    | none => none
    | some e =>
      match e.step w.coordinator action with
      | none => none
      | some (c, next) => some (w.afterEmission index e action c next)
  | .reconnect =>
    some { w with
      coordinator := w.coordinator.invalidate.1
      delivered := 0
      unacked := ∅
      frames := []
      registered := ∅ }

def init (generation : Nat) (coalesce : Bool) (maxHold maxPending : Int) : ChannelWorld where
  coordinator := .init generation coalesce maxHold maxPending

end ChannelWorld
end RabbitKit
