import RabbitKit.SettlementCoverage

/-! # What a new generation separates, and what it does not

`invalidate()` empties the ledger and starts a new generation, in which tags begin again at one. Two
things carry a tag number over that boundary: a batch whose emission has commands left, and a
decision made for a delivery of an earlier generation. The emission loop does not compare
generations before it hands a command over, and a decision names its delivery by tag alone, so both
reach the deliveries of the new generation.
-/

namespace RabbitKit

open SettlementCoordinator LabelledRun ChannelWorld List

variable {w w' : ChannelWorld} {action : ChannelAction}

def Emission.Exhausted (e : Emission) : Prop :=
  match e.phase with
  | .idle => e.remaining = []
  | .awaiting _ => e.remaining = []
  | _ => True

instance (e : Emission) : Decidable e.Exhausted := by
  unfold Emission.Exhausted
  split <;> infer_instance

namespace ChannelWorld

/-- A generation ends only when no emission has a command left to hand over. -/
def InvalidatesWhenExhausted (w : ChannelWorld) : ChannelAction → Prop
  | .reconnect => ∀ e ∈ w.emissions, e.Exhausted
  | .emission _ .invalidate => ∀ e ∈ w.emissions, e.Exhausted
  | _ => True

instance : DecidablePred w.InvalidatesWhenExhausted := fun action => by
  unfold InvalidatesWhenExhausted
  split <;> infer_instance

end ChannelWorld

structure StaleExhausted (w : ChannelWorld) : Prop where
  batches : BatchInvariant w
  stale : ∀ e ∈ w.emissions, e.batch.generation ≠ w.coordinator.generation → e.Exhausted

theorem EmissionStep.exhausted {c c' : SettlementCoordinator} {e e' : Emission}
    {emissionAction : EmissionAction} (stepped : EmissionStep c e emissionAction c' e')
    (exhausted : e.Exhausted) : e'.Exhausted := by
  cases stepped with
  | handOver command rest idle first => simp [Emission.Exhausted, idle, first] at exhausted
  | commit command awaiting => simpa [Emission.Exhausted, awaiting] using exhausted
  | failNegative | failHarmless | invalidate | withhold | interrupt => trivial

theorem StaleExhausted.step (inv : StaleExhausted w)
    (admitted : w.InvalidatesWhenExhausted action) (taken : w.step action = some w') :
    StaleExhausted w' := by
  refine ⟨inv.batches.step taken, ?_⟩
  have exhausted : ∀ e ∈ w.emissions, e.batch.generation ≠ w'.coordinator.generation →
      e.Exhausted := by
    intro e member stale
    rcases step_generation taken with same | rfl | ⟨index, rfl⟩
    · exact inv.stale e member (same ▸ stale)
    · exact admitted e member
    · exact admitted e member
  cases step_emissionsStep taken with
  | same emissions =>
    rw [emissions]
    exact exhausted
  | planned forceIndividual =>
    intro e member stale
    rcases mem_append.mp member with old | fresh
    · exact exhausted e old stale
    · obtain rfl : e = Emission.start (w.coordinator.prepare forceIndividual).2 := by
        simpa using fresh
      simp [Emission.start, afterPrepare] at stale
  | moved index e emissionAction c after found stepped =>
    intro other member stale
    rcases mem_emissions_afterEmission member with old | rfl
    · exact exhausted other old stale
    · exact stepped.exhausted (exhausted e (mem_of_getElem? found) (stepped.batch_eq ▸ stale))

/-- In a run whose generations end only when every emission is exhausted, each
command is handed over in its own generation, and an emission of an earlier
generation hands over nothing more. -/
theorem handed_in_own_generation {generation : Nat} {coalesce : Bool}
    {maxHold maxPending : Int} {actions : List ChannelAction}
    (run : RunWithin ChannelWorld.step ChannelWorld.InvalidatesWhenExhausted
      (ChannelWorld.init generation coalesce maxHold maxPending) actions w) :
    (∀ index w' command, w.step (.emission index .handOver) = some w' →
      w'.handed = w.handed ++ [command] → command.generation = w.coordinator.generation) ∧
    ∀ index e, w.emissions[index]? = some e → e.batch.generation ≠ w.coordinator.generation →
      w.step (.emission index .handOver) = none := by
  have inv : StaleExhausted w := run.invariant .step
    ⟨batchInvariant_init generation coalesce maxHold maxPending, by simp [ChannelWorld.init]⟩
  have disabled : ∀ index e, w.emissions[index]? = some e →
      e.batch.generation ≠ w.coordinator.generation →
      w.step (.emission index .handOver) = none := by
    intro index e found stale
    have exhausted := inv.stale e (mem_of_getElem? found) stale
    cases taken : w.step (.emission index .handOver) with
    | none => rfl
    | some w' =>
      obtain ⟨e', command, rest, found', idle, first, _⟩ := step_handOver taken
      obtain rfl : e = e' := by simpa [found] using found'
      simp [Emission.Exhausted, idle, first] at exhausted
  refine ⟨fun index w' command taken frame => ?_, disabled⟩
  obtain ⟨e, head, rest, found, idle, first, handed⟩ := step_handOver taken
  obtain rfl : head = command := by simpa [handed] using frame
  have here := mem_of_getElem? found
  have inBatch : head ∈ e.batch.commands := by
    rw [inv.batches.progress e here, first]
    simp
  rw [(inv.batches.wellFormed e here).generation head inBatch]
  by_contra stale
  simp [disabled index e found stale] at taken

theorem handed_in_own_generation_reconnect :
    ∃ w, RunWithin ChannelWorld.step ChannelWorld.InvalidatesWhenExhausted
        (ChannelWorld.init 0 false 0 0)
        [.register 1, .mark 0 1 .success, .prepare false, .emission 0 .handOver,
          .emission 0 .commit, .reconnect, .register 1, .mark 1 1 .success, .prepare false] w ∧
      (∀ index w' command, w.step (.emission index .handOver) = some w' →
        w'.handed = w.handed ++ [command] → command.generation = w.coordinator.generation) ∧
      (w.step (.emission 1 .handOver)).isSome = true := by
  refine exists_runWithin_of_check (fun w => (w.step (.emission 1 .handOver)).isSome) (by decide)
    fun w run checked => ?_
  exact ⟨(handed_in_own_generation run).1, checked⟩

/-- After a reconnect the rest of a batch of the old generation goes out, here a
cumulative acknowledgement that settles an unregistered delivery of the new
channel. -/
theorem handed_after_reconnect :
    ∃ w w' command, Run ChannelWorld.step (ChannelWorld.init 0 true 0 0)
        [.deliver, .deliver, .deliver, .register 1, .register 2, .register 3,
          .mark 0 1 (.nack true), .mark 0 2 .success, .mark 0 3 .success, .prepare false,
          .emission 0 .handOver, .emission 0 .commit, .reconnect, .deliver] w ∧
      w.step (.emission 0 .handOver) = some w' ∧ w'.handed = w.handed ++ [command] ∧
      command.generation = 0 ∧ w.coordinator.generation = 1 ∧
      command.multiple = true ∧ 1 ≤ command.deliveryTag ∧ 1 ∈ w.unacked := by
  simp only [exists_and_left]
  refine exists_runWithin_of_check
    (fun w => decide (w.coordinator.generation = 1 ∧ 1 ∈ w.unacked) &&
      (w.step (.emission 0 .handOver)).any fun w' =>
        w'.handed == w.handed ++ [cumulativeAck (.init 0 true 0 0) [2, 3]])
    (by decide) fun w run checked => ?_
  simp only [Bool.and_eq_true, decide_eq_true_eq, Option.any_eq_true, beq_iff_eq] at checked
  obtain ⟨⟨current, unacked⟩, w', taken, frame⟩ := checked
  exact ⟨w', taken, _, frame, rfl, current, rfl, by decide, unacked⟩

def Untouched (c c' : SettlementCoordinator) : Prop :=
  ∀ tag, c'.ledger.get? tag = c.ledger.get? tag ∧
    ∀ state, c.ledger.get? tag = some state → c'.requeue.get? tag = c.requeue.get? tag

namespace ChannelWorld

/-- A late decision or release meets no delivery of the current generation that
it could change. -/
def LateDecisionsMiss (w : ChannelWorld) : ChannelAction → Prop
  | .mark origin tag decision => origin ≤ w.coordinator.generation ∧
      (origin < w.coordinator.generation →
        ∀ state, w.coordinator.ledger.get? tag = some state →
          decision.state ∉ state.transitions)
  | .release origin tag => origin < w.coordinator.generation →
      w.coordinator.ledger.get? tag = none
  | _ => True

instance (w : ChannelWorld) (action : ChannelAction) :
    Decidable (w.LateDecisionsMiss action) :=
  match action with
  | .mark origin tag decision =>
    inferInstanceAs (Decidable (origin ≤ w.coordinator.generation ∧
      (origin < w.coordinator.generation → ∀ state ∈ w.coordinator.ledger.get? tag,
        decision.state ∉ state.transitions)))
  | .release origin tag =>
    inferInstanceAs (Decidable (origin < w.coordinator.generation →
      w.coordinator.ledger.get? tag = none))
  | .deliver | .settleElsewhere _ | .land _ | .register _ | .prepare _ | .emission _ _
  | .reconnect => inferInstanceAs (Decidable True)

end ChannelWorld

/-- Every recorded decision was made for the delivery it is recorded for. -/
structure OwnDecisions (w : ChannelWorld) : Prop where
  batches : BatchInvariant w
  own : ∀ generation tag decision,
    w.records generation tag = some (.decided decision) →
    ⟨generation, tag, decision⟩ ∈ w.decisions

theorem not_mem_transitions_self (state : DeliveryState) : state ∉ state.transitions := by
  cases state <;> simp [DeliveryState.transitions]

theorem mark_of_legal {c : SettlementCoordinator} {tag : Nat} {decision : Decision}
    {state : DeliveryState} (inLedger : c.ledger.get? tag = some state)
    (legal : decision.state ∈ state.transitions) :
    ∃ c', c.mark tag decision = .ok c' ∧ c'.ledger.get? tag = some decision.state := by
  have changed : ¬ state = decision.state := by
    rintro rfl
    exact not_mem_transitions_self _ legal
  rw [mark_eq_setIntent]
  simp only [setIntent, inLedger, changed, legal, not_true, if_false]
  exact ⟨_, rfl, by simp⟩

/-- A decision leaves every delivery as it was exactly when the delivery under
its tag, if there is one, does not admit it. -/
theorem mark_untouched_iff (c : SettlementCoordinator) (tag : Nat) (decision : Decision) :
    (∀ c', c.mark tag decision = .ok c' → Untouched c c') ↔
      ∀ state, c.ledger.get? tag = some state → decision.state ∉ state.transitions := by
  constructor
  · intro untouched state inLedger legal
    obtain ⟨c', accepted, changed⟩ := mark_of_legal inLedger legal
    have kept := (untouched c' accepted tag).1
    rw [changed, inLedger] at kept
    cases kept
    exact not_mem_transitions_self _ legal
  · intro refused c' accepted
    obtain ⟨current, inLedger, ⟨_, rfl, _⟩ | ⟨legal, _⟩⟩ := mark_ok accepted
    · exact fun _ => ⟨rfl, fun _ _ => rfl⟩
    · exact absurd legal (refused current inLedger)

theorem release_untouched_iff (c : SettlementCoordinator) (tag : Nat) :
    Untouched c (c.release tag) ↔ c.ledger.get? tag = none := by
  constructor
  · intro untouched
    simpa [release] using (untouched tag).1.symm
  · intro absent other
    by_cases same : other = tag
    · subst same
      exact ⟨by simp [release, absent], by simp [absent]⟩
    · exact ⟨by simp [release, same], by simp [release, same]⟩

theorem OwnDecisions.step (inv : OwnDecisions w) (admitted : w.LateDecisionsMiss action)
    (taken : w.step action = some w') : OwnDecisions w' := by
  refine ⟨inv.batches.step taken, ?_⟩
  cases action with
  | deliver | settleElsewhere | release | reconnect =>
    cases taken
    exact inv.own
  | land command =>
    rw [step_land taken]
    exact inv.own
  | register tag =>
    rcases step_register taken with rfl | ⟨c, _, rfl⟩
    · exact inv.own
    · intro generation other decision recorded
      simp only [afterRegister, setRecord_apply] at recorded
      split at recorded
      · cases recorded
      · exact inv.own generation other decision recorded
  | mark origin tag decision =>
    rcases step_mark taken with rfl | ⟨c, accepted, rfl⟩
    · exact inv.own
    · intro generation other otherDecision recorded
      simp only [afterMark, setRecord_apply] at recorded ⊢
      split at recorded
      next same =>
        obtain ⟨rfl, rfl⟩ := same
        cases recorded
        rcases Nat.lt_or_eq_of_le admitted.1 with late | rfl
        · obtain ⟨current, inLedger, ⟨rfl, _, sameRequeue⟩ | ⟨legal, _⟩⟩ := mark_ok accepted
          · exact mem_cons_of_mem _ (inv.own _ _ _
              (inv.batches.ledger.repeated_decision inLedger sameRequeue))
          · exact absurd legal (admitted.2 late current inLedger)
        · exact mem_cons_self
      · exact mem_cons_of_mem _ (inv.own generation other otherDecision recorded)
  | prepare forceIndividual =>
    rw [step_prepare taken]
    exact inv.own
  | emission index emissionAction =>
    obtain ⟨e, c, next, _, _, rfl⟩ := step_emission taken
    exact inv.own

/-- In a run whose late decisions meet no delivery they could change, every
acknowledgement handed over covers only deliveries that were themselves marked
successful.  At any point of any run a decision or release made for an earlier
generation leaves the current deliveries untouched exactly under that
condition. -/
theorem acknowledged_by_own_decision {generation : Nat} {coalesce : Bool}
    {maxHold maxPending : Int} {actions : List ChannelAction}
    (run : RunWithin ChannelWorld.step ChannelWorld.LateDecisionsMiss
      (ChannelWorld.init generation coalesce maxHold maxPending) actions w) :
    (∀ command ∈ w.handed, command.kind = .ack → ∀ tag ∈ command.covers,
      ⟨command.generation, tag, .success⟩ ∈ w.decisions) ∧
    (∀ origin tag decision, origin < w.coordinator.generation →
      ((∀ w', w.step (.mark origin tag decision) = some w' →
          Untouched w.coordinator w'.coordinator) ↔
        w.LateDecisionsMiss (.mark origin tag decision))) ∧
    ∀ origin tag, origin < w.coordinator.generation →
      ((∀ w', w.step (.release origin tag) = some w' → Untouched w.coordinator w'.coordinator) ↔
        w.LateDecisionsMiss (.release origin tag)) := by
  have inv : OwnDecisions w := run.invariant .step
    ⟨batchInvariant_init generation coalesce maxHold maxPending, by simp [ChannelWorld.init]⟩
  refine ⟨fun command member ack tag covered => ?_, fun origin tag decision late => ?_,
    fun origin tag late => ?_⟩
  · obtain ⟨e, here, attempted⟩ := inv.batches.handed command member
    have inBatch : command ∈ e.batch.commands := by
      rw [inv.batches.progress e here]
      exact mem_append_left _ attempted
    have faithful := inv.batches.faithful e here command inBatch
    simp only [SettlementCommand.Faithful, ack] at faithful
    rw [(inv.batches.wellFormed e here).generation command inBatch]
    exact inv.own _ _ _ (faithful tag covered)
  · have missed : w.LateDecisionsMiss (.mark origin tag decision) ↔
        ∀ state, w.coordinator.ledger.get? tag = some state → decision.state ∉ state.transitions :=
      ⟨fun miss => miss.2 late, fun miss => ⟨le_of_lt late, fun _ => miss⟩⟩
    rw [missed, ← mark_untouched_iff]
    constructor
    · intro untouched c' accepted
      have taken : w.step (.mark origin tag decision) =
          some (w.afterMark origin tag decision c') := by
        simp [step, accepted]
      exact untouched _ taken
    · intro untouched w' taken
      rcases step_mark taken with rfl | ⟨c', accepted, rfl⟩
      · exact fun _ => ⟨rfl, fun _ _ => rfl⟩
      · exact untouched c' accepted
  · have missed : w.LateDecisionsMiss (.release origin tag) ↔
        w.coordinator.ledger.get? tag = none := ⟨fun miss => miss late, fun miss _ => miss⟩
    rw [missed, ← release_untouched_iff]
    constructor
    · intro untouched
      exact untouched _ rfl
    · intro untouched w' taken
      cases taken
      exact untouched

/-- A decision arriving late for a delivery of the closed channel is refused,
and the delivery now carrying the tag is acknowledged on its own decision. -/
theorem acknowledged_by_own_decision_reconnect :
    ∃ w, RunWithin ChannelWorld.step ChannelWorld.LateDecisionsMiss (ChannelWorld.init 0 true 0 0)
        [.register 1, .reconnect, .mark 0 1 .success, .release 0 1, .register 1,
          .mark 1 1 .success, .prepare false, .emission 0 .handOver] w ∧
      (∀ command ∈ w.handed, command.kind = .ack → ∀ tag ∈ command.covers,
        ⟨command.generation, tag, .success⟩ ∈ w.decisions) ∧
      w.handed = [individualAck (.init 1 true 0 0) 1] := by
  refine exists_runWithin_of_check
    (fun w => w.handed == [individualAck (.init 1 true 0 0) 1]) (by decide)
    fun w run checked => ?_
  exact ⟨(acknowledged_by_own_decision run).1, by simpa using checked⟩

/-- A success reported late for a delivery of the closed channel is recorded for
the delivery that now carries its tag, which is then acknowledged although no
decision was made for it; a late release drops such a delivery. -/
theorem acknowledged_by_late_decision :
    ∃ w w' w'' command, Run ChannelWorld.step (ChannelWorld.init 0 true 0 0)
        [.deliver, .register 1, .reconnect, .deliver, .register 1] w ∧
      Run ChannelWorld.step w [.mark 0 1 .success, .prepare false, .emission 0 .handOver] w' ∧
      w'.handed = [command] ∧ command.kind = .ack ∧ command.generation = 1 ∧
      1 ∈ command.covers ∧ (∀ decision, ⟨1, 1, decision⟩ ∉ w'.decisions) ∧
      w.step (.release 0 1) = some w'' ∧ w.coordinator.ledger.get? 1 = some .outstanding ∧
      w''.coordinator.ledger.get? 1 = none := by
  simp only [exists_and_left]
  refine exists_runWithin_of_check
    (fun w => decide (w.coordinator.ledger.get? 1 = some .outstanding) && (execute step w
        [.mark 0 1 .success, .prepare false, .emission 0 .handOver]).any
          fun w' : ChannelWorld => w'.handed == [individualAck (.init 1 true 0 0) 1] &&
            w'.decisions == [⟨0, 1, .success⟩])
    (by decide) fun w run checked => ?_
  simp only [Bool.and_eq_true, decide_eq_true_eq, Option.any_eq_true, beq_iff_eq] at checked
  obtain ⟨inLedger, w', executed, handed, decisions⟩ := checked
  refine ⟨w', run_of_execute executed, { w with coordinator := w.coordinator.release 1 }, _,
    handed, rfl, rfl, by decide, ?_, rfl, inLedger, ?_⟩
  · simp [decisions]
  · simp [release]

end RabbitKit
