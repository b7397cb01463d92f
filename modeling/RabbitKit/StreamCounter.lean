import RabbitKit.StreamReplay

/-! # The counter of uncommitted settlements

A commit reads the counter of the tracker before the save and takes what it read off again
after it, while settlements go on.  Whatever the interleaving, and whether saves succeed or
fail, the counter is the number of deliveries by which the watermark has passed the committed
offset.
-/

namespace RabbitKit

open LabelledRun StreamWorld

/-- A stream consumer.  `passed` is bookkeeping: the deliveries by which the watermark of the
tracker has advanced. -/
structure CountedStream where
  stream : StreamWorld
  passed : List Nat := []

namespace CountedStream

def step (config : StreamConsumerConfig) (w : CountedStream) (action : StreamAction) :
    Option CountedStream :=
  (w.stream.step config action).map fun stream =>
    { stream := stream
      passed :=
        match action with
        | .settle _ _ _ =>
          w.passed ++ CommitTaskWorld.removed w.stream.tracker.pending stream.tracker.pending
        | .restart _ => []
        | _ => w.passed }

/-- The count does not depend on what a failed save has left in the store. -/
structure Counted (w : CountedStream) : Prop where
  watermark : w.stream.WatermarkInvariant
  passed : w.stream.PassedInvariant w.passed
  count : ∃ store, CountInvariant w.stream.tracker store w.stream.commit w.passed

variable {config : StreamConsumerConfig} {w w' : CountedStream} {action : StreamAction}

theorem Counted.arrive {stream : StreamWorld} (counted : Counted w) (arrives : action.arrives)
    (taken : w.stream.step config action = some stream) : Counted { w with stream := stream } := by
  have arrived := loopArrival counted.watermark.hooks arrives taken
  obtain ⟨store, count⟩ := counted.count
  have count := count.congr arrived.tracker.committed arrived.tracker.sinceCommit
  exact ⟨counted.watermark.step taken, counted.passed.arrive counted.watermark.hooks arrived,
    store, arrived.commit ▸ count⟩

theorem Counted.settle (counted : Counted w) {delivery : HookedDelivery}
    (hooked : delivery ∈ w.stream.hooked) (failed : Bool) (now : ℚ) :
    let stream := w.stream.afterSettle config delivery failed now
    Counted { stream := stream, passed := w.passed ++
      CommitTaskWorld.removed w.stream.tracker.pending stream.tracker.pending } := by
  have taken : w.stream.step config (.settle delivery failed now) = some _ := if_pos hooked
  obtain ⟨left, passes, passed⟩ : ∃ left, PassedStep w.stream
      (w.stream.afterSettle config delivery failed now) left ∧ PassedInvariant
      (w.stream.afterSettle config delivery failed now) (w.passed ++ left) :=
    counted.passed.settle counted.watermark.hooks hooked failed now
  obtain ⟨store, count⟩ := counted.count
  have done : StreamOffsetTracker.SettledStep w.stream.tracker
      (w.stream.afterSettle config delivery failed now).tracker delivery.offset :=
    StreamOffsetTracker.settled_spec counted.watermark.hooks.ordered
  have count := count.settle counted.watermark.commits done.committed passes.sinceCommit
    passes.above
  dsimp only
  rw [passes.removed]
  exact ⟨counted.watermark.step taken, passed, store, count⟩

theorem Counted.step (counted : Counted w) (stepped : w.step config action = some w') :
    Counted w' := by
  obtain ⟨stream, taken, rfl⟩ := Option.map_eq_some_iff.mp stepped
  have watermark := counted.watermark.step taken
  obtain ⟨store, count⟩ := counted.count
  have passed {stream : StreamWorld} : _ → _ → _ → _ → _ → stream.PassedInvariant w.passed :=
    counted.passed.congr
  cases action with
  | consume | subscribed | deliver | beginShutdown => exact counted.arrive rfl taken
  | settle delivery failed now =>
    simp only [StreamWorld.step] at taken
    split at taken
    next hooked =>
      cases taken
      exact counted.settle hooked failed now
    · cases taken
  | commitBegin =>
    simp only [StreamWorld.step] at taken
    split at taken
    next target covered idle due =>
      cases taken
      obtain ⟨here, rfl, ahead⟩ := commitTarget_eq_some due
      rw [idle] at count
      exact ⟨watermark, passed rfl rfl rfl rfl rfl, store,
        count.begin counted.passed.reached here (beyond_iff.mpr ahead)⟩
    · cases taken
      exact counted
    · cases taken
  | saveReturned =>
    simp only [StreamWorld.step] at taken
    split at taken
    next target covered saving =>
      cases taken
      rw [saving] at count
      exact ⟨watermark, passed rfl rfl rfl rfl rfl, some target, count.counted, rfl,
        count.running.2⟩
    · cases taken
  | saveRaised stored =>
    simp only [StreamWorld.step] at taken
    split at taken
    · cases taken
      exact ⟨watermark, passed rfl rfl rfl rfl rfl, _, count.counted, rfl⟩
    · cases taken
  | commitEnd now =>
    simp only [StreamWorld.step] at taken
    split at taken
    next target covered saved =>
      cases taken
      rw [saved] at count
      exact ⟨watermark, passed rfl rfl rfl rfl rfl, store, count.finish⟩
    · cases taken
  | restart now =>
    cases taken
    exact ⟨watermark, passedInvariant_init rfl rfl rfl, _, rfl, rfl⟩

/-- In every state the counter is the number of deliveries by which the watermark has passed
the committed offset, and each of them was passed once. -/
theorem sinceCommit_counts {stored : Option Nat} {now : ℚ} {actions : List StreamAction}
    (run : Run (step config) { stream := .init config stored now } actions w) :
    w.stream.tracker.sinceCommit = (w.passed.filter (beyond w.stream.tracker.committed)).length ∧
      w.passed.Pairwise (· < ·) := by
  have counted : Counted w := run.invariant (fun held _ => held.step)
    ⟨watermarkInvariant_init config stored now, passedInvariant_init rfl rfl rfl, stored, rfl, rfl⟩
  obtain ⟨store, count⟩ := counted.count
  exact ⟨count.counted.symm, counted.passed.ascending⟩

/-- Two deliveries are settled while the first is saved, after a save that failed. -/
theorem sinceCommit_counts_during_save : ∃ w, Run (step {}) { stream := .init {} none 0 }
        [.consume, .deliver 1 10, .deliver 2 11, .deliver 3 12, .settle ⟨1, 10, 0⟩ false 0,
          .commitBegin, .saveRaised true, .commitBegin, .settle ⟨1, 12, 0⟩ true 0,
          .settle ⟨1, 11, 0⟩ false 0, .saveReturned, .commitEnd 0] w ∧
      w.passed = [10, 11, 12] ∧ w.stream.tracker.committed = some 10 ∧
      w.stream.tracker.sinceCommit = ([11, 12] : List Nat).length := by
  refine exists_runWithin_of_check
    (fun w => decide (w.passed = [10, 11, 12] ∧ w.stream.tracker.committed = some 10))
    (by decide) fun w run checked => ?_
  obtain ⟨passed, committed⟩ := of_decide_eq_true checked
  refine ⟨passed, committed, ?_⟩
  rw [(sinceCommit_counts run).1, passed, committed]
  rfl

end CountedStream
end RabbitKit
