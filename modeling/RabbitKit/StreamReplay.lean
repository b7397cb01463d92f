import RabbitKit.StreamCommitTask

/-! # How much a crash of a stream consumer replays

The counter of the tracker is the number of passed offsets that are not yet
committed, also while a commit is under way.  A commit is started only when the
counter calls for it, so it always has something to save, and the thread stops
only when the counter is low again.
-/

namespace RabbitKit

open LabelledRun StreamWorld StreamOffsetTracker CommitTaskWorld OrderedDict List Option

open StreamOffsetTracker (AtMost ArrivalStep arrivalStep_refl EffectiveSettlement)

namespace StreamWorld

variable {config : StreamConsumerConfig} {s s' : StreamWorld} {passed left : List Nat}

/-- Every settled delivery of the current generation was passed or waits behind an
unsettled one. -/
structure PassedInvariant (s : StreamWorld) (passed : List Nat) : Prop where
  hooked : ∀ d ∈ s.settled, d ∈ s.hooked
  tracked : ∀ d ∈ s.hooked, d.generation = s.tracker.generation →
    d.offset ∈ passed ∨ s.tracker.pending.get? d.offset ≠ none
  placed : ∀ d ∈ s.settled, d.generation = s.tracker.generation →
    d.offset ∈ passed ∨ s.tracker.pending.get? d.offset = some true
  marked : ∀ offset, s.tracker.pending.get? offset = some true →
    ∃ d ∈ s.settled, d.offset = offset
  stops : ∀ entry, s.tracker.pending.entries.head? = some entry → entry.2 = false
  settled : ∀ offset ∈ passed, ∃ d ∈ s.settled, d.offset = offset
  ascending : passed.Pairwise (· < ·)
  reached : ∀ offset ∈ passed, AtMost (some offset) s.tracker.processed

theorem passedInvariant_init (pending : s.tracker.pending = .empty) (hooked : s.hooked = [])
    (settled : s.settled = []) : PassedInvariant s [] := by
  have none : (empty : OrderedDict Nat Bool).entries = [] := rfl
  constructor <;> simp [pending, hooked, settled, none]

structure LoopArrival (s s' : StreamWorld) : Prop where
  tracker : ArrivalStep s.tracker s'.tracker
  settled : s'.settled = s.settled
  store : s'.store = s.store
  commit : s'.commit = s.commit
  hooked : ∀ d ∈ s.hooked, d ∈ s'.hooked
  hooks : ∀ d ∈ s'.hooked, d ∈ s.hooked ∨ s'.tracker.pending.get? d.offset ≠ none

theorem loopArrival (inv : HookInvariant s) {action : StreamAction} (arrives : action.arrives)
    (taken : step config s action = some s') : LoopArrival s s' := by
  cases action with
  | consume =>
    cases taken
    exact ⟨arrivalStep_refl _, rfl, rfl, rfl, fun _ => id, fun _ => .inl⟩
  | subscribed | beginShutdown =>
    cases taken
    exact ⟨⟨rfl, rfl, rfl, le_refl _, fun _ => id, fun _ _ _ => id, id⟩, rfl, rfl, rfl,
      fun _ => id, fun _ => .inl⟩
  | deliver tag offset =>
    simp only [step] at taken
    split at taken
    · cases taken
      have tracked := track_spec inv.ordered (some tag) offset
      refine ⟨track_arrival inv.ordered _ _, rfl, rfl, rfl,
        fun d member => mem_append_right _ member, ?_⟩
      intro d member
      rcases mem_append.mp member with new | old
      · obtain ⟨generation, hooked, rfl⟩ := mem_map.mp new
        have waits := (tracked.hooks generation (by simpa using hooked)).2
        exact .inr (by simp [afterDeliver, waits])
      · exact .inl old
    · cases taken
  | settle | commitBegin | saveReturned | saveRaised | commitEnd | restart => cases arrives

theorem PassedInvariant.arrive (inv : PassedInvariant s passed) (hooks : HookInvariant s)
    (arrived : LoopArrival s s') : PassedInvariant s' passed := by
  have current : ∀ d ∈ s.hooked, d.generation = s'.tracker.generation →
      s'.tracker.generation = s.tracker.generation := fun d member same =>
    le_antisymm (same ▸ hooks.generations d member) arrived.tracker.generation
  refine ⟨?_, ?_, ?_, ?_, arrived.tracker.stops inv.stops, ?_, inv.ascending, ?_⟩
  · rw [arrived.settled]
    exact fun d member => arrived.hooked d (inv.hooked d member)
  · intro d member same
    rcases arrived.hooks d member with old | waits
    · have unchanged := current d old same
      refine (inv.tracked d old (same.trans unchanged)).imp_right fun held => ?_
      obtain ⟨settled, found⟩ := ne_none_iff_exists'.mp held
      rw [arrived.tracker.kept unchanged _ _ found]
      exact some_ne_none settled
    · exact .inr waits
  · rw [arrived.settled]
    intro d member same
    have unchanged := current d (inv.hooked d member) same
    exact (inv.placed d member (same.trans unchanged)).imp_right
      (arrived.tracker.kept unchanged _ _)
  · rw [arrived.settled]
    exact fun offset marked => inv.marked offset (arrived.tracker.marks offset marked)
  · rw [arrived.settled]
    exact inv.settled
  · rw [arrived.tracker.processed]
    exact inv.reached

theorem removed_eq {before after : OrderedDict Nat Bool} (keys : before.keys = left ++ after.keys) :
    removed before after = left := by
  have nodup : (left ++ after.keys).Nodup := keys ▸ before.keys_nodup
  have apart := (nodup_append.mp nodup).2.2
  unfold removed
  rw [keys, filter_append]
  have front : left.filter (· ∉ after.keys) = left := by
    rw [filter_eq_self]
    intro offset member
    simpa using fun later => apart offset member offset later rfl
  have rest : after.keys.filter (· ∉ after.keys) = [] := by
    simp
  rw [front, rest, append_nil]

structure PassedStep (s s' : StreamWorld) (left : List Nat) : Prop where
  removed : CommitTaskWorld.removed s.tracker.pending s'.tracker.pending = left
  sinceCommit : s'.tracker.sinceCommit = s.tracker.sinceCommit + left.length
  above : ∀ offset ∈ left, ∀ watermark, s.tracker.processed = some watermark → watermark < offset

section

variable (inv : PassedInvariant s passed)
include inv

variable {delivery : HookedDelivery} {failed : Bool} {now : ℚ}

theorem PassedInvariant.ignored (hooked : delivery ∈ s.hooked)
    (same : (s.afterSettle config delivery failed now).tracker = s.tracker)
    (reason : delivery.generation ≠ s.tracker.generation ∨
      s.tracker.pending.get? delivery.offset = none ∨ (failed = true ∧ s.tracker.closing = true)) :
    PassedInvariant (s.afterSettle config delivery failed now) passed := by
  have new : ∀ d ∈ (s.afterSettle config delivery failed now).settled,
      d ∈ s.settled ∨ d = delivery ∧ ¬ (failed = true ∧ s.tracker.closing = true) := by
    intro d member
    by_cases handedBack : failed = true ∧ s.tracker.closing = true
    · exact .inl (by simpa [afterSettle, handedBack] using member)
    · have counted : ¬ (failed && s.tracker.closing) = true := by simpa using handedBack
      have listed : d = delivery ∨ d ∈ s.settled := by
        simpa [afterSettle, counted] using member
      exact listed.symm.imp_right fun here => ⟨here, handedBack⟩
  have old : ∀ d ∈ s.settled, d ∈ (s.afterSettle config delivery failed now).settled := by
    intro d member
    unfold afterSettle
    split
    · exact member
    · exact mem_cons_of_mem _ member
  refine ⟨?_, ?_, ?_, ?_, ?_, ?_, inv.ascending, ?_⟩
  · intro d member
    rcases new d member with before | ⟨rfl, _⟩
    · exact inv.hooked d before
    · exact hooked
  · rw [same]
    exact inv.tracked
  · rw [same]
    intro d member current
    rcases new d member with before | ⟨rfl, counts⟩
    · exact inv.placed d before current
    · rcases reason with stale | absent | handedBack
      · exact absurd current stale
      · exact .inl ((inv.tracked d hooked current).resolve_right (not_not_intro absent))
      · exact absurd handedBack counts
  · rw [same]
    intro offset marked
    obtain ⟨d, member, here⟩ := inv.marked offset marked
    exact ⟨d, old d member, here⟩
  · rw [same]
    exact inv.stops
  · intro offset member
    obtain ⟨d, settled, here⟩ := inv.settled offset member
    exact ⟨d, old d settled, here⟩
  · rw [same]
    exact inv.reached

theorem PassedInvariant.effective (hooks : HookInvariant s) (hooked : delivery ∈ s.hooked)
    (counts : ¬ (failed = true ∧ s.tracker.closing = true))
    (moved : EffectiveSettlement s.tracker (s.afterSettle config delivery failed now).tracker
      delivery.offset left) :
    PassedInvariant (s.afterSettle config delivery failed now) (passed ++ left) := by
  have listed : (s.afterSettle config delivery failed now).settled = delivery :: s.settled := by
    have counted : ¬ (failed && s.tracker.closing) = true := by simpa using counts
    simp [afterSettle, counted]
  have ascending := hooks.ordered.ascending
  rw [moved.keys] at ascending
  obtain ⟨leftAscending, _, _⟩ := pairwise_append.mp ascending
  have above : ∀ offset ∈ left, ∀ watermark, s.tracker.processed = some watermark →
      watermark < offset := fun offset member watermark here =>
    hooks.ordered.above watermark here offset (moved.keys ▸ mem_append_left _ member)
  have sources : ∀ offset, (s.tracker.pending.set delivery.offset true).get? offset = some true →
      ∃ d ∈ delivery :: s.settled, d.offset = offset := by
    intro offset marked
    by_cases same : offset = delivery.offset
    · exact ⟨delivery, mem_cons_self, same.symm⟩
    · obtain ⟨d, member, here⟩ := inv.marked offset (by simpa [same] using marked)
      exact ⟨d, mem_cons_of_mem _ member, here⟩
  refine ⟨?_, ?_, ?_, ?_, moved.stops, ?_, ?_, ?_⟩
  · rw [listed]
    intro d member
    rcases mem_cons.mp member with rfl | old
    · exact hooked
    · exact inv.hooked d old
  · rw [moved.generation]
    intro d member current
    rcases inv.tracked d member current with known | held
    · exact .inl (mem_append_left _ known)
    · rw [Ne, get?_eq_none_iff, moved.keys, not_not, mem_append] at held
      rw [Ne, get?_eq_none_iff, not_not]
      exact held.imp_left (mem_append_right _)
  · rw [listed, moved.generation]
    intro d member current
    have placed : d.offset ∈ passed ∨
        (s.tracker.pending.set delivery.offset true).get? d.offset = some true := by
      rcases mem_cons.mp member with rfl | old
      · exact .inr (by simp)
      · refine (inv.placed d old current).imp_right fun marked => ?_
        by_cases same : d.offset = delivery.offset <;> simp [same, marked]
    rcases placed with known | marked
    · exact .inl (mem_append_left _ known)
    · exact ((moved.marks d.offset).mp marked).imp_left (mem_append_right _)
  · rw [listed]
    exact fun offset marked => sources offset ((moved.marks offset).mpr (.inr marked))
  · rw [listed]
    intro offset member
    rcases mem_append.mp member with known | gone
    · obtain ⟨d, settled, here⟩ := inv.settled offset known
      exact ⟨d, mem_cons_of_mem _ settled, here⟩
    · exact sources offset ((moved.marks offset).mpr (.inl gone))
  · refine pairwise_append.mpr ⟨inv.ascending, leftAscending, ?_⟩
    intro earlier known later gone
    obtain ⟨watermark, here, bound⟩ := inv.reached earlier known earlier rfl
    exact lt_of_le_of_lt bound (above later gone watermark here)
  · intro offset member
    rw [moved.processed]
    rcases eq_nil_or_concat left with rfl | ⟨front, last, rfl⟩
    · exact inv.reached offset (by simpa using member)
    · intro value same
      cases same
      refine ⟨last, by simp, ?_⟩
      rcases mem_append.mp member with known | gone
      · obtain ⟨watermark, here, bound⟩ := inv.reached offset known offset rfl
        exact le_of_lt (lt_of_le_of_lt bound (above last (by simp) watermark here))
      · rcases mem_append.mp (by simpa using gone : offset ∈ front ++ [last]) with early | same
        · have before := (pairwise_append.mp (by simpa using leftAscending)).2.2
          exact le_of_lt (before offset early last (by simp))
        · exact le_of_eq (by simpa using same)

theorem PassedInvariant.settle (hooks : HookInvariant s)
    (hooked : delivery ∈ s.hooked) (failed : Bool) (now : ℚ) :
    ∃ left, PassedStep s (s.afterSettle config delivery failed now) left ∧
      PassedInvariant (s.afterSettle config delivery failed now) (passed ++ left) := by
  rcases s.tracker.settled_cases config now delivery.offset delivery.generation failed with
    ⟨same, reason⟩ | ⟨_, counts, left, moved⟩
  · have same : (s.afterSettle config delivery failed now).tracker = s.tracker := same
    refine ⟨[], ⟨?_, by rw [same]; rfl, by simp⟩, ?_⟩
    · rw [same]
      exact removed_eq rfl
    · rw [append_nil]
      exact inv.ignored hooked same reason
  · refine ⟨left, ⟨removed_eq moved.keys, moved.sinceCommit, ?_⟩,
      inv.effective hooks hooked counts moved⟩
    intro offset member watermark here
    exact hooks.ordered.above watermark here offset (moved.keys ▸ mem_append_left _ member)

theorem PassedInvariant.congr (pending : s'.tracker.pending = s.tracker.pending)
    (generation : s'.tracker.generation = s.tracker.generation)
    (processed : s'.tracker.processed = s.tracker.processed)
    (hooked : s'.hooked = s.hooked) (settled : s'.settled = s.settled) :
    PassedInvariant s' passed := by
  obtain ⟨inHooked, tracked, placed, marked, stops, inSettled, ascending, reached⟩ := inv
  refine ⟨?_, ?_, ?_, ?_, ?_, ?_, ascending, ?_⟩ <;>
    simp only [pending, generation, processed, hooked, settled] <;>
    assumption

end

end StreamWorld

def beyond (committed : Option Nat) (offset : Nat) : Bool := committed.all (· < offset)

theorem beyond_iff {committed : Option Nat} {offset : Nat} :
    beyond committed offset = true ↔ ∀ last, committed = some last → last < offset := by
  cases committed <;> simp [beyond]

structure CommitCovers (t : StreamOffsetTracker) (passed : List Nat) (target covered : Nat) :
    Prop where
  ahead : beyond t.committed target = true
  covered_le : covered ≤ t.sinceCommit
  rest : (passed.filter (beyond (some target))).length = t.sinceCommit - covered

/-- The counter of the tracker counts the passed offsets that are not committed. -/
structure CountInvariant (t : StreamOffsetTracker) (store : Option Nat) (phase : CommitPhase)
    (passed : List Nat) : Prop where
  counted : (passed.filter (beyond t.committed)).length = t.sinceCommit
  running : match phase with
    | .idle => store = t.committed
    | .saving target covered => store = t.committed ∧ CommitCovers t passed target covered
    | .saved target covered => store = some target ∧ CommitCovers t passed target covered

section Counting

variable {t t' : StreamOffsetTracker} {store stored : Option Nat} {phase : CommitPhase}
  {passed left saves : List Nat} {target covered : Nat} {now : ℚ}

/-- Offsets above the watermark lie behind every bound the watermark has reached. -/
theorem filter_beyond_append {bound processed : Option Nat} (reached : AtMost bound processed)
    (above : ∀ offset ∈ left, ∀ watermark, processed = some watermark → watermark < offset) :
    ((passed ++ left).filter (beyond bound)).length =
      (passed.filter (beyond bound)).length + left.length := by
  have all : left.filter (beyond bound) = left := by
    rw [filter_eq_self]
    refine fun offset member => beyond_iff.mpr fun last known => ?_
    obtain ⟨watermark, here, bound⟩ := reached last known
    exact lt_of_le_of_lt bound (above offset member watermark here)
  rw [filter_append, length_append, all]

theorem CommitCovers.congr (covers : CommitCovers t passed target covered)
    (committed : t'.committed = t.committed) (sinceCommit : t'.sinceCommit = t.sinceCommit) :
    CommitCovers t' passed target covered := by
  obtain ⟨ahead, bound, rest⟩ := covers
  refine ⟨?_, ?_, ?_⟩ <;> simp only [committed, sinceCommit] <;> assumption

section

variable (inv : CountInvariant t store phase passed)
include inv

theorem CountInvariant.congr
    (committed : t'.committed = t.committed) (sinceCommit : t'.sinceCommit = t.sinceCommit) :
    CountInvariant t' store phase passed := by
  refine ⟨by rw [committed, sinceCommit, inv.counted], ?_⟩
  have running := inv.running
  cases phase with
  | idle => exact running.trans committed.symm
  | saving target covered =>
    exact ⟨running.1.trans committed.symm, running.2.congr committed sinceCommit⟩
  | saved target covered => exact ⟨running.1, running.2.congr committed sinceCommit⟩

theorem CountInvariant.settle
    (commits : StreamWorld.CommitInvariant t.processed t.committed stored phase saves)
    (committed : t'.committed = t.committed)
    (sinceCommit : t'.sinceCommit = t.sinceCommit + left.length)
    (above : ∀ offset ∈ left, ∀ watermark, t.processed = some watermark → watermark < offset) :
    CountInvariant t' store phase (passed ++ left) := by
  have counted : ((passed ++ left).filter (beyond t.committed)).length = _ :=
    filter_beyond_append commits.committed_le above
  refine ⟨by rw [committed, sinceCommit, counted, inv.counted], ?_⟩
  have covers : ∀ target covered, AtMost (some target) t.processed →
      CommitCovers t passed target covered → CommitCovers t' (passed ++ left) target covered := by
    intro target covered reached held
    refine ⟨by rw [committed]; exact held.ahead, ?_, ?_⟩
    · rw [sinceCommit]
      exact le_trans held.covered_le (Nat.le_add_right _ _)
    · have bound := held.covered_le
      rw [filter_beyond_append reached above, held.rest, sinceCommit]
      omega
  have running := inv.running
  have under := commits.running
  cases phase with
  | idle => exact running.trans committed.symm
  | saving target covered =>
    exact ⟨running.1.trans committed.symm, covers target covered under.1 running.2⟩
  | saved target covered => exact ⟨running.1, covers target covered under.1 running.2⟩

theorem CountInvariant.exists_target
    (reached : ∀ offset ∈ passed, AtMost (some offset) t.processed) (progress : 0 < t.sinceCommit) :
    ∃ target, t.commitTarget = some (target, t.sinceCommit) ∧ t.processed = some target ∧
      beyond t.committed target = true := by
  have nonempty : passed.filter (beyond t.committed) ≠ [] := by
    intro empty
    have none := inv.counted
    rw [empty] at none
    exact absurd none (ne_of_lt progress)
  obtain ⟨offset, member⟩ := exists_mem_of_ne_nil _ nonempty
  obtain ⟨known, fresh⟩ := mem_filter.mp member
  obtain ⟨target, here, bound⟩ := reached offset known offset rfl
  have ahead : beyond t.committed target = true :=
    beyond_iff.mpr fun last known => lt_of_lt_of_le (beyond_iff.mp fresh last known) bound
  have open' : t.committed.any (target ≤ ·) = false := by
    cases before : t.committed with
    | none => rfl
    | some value => simpa [beyond, before] using ahead
  exact ⟨target, by simp [commitTarget, here, open'], here, ahead⟩

end

theorem CountInvariant.begin (inv : CountInvariant t store .idle passed)
    (reached : ∀ offset ∈ passed, AtMost (some offset) t.processed)
    (here : t.processed = some target) (ahead : beyond t.committed target = true) :
    CountInvariant t store (.saving target t.sinceCommit) passed := by
  refine ⟨inv.counted, inv.running, ahead, le_refl _, ?_⟩
  rw [Nat.sub_self, length_eq_zero_iff, filter_eq_nil_iff]
  intro offset member later
  obtain ⟨watermark, known, bound⟩ := reached offset member offset rfl
  rw [here] at known
  cases known
  have after : target < offset := by simpa [beyond] using later
  omega

theorem CountInvariant.finish (inv : CountInvariant t store (.saved target covered) passed) :
    CountInvariant (t.commitSaved target covered now) store .idle passed :=
  ⟨inv.running.2.rest, inv.running.1⟩

end Counting

/-- A commit is started only when it is due, and the thread stops only when none is. -/
def TaskInvariant (every : Nat) (t : StreamOffsetTracker) (phase : CommitPhase) (due : Bool) :
    CommitTask → Prop
  | .done => phase = .idle ∧ (due = true → every ≤ t.sinceCommit) ∧
      (due = false → t.sinceCommit < every)
  | .starting => phase = .idle ∧ every ≤ t.sinceCommit
  | .committing before => before = t.committed ∧ (phase = .idle → every ≤ t.sinceCommit)
  | .checking before => phase = .idle ∧ t.committed ≠ before
  | .returned => phase = .idle ∧ t.sinceCommit < every

namespace CommitTaskWorld

variable {config : StreamConsumerConfig} {w w' : CommitTaskWorld} {action : CommitTaskAction}

structure ReplayInvariant (config : StreamConsumerConfig) (w : CommitTaskWorld) : Prop where
  watermark : w.stream.WatermarkInvariant
  passed : w.stream.PassedInvariant w.passed
  count : CountInvariant w.stream.tracker w.stream.store w.stream.commit w.passed
  task : TaskInvariant config.commitEvery w.stream.tracker w.stream.commit w.due w.task

theorem ReplayInvariant.arrive (inv : ReplayInvariant config w) {action : StreamAction}
    {stream : StreamWorld} (arrives : action.arrives)
    (taken : w.stream.step config action = some stream) :
    ReplayInvariant config { w with stream := stream } := by
  have arrived := loopArrival inv.watermark.hooks arrives taken
  have count := inv.count.congr arrived.tracker.committed arrived.tracker.sinceCommit
  have task := inv.task
  rw [← arrived.store, ← arrived.commit] at count
  refine ⟨inv.watermark.step taken, inv.passed.arrive inv.watermark.hooks arrived, count, ?_⟩
  rw [arrived.commit]
  cases phase : w.task <;>
    simpa only [phase, TaskInvariant, arrived.tracker.committed, arrived.tracker.sinceCommit]
      using task

theorem ReplayInvariant.settle (inv : ReplayInvariant config w)
    (unset : config.commitInterval = none) {delivery : HookedDelivery} {failed : Bool} {now : ℚ}
    (idle : w.due = false) (hooked : delivery ∈ w.stream.hooked)
    (noticed : w.noticed config (.settle delivery failed now) = true) :
    ReplayInvariant config (w.afterSettle config delivery failed now) := by
  let after := w.afterSettle config delivery failed now
  obtain ⟨left, passes, passed⟩ : ∃ left, StreamWorld.PassedStep w.stream after.stream left ∧
      StreamWorld.PassedInvariant after.stream (w.passed ++ left) :=
    inv.passed.settle inv.watermark.hooks hooked failed now
  have taken : w.stream.step config (.settle delivery failed now) = some after.stream := by
    simp [StreamWorld.step, hooked, after, CommitTaskWorld.afterSettle]
  have done : StreamOffsetTracker.SettledStep w.stream.tracker after.stream.tracker
      delivery.offset := settled_spec inv.watermark.hooks.ordered
  have count := inv.count.settle inv.watermark.commits done.committed passes.sinceCommit
    passes.above
  have moved : after.passed = w.passed ++ left := congrArg (w.passed ++ ·) passes.removed
  have due : after.due = decide (w.stream.tracker.sinceCommit < after.stream.tracker.sinceCommit ∧
      config.commitEvery ≤ after.stream.tracker.sinceCommit) := settled_due unset
  refine ⟨inv.watermark.step taken, moved ▸ passed, moved ▸ count, ?_⟩
  have grows := passes.sinceCommit
  have task := inv.task
  change TaskInvariant config.commitEvery after.stream.tracker w.stream.commit after.due w.task
  rw [due]
  cases phase : w.task with
  | done =>
    simp only [phase, TaskInvariant, idle] at task
    obtain ⟨settledPhase, _, below⟩ := task
    have below := below trivial
    refine ⟨settledPhase, fun reached => (of_decide_eq_true reached).2, fun missed => ?_⟩
    have missed := of_decide_eq_false missed
    omega
  | starting =>
    simp only [phase, TaskInvariant] at task
    exact ⟨task.1, by omega⟩
  | committing before =>
    simp only [phase, TaskInvariant] at task
    refine ⟨task.1.trans done.committed.symm, fun here => ?_⟩
    have reached := task.2 here
    omega
  | checking before =>
    simp only [phase, TaskInvariant] at task
    refine ⟨task.1, ?_⟩
    rw [done.committed]
    exact task.2
  | returned =>
    simp only [phase, TaskInvariant] at task
    have missed : after.due = false := by
      simpa [CommitTaskWorld.noticed, CommitTaskWorld.afterSettle, after, phase] using noticed
    have missed := of_decide_eq_false (due.symm.trans missed)
    exact ⟨task.1, by omega⟩

theorem ReplayInvariant.step (unset : config.commitInterval = none)
    (inv : ReplayInvariant config w) (noticed : w.noticed config action = true)
    (taken : w.step config action = some w') : ReplayInvariant config w' := by
  have task := inv.task
  have count := inv.count
  cases action <;> simp only [step] at taken
  case arrive action =>
    split at taken
    next enabled =>
      obtain ⟨stream, next, rfl⟩ := map_eq_some_iff.mp taken
      exact inv.arrive enabled.2 next
    · cases taken
  case settle delivery failed now =>
    split at taken
    next enabled =>
      cases taken
      exact inv.settle unset enabled.1 enabled.2 noticed
    · cases taken
  case commitSoon =>
    split at taken
    next due =>
      cases taken
      refine ⟨inv.watermark, inv.passed, count, ?_⟩
      cases phase : w.task <;> simp only [phase, TaskInvariant, due] at task ⊢
      all_goals first | exact task | exact ⟨task.1, task.2.1 trivial⟩
    · cases taken
  case readCommitted =>
    split at taken
    next starting =>
      cases taken
      simp only [starting, TaskInvariant] at task
      exact ⟨inv.watermark, inv.passed, count, rfl, fun _ => task.2⟩
    · cases taken
  case commitBegin =>
    split at taken
    next before target covered committing idle due =>
      cases taken
      simp only [committing, TaskInvariant] at task
      have progress := lt_of_lt_of_le config.commitEvery_pos (task.2 idle)
      rw [idle] at count
      obtain ⟨chosen, fixed, here, ahead⟩ := count.exists_target inv.passed.reached progress
      obtain ⟨rfl, rfl⟩ : target = chosen ∧ covered = w.stream.tracker.sinceCommit := by
        simpa [fixed, eq_comm] using due
      have begun : w.stream.step config .commitBegin =
          some { w.stream with commit := .saving target w.stream.tracker.sinceCommit } := by
        simp [StreamWorld.step, idle, due]
      refine ⟨inv.watermark.step begun, inv.passed.congr rfl rfl rfl rfl rfl,
        count.begin inv.passed.reached here ahead, ?_⟩
      simp only [committing, TaskInvariant]
      exact ⟨task.1, by simp⟩
    next before committing idle missing =>
      simp only [committing, TaskInvariant] at task
      have progress := lt_of_lt_of_le config.commitEvery_pos (task.2 idle)
      obtain ⟨_, fixed, _⟩ := count.exists_target inv.passed.reached progress
      exact absurd (missing.symm.trans fixed) (by simp)
    · cases taken
  case saveReturned =>
    split at taken
    next before target covered committing saving =>
      cases taken
      simp only [committing, TaskInvariant] at task
      rw [saving] at count
      have saved : w.stream.step config .saveReturned = some { w.stream with
            commit := .saved target covered
            store := some target
            saves := w.stream.saves ++ [target] } := by
        simp [StreamWorld.step, saving]
      refine ⟨inv.watermark.step saved, inv.passed.congr rfl rfl rfl rfl rfl,
        ⟨count.counted, rfl, count.running.2⟩, ?_⟩
      simp only [committing, TaskInvariant]
      exact ⟨task.1, by simp⟩
    · cases taken
  case commitEnd now =>
    split at taken
    next before target covered committing saved =>
      cases taken
      simp only [committing, TaskInvariant] at task
      rw [saved] at count
      have ended : w.stream.step config (.commitEnd now) = some { w.stream with
            commit := .idle
            tracker := w.stream.tracker.commitSaved target covered now } := by
        simp [StreamWorld.step, saved]
      refine ⟨inv.watermark.step ended, inv.passed.congr rfl rfl rfl rfl rfl, count.finish, rfl, ?_⟩
      intro same
      have fixed : w.stream.tracker.committed = some target := task.1.symm.trans same.symm
      have ahead := count.running.2.ahead
      simp [beyond, fixed] at ahead
    · cases taken
  case commitAgain now =>
    split at taken
    next before checking =>
      cases taken
      simp only [checking, TaskInvariant] at task
      refine ⟨inv.watermark, inv.passed, count, ?_⟩
      split
      next stops =>
        have missed := fun due => (stops.resolve_left task.2) ((commitDue_iff unset).mpr due)
        exact ⟨task.1, not_le.mp missed⟩
      next again =>
        have due := not_not.mp (not_or.mp again).2
        exact ⟨task.1, (commitDue_iff unset).mp due⟩
    · cases taken
  case taskDone =>
    split at taken
    next returned =>
      split at taken
      · cases taken
      next idle =>
        cases taken
        simp only [returned, TaskInvariant] at task
        refine ⟨inv.watermark, inv.passed, count, task.1, ?_, fun _ => task.2⟩
        intro due
        exact absurd due idle
    · cases taken

theorem replayInvariant_init (config : StreamConsumerConfig) (stored : Option Nat) (now : ℚ) :
    ReplayInvariant config (init config stored now) := by
  refine ⟨watermarkInvariant_init config stored now,
    passedInvariant_init rfl rfl rfl, ⟨rfl, rfl⟩, rfl, ?_, ?_⟩
  · intro due
    cases due
  · intro _
    exact config.commitEvery_pos

/-- What a crash replays: fewer than `commitEvery` of the deliveries the watermark
has passed, and those the watermark was not allowed to pass. -/
structure ReplayBounded (config : StreamConsumerConfig) (w : CommitTaskWorld) : Prop where
  stored : w.stream.store = w.stream.tracker.committed
  settled : ∀ offset ∈ w.passed, ∃ d ∈ w.stream.settled, d.offset = offset
  distinct : w.passed.Nodup
  bounded : (w.passed.filter (beyond w.stream.tracker.committed)).length < config.commitEvery
  others : ∀ d ∈ w.stream.settled, d.offset ∈ w.passed ∨
    d.generation < w.stream.tracker.generation ∨
    ∃ earlier < d.offset, w.stream.tracker.pending.get? earlier = some false

theorem exists_unsettled_before {t : StreamOffsetTracker} {offset : Nat} (ordered : t.Ordered)
    (stops : ∀ entry, t.pending.entries.head? = some entry → entry.2 = false)
    (marked : t.pending.get? offset = some true) :
    ∃ earlier < offset, t.pending.get? earlier = some false := by
  have listed := mem_entries_of_get? marked
  have ascending := ordered.ascending
  unfold OrderedDict.keys at ascending
  cases entries : t.pending.entries with
  | nil => simp [entries] at listed
  | cons first rest =>
    have unsettled : first.2 = false := stops first (by simp [entries])
    have found : t.pending.get? first.1 = some first.2 := get?_of_mem_entries (by simp [entries])
    rw [entries, map_cons, pairwise_cons] at ascending
    rw [entries] at listed
    rcases mem_cons.mp listed with here | later
    · rw [← here] at unsettled
      cases unsettled
    · exact ⟨first.1, ascending.1 offset (mem_map_of_mem later), unsettled ▸ found⟩

theorem ReplayInvariant.bounded (inv : ReplayInvariant config w) (quiet : w.Quiescent) :
    ReplayBounded config w := by
  have task := inv.task
  have count := inv.count
  simp only [quiet.1, quiet.2, TaskInvariant] at task
  rw [task.1] at count
  refine ⟨count.running, inv.passed.settled, ?_, ?_, ?_⟩
  · exact inv.passed.ascending.imp ne_of_lt
  · rw [count.counted]
    exact task.2.2 trivial
  · intro d member
    have bound := inv.watermark.hooks.generations d (inv.passed.hooked d member)
    rcases Nat.lt_or_eq_of_le bound with past | current
    · exact .inr (.inl past)
    · refine (inv.passed.placed d member current).imp_right fun marked => .inr ?_
      exact exists_unsettled_before inv.watermark.hooks.ordered inv.passed.stops marked

/-- In every quiescent state of a run in which each settlement that makes a commit
due is noticed, fewer than `commitEvery` of the passed deliveries lie beyond the
committed offset; every other settled delivery waits behind an unsettled one or
came from an earlier subscription. -/
theorem quiescent_replay_bounded {stored : Option Nat} {now : ℚ}
    {actions : List CommitTaskAction} (unset : config.commitInterval = none)
    (run : RunWithin (step config) (fun w action => w.noticed config action = true)
      (init config stored now) actions w) (quiet : w.Quiescent) : ReplayBounded config w := by
  have inv := run.invariant (fun held noticed taken => held.step unset noticed taken)
    (replayInvariant_init config stored now)
  exact inv.bounded quiet

/-- Three deliveries settled out of order with `commitEvery` two; the third is
settled while the first two are being saved. -/
theorem quiescent_replay_bounded_two :
    ∃ w, RunWithin (step { commitEvery := 2, commitInterval := none })
        (fun w action => w.noticed { commitEvery := 2, commitInterval := none } action = true)
        (init { commitEvery := 2, commitInterval := none } (some 9) 0)
        [.arrive .consume, .arrive (.deliver 1 10), .arrive (.deliver 2 11),
          .arrive (.deliver 3 12), .settle ⟨1, 11, 0⟩ false 0, .settle ⟨1, 10, 0⟩ false 0,
          .commitSoon, .readCommitted, .commitBegin, .settle ⟨1, 12, 0⟩ true 0, .commitSoon,
          .saveReturned, .commitEnd 0, .commitAgain 0, .taskDone] w ∧
      ReplayBounded { commitEvery := 2, commitInterval := none } w ∧
      w.passed = [10, 11, 12] ∧ w.stream.store = some 11 := by
  refine exists_runWithin_of_check
    (fun w => decide (w.Quiescent ∧ w.passed = [10, 11, 12] ∧ w.stream.store = some 11)) (by decide)
    fun w run checked => ?_
  simp only [decide_eq_true_eq] at checked
  exact ⟨quiescent_replay_bounded rfl run checked.1, checked.2⟩

/-- With `commitEvery` one a delivery settled before an earlier one lies beyond the
committed offset in a quiescent state.  So does one that is settled after the
thread has decided to stop and before its task has ended: the request for the
commit finds the task running. -/
theorem settled_beyond_committed_when_quiescent :
    (∃ w, Run (step { commitEvery := 1, commitInterval := none })
        (init { commitEvery := 1, commitInterval := none } (some 9) 0)
        [.arrive .consume, .arrive (.deliver 1 10), .arrive (.deliver 2 11),
          .settle ⟨1, 11, 0⟩ false 0] w ∧ w.Quiescent ∧
      1 ≤ (w.stream.settled.filter fun d => beyond w.stream.tracker.committed d.offset).length) ∧
    ∃ w, Run (step { commitEvery := 1, commitInterval := none })
        (init { commitEvery := 1, commitInterval := none } (some 9) 0)
        [.arrive .consume, .arrive (.deliver 1 10), .arrive (.deliver 2 11),
          .settle ⟨1, 10, 0⟩ false 0, .commitSoon, .readCommitted, .commitBegin, .saveReturned,
          .commitEnd 0, .commitAgain 0, .settle ⟨1, 11, 0⟩ false 0, .commitSoon, .taskDone] w ∧
      w.Quiescent ∧
      1 ≤ (w.stream.settled.filter fun d => beyond w.stream.tracker.committed d.offset).length := by
  constructor
  · exact exists_runWithin_of_decide (by decide)
  · exact exists_runWithin_of_decide (by decide)

end CommitTaskWorld
end RabbitKit
