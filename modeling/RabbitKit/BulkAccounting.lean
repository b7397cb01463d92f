import RabbitKit.BulkRunner

/-! # Every input of a bulk publish is reported once

`_fresh` lets each index pass once, and what nobody reported is found again in the
list of admitted publishes before the generator ends.  Both guarantees need the
generator to get that far: at a yield where it is abandoned, nothing is left to
report only if every admitted publish has already been reported.
-/

namespace RabbitKit

open LabelledRun PublishTask List Nat

def indices (items : List BulkPublishItem) : List Nat := items.map (·.index)

@[simp]
theorem indices_nil : indices [] = [] := rfl

@[simp]
theorem indices_cons (item : BulkPublishItem) (items : List BulkPublishItem) :
    indices (item :: items) = item.index :: indices items := rfl

@[simp]
theorem indices_append (first second : List BulkPublishItem) :
    indices (first ++ second) = indices first ++ indices second :=
  map_append

section Fresh

variable {reported items : List BulkPublishItem} {index : Nat}

theorem mem_of_mem_fresh {item : BulkPublishItem} {items : List BulkPublishItem}
    (reported : List BulkPublishItem) (member : item ∈ fresh reported items) : item ∈ items := by
  induction items generalizing reported with
  | nil => cases member
  | cons first rest ih =>
    rw [fresh] at member
    split at member
    · exact mem_cons_of_mem _ (ih reported member)
    · rcases mem_cons.mp member with rfl | later
      · exact mem_cons_self
      · exact mem_cons_of_mem _ (ih _ later)

theorem mem_reported_fresh (member : index ∈ indices items) :
    index ∈ indices (reported ++ fresh reported items) := by
  induction items generalizing reported with
  | nil => cases member
  | cons item rest ih =>
    rw [fresh]
    rcases List.mem_cons.mp member with rfl | later
    · split
      next known =>
        rw [indices_append]
        exact List.mem_append_left _ known
      · simp
    · split
      · exact ih later
      · have found : index ∈ indices (reported ++ [item] ++ fresh (reported ++ [item]) rest) :=
          ih later
        simpa [or_assoc] using found

theorem nodup_reported_fresh (distinct : (indices reported).Nodup) :
    (indices (reported ++ fresh reported items)).Nodup := by
  induction items generalizing reported with
  | nil => simpa [fresh] using distinct
  | cons item rest ih =>
    rw [fresh]
    split
    · exact ih distinct
    next unknown =>
      have extended : (indices (reported ++ [item])).Nodup := by
        rw [indices_append]
        exact distinct.append (by simp) (by simpa [indices] using unknown)
      have rested := ih extended
      rwa [append_assoc, singleton_append] at rested

end Fresh

namespace SyncBulkRun

variable {options : BulkPublishOptions} {preparer : PublishPreparer} {run run' : SyncBulkRun}
  {action : SyncBulkAction}

/-- The publish function raises nothing but `Exception`s. -/
def ordinary : SyncBulkAction → Bool
  | .published .cancelled | .published .fatal => false
  | _ => true

def Accounted (run : SyncBulkRun) : Prop :=
  match run.phase with
  | .pulling => indices run.reported = List.range run.index ∧ run.yielded = run.reported ∧
      run.consumed = run.index
  | .publishing _ => indices run.reported = List.range run.index ∧ run.yielded = run.reported ∧
      run.consumed = run.index + 1
  | .yielding item => indices run.reported = List.range (run.index + 1) ∧
      run.yielded ++ [item] = run.reported ∧ run.consumed = run.index + 1
  | .ended _ => indices run.reported = List.range run.consumed ∧ run.yielded = run.reported

theorem accounted_report (run : SyncBulkRun) (known : indices run.reported = range run.index)
    (handed : run.yielded = run.reported) (consumed : run.consumed = run.index + 1)
    {item : BulkPublishItem} (own : item.index = run.index) : (run.report item).Accounted := by
  refine ⟨?_, ?_, consumed⟩
  · simp [report, known, own, range_succ]
  · exact congrArg (· ++ [item]) handed

theorem Accounted.step (inv : run.Accounted) (admitted : ordinary action = true)
    (taken : step options preparer run action = some run') : run'.Accounted := by
  unfold Accounted at inv
  cases transition_of_step taken with
  | refused pulling refused =>
    rw [pulling] at inv
    exact accounted_report { run with consumed := run.consumed + 1 } inv.1 inv.2.1
      (congrArg (· + 1) inv.2.2) (PublishPreparer.prepare_error refused).1
  | late pulling =>
    rw [pulling] at inv
    exact accounted_report { run with consumed := run.consumed + 1 } inv.1 inv.2.1
      (congrArg (· + 1) inv.2.2) rfl
  | publish pulling _ =>
    rw [pulling] at inv
    exact ⟨inv.1, inv.2.1, congrArg (· + 1) inv.2.2⟩
  | inputEnded pulling | inputRaised pulling =>
    rw [pulling] at inv
    exact ⟨inv.2.2 ▸ inv.1, inv.2.1⟩
  | @answered ending bytes item publishing answered =>
    rw [publishing] at inv
    refine accounted_report { run with endings := run.endings ++ [(run.index, ending)] }
      inv.1 inv.2.1 inv.2.2 ?_
    cases ending <;> cases answered <;> rfl
  | @passedThrough ending bytes publishing silent =>
    cases ending <;> simp [ordinary] at admitted <;> cases silent
  | resumed yielding =>
    rw [yielding] at inv
    exact inv
  | abandoned yielding =>
    rw [yielding] at inv
    exact ⟨inv.2.2 ▸ inv.1, inv.2.1⟩

/-- No index is handed out or reported twice, and when the run ends all inputs that
were consumed have been. -/
structure ReportedOnce (run : SyncBulkRun) : Prop where
  yieldedOnce : (indices run.yielded).Nodup
  reportedOnce : (indices run.reported).Nodup
  complete : ∀ how, run.phase = .ended how →
    (∀ index, index ∈ indices run.yielded ↔ index < run.consumed) ∧
    ∀ index, index ∈ indices run.reported ↔ index < run.consumed

theorem Accounted.reportedOnce (inv : run.Accounted) : run.ReportedOnce := by
  have known : ∃ count, indices run.reported = range count := by
    unfold Accounted at inv
    split at inv <;> exact ⟨_, inv.1⟩
  have handed : run.yielded <+: run.reported := by
    unfold Accounted at inv
    split at inv
    · exact inv.2.1 ▸ prefix_rfl
    · exact inv.2.1 ▸ prefix_rfl
    · exact ⟨_, inv.2.1⟩
    · exact inv.2 ▸ prefix_rfl
  obtain ⟨count, known⟩ := known
  have distinct : (indices run.reported).Nodup := known ▸ nodup_range
  refine ⟨distinct.sublist (handed.sublist.map _), distinct, fun how ended => ?_⟩
  unfold Accounted at inv
  rw [ended] at inv
  obtain ⟨all, same⟩ := inv
  have complete : ∀ index, index ∈ indices run.reported ↔ index < run.consumed := by
    intro index
    rw [all, mem_range]
  exact ⟨same ▸ complete, complete⟩

end SyncBulkRun

namespace BulkRun

variable {options : BulkPublishOptions} {preparer : PublishPreparer} {run run' : BulkRun}
  {action : BulkAction}

def settledUp (run : BulkRun) : Bool :=
  run.tasks.all (·.stage = .finished true) && run.doneQueue.isEmpty

/-- The generator is abandoned, or left by a `BaseException` of the iterable, only
when nothing is left to report, and the iterable raises no `CancelledError` before
the last publish it admitted has started. -/
def orderly (run : BulkRun) : BulkAction → Bool
  | .abandoned | .inputFatal => run.settledUp
  | .inputCancelled => run.allStarted
  | _ => true

structure Ledger (reported queue : List BulkPublishItem) (tasks : List PublishTask)
    (index consumed : Nat) : Prop where
  distinct : (indices reported).Nodup
  below : ∀ known ∈ indices reported, known < consumed
  queueBelow : ∀ known ∈ indices queue, known < index
  tasksBelow : ∀ task ∈ tasks, task.index < index
  bound : index ≤ consumed
  covered : ∀ earlier < index, earlier ∈ indices reported ∨ ∃ task ∈ tasks, task.index = earlier
  queued : ∀ task ∈ tasks, task.stage = .finished true →
    task.index ∈ indices queue ∨ task.index ∈ indices reported
  kept : ∀ task ∈ tasks, task.stage ≠ .dropped ∧ (task.cancelling = true → task.stage ≠ .created)

section Ledgers

variable {reported queue items : List BulkPublishItem} {tasks : List PublishTask}
  {index consumed : Nat}

section

variable (ledger : Ledger reported queue tasks index consumed)
include ledger

theorem Ledger.fresh (bounded : ∀ known ∈ indices items, known < consumed) :
    Ledger (reported ++ fresh reported items) queue tasks index consumed := by
  refine ⟨nodup_reported_fresh ledger.distinct, ?_, ledger.queueBelow, ledger.tasksBelow,
    ledger.bound, ?_, ?_, ledger.kept⟩
  · intro known member
    rw [indices_append] at member
    rcases mem_append.mp member with old | new
    · exact ledger.below known old
    · exact bounded known (map_subset _ (fun _ => mem_of_mem_fresh reported) new)
  · intro earlier before
    rw [indices_append]
    exact (ledger.covered earlier before).imp_left (mem_append_left _)
  · intro task member stage
    rw [indices_append]
    exact (ledger.queued task member stage).imp_right (mem_append_left _)

theorem Ledger.drain (taken : ∀ known ∈ indices queue, known ∈ indices reported) :
    Ledger reported [] tasks index consumed := by
  refine ⟨ledger.distinct, ledger.below, by simp, ledger.tasksBelow, ledger.bound, ledger.covered,
    ?_, ledger.kept⟩
  intro task member stage
  exact .inr ((ledger.queued task member stage).elim (taken _) id)

theorem Ledger.drainFresh (taken : ∀ known ∈ indices queue, known ∈ indices items)
    (bounded : ∀ known ∈ indices items, known < consumed) :
    Ledger (reported ++ RabbitKit.fresh reported items) [] tasks index consumed :=
  (ledger.fresh bounded).drain fun known member => mem_reported_fresh (taken known member)

theorem Ledger.pull : Ledger reported queue tasks index (consumed + 1) := by
  refine ⟨ledger.distinct, ?_, ledger.queueBelow, ledger.tasksBelow, ?_, ledger.covered,
    ledger.queued, ledger.kept⟩
  · intro known member
    exact lt_succ_of_lt (ledger.below known member)
  · exact le_succ_of_le ledger.bound

theorem Ledger.below_succ : ∀ known ∈ indices queue, known < index + 1 := fun known member =>
  lt_succ_of_lt (ledger.queueBelow known member)

theorem Ledger.count
    (here : index ∈ indices reported) : Ledger reported queue tasks (index + 1) consumed := by
  refine ⟨ledger.distinct, ledger.below, ledger.below_succ, ?_, ledger.below index here, ?_,
    ledger.queued, ledger.kept⟩
  · intro task member
    exact lt_succ_of_lt (ledger.tasksBelow task member)
  · intro earlier before
    rcases Nat.lt_succ_iff_lt_or_eq.mp before with known | rfl
    · exact ledger.covered earlier known
    · exact .inl here

theorem Ledger.createTask (room : index + 1 ≤ consumed) (bytes : Nat) :
    Ledger reported queue (tasks ++ [{ index := index, bytes := bytes }]) (index + 1) consumed := by
  have added : ∀ task ∈ tasks ++ [({ index := index, bytes := bytes } : PublishTask)],
      task ∈ tasks ∨ task = { index := index, bytes := bytes } := by
    intro task member
    simpa using member
  refine ⟨ledger.distinct, ledger.below, ledger.below_succ, ?_, room, ?_, ?_, ?_⟩
  · intro task member
    rcases added task member with old | rfl
    · exact lt_succ_of_lt (ledger.tasksBelow task old)
    · exact lt_succ_self _
  · intro earlier before
    rcases Nat.lt_succ_iff_lt_or_eq.mp before with known | rfl
    · refine (ledger.covered earlier known).imp_right ?_
      rintro ⟨task, member, same⟩
      exact ⟨task, mem_append_left _ member, same⟩
    · exact .inr ⟨_, mem_append_right _ mem_cons_self, rfl⟩
  · intro task member stage
    rcases added task member with old | rfl
    · exact ledger.queued task old stage
    · cases stage
  · intro task member
    rcases added task member with old | rfl
    · exact ledger.kept task old
    · simp

/-- A task moves on; if it is finished with an item, the item is in the queue. -/
theorem Ledger.move {position : Nat}
    {task : PublishTask} {moved : PublishTask} {item : Option BulkPublishItem}
    (found : tasks[position]? = some task) (same : moved.index = task.index)
    (named : ∀ queued ∈ item, queued.index = task.index)
    (queued : moved.stage = .finished true → item.isSome)
    (kept : moved.stage ≠ .dropped ∧ (moved.cancelling = true → moved.stage ≠ .created)) :
    Ledger reported (queue ++ item.toList) (tasks.set position moved) index consumed := by
  have here := mem_of_getElem? found
  have below := ledger.tasksBelow task here
  have members : ∀ other ∈ tasks.set position moved, other = moved ∨ other ∈ tasks :=
    fun other member => (mem_or_eq_of_mem_set member).symm
  refine ⟨ledger.distinct, ledger.below, ?_, ?_, ledger.bound, ?_, ?_, ?_⟩
  · intro known member
    rw [indices_append] at member
    rcases mem_append.mp member with old | new
    · exact ledger.queueBelow known old
    · obtain ⟨queued, inside, rfl⟩ := mem_map.mp new
      rw [named queued (by simpa using inside)]
      exact below
  · intro other member
    rcases members other member with rfl | old
    · exact same ▸ below
    · exact ledger.tasksBelow other old
  · intro earlier before
    refine (ledger.covered earlier before).imp_right ?_
    rintro ⟨other, member, rfl⟩
    obtain ⟨place, located⟩ := mem_iff_getElem?.mp member
    rcases getElem?_moved moved found located with ⟨rfl, after⟩ | after
    · exact ⟨moved, mem_of_getElem? after, same⟩
    · exact ⟨other, mem_of_getElem? after, rfl⟩
  · intro other member stage
    rw [indices_append, mem_append]
    rcases members other member with rfl | old
    · obtain ⟨held, here⟩ := Option.isSome_iff_exists.mp (queued stage)
      exact .inl (.inr (by simp [here, indices, named, same]))
    · exact (ledger.queued other old stage).imp_left .inl
  · intro other member
    rcases members other member with rfl | old
    · exact kept
    · exact ledger.kept other old

end

theorem cancel_index (task : PublishTask) : task.cancel.index = task.index := by
  unfold cancel
  split <;> rfl

theorem cancel_stage (task : PublishTask) : task.cancel.stage = task.stage := by
  unfold cancel
  split <;> rfl

theorem Ledger.cancel (ledger : Ledger reported queue tasks index consumed)
    (started : ∀ task ∈ tasks, task.stage ≠ .created) :
    Ledger reported queue (tasks.map (·.cancel)) index consumed := by
  refine ⟨ledger.distinct, ledger.below, ledger.queueBelow, ?_, ledger.bound, ?_, ?_, ?_⟩
  · intro task member
    obtain ⟨before, old, rfl⟩ := mem_map.mp member
    rw [cancel_index]
    exact ledger.tasksBelow before old
  · intro earlier before
    refine (ledger.covered earlier before).imp_right ?_
    rintro ⟨task, member, rfl⟩
    exact ⟨task.cancel, mem_map_of_mem member, cancel_index task⟩
  · intro task member stage
    obtain ⟨before, old, rfl⟩ := mem_map.mp member
    rw [cancel_index]
    exact ledger.queued before old (cancel_stage before ▸ stage)
  · intro task member
    obtain ⟨before, old, rfl⟩ := mem_map.mp member
    rw [cancel_stage]
    exact ⟨(ledger.kept before old).1, fun _ => started before old⟩

end Ledgers

def AllStarted (run : BulkRun) : Prop := ∀ task ∈ run.tasks, task.started = true

def AllReported (run : BulkRun) : Prop := ∀ task ∈ run.tasks, task.index ∈ indices run.reported

def Positioned (run : BulkRun) : Prop :=
  match run.phase with
  | .pulling | .waiting => run.yielded = run.reported ∧ run.consumed = run.index
  | .slot _ | .budget _ => run.yielded = run.reported ∧ run.consumed = run.index + 1
  | .yielding rest .count => run.yielded ++ rest = run.reported ∧ run.consumed = run.index + 1 ∧
      run.index ∈ indices run.reported
  | .yielding rest .pull => run.yielded ++ rest = run.reported ∧ run.consumed = run.index
  | .yielding rest .check | .yielding rest .final => run.yielded ++ rest = run.reported ∧
      run.consumed = run.index ∧ run.AllStarted
  | .yielding rest .finish => run.yielded ++ rest = run.reported ∧ run.consumed = run.index ∧
      run.AllReported
  | .abandoning .deadline _ items => run.yielded = run.reported ∧ run.consumed = run.index ∧
      run.AllStarted ∧ ∀ known ∈ indices items, known < run.index
  | .abandoning .cancelled _ items => run.yielded = run.reported ∧ run.AllStarted ∧
      ∀ known ∈ indices items, known < run.index
  | .ended .cancelled | .ended .abandoned => run.yielded <+: run.reported ∧ run.AllReported
  | .ended _ => run.yielded = run.reported ∧ run.consumed = run.index ∧ run.AllReported

structure Accounted (run : BulkRun) : Prop where
  ledger : Ledger run.reported run.doneQueue run.tasks run.index run.consumed
  positioned : run.Positioned

theorem Positioned.congr (inv : run.Positioned) (phase : run'.phase = run.phase)
    (yielded : run'.yielded = run.yielded) (reported : run'.reported = run.reported)
    (consumed : run'.consumed = run.consumed) (index : run'.index = run.index)
    (started : run.AllStarted → run'.AllStarted) (all : run.AllReported → run'.AllReported) :
    run'.Positioned := by
  unfold Positioned at inv ⊢
  rw [phase, yielded, reported, consumed, index]
  split at inv
  · exact inv
  · exact inv
  · exact inv
  · exact inv
  · exact inv
  · exact inv
  · exact ⟨inv.1, inv.2.1, started inv.2.2⟩
  · exact ⟨inv.1, inv.2.1, started inv.2.2⟩
  · exact ⟨inv.1, inv.2.1, all inv.2.2⟩
  · exact ⟨inv.1, inv.2.1, started inv.2.2.1, inv.2.2.2⟩
  · exact ⟨inv.1, started inv.2.1, inv.2.2⟩
  · exact ⟨inv.1, all inv.2⟩
  · exact ⟨inv.1, all inv.2⟩
  · exact ⟨inv.1, inv.2.1, all inv.2.2⟩

theorem started_of_kept {task : PublishTask} (created : task.stage ≠ .created)
    (dropped : task.stage ≠ .dropped) : task.started = true := by
  unfold started
  cases stage : task.stage with
  | created => exact absurd stage created
  | dropped => exact absurd stage dropped
  | publishing | finished => rfl

theorem Accounted.moveTask (inv : run.Accounted) (moved : PublishTask)
    (item : Option BulkPublishItem) {position : Nat} {task : PublishTask}
    (found : run.tasks[position]? = some task)
    (same : moved.index = task.index) (named : ∀ queued ∈ item, queued.index = task.index)
    (queued : moved.stage = .finished true → item.isSome)
    (kept : moved.stage ≠ .dropped ∧ (moved.cancelling = true → moved.stage ≠ .created))
    (started : moved.started = true) (tasks : run'.tasks = run.tasks.set position moved)
    (queue : run'.doneQueue = run.doneQueue ++ item.toList) (phase : run'.phase = run.phase)
    (yielded : run'.yielded = run.yielded) (reported : run'.reported = run.reported)
    (consumed : run'.consumed = run.consumed) (index : run'.index = run.index) :
    run'.Accounted := by
  have members : ∀ other ∈ run'.tasks, other = moved ∨ other ∈ run.tasks := by
    rw [tasks]
    exact fun other member => (mem_or_eq_of_mem_set member).symm
  refine ⟨?_, inv.positioned.congr phase yielded reported consumed index ?_ ?_⟩
  · rw [tasks, queue, reported, consumed, index]
    exact inv.ledger.move found same named queued kept
  · intro all other member
    rcases members other member with rfl | old
    · exact started
    · exact all other old
  · intro all other member
    rw [reported]
    rcases members other member with rfl | old
    · exact same ▸ all task (mem_of_getElem? found)
    · exact all other old

theorem asyncItem_index {ending : PublishEnding} {index : Nat} {cancelling : Bool}
    {item : BulkPublishItem} (answered : item ∈ ending.asyncItem index cancelling) :
    item.index = index := by
  cases ending with
  | cancelled =>
    cases cancelling <;> cases answered
    rfl
  | fatal => cases answered
  | returned | returnedOther | raised =>
    cases answered
    rfl

theorem missingItems_below (run : BulkRun)
    (tasksBelow : ∀ task ∈ run.tasks, task.index < run.index) :
    ∀ known ∈ indices run.missingItems, known < run.index := by
  intro known missing
  obtain ⟨item, listed, rfl⟩ := mem_map.mp missing
  obtain ⟨task, kept, rfl⟩ := mem_map.mp listed
  exact tasksBelow task (mem_filter.mp kept).1

theorem mem_reported_missing {items : List BulkPublishItem} (started : run.AllStarted)
    (listed : ∀ known ∈ indices run.missingItems, known ∈ indices items) {task : PublishTask}
    (member : task ∈ run.tasks) :
    task.index ∈ indices (run.reported ++ fresh run.reported items) := by
  by_cases known : task.index ∈ indices run.reported
  · rw [indices_append]
    exact mem_append_left _ known
  · apply mem_reported_fresh
    apply listed
    refine mem_map.mpr ⟨fromOutcome task.index none, ?_, rfl⟩
    refine mem_map.mpr ⟨task, mem_filter.mpr ⟨member, ?_⟩, rfl⟩
    simpa [started task member, indices] using known

theorem Accounted.report (items : List BulkPublishItem) (next : BulkNext)
    (ledger : Ledger (run.reported ++ fresh run.reported items) run.doneQueue run.tasks run.index
      run.consumed) (handed : run.yielded = run.reported) (following : match next with
      | .count => run.consumed = run.index + 1 ∧ run.index ∈ indices items
      | .pull => run.consumed = run.index
      | .check | .final => run.consumed = run.index ∧ run.AllStarted
      | .finish => False) : (run.report items next).Accounted := by
  have handed : run.yielded ++ fresh run.reported items =
      run.reported ++ fresh run.reported items := congrArg (· ++ _) handed
  refine ⟨ledger, ?_⟩
  cases next with
  | count => exact ⟨handed, following.1, mem_reported_fresh following.2⟩
  | pull => exact ⟨handed, following⟩
  | check | final => exact ⟨handed, following⟩
  | finish => exact following.elim

section

variable (ledger : Ledger run.reported run.doneQueue run.tasks run.index run.consumed)
include ledger

theorem allReported_of_settledUp (settled : run.settledUp = true) : run.AllReported := by
  intro task member
  obtain ⟨ended, empty⟩ : (∀ task ∈ run.tasks, task.stage = .finished true) ∧
      run.doneQueue = [] := by
    simpa [settledUp] using settled
  have placed := ledger.queued task member (ended task member)
  rw [empty] at placed
  exact placed.resolve_left (by simp)

theorem allStarted_of_allDone (all : run.allDone = true) : run.AllStarted := by
  intro task member
  have ended : task.done = true := all_eq_true.mp all task member
  refine started_of_kept (fun created => ?_) (ledger.kept task member).1
  simp [done, created] at ended

variable (handed : run.yielded = run.reported)
include handed

theorem Accounted.reportFinal (consumed : run.consumed = run.index)
    (started : run.AllStarted) : run.reportFinal.Accounted := by
  have bounded : ∀ known ∈ indices (run.doneQueue ++ run.missingItems), known < run.consumed := by
    intro known member
    rw [indices_append, mem_append] at member
    have below := member.elim (ledger.queueBelow known)
      (missingItems_below run ledger.tasksBelow known)
    exact lt_of_lt_of_le below ledger.bound
  refine ⟨ledger.drainFresh (by simp +contextual) bounded, ?_, consumed, ?_⟩
  · exact congrArg (· ++ _) handed
  · intro task member
    exact mem_reported_missing started (by simp +contextual) member

theorem Accounted.startAbandon (cause : AbandonCause)
    (consumed : cause = .deadline → run.consumed = run.index)
    (started : ∀ task ∈ run.tasks, task.stage ≠ .created) : (run.startAbandon cause).Accounted := by
  have all : (run.startAbandon cause).AllStarted := by
    intro task member
    obtain ⟨before, old, rfl⟩ := mem_map.mp member
    apply started_of_kept
    · rw [cancel_stage]
      exact started before old
    · rw [cancel_stage]
      exact (ledger.kept before old).1
  refine ⟨ledger.cancel started, ?_⟩
  cases cause with
  | deadline => exact ⟨handed, consumed rfl, all, by simp⟩
  | cancelled => exact ⟨handed, all, by simp⟩

theorem Accounted.endCancelled {items : List BulkPublishItem} (started : run.AllStarted)
    (bounded : ∀ known ∈ indices items, known < run.index) :
    (run.endCancelled items).Accounted := by
  have inBound : ∀ known ∈ indices (run.doneQueue ++ items), known < run.consumed := by
    intro known member
    rw [indices_append, mem_append] at member
    exact lt_of_lt_of_le (member.elim (ledger.queueBelow known) (bounded known)) ledger.bound
  have first : Ledger (run.drained.recordFresh (run.doneQueue ++ items)).reported [] run.tasks
      run.index run.consumed := ledger.drainFresh (by simp +contextual) inBound
  refine ⟨first.fresh fun known member => ?_, ?_, fun task member => ?_⟩
  · have below := missingItems_below (run.drained.recordFresh (run.doneQueue ++ items))
      ledger.tasksBelow known member
    exact lt_of_lt_of_le below ledger.bound
  · change run.yielded <+: run.reported ++ fresh run.reported _ ++ _
    rw [handed, append_assoc]
    exact prefix_append _ _
  · have started : (run.drained.recordFresh (run.doneQueue ++ items)).AllStarted := started
    exact mem_reported_missing started (fun _ => id) member

theorem Accounted.drainPhase (consumed : run.consumed = run.index) : run.drainPhase.Accounted := by
  have bounded : ∀ known ∈ indices run.doneQueue, known < run.consumed := fun known member =>
    lt_of_lt_of_le (ledger.queueBelow known member) ledger.bound
  unfold BulkRun.drainPhase
  split
  next all =>
    have started := allStarted_of_allDone ledger all
    exact .report run.doneQueue .check (ledger.drainFresh (fun _ => id) bounded) handed
      ⟨consumed, started⟩
  · exact ⟨ledger, handed, consumed⟩

end

theorem Accounted.continueAt {next : BulkNext} (inv : run.Accounted)
    (exhausted : run.phase = .yielding [] next) : (run.continueAt next).Accounted := by
  have ledger := inv.ledger
  have positioned := inv.positioned
  unfold Positioned at positioned
  cases next <;> simp only [exhausted, append_nil] at positioned
  case count =>
    obtain ⟨handed, consumed, here⟩ := positioned
    exact ⟨ledger.count here, handed, consumed⟩
  case pull =>
    exact ⟨ledger, positioned⟩
  case check =>
    obtain ⟨handed, consumed, started⟩ := positioned
    simp only [BulkRun.continueAt]
    split
    · exact .reportFinal ledger handed consumed started
    · refine .startAbandon ledger handed .deadline (fun _ => consumed) fun task member here => ?_
      have live := started task member
      simp [PublishTask.started, here] at live
  case final =>
    exact .reportFinal ledger positioned.1 positioned.2.1 positioned.2.2
  case finish =>
    simp only [BulkRun.continueAt]
    cases run.inputError <;> exact ⟨ledger, positioned⟩

theorem stage_ne_created_of_allStarted (all : run.allStarted = true) :
    ∀ task ∈ run.tasks, task.stage ≠ .created := by
  simpa [allStarted] using all

theorem Accounted.collect (inv : run.Accounted) {cause : AbandonCause} {position : Nat}
    {rest : List Nat} {items : List BulkPublishItem}
    (abandoning : run.phase = .abandoning cause (position :: rest) items) :
    (run.collect cause position rest items).Accounted := by
  have positioned := inv.positioned
  unfold Positioned at positioned
  have named : ∀ known ∈ indices (run.abandonedItem cause position).toList, known < run.index := by
    intro known member
    obtain ⟨item, listed, rfl⟩ := mem_map.mp member
    obtain ⟨task, found, rfl⟩ := Option.map_eq_some_iff.mp (Option.mem_toList.mp listed)
    have here := (Option.filter_eq_some_iff.mp found).1
    exact inv.ledger.tasksBelow task (mem_of_getElem? here)
  refine ⟨inv.ledger, ?_⟩
  cases cause <;> simp only [abandoning] at positioned
  case deadline =>
    obtain ⟨handed, consumed, started, bounded⟩ := positioned
    refine ⟨handed, consumed, started, fun known member => ?_⟩
    rw [indices_append, mem_append] at member
    exact member.elim (bounded known) (named known)
  case cancelled =>
    obtain ⟨handed, started, bounded⟩ := positioned
    refine ⟨handed, started, fun known member => ?_⟩
    rw [indices_append, mem_append] at member
    exact member.elim (bounded known) (named known)

theorem accounted_reportOwn (run : BulkRun)
    (ledger : Ledger run.reported run.doneQueue run.tasks run.index run.consumed)
    (handed : run.yielded = run.reported) (consumed : run.consumed = run.index + 1)
    {item : BulkPublishItem} (own : item.index = run.index) :
    (run.drained.report (item :: run.doneQueue) .count).Accounted := by
  refine .report _ .count (ledger.drainFresh (by simp +contextual) fun known member => ?_)
    handed ⟨consumed, own ▸ mem_cons_self⟩
  rw [indices_cons] at member
  rcases mem_cons.mp member with here | queued
  · omega
  · have below := ledger.queueBelow known queued
    omega

theorem Positioned.handed (positioned : run.Positioned) (suspended : run.interruptible = true) :
    run.yielded = run.reported := by
  unfold Positioned at positioned
  unfold interruptible at suspended
  split at suspended
  case h_5 => cases suspended
  all_goals
    rename_i phase
    rw [phase] at positioned
    exact positioned.1

theorem Accounted.step (inv : run.Accounted) (admitted : run.orderly action = true)
    (taken : step options preparer run action = some run') : run'.Accounted := by
  have ledger := inv.ledger
  have positioned := inv.positioned
  unfold Positioned at positioned
  have bounded : ∀ known ∈ indices run.doneQueue, known < run.consumed := fun known member =>
    lt_of_lt_of_le (ledger.queueBelow known member) ledger.bound
  cases transition_of_step taken with
  | refused pulling refused =>
    rw [pulling] at positioned
    exact accounted_reportOwn { run with consumed := run.consumed + 1 } ledger.pull positioned.1
      (congrArg (· + 1) positioned.2) (PublishPreparer.prepare_error refused).1
  | late pulling =>
    rw [pulling] at positioned
    refine .report _ .count (ledger.pull.fresh fun known member => ?_) positioned.1
      ⟨congrArg (· + 1) positioned.2, mem_cons_self⟩
    have current : known = run.index := by simpa [notSentItem] using member
    exact current ▸ lt_succ_of_le ledger.bound
  | pulled pulling =>
    rw [pulling] at positioned
    exact ⟨ledger.pull, positioned.1, congrArg (· + 1) positioned.2⟩
  | inputEnded pulling | inputRaised pulling =>
    rw [pulling] at positioned
    exact .drainPhase ledger positioned.1 positioned.2
  | inputCancelled pulling =>
    rw [pulling] at positioned
    exact .startAbandon ledger positioned.1 .cancelled (by simp)
      (stage_ne_created_of_allStarted admitted)
  | inputFatal pulling =>
    rw [pulling] at positioned
    exact ⟨ledger, positioned.1, positioned.2, allReported_of_settledUp ledger admitted⟩
  | slotAcquired waiting _ =>
    rw [waiting] at positioned
    exact ⟨ledger, positioned⟩
  | slotTimeout waiting =>
    rw [waiting] at positioned
    exact accounted_reportOwn run ledger positioned.1 positioned.2 rfl
  | @budgetAcquired bytes waiting _ =>
    rw [waiting] at positioned
    have created := (ledger.drainFresh (fun _ => id) bounded).createTask
      (le_of_eq positioned.2.symm) bytes
    exact .report _ .pull created positioned.1 positioned.2
  | budgetTimeout waiting =>
    rw [waiting] at positioned
    exact accounted_reportOwn { run with slots := run.slots + 1 } ledger positioned.1
      positioned.2 rfl
  | @resumed item rest next yielding =>
    refine ⟨ledger, ?_⟩
    cases next <;> simp only [yielding] at positioned <;>
      simpa [Positioned, AllStarted, AllReported] using positioned
  | continued exhausted => exact inv.continueAt exhausted
  | @abandoned item rest next yielding =>
    refine ⟨ledger, ?_, allReported_of_settledUp ledger admitted⟩
    have handed : run.yielded ++ item :: rest = run.reported := by
      cases next <;> simp only [yielding] at positioned <;> exact positioned.1
    exact ⟨rest, by simpa using handed⟩
  | cancelled suspended started =>
    exact .startAbandon ledger (inv.positioned.handed suspended) .cancelled (by simp)
      (stage_ne_created_of_allStarted started)
  | swallowed abandoning => exact inv.collect abandoning
  | waitReturned waiting started =>
    rw [waiting] at positioned
    have live : run.AllStarted := fun task member =>
      started_of_kept (stage_ne_created_of_allStarted started task member)
        (ledger.kept task member).1
    exact .report _ .check (ledger.drainFresh (fun _ => id) bounded) positioned.1
      ⟨positioned.2, live⟩
  | awaited abandoning _ => exact inv.collect abandoning
  | gaveUp abandoning =>
    simp only [abandoning] at positioned
    obtain ⟨handed, consumed, started, below⟩ := positioned
    refine .report _ .final (ledger.drainFresh (by simp +contextual) fun known member => ?_)
      handed ⟨consumed, started⟩
    rw [indices_append, mem_append] at member
    exact member.elim (bounded known) fun here => lt_of_lt_of_le (below known here) ledger.bound
  | endedCancelled abandoning =>
    simp only [abandoning] at positioned
    exact .endCancelled ledger positioned.1 positioned.2.1 positioned.2.2
  | @started position index bytes found =>
    exact inv.moveTask ⟨index, bytes, .publishing, false⟩ none found rfl (by simp) (by simp)
      (by simp) rfl rfl (by simp) rfl rfl rfl rfl rfl
  | dropped found =>
    -- only tasks that have started are cancelled
    have kept := ledger.kept _ (mem_of_getElem? found)
    simp at kept
  | @finished position index bytes cancelling ending found =>
    exact inv.moveTask
      ⟨index, bytes, .finished (ending.asyncItem index cancelling).isSome, cancelling⟩
      (ending.asyncItem index cancelling) found rfl
      (fun queued answered => asyncItem_index answered) (by simp) (by simp) rfl rfl rfl rfl rfl
      rfl rfl rfl

/-- No index is handed out or reported twice; a run that ends without having been
cancelled or abandoned has handed out exactly the inputs it consumed, and however a
run ends every admitted index has been reported. -/
structure ReportedOnce (run : BulkRun) : Prop where
  yieldedOnce : (indices run.yielded).Nodup
  reportedOnce : (indices run.reported).Nodup
  complete : ∀ how, run.phase = .ended how → how ≠ .cancelled → how ≠ .abandoned →
    ∀ index, index ∈ indices run.yielded ↔ index < run.consumed
  admitted : ∀ how, run.phase = .ended how →
    ∀ task ∈ run.tasks, task.index ∈ indices run.reported

theorem Positioned.yielded_prefix (positioned : run.Positioned) : run.yielded <+: run.reported := by
  unfold Positioned at positioned
  split at positioned
  case h_5 | h_6 | h_7 | h_8 | h_9 => exact ⟨_, positioned.1⟩
  case h_12 | h_13 => exact positioned.1
  all_goals exact positioned.1 ▸ prefix_rfl

theorem Accounted.reportedOnce (inv : run.Accounted) : run.ReportedOnce := by
  have distinct := inv.ledger.distinct
  refine ⟨distinct.sublist (inv.positioned.yielded_prefix.sublist.map _), distinct, ?_, ?_⟩
  · intro how ended notCancelled notAbandoned index
    have positioned := inv.positioned
    unfold Positioned at positioned
    obtain ⟨handed, consumed, all⟩ : run.yielded = run.reported ∧ run.consumed = run.index ∧
        run.AllReported := by
      cases how with
      | cancelled => exact absurd rfl notCancelled
      | abandoned => exact absurd rfl notAbandoned
      | returned | raised | fatal => simpa only [ended] using positioned
    rw [handed]
    refine ⟨inv.ledger.below index, fun before => ?_⟩
    rcases inv.ledger.covered index (consumed ▸ before) with known | ⟨task, member, rfl⟩
    · exact known
    · exact all task member
  · intro how ended
    have positioned := inv.positioned
    unfold Positioned at positioned
    cases how <;> simp only [ended] at positioned
    case cancelled | abandoned =>
      exact positioned.2
    case returned | raised | fatal =>
      exact positioned.2.2

theorem accounted_init (options : BulkPublishOptions) : (init options).Accounted := by
  refine ⟨⟨?_, ?_, ?_, ?_, ?_, ?_, ?_, ?_⟩, rfl, rfl⟩ <;> simp [init]

end BulkRun

/-- Both runners report every input exactly once, as long as no `BaseException` of a
publish passes through the sync generator and the async one is left at a yield, or by
its iterable, only when nothing is left to report. -/
theorem bulk_reports_once (options : BulkPublishOptions) (preparer : PublishPreparer) :
    (∀ actions run,
      RunWithin (BulkRun.step options preparer) (fun run action => run.orderly action = true)
        (.init options) actions run → run.ReportedOnce) ∧ ∀ actions run,
      RunWithin (SyncBulkRun.step options preparer)
        (fun _ action => SyncBulkRun.ordinary action = true) {} actions run → run.ReportedOnce := by
  constructor
  · intro actions run taken
    have inv := taken.invariant (fun held admitted next => held.step admitted next)
      (BulkRun.accounted_init options)
    exact inv.reportedOnce
  · intro actions run taken
    have start : ({} : SyncBulkRun).Accounted := ⟨rfl, rfl, rfl⟩
    have inv := taken.invariant (fun held admitted next => held.step admitted next) start
    exact inv.reportedOnce

/-- One message is confirmed and one is cancelled while its publish runs; the sync
runner confirms one message and finds one input invalid. -/
theorem bulk_reports_once_cancelled :
    (∃ run, RunWithin (BulkRun.step {} ⟨0, 100⟩) (fun run action => run.orderly action = true)
        (.init {})
        [.pulled (.envelope 5 []) false, .slotAcquired, .budgetAcquired, .continued, .started 0,
          .finished 0 (.returned ⟨.confirmed, none, none⟩), .pulled (.envelope 7 []) false,
          .slotAcquired, .budgetAcquired, .resumed, .continued, .started 1, .cancelled,
          .finished 1 .cancelled, .awaited, .abandonedAll] run ∧
      run.ReportedOnce ∧ run.phase = .ended .cancelled ∧ indices run.reported = [0, 1]) ∧
    ∃ run, RunWithin (SyncBulkRun.step {} ⟨0, 100⟩)
        (fun _ action => SyncBulkRun.ordinary action = true) {}
        [.pulled (.envelope 5 []) false, .published (.returned ⟨.confirmed, none, none⟩), .resumed,
          .pulled .other false, .resumed, .inputEnded] run ∧
      run.ReportedOnce ∧ run.phase = .ended .returned ∧ indices run.yielded = [0, 1] := by
  constructor
  · refine exists_runWithin_of_check
      (fun run => decide (run.phase = .ended .cancelled ∧ indices run.reported = [0, 1]))
      (by decide) fun run taken checked => ?_
    exact ⟨(bulk_reports_once {} ⟨0, 100⟩).1 _ run taken, of_decide_eq_true checked⟩
  · refine exists_runWithin_of_check
      (fun run => decide (run.phase = .ended .returned ∧ indices run.yielded = [0, 1]))
      (by decide) fun run taken checked => ?_
    exact ⟨(bulk_reports_once {} ⟨0, 100⟩).2 _ run taken, of_decide_eq_true checked⟩

/-- The consumer abandons the generator at the item of an invalid input while the
publish of the first input is running: index 0 is admitted and never reported. -/
theorem abandoned_before_report : ∃ run, Run (BulkRun.step {} ⟨0, 100⟩) (.init {})
        [.pulled (.envelope 5 []) false, .slotAcquired, .budgetAcquired, .continued, .started 0,
          .pulled .other false, .abandoned, .finished 0 (.returned ⟨.confirmed, none, none⟩)] run ∧
      run.phase = .ended .abandoned ∧ run.tasks.map (·.index) = [0] ∧
      indices run.reported = [1] :=
  exists_runWithin_of_decide (by decide)

end RabbitKit
