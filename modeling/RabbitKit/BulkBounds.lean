import RabbitKit.BulkAccounting

/-! # What a bulk publish says of its items, and what it holds

An item that the runner made up itself belongs to an index without a publish, and a
confirmed item to a publish that returned a confirmation.  The semaphore and the byte
budget are accounted for by the tasks: whatever is taken is held by a task that has
not finished or by the generator on its way to creating one.
-/

namespace RabbitKit

open LabelledRun PublishPreparer BulkRun List Option Nat

/-- The item is the runner's own, for an index of which the publish function knows
nothing, or follows from how the publish ended. -/
structure Honest (invoked : List Nat) (endings : List (Nat × PublishEnding))
    (itemOf : Nat → PublishEnding → BulkPublishItem → Prop) (item : BulkPublishItem) : Prop where
  unsent : item.status = .notSent ∨ item.status = .invalid → item.index ∉ invoked ∨
    ∃ ending, (item.index, ending) ∈ endings ∧ itemOf item.index ending item
  confirmed : item.status = .confirmed →
    ∃ outcome, (item.index, .returned outcome) ∈ endings ∧ outcome.status = .confirmed

section Honesty

variable {invoked invoked' : List Nat} {endings endings' : List (Nat × PublishEnding)}
  {itemOf : Nat → PublishEnding → BulkPublishItem → Prop} {item : BulkPublishItem} {index : Nat}

theorem Honest.mono (honest : Honest invoked endings itemOf item)
    (fewer : item.index ∉ invoked → item.index ∉ invoked')
    (more : ∀ known ∈ endings, known ∈ endings') : Honest invoked' endings' itemOf item := by
  refine ⟨fun status => ?_, fun status => ?_⟩
  · refine (honest.unsent status).imp fewer ?_
    rintro ⟨ending, known, same⟩
    exact ⟨ending, more _ known, same⟩
  · obtain ⟨outcome, known, confirmed⟩ := honest.confirmed status
    exact ⟨outcome, more _ known, confirmed⟩

theorem honest_of_uninvoked (fresh : item.index ∉ invoked) (status : item.status ≠ .confirmed) :
    Honest invoked endings itemOf item :=
  ⟨fun _ => .inl fresh, fun confirmed => absurd confirmed status⟩

theorem honest_of_unknown (status : item.status = .unknown) :
    Honest invoked endings itemOf item := by
  refine ⟨fun other => ?_, fun other => ?_⟩
  · rw [status] at other
    exact absurd other (by simp)
  · rw [status] at other
    cases other

end Honesty

namespace SyncBulkRun

variable {options : BulkPublishOptions} {preparer : PublishPreparer} {run run' : SyncBulkRun}
  {action : SyncBulkAction}

def inFlight (run : SyncBulkRun) : List Nat :=
  match run.phase with
  | .publishing bytes => [bytes]
  | _ => []

def ItemOf (index : Nat) (ending : PublishEnding) (item : BulkPublishItem) : Prop :=
  ending.syncItem index = some item

variable {item : BulkPublishItem}

theorem honest_syncItem {invoked : List Nat} {endings : List (Nat × PublishEnding)} {index : Nat}
    {ending : PublishEnding} (known : (index, ending) ∈ endings)
    (answered : ending.syncItem index = some item) : Honest invoked endings ItemOf item := by
  have own : item.index = index := by
    cases ending <;> cases answered <;> rfl
  refine ⟨fun _ => .inr ⟨ending, own ▸ known, own ▸ answered⟩, fun confirmed => ?_⟩
  cases ending with
  | returned outcome =>
    cases answered
    obtain ⟨returned, same, status⟩ := fromOutcome_confirmed confirmed
    cases same
    exact ⟨outcome, known, status⟩
  | returnedOther =>
    cases answered
    cases confirmed
  | raised failure =>
    cases answered
    exact absurd confirmed (fromException_ne_confirmed index failure none)
  | cancelled | fatal => cases answered

/-- Where the generator stands between the indices it knows and the next one. -/
structure Candid (preparer : PublishPreparer) (run : SyncBulkRun) : Prop where
  honest : ∀ item ∈ run.reported, Honest run.invoked run.endings ItemOf item
  passed : ∀ item ∈ run.reported, item.index < run.index + (match run.phase with
    | .yielding _ | .ended _ => 1
    | _ => 0)
  invoked : ∀ index ∈ run.invoked, index < run.index + (match run.phase with
    | .pulling => 0
    | _ => 1)
  admitted : ∀ bytes, run.phase = .publishing bytes → bytes ≤ preparer.maxBufferBytes

section

variable (inv : Candid preparer run)
include inv

theorem Candid.report
    (honest : Honest run.invoked run.endings ItemOf item) (own : item.index = run.index) :
    Candid preparer (run.report item) := by
  refine ⟨?_, ?_, ?_, by simp [SyncBulkRun.report]⟩
  · intro other member
    rcases mem_append.mp member with old | new
    · exact inv.honest other old
    · obtain rfl : other = item := by simpa using new
      exact honest
  · intro other member
    change other.index < run.index + 1
    rcases mem_append.mp member with old | new
    · have below := inv.passed other old
      split at below <;> omega
    · obtain rfl : other = item := by simpa using new
      omega
  · intro index member
    have below := inv.invoked index member
    change index < run.index + 1
    split at below <;> omega

theorem Candid.uninvoked (pulling : run.phase = .pulling) :
    run.index ∉ run.invoked := fun member => by
  have below := inv.invoked _ member
  simp [pulling] at below

theorem Candid.count : Candid preparer { run with consumed := run.consumed + 1 } :=
  ⟨inv.honest, inv.passed, inv.invoked, inv.admitted⟩

theorem Candid.remember (ending : PublishEnding) :
    Candid preparer { run with endings := run.endings ++ [(run.index, ending)] } :=
  ⟨fun item member => (inv.honest item member).mono id fun _ known => mem_append_left _ known,
    inv.passed, inv.invoked, inv.admitted⟩

theorem Candid.publish (pulling : run.phase = .pulling) {bytes : Nat}
    (admitted : bytes ≤ preparer.maxBufferBytes) :
    Candid preparer { run with
      consumed := run.consumed + 1
      phase := .publishing bytes
      invoked := run.invoked ++ [run.index] } := by
  refine ⟨?_, by simpa [pulling] using inv.passed, ?_, ?_⟩
  · intro item member
    have below : item.index < run.index := by
      simpa [pulling] using inv.passed item member
    refine (inv.honest item member).mono (fun absent => ?_) fun _ => id
    simpa using ⟨absent, Nat.ne_of_lt below⟩
  · intro index member
    change index < run.index + 1
    rcases mem_append.mp member with old | new
    · have below := inv.invoked index old
      simp only [pulling] at below
      omega
    · have same : index = run.index := by simpa using new
      omega
  · intro other same
    cases same
    exact admitted

theorem Candid.finish (how : BulkEnd) : Candid preparer { run with phase := .ended how } := by
  refine ⟨inv.honest, fun item member => ?_, fun index member => ?_, by simp⟩
  · have below := inv.passed item member
    change item.index < run.index + 1
    split at below <;> omega
  · have below := inv.invoked index member
    change index < run.index + 1
    split at below <;> omega

theorem Candid.step
    (taken : step options preparer run action = some run') : Candid preparer run' := by
  cases transition_of_step taken with
  | refused pulling refused =>
    obtain ⟨own, status⟩ := prepare_error refused
    exact inv.count.report
      (honest_of_uninvoked (own ▸ inv.uninvoked pulling) (by simp [status])) own
  | late pulling =>
    exact inv.count.report
      (honest_of_uninvoked (inv.uninvoked pulling) (by simp [notSentItem])) rfl
  | publish pulling prepared => exact inv.publish pulling (prepare_ok prepared)
  | inputEnded => exact inv.finish .returned
  | inputRaised => exact inv.finish .raised
  | @answered ending bytes item _ answered =>
    refine (inv.remember ending).report
      (honest_syncItem (mem_append_right _ mem_cons_self) answered) ?_
    cases ending <;> cases answered <;> rfl
  | passedThrough => exact (inv.remember _).finish .fatal
  | resumed yielding | abandoned yielding =>
    exact ⟨inv.honest, by simpa [yielding] using inv.passed,
      by simpa [yielding] using inv.invoked, by simp⟩

end

end SyncBulkRun

namespace BulkRun

variable {options : BulkPublishOptions} {preparer : PublishPreparer} {run run' : BulkRun}
  {action : BulkAction}

def ItemOf (index : Nat) (ending : PublishEnding) (item : BulkPublishItem) : Prop :=
  ∃ cancelling, ending.asyncItem index cancelling = some item

variable {item : BulkPublishItem} {ending : PublishEnding} {cancelling : Bool}

theorem honest_asyncItem {invoked : List Nat} {endings : List (Nat × PublishEnding)} {index : Nat}
    (known : (index, ending) ∈ endings) (answered : ending.asyncItem index cancelling = some item) :
    Honest invoked endings ItemOf item := by
  have own : item.index = index := asyncItem_index answered
  refine ⟨fun _ => .inr ⟨ending, own ▸ known, cancelling, own ▸ answered⟩, fun confirmed => ?_⟩
  cases ending with
  | returned outcome =>
    cases answered
    obtain ⟨returned, same, status⟩ := fromOutcome_confirmed confirmed
    cases same
    exact ⟨outcome, known, status⟩
  | returnedOther =>
    cases answered
    cases confirmed
  | raised failure =>
    cases answered
    exact absurd confirmed (fromException_ne_confirmed index failure _)
  | cancelled =>
    cases cancelling <;> cases answered
    exact absurd confirmed (fromException_ne_confirmed index cancelledFailure none)
  | fatal => cases answered

def known (run : BulkRun) : List BulkPublishItem :=
  run.reported ++ run.doneQueue ++
    match run.phase with
    | .abandoning _ _ items => items
    | _ => []

/-- Indices below this one are dealt with: the current one too while its own item is
being yielded, and when it will not be taken up any more. -/
def bound (run : BulkRun) : Nat :=
  match run.phase with
  | .yielding _ .count | .ended _ => run.index + 1
  | _ => run.index

structure Candid (run : BulkRun) : Prop where
  invoked : ∀ index ∈ run.invoked, ∃ task ∈ run.tasks, task.index = index
  tasksBelow : ∀ task ∈ run.tasks, task.index < run.index
  honest : ∀ item ∈ run.known, Honest (run.tasks.map (·.index)) run.endings ItemOf item
  below : ∀ item ∈ run.known, item.index < run.bound

theorem index_le_bound (run : BulkRun) : run.index ≤ run.bound := by
  unfold bound
  split <;> omega

/-- The generator moves: no task changes its index, and every item is an old one or a
new honest one. -/
theorem Candid.advance (inv : run.Candid) (tasks : run'.tasks.map (·.index) = run.tasks.map
    (·.index)) (invoked : run'.invoked = run.invoked) (endings : run'.endings = run.endings)
    (index : run.index ≤ run'.index) (bound : run.bound ≤ run'.bound)
    (items : ∀ item ∈ run'.known, item ∈ run.known ∨
      (Honest (run.tasks.map (·.index)) run.endings ItemOf item ∧ item.index < run'.bound)) :
    run'.Candid := by
  have moved : ∀ task ∈ run'.tasks, ∃ before ∈ run.tasks, before.index = task.index := by
    intro task member
    have listed : task.index ∈ run.tasks.map (·.index) := tasks ▸ mem_map_of_mem member
    exact mem_map.mp listed
  refine ⟨?_, ?_, ?_, ?_⟩
  · rw [invoked]
    intro known member
    obtain ⟨task, old, rfl⟩ := inv.invoked known member
    have listed : task.index ∈ run'.tasks.map (·.index) := tasks ▸ mem_map_of_mem old
    exact mem_map.mp listed
  · intro task member
    obtain ⟨before, old, same⟩ := moved task member
    exact same ▸ lt_of_lt_of_le (inv.tasksBelow before old) index
  · rw [tasks, endings]
    intro item member
    exact (items item member).elim (inv.honest item) (·.1)
  · intro item member
    exact (items item member).elim (fun old => lt_of_lt_of_le (inv.below item old) bound) (·.2)

variable {items : List BulkPublishItem} {next : BulkNext}

theorem mem_known_report (member : item ∈ (run.report items next).known) :
    item ∈ run.reported ∨ item ∈ items ∨ item ∈ run.doneQueue := by
  simp only [known, report, recordFresh, append_nil, mem_append] at member
  rcases member with (old | new) | queued
  · exact .inl old
  · exact .inr (.inl (mem_of_mem_fresh _ new))
  · exact .inr (.inr queued)

theorem mem_known_of_reported (member : item ∈ run.reported) : item ∈ run.known :=
  mem_append_left _ (mem_append_left _ member)

theorem mem_known_of_queued (member : item ∈ run.doneQueue) : item ∈ run.known :=
  mem_append_left _ (mem_append_right _ member)

section

variable (inv : run.Candid)
include inv

theorem Candid.quiet (tasks : run'.tasks = run.tasks)
    (invoked : run'.invoked = run.invoked) (endings : run'.endings = run.endings)
    (index : run.index ≤ run'.index) (bound : run.bound ≤ run'.bound)
    (reported : run'.reported = run.reported) (queue : run'.doneQueue = run.doneQueue)
    (collects : ∀ cause rest items, run'.phase ≠ .abandoning cause rest items) : run'.Candid := by
  refine inv.advance (congrArg (map _) tasks) invoked endings index bound
    fun item member => .inl ?_
  unfold known at member
  rw [reported, queue] at member
  split at member
  next abandoning =>
    exact absurd abandoning (collects _ _ _)
  · rw [append_nil] at member
    exact (mem_append.mp member).elim mem_known_of_reported mem_known_of_queued

theorem Candid.own (own : item.index = run.index) (status : item.status ≠ .confirmed) :
    Honest (run.tasks.map (·.index)) run.endings ItemOf item := by
  refine honest_of_uninvoked (fun listed => ?_) status
  obtain ⟨task, member, same⟩ := mem_map.mp listed
  have below := inv.tasksBelow task member
  omega

theorem Candid.reportOwn {queue : List BulkPublishItem}
    (own : item.index = run.index) (status : item.status ≠ .confirmed)
    (queued : ∀ other ∈ queue, other ∈ run.doneQueue)
    (tasks : run'.tasks = run.tasks) (invoked : run'.invoked = run.invoked)
    (endings : run'.endings = run.endings) (index : run'.index = run.index)
    (reported : run'.reported = run.reported)
    (remaining : ∀ other ∈ run'.doneQueue, other ∈ run.doneQueue)
    (settled : run.bound = run.index) : (run'.report (item :: queue) .count).Candid := by
  have after : (run'.report (item :: queue) .count).bound = run.index + 1 := by
    simp [bound, report, recordFresh, index]
  refine inv.advance (congrArg (map _) tasks) invoked endings (le_of_eq index.symm)
    (by omega) fun other member => ?_
  rcases mem_known_report member with old | new | queue
  · exact .inl (mem_known_of_reported (reported ▸ old))
  · rcases mem_cons.mp new with rfl | listed
    · exact .inr ⟨inv.own own status, by omega⟩
    · exact .inl (mem_known_of_queued (queued other listed))
  · exact .inl (mem_known_of_queued (remaining other queue))

omit inv in
theorem missingItems_status (member : item ∈ run.missingItems) : item.status = .unknown := by
  obtain ⟨task, _, rfl⟩ := mem_map.mp member
  rfl

omit inv in
theorem missingItems_index (member : item ∈ run.missingItems) :
    ∃ task ∈ run.tasks, task.index = item.index := by
  obtain ⟨task, kept, rfl⟩ := mem_map.mp member
  exact ⟨task, (mem_filter.mp kept).1, rfl⟩

theorem Candid.unsure (status : item.status = .unknown)
    (tasked : ∃ task ∈ run.tasks, task.index = item.index) :
    Honest (run.tasks.map (·.index)) run.endings ItemOf item ∧ item.index < run.index := by
  obtain ⟨task, member, same⟩ := tasked
  exact ⟨honest_of_unknown status, same ▸ inv.tasksBelow task member⟩

section

variable (settled : run.bound = run.index)
include settled

theorem Candid.reportKnown (goesOn : next ≠ .count) (given : ∀ item ∈ items, item ∈ run.known ∨
      (item.status = .unknown ∧ ∃ task ∈ run.tasks, task.index = item.index)) :
    (run.drained.report items next).Candid := by
  have after : (run.drained.report items next).bound = run.index := by
    cases next <;> first | exact absurd rfl goesOn | rfl
  refine inv.advance rfl rfl rfl le_rfl (by omega) fun item member => ?_
  rcases mem_known_report member with old | new | queued
  · exact .inl (mem_known_of_reported old)
  · refine (given item new).imp_right fun unsure => ?_
    rw [after]
    exact inv.unsure unsure.1 unsure.2
  · cases queued

theorem Candid.drainPhase : run.drainPhase.Candid := by
  unfold BulkRun.drainPhase
  split
  · exact inv.reportKnown settled (by simp) fun item member => .inl (mem_known_of_queued member)
  · exact inv.quiet rfl rfl rfl le_rfl (le_of_eq settled) rfl rfl (by simp)

theorem Candid.reportFinal : run.reportFinal.Candid := by
  refine inv.reportKnown settled (by simp) fun item member => ?_
  rcases mem_append.mp member with queued | missing
  · exact .inl (mem_known_of_queued queued)
  · exact .inr ⟨missingItems_status missing, missingItems_index missing⟩

end

omit inv in
theorem map_cancel_index (tasks : List PublishTask) :
    (tasks.map (·.cancel)).map (·.index) = tasks.map (·.index) := by
  rw [List.map_map]
  exact List.map_congr_left fun task _ => cancel_index task

theorem Candid.startAbandon (cause : AbandonCause)
    (settled : run.bound = run.index) : (run.startAbandon cause).Candid := by
  refine inv.advance (map_cancel_index run.tasks) rfl rfl le_rfl (le_of_eq settled)
    fun item member => ?_
  simp only [known, BulkRun.startAbandon, append_nil, mem_append] at member
  exact .inl (member.elim mem_known_of_reported mem_known_of_queued)

end

variable {position : Nat} {cause : AbandonCause}

theorem abandonedItem_spec (collected : item ∈ (run.abandonedItem cause position).toList) :
    item.status = .unknown ∧ ∃ task ∈ run.tasks, task.index = item.index := by
  obtain ⟨task, found, rfl⟩ := map_eq_some_iff.mp (mem_toList.mp collected)
  have here := (filter_eq_some_iff.mp found).1
  exact ⟨rfl, task, mem_of_getElem? here, rfl⟩

theorem Candid.collect (inv : run.Candid) {rest : List Nat}
    (abandoning : run.phase = .abandoning cause (position :: rest) items) :
    (run.collect cause position rest items).Candid := by
  have settled : run.bound = run.index := by simp [bound, abandoning]
  refine inv.advance rfl rfl rfl le_rfl (le_of_eq settled) fun item member => ?_
  simp only [known, BulkRun.collect, mem_append] at member
  rcases member with (old | queued) | old | new
  · exact .inl (mem_known_of_reported old)
  · exact .inl (mem_known_of_queued queued)
  · exact .inl (by simp [known, abandoning, old])
  · exact .inr (inv.unsure (abandonedItem_spec new).1 (abandonedItem_spec new).2)

theorem Candid.endCancelled (inv : run.Candid)
    (abandoning : run.phase = .abandoning .cancelled [] items) :
    (run.endCancelled items).Candid := by
  have settled : run.bound = run.index := by simp [bound, abandoning]
  have later : run.bound ≤ (run.endCancelled items).bound :=
    settled.trans_le (le_succ run.index)
  refine inv.advance rfl rfl rfl le_rfl later fun item member => ?_
  simp only [known, BulkRun.endCancelled, recordFresh, drained, append_nil,
    mem_append] at member
  rcases member with (old | new) | missing
  · exact .inl (mem_known_of_reported old)
  · rcases mem_append.mp (mem_of_mem_fresh _ new) with queued | collected
    · exact .inl (mem_known_of_queued queued)
    · exact .inl (by simp [known, abandoning, collected])
  · have missed := mem_of_mem_fresh _ missing
    have tasked := missingItems_index missed
    have unsure := inv.unsure (missingItems_status missed) tasked
    exact .inr ⟨unsure.1, lt_succ_of_lt unsure.2⟩

theorem Candid.createTask (inv : run.Candid) {bytes : Nat} (waiting : run.phase = .budget bytes) :
    (run.createTask bytes).Candid := by
  have settled : run.bound = run.index := by simp [bound, waiting]
  have old : ∀ item ∈ (run.createTask bytes).known, item ∈ run.known := by
    intro item member
    rcases mem_known_report member with old | new | queued
    · exact mem_known_of_reported old
    · exact mem_known_of_queued new
    · cases queued
  refine ⟨?_, ?_, ?_, ?_⟩
  · intro index member
    obtain ⟨task, listed, same⟩ := inv.invoked index member
    exact ⟨task, mem_append_left _ listed, same⟩
  · intro task member
    rcases mem_append.mp member with listed | new
    · exact lt_succ_of_lt (inv.tasksBelow task listed)
    · obtain rfl : task = { index := run.index, bytes := bytes } := by simpa using new
      exact lt_succ_self _
  · intro item member
    have below := inv.below item (old item member)
    refine (inv.honest item (old item member)).mono (fun absent => ?_) fun _ => id
    change item.index ∉ map PublishTask.index (run.tasks ++ [_])
    rw [map_append, mem_append]
    rintro (known | new)
    · exact absent known
    · have same : item.index = run.index := by simpa using new
      omega
  · intro item member
    have below := inv.below item (old item member)
    change item.index < run.index + 1
    omega

variable {task moved : PublishTask}

theorem map_index_set {tasks : List PublishTask}
    (found : tasks[position]? = some task) (same : moved.index = task.index) :
    (tasks.set position moved).map (·.index) = tasks.map (·.index) := by
  have inBounds := (List.getElem?_eq_some_iff.mp found).1
  apply List.ext_getElem?
  intro place
  rw [getElem?_map, getElem?_map]
  by_cases here : position = place
  · subst here
    simp [getElem?_set_self inBounds, found, same]
  · rw [getElem?_set_ne here]

section

variable (inv : run.Candid)
include inv

theorem Candid.moveTask
    (found : run.tasks[position]? = some task) (same : moved.index = task.index) :
    ({ run with tasks := run.tasks.set position moved } : BulkRun).Candid :=
  inv.advance (map_index_set found same) rfl rfl le_rfl le_rfl fun _ => .inl

theorem Candid.invoke {task : PublishTask} (member : task ∈ run.tasks) :
    ({ run with invoked := run.invoked ++ [task.index] } : BulkRun).Candid := by
  refine ⟨?_, inv.tasksBelow, inv.honest, inv.below⟩
  intro known listed
  rcases mem_append.mp listed with old | new
  · exact inv.invoked known old
  · exact ⟨task, member, (mem_singleton.mp new).symm⟩

theorem Candid.finishTask {position index bytes : Nat}
    (found : run.tasks[position]? = some ⟨index, bytes, .publishing, cancelling⟩) :
    (run.finishTask position ⟨index, bytes, .publishing, cancelling⟩ ending).Candid := by
  have below := inv.tasksBelow _ (mem_of_getElem? found)
  have ended : ({ run with endings := run.endings ++ [(index, ending)] } : BulkRun).Candid :=
    ⟨inv.invoked, inv.tasksBelow, fun item member => (inv.honest item member).mono id
      fun _ known => mem_append_left _ known, inv.below⟩
  have indexed : (run.tasks.set position
      ⟨index, bytes, .finished (ending.asyncItem index cancelling).isSome, cancelling⟩).map
        (·.index) = run.tasks.map (·.index) := map_index_set found rfl
  refine ended.advance indexed rfl rfl le_rfl le_rfl fun item member => ?_
  simp only [known, BulkRun.finishTask, mem_append] at member
  rcases member with (old | queued | new) | collected
  · exact .inl (mem_known_of_reported old)
  · exact .inl (mem_known_of_queued queued)
  · have answered : ending.asyncItem index cancelling = some item := by simpa using new
    have own : item.index = index := asyncItem_index answered
    refine .inr ⟨honest_asyncItem (mem_append_right _ mem_cons_self) answered, ?_⟩
    rw [own]
    exact lt_of_lt_of_le below (index_le_bound run)
  · exact .inl (mem_append_right _ collected)

theorem Candid.continueAt
    (exhausted : run.phase = .yielding [] next) : (run.continueAt next).Candid := by
  cases next with
  | count =>
    exact inv.quiet rfl rfl rfl (le_succ _) (by simp [bound, exhausted, continueAt])
      rfl rfl (by simp [continueAt])
  | pull | finish =>
    exact inv.quiet rfl rfl rfl le_rfl (by simp [bound, exhausted, continueAt])
      rfl rfl (by simp [continueAt])
  | check =>
    have settled : run.bound = run.index := by simp [bound, exhausted]
    simp only [continueAt]
    split
    · exact inv.reportFinal settled
    · exact inv.startAbandon .deadline settled
  | final => exact inv.reportFinal (by simp [bound, exhausted])

omit inv in
theorem bound_of_interruptible (suspended : run.interruptible = true) : run.bound = run.index := by
  unfold interruptible at suspended
  split at suspended
  case h_5 => cases suspended
  all_goals
    rename_i phase
    simp [bound, phase]

theorem Candid.step (taken : step options preparer run action = some run') : run'.Candid := by
  cases transition_of_step taken with
  | refused pulling refused =>
    obtain ⟨own, status⟩ := prepare_error refused
    exact inv.reportOwn own (by simp [status]) (fun _ => id) rfl rfl rfl rfl rfl
      (fun _ none => by cases none) (by simp [bound, pulling])
  | late pulling =>
    exact inv.reportOwn rfl (by simp [notSentItem]) (by simp) rfl rfl rfl rfl rfl (fun _ => id)
      (by simp [bound, pulling])
  | pulled pulling =>
    exact inv.quiet rfl rfl rfl le_rfl (by simp [bound, pulling]) rfl rfl (by simp)
  | inputEnded pulling => exact inv.drainPhase (by simp [bound, pulling])
  | inputRaised pulling =>
    exact drainPhase ⟨inv.invoked, inv.tasksBelow, inv.honest, inv.below⟩
      (by simp [bound, pulling])
  | inputCancelled pulling => exact inv.startAbandon .cancelled (by simp [bound, pulling])
  | inputFatal pulling =>
    exact inv.quiet rfl rfl rfl le_rfl (by simp [bound, pulling]) rfl rfl (by simp)
  | slotAcquired waiting _ =>
    exact inv.quiet rfl rfl rfl le_rfl (by simp [bound, waiting]) rfl rfl (by simp)
  | slotTimeout waiting | budgetTimeout waiting =>
    exact inv.reportOwn rfl (by simp [timeoutItem, notSentItem]) (fun _ => id) rfl rfl rfl rfl
      rfl (fun _ none => by cases none) (by simp [bound, waiting])
  | budgetAcquired waiting _ => exact inv.createTask waiting
  | @resumed item rest next yielding | @abandoned item rest next yielding =>
    refine inv.quiet rfl rfl rfl le_rfl ?_ rfl rfl (by simp)
    cases next <;> simp [bound, yielding]
  | continued exhausted => exact inv.continueAt exhausted
  | cancelled suspended _ => exact inv.startAbandon .cancelled (bound_of_interruptible suspended)
  | swallowed abandoning => exact inv.collect abandoning
  | waitReturned waiting _ =>
    exact inv.reportKnown (by simp [bound, waiting]) (by simp) fun item member =>
      .inl (mem_known_of_queued member)
  | awaited abandoning _ => exact inv.collect abandoning
  | gaveUp abandoning =>
    refine inv.reportKnown (by simp [bound, abandoning]) (by simp) fun item member => ?_
    rcases mem_append.mp member with queued | collected
    · exact .inl (mem_known_of_queued queued)
    · exact .inl (by simp [known, abandoning, collected])
  | endedCancelled abandoning => exact inv.endCancelled abandoning
  | started found =>
    have called := inv.invoke (mem_of_getElem? found)
    exact called.moveTask found rfl
  | dropped found => exact inv.moveTask found rfl
  | finished found => exact inv.finishTask found

end

end BulkRun
end RabbitKit
