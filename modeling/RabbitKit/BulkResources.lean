import RabbitKit.BulkBounds

/-! # The slots and bytes of a bulk publish

What the semaphore and the byte budget have given out is held by tasks that have not
finished, so the bounds hold at every moment.  Everything is given back by the end of
a run in which the generator waits for the publishes it leaves behind.
-/

namespace RabbitKit

open LabelledRun PublishTask BulkRun List Option Nat

namespace PublishTask

/-- The slots a task holds: `finally` gives its slot back. -/
def slotsHeld (task : PublishTask) : Nat :=
  match task.stage with
  | .finished _ => 0
  | _ => 1

def bytesHeld (task : PublishTask) : Nat :=
  match task.stage with
  | .finished _ => 0
  | _ => task.bytes

theorem slotsHeld_cancel (task : PublishTask) : task.cancel.slotsHeld = task.slotsHeld := by
  unfold slotsHeld
  rw [cancel_stage]

theorem bytesHeld_cancel (task : PublishTask) : task.cancel.bytesHeld = task.bytesHeld := by
  have bytes : task.cancel.bytes = task.bytes := by
    unfold cancel
    split <;> rfl
  unfold bytesHeld
  rw [cancel_stage, bytes]

end PublishTask

namespace BulkRun

variable {options : BulkPublishOptions} {preparer : PublishPreparer} {run run' : BulkRun}
  {action : BulkAction}

theorem weigh_map_cancel {weight : PublishTask → Nat} (tasks : List PublishTask)
    (same : ∀ task : PublishTask, weight task.cancel = weight task) :
    weigh weight (tasks.map (·.cancel)) = weigh weight tasks := by
  induction tasks with
  | nil => rfl
  | cons first rest ih =>
    change weight first.cancel + weigh weight (rest.map (·.cancel)) = _
    rw [same, ih]
    rfl

def slotInHand (phase : BulkPhase) : Nat :=
  match phase with
  | .budget _ => 1
  | _ => 0

structure WithinBounds (options : BulkPublishOptions) (run : BulkRun) : Prop where
  slots : run.slots + weigh slotsHeld run.tasks + slotInHand run.phase ≤
    options.maxInFlight
  used : run.used = weigh bytesHeld run.tasks
  limit : run.used ≤ options.maxBufferBytes

section

variable (inv : WithinBounds options run)
include inv

theorem WithinBounds.quiet (slots : run'.slots = run.slots) (used : run'.used = run.used)
    (slotsHeld : weigh slotsHeld run'.tasks = weigh slotsHeld run.tasks)
    (bytesHeld : weigh bytesHeld run'.tasks = weigh bytesHeld run.tasks)
    (inHand : slotInHand run'.phase ≤ slotInHand run.phase) : WithinBounds options run' := by
  refine ⟨?_, ?_, ?_⟩
  · have bound := inv.slots
    omega
  · rw [used, bytesHeld]
    exact inv.used
  · rw [used]
    exact inv.limit

theorem WithinBounds.startAbandon (cause : AbandonCause) :
    WithinBounds options (run.startAbandon cause) :=
  inv.quiet rfl rfl (weigh_map_cancel _ slotsHeld_cancel)
    (weigh_map_cancel _ bytesHeld_cancel) (zero_le _)

theorem WithinBounds.moveTask (moved : PublishTask)
    {position : Nat} {task : PublishTask} (found : run.tasks[position]? = some task)
    (slots : moved.slotsHeld = task.slotsHeld) (bytes : moved.bytesHeld = task.bytesHeld)
    (invoked : List Nat) : WithinBounds options
      { run with tasks := run.tasks.set position moved, invoked := invoked } := by
  have slotsHeld := weigh_set slotsHeld moved found
  have bytesHeld := weigh_set bytesHeld moved found
  rw [slots] at slotsHeld
  rw [bytes] at bytesHeld
  exact inv.quiet rfl rfl (Nat.add_right_cancel slotsHeld) (Nat.add_right_cancel bytesHeld)
    le_rfl

theorem WithinBounds.finishTask {position index bytes : Nat}
    {cancelling : Bool} {ending : PublishEnding}
    (found : run.tasks[position]? = some ⟨index, bytes, .publishing, cancelling⟩) :
    WithinBounds options
      (run.finishTask position ⟨index, bytes, .publishing, cancelling⟩ ending) := by
  have slots := weigh_set slotsHeld
    ⟨index, bytes, .finished (ending.asyncItem index cancelling).isSome, cancelling⟩ found
  have held := weigh_set bytesHeld
    ⟨index, bytes, .finished (ending.asyncItem index cancelling).isSome, cancelling⟩ found
  simp only [slotsHeld, bytesHeld] at slots held
  have bound := inv.slots
  have used := inv.used
  have limit := inv.limit
  refine ⟨?_, ?_, ?_⟩
  · simp only [BulkRun.finishTask]
    omega
  · simp only [BulkRun.finishTask]
    omega
  · change run.used - bytes ≤ _
    omega

theorem WithinBounds.step
    (taken : step options preparer run action = some run') : WithinBounds options run' := by
  have bound := inv.slots
  cases transition_of_step taken with
  | refused | late | pulled | inputFatal | slotTimeout | resumed | abandoned | swallowed |
      waitReturned | awaited | gaveUp | endedCancelled =>
      exact inv.quiet rfl rfl rfl rfl (zero_le _)
  | inputEnded | inputRaised =>
    unfold drainPhase
    split <;> exact inv.quiet rfl rfl rfl rfl (zero_le _)
  | inputCancelled | cancelled => exact inv.startAbandon .cancelled
  | slotAcquired waiting available =>
    simp only [waiting, available, slotInHand] at bound
    refine ⟨?_, inv.used, inv.limit⟩
    simp only [slotInHand]
    omega
  | budgetAcquired waiting fits =>
    simp only [waiting, slotInHand] at bound
    refine ⟨?_, ?_, fits⟩
    · simp only [createTask, report, recordFresh, weigh_append, weigh, slotsHeld, slotInHand]
      omega
    · simp only [createTask, report, recordFresh, weigh_append, weigh, bytesHeld, inv.used]
      omega
  | budgetTimeout waiting =>
    simp only [waiting, slotInHand] at bound
    refine ⟨?_, inv.used, inv.limit⟩
    simp only [report, recordFresh, drained, slotInHand]
    omega
  | @continued next exhausted =>
    cases next with
    | count | pull | finish | final => exact inv.quiet rfl rfl rfl rfl (zero_le _)
    | check =>
      simp only [continueAt]
      split
      · exact inv.quiet rfl rfl rfl rfl (zero_le _)
      · exact inv.startAbandon .deadline
  | @started position index bytes found =>
    exact inv.moveTask ⟨index, bytes, .publishing, false⟩ found rfl rfl _
  | @dropped position index bytes found =>
    exact inv.moveTask ⟨index, bytes, .dropped, true⟩ found rfl rfl _
  | finished found => exact inv.finishTask found

end

/-- The generator is not left while a publish is unfinished, and is not cancelled
again while it waits for the publishes it has cancelled. -/
def unhurried (run : BulkRun) : BulkAction → Bool
  | .abandoned | .inputFatal => run.allDone
  | .inputCancelled => run.allStarted
  | .cancelled =>
    match run.phase with
    | .abandoning _ _ _ => false
    | _ => true
  | _ => true

structure Releasing (run : BulkRun) : Prop where
  kept : ∀ task ∈ run.tasks, task.stage ≠ .dropped ∧
    (task.cancelling = true → task.stage ≠ .created)
  standing : match run.phase with
    | .yielding _ .check => ∀ task ∈ run.tasks, task.stage ≠ .created
    | .yielding _ .final | .yielding _ .finish | .ended _ => ∀ task ∈ run.tasks, task.done = true
    | .abandoning _ rest _ => (∀ task ∈ run.tasks, task.stage ≠ .created) ∧
        ∀ position task, run.tasks[position]? = some task → task.done = false → position ∈ rest
    | _ => True

theorem done_cancel (task : PublishTask) : task.cancel.done = task.done := by
  unfold done
  rw [cancel_stage]

theorem Releasing.startAbandon (inv : run.Releasing) (cause : AbandonCause)
    (started : ∀ task ∈ run.tasks, task.stage ≠ .created) : (run.startAbandon cause).Releasing := by
  refine ⟨?_, ?_, ?_⟩
  · intro task member
    obtain ⟨before, old, rfl⟩ := mem_map.mp member
    rw [cancel_stage]
    exact ⟨(inv.kept before old).1, fun _ => started before old⟩
  · intro task member
    obtain ⟨before, old, rfl⟩ := mem_map.mp member
    rw [cancel_stage]
    exact started before old
  · intro position task located running
    have located : (run.tasks.map (·.cancel))[position]? = some task := located
    rw [getElem?_map] at located
    obtain ⟨before, here, rfl⟩ := map_eq_some_iff.mp located
    rw [done_cancel] at running
    have inBounds := (List.getElem?_eq_some_iff.mp here).1
    refine List.mem_filter.mpr ⟨List.mem_range.mpr inBounds, ?_⟩
    rw [here, any_some, running]
    rfl

theorem done_of_nothing_left
    (waited : ∀ position task, run.tasks[position]? = some task → task.done = false →
      position ∈ ([] : List Nat)) : ∀ task ∈ run.tasks, task.done = true := by
  intro task member
  obtain ⟨position, here⟩ := mem_iff_getElem?.mp member
  by_contra running
  exact not_mem_nil (waited position task here (by simpa using running))

section

variable (inv : run.Releasing)
include inv

theorem Releasing.collect {cause : AbandonCause} {position : Nat}
    {rest : List Nat} {items collected : List BulkPublishItem}
    (abandoning : run.phase = .abandoning cause (position :: rest) items)
    (ended : run.tasks[position]?.any (·.done) = true) :
    ({ run with phase := .abandoning cause rest collected } : BulkRun).Releasing := by
  have standing := inv.standing
  rw [abandoning] at standing
  refine ⟨inv.kept, standing.1, fun other task located running => ?_⟩
  rcases mem_cons.mp (standing.2 other task located running) with rfl | later
  · rw [located, any_some, running] at ended
    cases ended
  · exact later

theorem Releasing.moveTask (moved : PublishTask) {position : Nat}
    {task : PublishTask} (found : run.tasks[position]? = some task) (running : task.done = false)
    (kept : moved.stage ≠ .dropped ∧ (moved.cancelling = true → moved.stage ≠ .created))
    (started : moved.stage ≠ .created) (tasks : run'.tasks = run.tasks.set position moved)
    (phase : run'.phase = run.phase) : run'.Releasing := by
  have members : ∀ other ∈ run'.tasks, other = moved ∨ other ∈ run.tasks := by
    rw [tasks]
    exact fun other member => (mem_or_eq_of_mem_set member).symm
  have live : (∀ other ∈ run.tasks, other.done = true) → ∀ other ∈ run'.tasks, other.done = true :=
    fun all => absurd (all task (mem_of_getElem? found)) (by simp [running])
  have begun : (∀ other ∈ run.tasks, other.stage ≠ .created) →
      ∀ other ∈ run'.tasks, other.stage ≠ .created := by
    intro all other member
    rcases members other member with rfl | old
    · exact started
    · exact all other old
  have standing := inv.standing
  refine ⟨?_, ?_⟩
  · intro other member
    rcases members other member with rfl | old
    · exact kept
    · exact inv.kept other old
  · rw [phase]
    split at standing
    · exact begun standing
    · exact live standing
    · exact live standing
    · exact live standing
    · refine ⟨begun standing.1, fun other present located unfinished => ?_⟩
      rw [tasks] at located
      rcases getElem?_of_moved found located with ⟨rfl, rfl⟩ | ⟨_, old⟩
      · exact standing.2 position task found running
      · exact standing.2 other present old unfinished
    · trivial

theorem Releasing.drainPhase : run.drainPhase.Releasing := by
  unfold BulkRun.drainPhase
  split
  next all =>
    refine ⟨inv.kept, fun task member created => ?_⟩
    have ended : task.done = true := all_eq_true.mp all task member
    simp [done, created] at ended
  · exact ⟨inv.kept, trivial⟩

theorem Releasing.continueAt {next : BulkNext}
    (exhausted : run.phase = .yielding [] next) : (run.continueAt next).Releasing := by
  have standing := inv.standing
  rw [exhausted] at standing
  cases next with
  | count | pull => exact ⟨inv.kept, trivial⟩
  | finish | final => exact ⟨inv.kept, standing⟩
  | check =>
    simp only [BulkRun.continueAt]
    split
    next all =>
      exact ⟨inv.kept, all_eq_true.mp all⟩
    · exact inv.startAbandon .deadline standing

theorem Releasing.createTask (bytes : Nat) : (run.createTask bytes).Releasing := by
  refine ⟨fun task member => ?_, trivial⟩
  rcases mem_append.mp member with old | new
  · exact inv.kept task old
  · rw [mem_singleton.mp new]
    simp

theorem Releasing.step (admitted : run.unhurried action = true)
    (taken : step options preparer run action = some run') : run'.Releasing := by
  have standing := inv.standing
  cases transition_of_step taken with
  | refused | late | pulled | slotAcquired | slotTimeout | budgetTimeout =>
    exact ⟨inv.kept, trivial⟩
  | inputEnded => exact inv.drainPhase
  | inputRaised => exact drainPhase ⟨inv.kept, inv.standing⟩
  | inputCancelled => exact inv.startAbandon .cancelled (stage_ne_created_of_allStarted admitted)
  | inputFatal | abandoned => exact ⟨inv.kept, all_eq_true.mp admitted⟩
  | budgetAcquired => exact inv.createTask _
  | @resumed item rest next yielding =>
    rw [yielding] at standing
    refine ⟨inv.kept, ?_⟩
    cases next <;> exact standing
  | continued exhausted => exact inv.continueAt exhausted
  | cancelled _ started =>
    exact inv.startAbandon .cancelled (stage_ne_created_of_allStarted started)
  | swallowed abandoning => simp [unhurried, abandoning] at admitted
  | waitReturned _ started => exact ⟨inv.kept, stage_ne_created_of_allStarted started⟩
  | awaited abandoning ended => exact inv.collect abandoning ended
  | gaveUp abandoning | endedCancelled abandoning =>
    rw [abandoning] at standing
    exact ⟨inv.kept, done_of_nothing_left standing.2⟩
  | @started position index bytes found =>
    exact inv.moveTask ⟨index, bytes, .publishing, false⟩ found rfl (by simp) (by simp) rfl rfl
  | dropped found =>
    have kept := inv.kept _ (mem_of_getElem? found)
    simp at kept
  | @finished position index bytes cancelling ending found =>
    exact inv.moveTask
      ⟨index, bytes, .finished (ending.asyncItem index cancelling).isSome, cancelling⟩ found rfl
      (by simp) (by simp) rfl rfl

end

structure HonestAndBounded (options : BulkPublishOptions) (run : BulkRun) : Prop where
  honest : ∀ item ∈ run.reported, Honest run.invoked run.endings ItemOf item
  inFlight : (run.tasks.filter (·.stage = .publishing)).length ≤ options.maxInFlight
  bytes : weigh bytesHeld run.tasks ≤ options.maxBufferBytes

theorem length_publishing_le (tasks : List PublishTask) :
    (tasks.filter (·.stage = .publishing)).length ≤ weigh slotsHeld tasks := by
  induction tasks with
  | nil => exact le_refl _
  | cons first rest ih =>
    simp only [filter_cons, weigh]
    split
    next publishing =>
      have here : first.stage = .publishing := by simpa using publishing
      simp only [length_cons, slotsHeld, here]
      omega
    · omega

theorem Releasing.released (inv : run.Releasing) {how : BulkEnd} (ended : run.phase = .ended how) :
    weigh bytesHeld run.tasks = 0 := by
  have standing := inv.standing
  rw [ended] at standing
  apply weigh_eq_zero
  intro task member
  have isDone := standing task member
  have kept := (inv.kept task member).1
  unfold done at isDone
  unfold bytesHeld
  cases stage : task.stage <;> simp_all

theorem candid_init (options : BulkPublishOptions) : (init options).Candid := by
  constructor <;> simp [init, known]

theorem withinBounds_init (options : BulkPublishOptions) : WithinBounds options (init options) :=
  ⟨le_refl _, rfl, zero_le _⟩

theorem honestAndBounded (candid : run.Candid) (bounds : WithinBounds options run) :
    run.HonestAndBounded options := by
  refine ⟨fun item member => ?_, ?_, bounds.used ▸ bounds.limit⟩
  · refine (candid.honest item (mem_known_of_reported member)).mono (fun absent called => ?_)
      fun _ => id
    obtain ⟨task, listed, same⟩ := candid.invoked item.index called
    exact absent (mem_map.mpr ⟨task, listed, same⟩)
  · have held := length_publishing_le run.tasks
    have bound := bounds.slots
    omega

end BulkRun

namespace SyncBulkRun

structure HonestAndBounded (options : BulkPublishOptions) (preparer : PublishPreparer)
    (run : SyncBulkRun) : Prop where
  honest : ∀ item ∈ run.reported, Honest run.invoked run.endings ItemOf item
  inFlight : run.inFlight.length ≤ options.maxInFlight
  bytes : ∀ bytes ∈ run.inFlight, bytes ≤ options.maxBufferBytes ∨
    options.maxBufferBytes < bytes ∧ bytes ≤ preparer.maxBufferBytes ∧ run.inFlight = [bytes]
  released : ∀ how, run.phase = .ended how → run.inFlight = []

theorem Candid.honestAndBounded {options : BulkPublishOptions} {preparer : PublishPreparer}
    {run : SyncBulkRun} (inv : Candid preparer run) : run.HonestAndBounded options preparer := by
  have one := options.maxInFlight_pos
  refine ⟨inv.honest, ?_, ?_, ?_⟩
  · unfold inFlight
    split
    · exact one
    · exact zero_le _
  · intro bytes member
    unfold inFlight at member ⊢
    split at member
    next here publishing =>
      obtain rfl : bytes = here := by simpa using member
      rcases lt_or_ge options.maxBufferBytes bytes with large | fits
      · exact .inr ⟨large, inv.admitted bytes publishing, rfl⟩
      · exact .inl fits
    · cases member
  · intro how ended
    simp [inFlight, ended]

end SyncBulkRun

/-- In every run of either runner the items are honest and the bounds hold at every
moment, and all bytes have been given back at the end of an async run that is not left
while a publish is unfinished. -/
theorem bulk_honest_and_bounded (options : BulkPublishOptions) (preparer : PublishPreparer) :
    (∀ actions run, Run (BulkRun.step options preparer) (.init options) actions run →
      run.HonestAndBounded options) ∧ (∀ actions run,
      RunWithin (BulkRun.step options preparer) (fun run action => run.unhurried action = true)
        (.init options) actions run → ∀ how, run.phase = .ended how →
        run.used = 0 ∧ weigh bytesHeld run.tasks = 0) ∧
    ∀ actions run, Run (SyncBulkRun.step options preparer) {} actions run →
      run.HonestAndBounded options preparer := by
  refine ⟨?_, ?_, ?_⟩
  · intro actions run taken
    have candid := taken.invariant (fun held _ next => held.step next) (candid_init options)
    have bounds := taken.invariant (fun held _ next => held.step next) (withinBounds_init options)
    exact honestAndBounded candid bounds
  · intro actions run taken how ended
    have start : (init options).Releasing := ⟨by simp [init], trivial⟩
    have releasing := taken.invariant (fun held admitted next => held.step admitted next) start
    have bounds := taken.invariant (fun held _ next => held.step next) (withinBounds_init options)
    have released := releasing.released ended
    exact ⟨bounds.used.trans released, released⟩
  · intro actions run taken
    have start : SyncBulkRun.Candid preparer {} := by
      constructor <;> simp
    have candid := taken.invariant (fun held _ next => held.step next) start
    exact candid.honestAndBounded

/-- An abandoned run in which the only publish had finished, and a sync run that
confirms a message. -/
theorem bulk_honest_and_bounded_abandoned :
    (∃ run, RunWithin (BulkRun.step {} ⟨0, 100⟩) (fun run action => run.unhurried action = true)
        (.init {})
        [.pulled (.envelope 5 []) false, .slotAcquired, .budgetAcquired, .continued, .started 0,
          .finished 0 (.returned ⟨.confirmed, none, none⟩), .pulled .other false, .resumed,
          .abandoned] run ∧ run.HonestAndBounded {} ∧ run.phase = .ended .abandoned ∧ run.used = 0 ∧
      run.reported.map (·.status) = [.invalid, .confirmed]) ∧
    ∃ run, Run (SyncBulkRun.step {} ⟨0, 100⟩) {}
        [.pulled (.envelope 5 []) false, .published (.returned ⟨.confirmed, none, none⟩)] run ∧
      run.HonestAndBounded {} ⟨0, 100⟩ ∧ run.reported.map (·.status) = [.confirmed] := by
  obtain ⟨all, released, sync⟩ := bulk_honest_and_bounded {} ⟨0, 100⟩
  constructor
  · refine exists_runWithin_of_check (fun run => decide (run.phase = .ended .abandoned ∧
      run.reported.map (·.status) = [.invalid, .confirmed])) (by decide) fun run taken checked => ?_
    obtain ⟨ended, statuses⟩ := of_decide_eq_true checked
    exact ⟨all _ run taken.unrestricted, ended, (released _ run taken _ ended).1, statuses⟩
  · refine exists_runWithin_of_check
      (fun run => decide (run.reported.map (·.status) = [.confirmed])) (by decide)
      fun run taken checked => ?_
    exact ⟨sync _ run taken, of_decide_eq_true checked⟩

/-- The consumer abandons the generator while a publish of five bytes is running: the
run has ended and the budget still holds them. -/
theorem abandoned_with_bytes_held : ∃ run, Run (BulkRun.step {} ⟨0, 100⟩) (.init {})
        [.pulled (.envelope 5 []) false, .slotAcquired, .budgetAcquired, .continued, .started 0,
          .pulled .other false, .abandoned] run ∧ run.phase = .ended .abandoned ∧ run.used = 5 :=
  exists_runWithin_of_decide (by decide)

end RabbitKit
