import RabbitKit.LabelledRun

/-! # Stopping the async worker pool

`AsyncWorkerPool` runs each submitted message in a task of its own that waits for a slot of
a semaphore.  `stop` cancels the tasks that still wait and nacks their messages, waits for
the handlers that have started, cancels those that outlast the drain timeout and nacks what
they left unsettled.

A task is known by the position of its message.  Tasks move between the suspensions of
`stop`, in any order; the nack of `stop` claims the message before it suspends, and
counts as an attempt whether or not it raises.
-/

namespace RabbitKit

open LabelledRun List Option Nat

inductive TaskPhase
  | queued
  | running
  | done
  deriving DecidableEq

/-- `tracked` tells whether the task is in `_tasks`. -/
structure PooledMessage where
  phase : TaskPhase := .queued
  started : Bool := false
  cancelled : Bool := false
  settledByHandler : Bool := false
  nacks : Nat := 0
  tracked : Bool := true
  deriving DecidableEq

def PooledMessage.isSettled (message : PooledMessage) : Bool :=
  message.settledByHandler || 0 < message.nacks

def PooledMessage.holdsSlot (message : PooledMessage) : Bool :=
  message.tracked && message.started

def PooledMessage.waitsForSlot (message : PooledMessage) : Bool :=
  message.tracked && !message.started

inductive StopPhase
  | notCalled
  | joiningQueued (queued : List Nat)
  | nackingQueued (queued : List Nat)
  | draining (tasks : List Nat)
  | joiningPending (pending : List Nat)
  | nackingPending (pending : List Nat)
  | returned
  | cancelled
  deriving DecidableEq

/-- `semaphore` tells whether `_semaphore` is set. -/
structure AsyncWorkerPool where
  workerCount : Nat
  semaphore : Bool := false
  running : Bool := false
  messages : List PooledMessage := []
  stopping : StopPhase := .notCalled
  deriving DecidableEq

/-- `begins`: a queued task gets its slot and calls the callback.  `unwinds`: a cancelled
queued task ends.  `taskDone`: `_on_task_done`.  `waitEnds`: the wait of `stop` returns,
its tasks being done or its time being over. -/
inductive PoolAction
  | submit
  | begins (task : Nat)
  | settles (task : Nat)
  | finishes (task : Nat)
  | unwinds (task : Nat)
  | taskDone (task : Nat)
  | stop
  | waitEnds
  | nackNext
  | cancelStop
  deriving DecidableEq

namespace AsyncWorkerPool

/-- `start`. -/
def start (workerCount : Nat) : AsyncWorkerPool :=
  if workerCount ≤ 1 then { workerCount := workerCount }
  else { workerCount := workerCount, semaphore := true, running := true }

def tasksWhere (pool : AsyncWorkerPool) (test : PooledMessage → Bool) : List Nat :=
  (List.range pool.messages.length).filter fun task => pool.messages[task]?.any test

def cancelTasks (tasks : List Nat) (messages : List PooledMessage) : List PooledMessage :=
  messages.mapIdx fun task message =>
    if task ∈ tasks then { message with cancelled := true } else message

/-- The `finally` of `stop`. -/
def clear (pool : AsyncWorkerPool) (ended : StopPhase) : AsyncWorkerPool :=
  { pool with
    messages := pool.messages.map fun message => { message with tracked := false }
    stopping := ended }

/-- `stop` after `_release_queued`. -/
def beginDrain (pool : AsyncWorkerPool) : AsyncWorkerPool :=
  let tasks := pool.tasksWhere (·.holdsSlot)
  if tasks = [] then pool.clear .returned else { pool with stopping := .draining tasks }

/-- `stop` up to its first wait. -/
def beginStop (pool : AsyncWorkerPool) : AsyncWorkerPool :=
  let stopped := { pool with running := false }
  if pool.tasksWhere (·.tracked) = [] then { stopped with stopping := .returned }
  else
    let queued := pool.tasksWhere (·.waitsForSlot)
    if queued = [] then stopped.beginDrain
    else
      { stopped with
        messages := cancelTasks queued pool.messages
        stopping := .joiningQueued queued }

/-- `stop` after its wait for the handlers. -/
def endDrain (pool : AsyncWorkerPool) (tasks : List Nat) : AsyncWorkerPool :=
  let pending := tasks.filter fun task => pool.messages[task]?.any (·.phase ≠ .done)
  if pending = [] then pool.clear .returned
  else
    { pool with
      messages := cancelTasks pending pool.messages
      stopping := .joiningPending pending }

/-- `if message.is_settled: continue`, and otherwise `nack_async(requeue=True)`. -/
def nack (pool : AsyncWorkerPool) (task : Nat) : List PooledMessage :=
  pool.messages.modify task fun message =>
    if message.isSettled then message else { message with nacks := message.nacks + 1 }

/-- `submit`. -/
def submitted (pool : AsyncWorkerPool) : PooledMessage :=
  if !pool.semaphore then { phase := .running, started := true, tracked := false }
  else if !pool.running then { phase := .done, nacks := 1, tracked := false }
  else {}

def change (pool : AsyncWorkerPool) (task : Nat) (enabled : PooledMessage → Bool)
    (changed : PooledMessage → PooledMessage) : Option AsyncWorkerPool :=
  match pool.messages[task]? with
  | some message =>
    if enabled message then
      some { pool with messages := pool.messages.set task (changed message) }
    else none
  | none => none

def step (pool : AsyncWorkerPool) : PoolAction → Option AsyncWorkerPool
  | .submit => some { pool with messages := pool.messages ++ [pool.submitted] }
  | .begins task =>
    if pool.messages.countP (·.phase = .running) < pool.workerCount then
      pool.change task (fun message => message.phase = .queued ∧ message.cancelled = false)
        fun message => { message with phase := .running, started := true }
    else none
  | .settles task =>
    pool.change task (fun message => message.phase = .running ∧ message.isSettled = false)
      fun message => { message with settledByHandler := true }
  | .finishes task =>
    pool.change task (fun message => message.phase = .running)
      fun message => { message with phase := .done }
  | .unwinds task =>
    pool.change task (fun message => message.phase = .queued ∧ message.cancelled = true)
      fun message => { message with phase := .done }
  | .taskDone task =>
    pool.change task (fun message => message.phase = .done ∧ message.tracked = true)
      fun message => { message with tracked := false }
  | .stop =>
    if pool.stopping = .notCalled ∨ pool.stopping = .returned then some pool.beginStop
    else none
  | .waitEnds =>
    match pool.stopping with
    | .joiningQueued queued => some { pool with stopping := .nackingQueued queued }
    | .draining tasks => some (pool.endDrain tasks)
    | .joiningPending pending => some { pool with stopping := .nackingPending pending }
    | _ => none
  | .nackNext =>
    match pool.stopping with
    | .nackingQueued [] => some pool.beginDrain
    | .nackingQueued (task :: rest) =>
      some { pool with messages := pool.nack task, stopping := .nackingQueued rest }
    | .nackingPending [] => some (pool.clear .returned)
    | .nackingPending (task :: rest) =>
      some { pool with messages := pool.nack task, stopping := .nackingPending rest }
    | _ => none
  | .cancelStop =>
    match pool.stopping with
    | .notCalled | .returned | .cancelled => none
    | _ => some (pool.clear .cancelled)

end AsyncWorkerPool

namespace StopPhase

/-- The queued tasks whose messages `stop` has still to nack. -/
@[simp]
def queuedDue : StopPhase → List Nat
  | .joiningQueued queued | .nackingQueued queued => queued
  | _ => []

/-- The started tasks `stop` waits for or has still to nack. -/
@[simp]
def underWay : StopPhase → List Nat
  | .draining tasks | .joiningPending tasks | .nackingPending tasks => tasks
  | _ => []

/-- The tasks cancelled at the drain deadline whose messages are still to be looked at. -/
@[simp]
def pendingDue : StopPhase → List Nat
  | .joiningPending pending | .nackingPending pending => pending
  | _ => []

@[simp]
def afterDeadline : StopPhase → Bool
  | .joiningPending _ | .nackingPending _ | .returned => true
  | _ => false

end StopPhase

/-- A cancelled `stop` leaves messages anywhere, but none that can still start. -/
inductive Account (stop : StopPhase) (task : Nat) : PooledMessage → Prop
  | waiting (early : stop = .notCalled) : Account stop task {}
  | releasing {phase : TaskPhase} {tracked : Bool} (due : task ∈ stop.queuedDue)
      (idle : phase ≠ .running) :
      Account stop task { phase := phase, cancelled := true, tracked := tracked }
  | released {phase : TaskPhase} {cancelled tracked : Bool} (called : stop ≠ .notCalled)
      (idle : phase ≠ .running) (never : phase = .queued → cancelled = true)
      (notDue : task ∉ stop.queuedDue) (notUnderWay : task ∉ stop.underWay) :
      Account stop task
        { phase := phase, cancelled := cancelled, nacks := 1, tracked := tracked }
  | handled {phase : TaskPhase} {settled tracked : Bool} (begun : phase ≠ .queued)
      (notDue : task ∉ stop.queuedDue) (notPending : task ∉ stop.pendingDue) :
      Account stop task
        { phase := phase, started := true, settledByHandler := settled, tracked := tracked }
  | abandoning {phase : TaskPhase} {settled tracked : Bool} (begun : phase ≠ .queued)
      (due : task ∈ stop.pendingDue) :
      Account stop task
        { phase := phase, started := true, cancelled := true, settledByHandler := settled,
          tracked := tracked }
  | settled {phase : TaskPhase} {tracked : Bool} (begun : phase ≠ .queued)
      (late : stop.afterDeadline = true) (notPending : task ∉ stop.pendingDue) :
      Account stop task
        { phase := phase, started := true, cancelled := true, settledByHandler := true,
          tracked := tracked }
  | abandoned {phase : TaskPhase} {settled tracked : Bool} (begun : phase ≠ .queued)
      (late : stop.afterDeadline = true) (notPending : task ∉ stop.pendingDue) :
      Account stop task
        { phase := phase, started := true, cancelled := true, settledByHandler := settled,
          nacks := 1, tracked := tracked }
  | cut {message : PooledMessage} (ended : stop = .cancelled)
      (never : message.phase = .queued → message.cancelled = true)
      (once : message.nacks ≤ 1)
      (late : message.started = true → message.nacks = 1 → message.cancelled = true) :
      Account stop task message

namespace Account

variable {stop next : StopPhase} {task : Nat} {message : PooledMessage}

section

variable (account : Account stop task message)
include account

theorem begins (queued : message.phase = .queued) (allowed : message.cancelled = false) :
    Account stop task { message with phase := .running, started := true } := by
  cases account with
  | waiting early =>
    subst early
    exact .handled nofun not_mem_nil not_mem_nil
  | releasing => cases allowed
  | released _ _ never => cases allowed.symm.trans (never queued)
  | handled begun => exact absurd queued begun
  | abandoning | settled | abandoned => cases allowed
  | cut _ never => cases allowed.symm.trans (never queued)

theorem ends (able : message.phase = .running ∨ message.cancelled = true) :
    Account stop task { message with phase := .done } := by
  cases account with
  | waiting => rcases able with able | able <;> cases able
  | releasing due => exact .releasing due nofun
  | released called _ _ notDue notUnderWay =>
    exact .released called nofun nofun notDue notUnderWay
  | handled _ notDue notPending => exact .handled nofun notDue notPending
  | abandoning _ due => exact .abandoning nofun due
  | settled _ late notPending => exact .settled nofun late notPending
  | abandoned _ late notPending => exact .abandoned nofun late notPending
  | cut ended _ once late => exact .cut ended nofun once late

theorem updated {settled tracked : Bool} (past : stop ≠ .notCalled ∨ message.phase ≠ .queued)
    (kept : settled = message.settledByHandler ∨ message.phase = .running ∧ settled = true) :
    Account stop task { message with settledByHandler := settled, tracked := tracked } := by
  cases account with
  | waiting early =>
    rcases past with called | begun
    · exact absurd early called
    · exact absurd rfl begun
  | releasing due idle =>
    obtain rfl := kept.resolve_right fun running => idle running.1
    exact .releasing due idle
  | released called idle never notDue notUnderWay =>
    obtain rfl := kept.resolve_right fun running => idle running.1
    exact .released called idle never notDue notUnderWay
  | handled begun notDue notPending => exact .handled begun notDue notPending
  | abandoning begun due => exact .abandoning begun due
  | settled begun late notPending =>
    rcases kept with rfl | ⟨_, rfl⟩ <;> exact .settled begun late notPending
  | abandoned begun late notPending => exact .abandoned begun late notPending
  | cut ended never once late => exact .cut ended never once late

theorem moveOn (called : stop ≠ .notCalled) (going : stop ≠ .cancelled) (goesOn : next ≠ .notCalled)
    (queued : task ∈ next.queuedDue ↔ task ∈ stop.queuedDue)
    (pending : task ∈ next.pendingDue ↔ task ∈ stop.pendingDue)
    (underWay : task ∈ next.underWay → message.started = true ∨ task ∈ stop.underWay)
    (later : stop.afterDeadline = true → next.afterDeadline = true) :
    Account next task message := by
  cases account with
  | waiting early => exact absurd early called
  | releasing due idle => exact .releasing (queued.mpr due) idle
  | released _ idle never notDue notUnderWay =>
    exact .released goesOn idle never (mt queued.mp notDue) fun member =>
      (underWay member).elim nofun notUnderWay
  | handled begun notDue notPending =>
    exact .handled begun (mt queued.mp notDue) (mt pending.mp notPending)
  | abandoning begun due => exact .abandoning begun (pending.mpr due)
  | settled begun late notPending => exact .settled begun (later late) (mt pending.mp notPending)
  | abandoned begun late notPending =>
    exact .abandoned begun (later late) (mt pending.mp notPending)
  | cut ended => exact absurd ended going

end

theorem releases {rest : List Nat} (account : Account (.nackingQueued (task :: rest)) task message)
    (last : task ∉ rest) : Account (.nackingQueued rest) task
      (if message.isSettled then message else { message with nacks := message.nacks + 1 }) := by
  cases account with
  | waiting early => cases early
  | releasing _ idle => exact .released nofun idle (fun _ => rfl) last not_mem_nil
  | released _ _ _ notDue | handled _ notDue => exact absurd mem_cons_self notDue
  | abandoning _ due => cases due
  | settled _ late | abandoned _ late => cases late
  | cut ended => cases ended

theorem abandons {rest : List Nat} (account : Account (.nackingPending (task :: rest)) task message)
    (last : task ∉ rest) : Account (.nackingPending rest) task
      (if message.isSettled then message else { message with nacks := message.nacks + 1 }) := by
  cases account with
  | waiting early => cases early
  | releasing due => cases due
  | released _ _ _ _ notDue | handled _ _ notDue | settled _ _ notDue | abandoned _ _ notDue =>
    exact absurd mem_cons_self notDue
  | @abandoning phase settled tracked begun =>
    cases settled with
    | true => exact .settled begun rfl last
    | false => exact .abandoned begun rfl last
  | cut ended => cases ended

theorem stopCancelled (account : Account stop task message) (called : stop ≠ .notCalled) :
    Account .cancelled task message := by
  cases account with
  | waiting early => exact absurd early called
  | releasing => exact .cut rfl (fun _ => rfl) (zero_le _) nofun
  | released _ _ never => exact .cut rfl never le_rfl nofun
  | handled begun => exact .cut rfl (fun queued => absurd queued begun) (zero_le _) nofun
  | abandoning | settled => exact .cut rfl (fun _ => rfl) (zero_le _) nofun
  | abandoned => exact .cut rfl (fun _ => rfl) le_rfl fun _ _ => rfl
  | cut _ never once late => exact .cut rfl never once late

theorem before_stop (account : Account .notCalled task message) :
    message = {} ∨ ∃ phase settled tracked, phase ≠ .queued ∧
      message = { phase := phase, started := true, settledByHandler := settled,
                  tracked := tracked } := by
  cases account with
  | waiting => exact .inl rfl
  | releasing due | abandoning _ due => cases due
  | released called => exact absurd rfl called
  | @handled phase settled tracked begun => exact .inr ⟨phase, settled, tracked, begun, rfl⟩
  | settled _ late | abandoned _ late => cases late
  | cut ended => cases ended

section

variable (account : Account stop task message)
include account

theorem once : message.nacks ≤ 1 := by
  cases account with
  | waiting | releasing | handled | abandoning | settled => exact zero_le _
  | released | abandoned => exact le_refl _
  | cut _ _ once => exact once

theorem late (started : message.started = true)
    (nacked : message.nacks = 1) : message.cancelled = true := by
  cases account with
  | waiting | releasing | released => cases started
  | handled => cases nacked
  | abandoning | settled | abandoned => rfl
  | cut _ _ _ late => exact late started nacked

theorem blocked (called : stop ≠ .notCalled)
    (queued : message.phase = .queued) : message.cancelled = true := by
  cases account with
  | waiting early => exact absurd early called
  | releasing | abandoning | settled | abandoned => rfl
  | released _ _ never | cut _ never => exact never queued
  | handled begun => exact absurd queued begun

end

theorem startedOrNacked (account : Account .returned task message) :
    message.started = true ∨ message.nacks = 1 := by
  cases account with
  | waiting early => cases early
  | releasing due => cases due
  | released => exact .inr rfl
  | handled | abandoning | settled | abandoned => exact .inl rfl
  | cut ended => cases ended

theorem nacked_of_unsettled (account : Account .returned task message)
    (started : message.started = true) (cancelled : message.cancelled = true)
    (unsettled : message.settledByHandler = false) : message.nacks = 1 := by
  cases account with
  | waiting early => cases early
  | releasing due | abandoning _ due => cases due
  | released => cases started
  | handled => cases cancelled
  | settled => cases unsettled
  | abandoned => rfl
  | cut ended => cases ended

/-- While `stop` waits for the handlers, a message was released or is with its handler. -/
theorem drainEnds {tasks pending : List Nat} (account : Account (.draining tasks) task message)
    (subset : pending ⊆ tasks) : Account (.joiningPending pending) task
      (if task ∈ pending then { message with cancelled := true } else message) := by
  cases account with
  | waiting early => cases early
  | releasing due | abandoning _ due => cases due
  | released _ idle never _ notUnderWay =>
    have notPending : task ∉ pending := fun member => notUnderWay (subset member)
    rw [if_neg notPending]
    exact .released nofun idle never not_mem_nil notPending
  | handled begun =>
    split
    next member =>
      exact .abandoning begun member
    next notPending =>
      exact .handled begun not_mem_nil notPending
  | settled _ late | abandoned _ late => cases late
  | cut ended => cases ended

end Account

namespace AsyncWorkerPool

variable {pool pool' : AsyncWorkerPool} {action : PoolAction} {task : Nat}
  {message changed : PooledMessage} {tasks : List Nat} {test : PooledMessage → Bool}

theorem mem_tasksWhere : task ∈ pool.tasksWhere test ↔
    ∃ message, pool.messages[task]? = some message ∧ test message = true := by
  simp only [tasksWhere, List.mem_filter, List.mem_range, Option.any_eq_true]
  refine ⟨And.right, fun found => ⟨?_, found⟩⟩
  obtain ⟨message, found, -⟩ := found
  exact (List.getElem?_eq_some_iff.mp found).1

theorem lt_of_mem_tasksWhere (member : task ∈ pool.tasksWhere test) : task < pool.messages.length :=
  mem_range.mp (mem_filter.mp member).1

theorem nodup_tasksWhere : (pool.tasksWhere test).Nodup := nodup_range.filter _

variable {enabled : PooledMessage → Bool} {pending : List Nat}

theorem change_eq_some {changed : PooledMessage → PooledMessage}
    (taken : pool.change task enabled changed = some pool') :
    ∃ message, pool.messages[task]? = some message ∧ enabled message = true ∧
      pool' = { pool with messages := pool.messages.set task (changed message) } := by
  simp only [change] at taken
  split at taken
  next message found =>
    split at taken
    next enabled =>
      exact ⟨message, found, enabled, (some.inj taken).symm⟩
    · cases taken
  · cases taken

structure Accounted (pool : AsyncWorkerPool) : Prop where
  pooled : pool.semaphore = true
  accepting : pool.running = decide (pool.stopping = .notCalled)
  distinct : pool.stopping.queuedDue.Nodup ∧ pool.stopping.underWay.Nodup
  known : ∀ task, task ∈ pool.stopping.queuedDue ∨ task ∈ pool.stopping.underWay →
    task < pool.messages.length
  cleared : pool.stopping = .returned → ∀ message ∈ pool.messages, message.tracked = false
  accounts : ∀ task message, pool.messages[task]? = some message →
    Account pool.stopping task message

theorem Accounted.change (inv : pool.Accounted) (found : pool.messages[task]? = some message)
    (tracked : changed.tracked = true → message.tracked = true)
    (account : Account pool.stopping task changed) :
    ({ pool with messages := pool.messages.set task changed } : AsyncWorkerPool).Accounted := by
  refine { inv with known := ?_, cleared := ?_, accounts := ?_ }
  · intro other listed
    simpa using inv.known other listed
  · intro returned other member
    rcases mem_or_eq_of_mem_set member with member | rfl
    · exact inv.cleared returned other member
    · have old := inv.cleared returned message (mem_of_getElem? found)
      exact Bool.eq_false_iff.mpr fun still => by simp [old] at tracked; simp [tracked] at still
  · intro other message located
    rcases getElem?_of_moved found located with ⟨rfl, rfl⟩ | ⟨-, located⟩
    · exact account
    · exact inv.accounts other message located

theorem Accounted.submit (inv : pool.Accounted) :
    ({ pool with messages := pool.messages ++ [pool.submitted] } : AsyncWorkerPool).Accounted := by
  have fresh : Account pool.stopping pool.messages.length pool.submitted := by
    have unlisted := mt (inv.known pool.messages.length) (lt_irrefl _)
    rw [not_or] at unlisted
    by_cases early : pool.stopping = .notCalled
    · have queued : pool.submitted = {} := by
        simp [submitted, inv.pooled, inv.accepting, early]
      exact queued ▸ .waiting early
    · have refused : pool.submitted = { phase := .done, nacks := 1, tracked := false } := by
        simp [submitted, inv.pooled, inv.accepting, early]
      exact refused ▸ .released early nofun nofun unlisted.1 unlisted.2
  refine { inv with known := ?_, cleared := ?_, accounts := ?_ }
  · intro task listed
    simpa using lt_succ_of_lt (inv.known task listed)
  · intro returned message member
    rcases mem_append.mp member with member | member
    · exact inv.cleared returned message member
    · have returned : pool.stopping = .returned := returned
      have late : pool.running = false := by simp [inv.accepting, returned]
      rw [mem_singleton.mp member]
      simp [submitted, inv.pooled, late]
  · intro task message located
    rcases getElem?_of_joined located with located | ⟨rfl, rfl⟩
    · exact inv.accounts task message located
    · exact fresh

theorem getElem?_cancelTasks {messages : List PooledMessage}
    (located : (cancelTasks tasks messages)[task]? = some changed) :
    ∃ message, messages[task]? = some message ∧
      changed = if task ∈ tasks then { message with cancelled := true } else message := by
  rw [cancelTasks, getElem?_mapIdx, map_eq_some_iff] at located
  obtain ⟨message, found, rfl⟩ := located
  exact ⟨message, found, rfl⟩

@[simp]
theorem length_cancelTasks (messages : List PooledMessage) :
    (cancelTasks tasks messages).length = messages.length :=
  length_mapIdx

theorem accounted_clear {ended : StopPhase} (pooled : pool.semaphore = true)
    (stopped : pool.running = false) (final : ended = .returned ∨ ended = .cancelled)
    (accounts : ∀ task message, pool.messages[task]? = some message →
      Account ended task message) : (pool.clear ended).Accounted where
  pooled := pooled
  accepting := by rcases final with rfl | rfl <;> exact stopped
  distinct := by rcases final with rfl | rfl <;> exact ⟨nodup_nil, nodup_nil⟩
  known task listed := by
    rcases final with rfl | rfl <;> rcases listed with listed | listed <;> cases listed
  cleared _ message member := by
    obtain ⟨_, -, rfl⟩ := mem_map.mp member
    rfl
  accounts task message located := by
    simp only [clear, getElem?_map, map_eq_some_iff] at located
    obtain ⟨message, found, rfl⟩ := located
    have called : ended ≠ .notCalled := by rcases final with rfl | rfl <;> nofun
    exact (accounts task message found).updated (.inl called) (.inl rfl)

theorem accounted_beginDrain (pooled : pool.semaphore = true) (stopped : pool.running = false)
    (accounts : ∀ task message, pool.messages[task]? = some message →
      Account (.draining []) task message) : pool.beginDrain.Accounted := by
  unfold beginDrain
  dsimp only
  split
  · refine accounted_clear pooled stopped (.inl rfl) fun task message found => ?_
    exact (accounts task message found).moveOn nofun nofun nofun .rfl .rfl nofun nofun
  · refine ⟨pooled, stopped, ⟨nodup_nil, nodup_tasksWhere⟩, ?_, nofun, ?_⟩
    · rintro task (listed | listed)
      · cases listed
      · exact lt_of_mem_tasksWhere listed
    · intro task message found
      refine (accounts task message found).moveOn nofun nofun nofun .rfl .rfl ?_ nofun
      intro listed
      obtain ⟨located, same, begun⟩ := mem_tasksWhere.mp listed
      obtain rfl : message = located := some.inj (found.symm.trans same)
      exact .inl (Bool.and_eq_true_iff.mp begun).2

theorem Accounted.beginStop (inv : pool.Accounted) (early : pool.stopping = .notCalled) :
    pool.beginStop.Accounted := by
  have before {task message} (found : pool.messages[task]? = some message) :=
    (early ▸ inv.accounts task message found : Account .notCalled task message).before_stop
  -- without queued tasks each message is with its handler
  have handled {next : StopPhase} (noneDue : next.queuedDue = [])
    (nonePending : next.pendingDue = []) (idle : pool.tasksWhere (·.waitsForSlot) = [])
      (task : Nat) (message : PooledMessage) (found : pool.messages[task]? = some message) :
      Account next task message := by
    rcases before found with rfl | ⟨phase, settled, tracked, begun, rfl⟩
    · have queued : task ∈ pool.tasksWhere (·.waitsForSlot) := mem_tasksWhere.mpr ⟨_, found, rfl⟩
      rw [idle] at queued
      cases queued
    · exact .handled begun (noneDue ▸ not_mem_nil) (nonePending ▸ not_mem_nil)
  unfold AsyncWorkerPool.beginStop
  split
  next untracked =>
    have unlisted (task : Nat) (message : PooledMessage)
        (found : pool.messages[task]? = some message) : message.tracked = false :=
      Bool.eq_false_iff.mpr fun tracked =>
        ne_nil_of_mem (mem_tasksWhere.mpr ⟨message, found, tracked⟩) untracked
    have idle : pool.tasksWhere (·.waitsForSlot) = [] := by
      refine eq_nil_iff_forall_not_mem.mpr fun task member => ?_
      obtain ⟨message, found, waits⟩ := mem_tasksWhere.mp member
      simp [PooledMessage.waitsForSlot, unlisted task message found] at waits
    refine ⟨inv.pooled, rfl, ⟨nodup_nil, nodup_nil⟩, ?_, ?_, handled rfl rfl idle⟩
    · rintro task (listed | listed) <;> cases listed
    · intro _ message member
      obtain ⟨task, found⟩ := mem_iff_getElem?.mp member
      exact unlisted task message found
  · dsimp only
    split
    next idle =>
      exact accounted_beginDrain inv.pooled rfl (handled rfl rfl idle)
    · refine ⟨inv.pooled, rfl, ⟨nodup_tasksWhere, nodup_nil⟩, ?_, nofun, ?_⟩
      · rintro task (listed | listed)
        · simpa using lt_of_mem_tasksWhere listed
        · cases listed
      · intro task changed located
        obtain ⟨message, found, rfl⟩ := getElem?_cancelTasks located
        rcases before found with rfl | ⟨phase, settled, tracked, begun, rfl⟩
        · have queued : task ∈ pool.tasksWhere (·.waitsForSlot) :=
            mem_tasksWhere.mpr ⟨_, found, rfl⟩
          rw [if_pos queued]
          exact .releasing queued nofun
        · have started : task ∉ pool.tasksWhere (·.waitsForSlot) := fun member => by
            obtain ⟨other, same, waits⟩ := mem_tasksWhere.mp member
            cases found.symm.trans same
            simp [PooledMessage.waitsForSlot] at waits
          rw [if_neg started]
          exact .handled begun started not_mem_nil

theorem Accounted.beginStop_again (inv : pool.Accounted) (returned : pool.stopping = .returned) :
    pool.beginStop = pool := by
  have untracked : pool.tasksWhere (·.tracked) = [] := by
    refine eq_nil_iff_forall_not_mem.mpr fun task member => ?_
    obtain ⟨message, found, tracked⟩ := mem_tasksWhere.mp member
    have cleared := inv.cleared returned message (mem_of_getElem? found)
    simp [cleared] at tracked
  have stopped : pool.running = false := by simp [inv.accepting, returned]
  rw [AsyncWorkerPool.beginStop, if_pos untracked, ← stopped, ← returned]

theorem Accounted.endDrain (inv : pool.Accounted) (draining : pool.stopping = .draining tasks) :
    (pool.endDrain tasks).Accounted := by
  have stopped : pool.running = false := by simp [inv.accepting, draining]
  have accounts (task : Nat) (message : PooledMessage)
      (found : pool.messages[task]? = some message) : Account (.draining tasks) task message :=
    draining ▸ inv.accounts task message found
  have distinct : (StopPhase.draining tasks).underWay.Nodup := draining ▸ inv.distinct.2
  have known (task : Nat) (member : task ∈ tasks) : task < pool.messages.length :=
    inv.known task (.inr (by rw [draining]; exact member))
  unfold AsyncWorkerPool.endDrain
  dsimp only
  split
  · refine accounted_clear inv.pooled stopped (.inl rfl) fun task message found => ?_
    exact (accounts task message found).moveOn nofun nofun nofun .rfl .rfl nofun nofun
  · refine ⟨inv.pooled, stopped, ⟨nodup_nil, distinct.filter _⟩, ?_, nofun, ?_⟩
    · rintro task (listed | listed)
      · cases listed
      · simpa using known task (mem_of_mem_filter listed)
    · intro task changed located
      obtain ⟨message, found, rfl⟩ := getElem?_cancelTasks located
      exact (accounts task message found).drainEnds (filter_subset_self _)

theorem getElem?_nack {other : Nat} (located : (pool.nack task)[other]? = some changed) :
    (other = task ∧ ∃ message, pool.messages[task]? = some message ∧
      changed = if message.isSettled then message
        else { message with nacks := message.nacks + 1 }) ∨
    other ≠ task ∧ pool.messages[other]? = some changed := by
  rw [nack, List.getElem?_modify, Option.map_eq_map, Option.map_eq_some_iff] at located
  obtain ⟨message, found, rfl⟩ := located
  by_cases same : task = other
  · subst same
    exact .inl ⟨rfl, message, found, by simp⟩
  · exact .inr ⟨.symm same, by simpa [same] using found⟩

@[simp]
theorem length_nack : (pool.nack task).length = pool.messages.length := length_modify _ _ _

section

variable (inv : pool.Accounted)
include inv

theorem Accounted.nackQueued {rest : List Nat}
    (nacking : pool.stopping = .nackingQueued (task :: rest)) :
    ({ pool with messages := pool.nack task, stopping := .nackingQueued rest } :
      AsyncWorkerPool).Accounted := by
  obtain ⟨pooled, accepting, distinct, known, cleared, accounts⟩ := inv
  rw [nacking] at accepting distinct known accounts
  obtain ⟨last, distinctRest⟩ := nodup_cons.mp distinct.1
  refine ⟨pooled, accepting, ⟨distinctRest, nodup_nil⟩, ?_, nofun, ?_⟩
  · rintro other (listed | listed)
    · simpa using known other (.inl (mem_cons_of_mem _ listed))
    · cases listed
  · intro other changed located
    rcases getElem?_nack located with ⟨rfl, message, found, rfl⟩ | ⟨different, found⟩
    · exact (accounts _ message found).releases last
    · refine (accounts other changed found).moveOn nofun nofun nofun ?_ .rfl nofun nofun
      exact (mem_cons.trans (or_iff_right different)).symm

theorem Accounted.nackPending {rest : List Nat}
    (nacking : pool.stopping = .nackingPending (task :: rest)) :
    ({ pool with messages := pool.nack task, stopping := .nackingPending rest } :
      AsyncWorkerPool).Accounted := by
  obtain ⟨pooled, accepting, distinct, known, cleared, accounts⟩ := inv
  rw [nacking] at accepting distinct known accounts
  obtain ⟨last, distinctRest⟩ := nodup_cons.mp distinct.2
  refine ⟨pooled, accepting, ⟨nodup_nil, distinctRest⟩, ?_, nofun, ?_⟩
  · rintro other (listed | listed)
    · cases listed
    · simpa using known other (.inr (mem_cons_of_mem _ listed))
  · intro other changed located
    rcases getElem?_nack located with ⟨rfl, message, found, rfl⟩ | ⟨different, found⟩
    · exact (accounts _ message found).abandons last
    · refine (accounts other changed found).moveOn nofun nofun nofun .rfl ?_ ?_ fun _ => rfl
      · exact (mem_cons.trans (or_iff_right different)).symm
      · exact fun member => .inr (mem_cons_of_mem _ member)

theorem Accounted.rename {next : StopPhase}
    (called : pool.stopping ≠ .notCalled) (going : pool.stopping ≠ .cancelled)
    (goesOn : next ≠ .notCalled) (notReturned : next ≠ .returned)
    (queued : next.queuedDue = pool.stopping.queuedDue)
    (pending : next.pendingDue = pool.stopping.pendingDue)
    (underWay : next.underWay = pool.stopping.underWay)
    (later : pool.stopping.afterDeadline = true → next.afterDeadline = true) :
    ({ pool with stopping := next } : AsyncWorkerPool).Accounted where
  pooled := inv.pooled
  accepting := by
    have stopped := inv.accepting
    rw [decide_eq_false called] at stopped
    exact stopped.trans (decide_eq_false goesOn).symm
  distinct := ⟨queued ▸ inv.distinct.1, underWay ▸ inv.distinct.2⟩
  known task listed := by
    rw [queued, underWay] at listed
    exact inv.known task listed
  cleared returned := absurd returned notReturned
  accounts task message found :=
    (inv.accounts task message found).moveOn called going goesOn (by rw [queued])
      (by rw [pending]) (fun member => .inr (underWay ▸ member)) later

theorem Accounted.step (taken : pool.step action = some pool') : pool'.Accounted := by
  cases action with
  | submit =>
    cases taken
    exact inv.submit
  | begins task =>
    simp only [step] at taken
    split at taken
    · obtain ⟨message, found, enabled, rfl⟩ := change_eq_some taken
      obtain ⟨queued, allowed⟩ := of_decide_eq_true enabled
      exact inv.change found id ((inv.accounts task message found).begins queued allowed)
    · cases taken
  | settles task =>
    obtain ⟨message, found, enabled, rfl⟩ := change_eq_some taken
    have running := (of_decide_eq_true enabled).1
    have begun : message.phase ≠ .queued := running ▸ nofun
    exact inv.change found id
      ((inv.accounts task message found).updated (.inr begun) (.inr ⟨running, rfl⟩))
  | finishes task =>
    obtain ⟨message, found, enabled, rfl⟩ := change_eq_some taken
    have running := of_decide_eq_true enabled
    exact inv.change found id ((inv.accounts task message found).ends (.inl running))
  | unwinds task =>
    obtain ⟨message, found, enabled, rfl⟩ := change_eq_some taken
    have cancelled := (of_decide_eq_true enabled).2
    exact inv.change found id ((inv.accounts task message found).ends (.inr cancelled))
  | taskDone task =>
    obtain ⟨message, found, enabled, rfl⟩ := change_eq_some taken
    have done := (of_decide_eq_true enabled).1
    have begun : message.phase ≠ .queued := done ▸ nofun
    exact inv.change found nofun
      ((inv.accounts task message found).updated (.inr begun) (.inl rfl))
  | stop =>
    simp only [step] at taken
    split at taken
    next callable =>
      cases taken
      rcases callable with early | again
      · exact inv.beginStop early
      · rwa [inv.beginStop_again again]
    · cases taken
  | waitEnds =>
    simp only [step] at taken
    split at taken <;> cases taken
    next queued joining =>
      refine inv.rename ?_ ?_ ?_ ?_ ?_ ?_ ?_ ?_ <;> simp [joining]
    next tasks draining =>
      exact inv.endDrain draining
    next pending joining =>
      refine inv.rename ?_ ?_ ?_ ?_ ?_ ?_ ?_ ?_ <;> simp [joining]
  | nackNext =>
    simp only [step] at taken
    split at taken <;> cases taken
    next nacking =>
      have stopped : pool.running = false := by simp [inv.accepting, nacking]
      refine accounted_beginDrain inv.pooled stopped fun task message found => ?_
      have account := inv.accounts task message found
      rw [nacking] at account
      exact account.moveOn nofun nofun nofun .rfl .rfl nofun nofun
    next nacking =>
      exact inv.nackQueued nacking
    next nacking =>
      have stopped : pool.running = false := by simp [inv.accepting, nacking]
      refine accounted_clear inv.pooled stopped (.inl rfl) fun task message found => ?_
      have account := inv.accounts task message found
      rw [nacking] at account
      exact account.moveOn nofun nofun nofun .rfl .rfl nofun fun _ => rfl
    next nacking =>
      exact inv.nackPending nacking
  | cancelStop =>
    have called : pool.stopping ≠ .notCalled := fun early => by
      simp [step, early] at taken
    have stopped : pool.running = false := by simp [inv.accepting, called]
    simp only [step] at taken
    split at taken <;> cases taken
    exact accounted_clear inv.pooled stopped (.inr rfl) fun task message found =>
      (inv.accounts task message found).stopCancelled called

end

/-- `stop` can return by its own steps alone. -/
def CanReturn (pool : AsyncWorkerPool) : Prop :=
  ∃ actions final, Run step pool actions final ∧ final.stopping = .returned ∧
    ∀ action ∈ actions, action = .waitEnds ∨ action = .nackNext

theorem CanReturn.of_step (taken : pool.step action = some pool')
    (own : action = .waitEnds ∨ action = .nackNext) (later : pool'.CanReturn) : pool.CanReturn := by
  obtain ⟨actions, final, run, returned, rest⟩ := later
  refine ⟨action :: actions, final, (RunWithin.snoc .nil trivial taken).append run, returned, ?_⟩
  exact forall_mem_cons.mpr ⟨own, rest⟩

theorem canReturn_of_returned (returned : pool.stopping = .returned) : pool.CanReturn :=
  ⟨[], pool, .nil, returned, nofun⟩

theorem canReturn_of_nackingPending {pool : AsyncWorkerPool}
    (nacking : pool.stopping = .nackingPending pending) : pool.CanReturn := by
  induction pending generalizing pool with
  | nil =>
    have taken : pool.step .nackNext = some (pool.clear .returned) := by simp [step, nacking]
    exact .of_step taken (.inr rfl) (canReturn_of_returned rfl)
  | cons task rest ih =>
    have taken : pool.step .nackNext =
        some { pool with messages := pool.nack task, stopping := .nackingPending rest } := by
      simp [step, nacking]
    exact .of_step taken (.inr rfl) (ih rfl)

theorem canReturn_of_joiningPending
    (joining : pool.stopping = .joiningPending pending) : pool.CanReturn := by
  have taken : pool.step .waitEnds = some { pool with stopping := .nackingPending pending } := by
    simp [step, joining]
  exact .of_step taken (.inl rfl) (canReturn_of_nackingPending rfl)

theorem canReturn_of_draining (draining : pool.stopping = .draining tasks) : pool.CanReturn := by
  have taken : pool.step .waitEnds = some (pool.endDrain tasks) := by simp [step, draining]
  refine .of_step taken (.inl rfl) ?_
  unfold endDrain
  dsimp only
  split
  · exact canReturn_of_returned rfl
  · exact canReturn_of_joiningPending rfl

theorem canReturn_beginDrain (pool : AsyncWorkerPool) : pool.beginDrain.CanReturn := by
  unfold beginDrain
  dsimp only
  split
  · exact canReturn_of_returned rfl
  · exact canReturn_of_draining rfl

theorem canReturn_of_nackingQueued {queued : List Nat} {pool : AsyncWorkerPool}
    (nacking : pool.stopping = .nackingQueued queued) : pool.CanReturn := by
  induction queued generalizing pool with
  | nil =>
    have taken : pool.step .nackNext = some pool.beginDrain := by simp [step, nacking]
    exact .of_step taken (.inr rfl) (canReturn_beginDrain pool)
  | cons task rest ih =>
    have taken : pool.step .nackNext =
        some { pool with messages := pool.nack task, stopping := .nackingQueued rest } := by
      simp [step, nacking]
    exact .of_step taken (.inr rfl) (ih rfl)

theorem canReturn_of_called (called : pool.stopping ≠ .notCalled)
    (going : pool.stopping ≠ .cancelled) : pool.CanReturn := by
  cases stopping : pool.stopping with
  | notCalled => exact absurd stopping called
  | joiningQueued queued =>
    have taken : pool.step .waitEnds = some { pool with stopping := .nackingQueued queued } := by
      simp [step, stopping]
    exact .of_step taken (.inl rfl) (canReturn_of_nackingQueued rfl)
  | nackingQueued => exact canReturn_of_nackingQueued stopping
  | draining => exact canReturn_of_draining stopping
  | joiningPending => exact canReturn_of_joiningPending stopping
  | nackingPending => exact canReturn_of_nackingPending stopping
  | returned => exact canReturn_of_returned stopping
  | cancelled => exact absurd stopping going

/-- Each callback that has been started later on had been started before. -/
def StartsNothing (pool pool' : AsyncWorkerPool) : Prop :=
  ∀ (task : Nat) (message : PooledMessage), pool'.messages[task]? = some message →
    message.started = true →
      ∃ before : PooledMessage, pool.messages[task]? = some before ∧ before.started = true

/-- A state in which nothing is lost: the pool nacks a message at most once, one whose
callback was started only after its handler was cancelled, and one whose callback was not
started never starts after that; a `stop` that is under way can return; once it has
returned each message was started or nacked, and each that a cancelled handler left
unsettled was nacked, also the messages submitted later, and no step starts a callback. -/
structure HandsBack (pool : AsyncWorkerPool) : Prop where
  once : ∀ message ∈ pool.messages, message.nacks ≤ 1
  late : ∀ message ∈ pool.messages, message.started = true → message.nacks = 1 →
    message.cancelled = true
  neverBoth : ∀ task message, pool.messages[task]? = some message → message.nacks = 1 →
    pool.step (.begins task) = none
  refused : pool.stopping ≠ .notCalled →
    pool.submitted.started = false ∧ pool.submitted.nacks = 1
  returns : pool.stopping ≠ .notCalled → pool.stopping ≠ .cancelled → pool.CanReturn
  handedBack : pool.stopping = .returned → ∀ message ∈ pool.messages,
    message.started = true ∨ message.nacks = 1
  abandoned : pool.stopping = .returned → ∀ message ∈ pool.messages,
    message.started = true → message.cancelled = true → message.settledByHandler = false →
      message.nacks = 1
  closed : pool.stopping = .returned → ∀ (action : PoolAction) (pool' : AsyncWorkerPool),
    pool.step action = some pool' → pool'.stopping = .returned ∧ pool.StartsNothing pool'

theorem Accounted.submitted_eq (inv : pool.Accounted) (called : pool.stopping ≠ .notCalled) :
    pool.submitted = { phase := .done, nacks := 1, tracked := false } := by
  simp [submitted, inv.pooled, inv.accepting, called]

theorem begins_eq_none
    (blocked : ∀ message, pool.messages[task]? = some message → message.phase = .queued →
      message.cancelled = true) : pool.step (.begins task) = none := by
  refine eq_none_iff_forall_not_mem.mpr fun pool' taken => ?_
  simp only [step] at taken
  split at taken
  · obtain ⟨message, found, enabled, -⟩ := change_eq_some taken
    obtain ⟨queued, allowed⟩ := of_decide_eq_true enabled
    cases allowed.symm.trans (blocked message found queued)
  · cases taken

theorem startsNothing_of_change {changed : PooledMessage → PooledMessage}
    (taken : pool.change task enabled changed = some pool')
    (kept : ∀ message, (changed message).started = message.started) :
    pool'.stopping = pool.stopping ∧ pool.StartsNothing pool' := by
  obtain ⟨before, found, -, rfl⟩ := change_eq_some taken
  refine ⟨rfl, fun other message located started => ?_⟩
  rcases getElem?_of_moved found located with ⟨rfl, rfl⟩ | ⟨-, located⟩
  · exact ⟨before, found, (kept before).symm.trans started⟩
  · exact ⟨message, located, started⟩

theorem Accounted.closed (inv : pool.Accounted) (returned : pool.stopping = .returned)
    (taken : pool.step action = some pool') :
    pool'.stopping = .returned ∧ pool.StartsNothing pool' := by
  have called : pool.stopping ≠ .notCalled := by simp [returned]
  cases action with
  | submit =>
    cases taken
    refine ⟨returned, fun task message located started => ?_⟩
    rcases getElem?_of_joined located with located | ⟨-, rfl⟩
    · exact ⟨message, located, started⟩
    · simp [inv.submitted_eq called] at started
  | begins task =>
    have blocked : pool.step (.begins task) = none := begins_eq_none fun message found queued =>
        (inv.accounts task message found).blocked called queued
    cases blocked.symm.trans taken
  | settles task | finishes task | unwinds task | taskDone task =>
    exact returned ▸ startsNothing_of_change taken fun _ => rfl
  | stop =>
    simp only [AsyncWorkerPool.step, if_pos (.inr returned : _ ∨ _)] at taken
    cases (inv.beginStop_again returned ▸ taken : some pool = some pool')
    exact ⟨returned, fun task message located started => ⟨message, located, started⟩⟩
  | waitEnds | nackNext | cancelStop => simp [AsyncWorkerPool.step, returned] at taken

theorem Accounted.handsBack (inv : pool.Accounted) : pool.HandsBack where
  once message member := by
    obtain ⟨task, found⟩ := mem_iff_getElem?.mp member
    exact (inv.accounts task message found).once
  late message member := by
    obtain ⟨task, found⟩ := mem_iff_getElem?.mp member
    exact (inv.accounts task message found).late
  neverBoth task message found nacked := by
    refine begins_eq_none fun other same queued => ?_
    obtain rfl : message = other := some.inj (found.symm.trans same)
    have account := inv.accounts task message found
    refine account.blocked (fun early => ?_) queued
    rw [early] at account
    rcases account.before_stop with rfl | ⟨_, _, _, _, rfl⟩ <;> cases nacked
  refused called := by simp [inv.submitted_eq called]
  returns := canReturn_of_called
  handedBack returned message member := by
    obtain ⟨task, found⟩ := mem_iff_getElem?.mp member
    exact (returned ▸ inv.accounts task message found).startedOrNacked
  abandoned returned message member := by
    obtain ⟨task, found⟩ := mem_iff_getElem?.mp member
    exact (returned ▸ inv.accounts task message found).nacked_of_unsettled
  closed returned _ _ taken := inv.closed returned taken

/-- Whatever the schedule, a started pool of at least two workers hands everything back
when it is stopped. -/
theorem stop_hands_back {workerCount : Nat} {actions : List PoolAction}
    (several : 2 ≤ workerCount) (run : Run step (start workerCount) actions pool) :
    pool.HandsBack := by
  have pooled : start workerCount =
      { workerCount := workerCount, semaphore := true, running := true } :=
    if_neg (by omega)
  have initial : (start workerCount).Accounted := by
    rw [pooled]
    refine ⟨rfl, rfl, ⟨nodup_nil, nodup_nil⟩, ?_, nofun, nofun⟩
    rintro task (listed | listed) <;> cases listed
  exact (run.invariant (fun held _ taken => held.step taken) initial).handsBack

/-- Of three messages in two slots, one is settled by its handler, one is nacked when its
handler outlasts the drain timeout, and one is released without having been started. -/
theorem stop_hands_back_three : ∃ pool, Run step (start 2)
        [.submit, .submit, .submit, .begins 0, .begins 1, .stop, .unwinds 2, .waitEnds,
          .nackNext, .nackNext, .settles 0, .finishes 0, .waitEnds, .waitEnds, .nackNext,
          .nackNext] pool ∧ pool.stopping = .returned ∧
      pool.messages.map (·.started) = [true, true, false] ∧
      pool.messages.map (·.nacks) = [0, 1, 1] ∧ pool.HandsBack := by
  refine exists_runWithin_of_check
    (fun pool => decide (pool.stopping = .returned ∧ pool.messages.map (·.started) =
    [true, true, false] ∧ pool.messages.map (·.nacks) = [0, 1, 1])) (by decide)
    fun pool run checked => ?_
  obtain ⟨returned, started, nacked⟩ := of_decide_eq_true checked
  exact ⟨returned, started, nacked, stop_hands_back le_rfl run⟩

/-- With one worker `submit` runs the callback itself, also after `stop` has returned; and a
`stop` cancelled in its wait leaves a released message without a nack. -/
theorem stop_hands_back_needs_pool :
    (∃ pool pool', Run step (start 1) [.stop] pool ∧ pool.stopping = .returned ∧
      pool.step .submit = some pool' ∧ pool.messages = [] ∧
      pool'.messages.map (·.started) = [true]) ∧
    ∃ pool, Run step (start 2) [.submit, .stop, .cancelStop] pool ∧
      pool.messages.map (·.started) = [false] ∧ pool.messages.map (·.nacks) = [0] ∧
      pool.step (.begins 0) = none := by
  refine ⟨⟨_, _, run_of_execute rfl, rfl, rfl, rfl, rfl⟩, ?_⟩
  exact ⟨_, run_of_execute rfl, rfl, rfl, rfl⟩

end AsyncWorkerPool
end RabbitKit
