import RabbitKit.LabelledRun

/-! # The daemon worker pool of the sync broker

`_DaemonWorkerPool` starts a thread at a submit only when no worker counts as idle.  A
worker counts as idle from before it waits for work until after it has taken some, so
one idle worker can be counted by several submits, and by a submit that comes after it
took its task.  The model is the pool before `shutdown`.
-/

namespace RabbitKit

open LabelledRun List Nat

/-- Where a worker thread stands: at the top of its loop, waiting (from here on it
counts as idle), back from a wait without work or with a task, or running one. -/
inductive DaemonWorker (Task : Type*)
  | starting
  | waiting
  | emptied
  | took (task : Task)
  | running (task : Task)
  deriving DecidableEq

/-- `adjusting` counts the `submit` calls between their `put` and their
`_adjust_thread_count`. -/
structure DaemonWorkerPool (Task : Type*) where
  maxWorkers : Nat
  maxQueueSize : Nat := 0
  work : List Task := []
  threads : List (DaemonWorker Task) := []
  idleCount : Nat := 0
  adjusting : Nat := 0
  deriving DecidableEq

inductive DaemonAction (Task : Type*)
  | put (task : Task)
  | adjustThreadCount
  | markIdle (worker : Nat)
  | take (worker : Nat)
  | waitEnds (worker : Nat)
  | unmarkIdle (worker : Nat)
  | finish (worker : Nat)
  deriving DecidableEq

variable {Task : Type*}

def DaemonWorker.aboutToTake : DaemonWorker Task → Bool
  | .starting | .waiting | .emptied => true
  | .took _ | .running _ => false

namespace DaemonWorkerPool

def move (pool : DaemonWorkerPool Task) (worker : Nat) (moved : DaemonWorker Task) :
    DaemonWorkerPool Task :=
  { pool with threads := pool.threads.set worker moved }

/-- A full queue blocks `put`; a wait ends without work only on an empty queue. -/
def step (pool : DaemonWorkerPool Task) : DaemonAction Task → Option (DaemonWorkerPool Task)
  | .put task =>
    if pool.maxQueueSize = 0 ∨ pool.work.length < pool.maxQueueSize then
      some { pool with work := pool.work ++ [task], adjusting := pool.adjusting + 1 }
    else none
  | .adjustThreadCount =>
    if pool.adjusting = 0 then none
    else if 0 < pool.idleCount ∨ pool.maxWorkers ≤ pool.threads.length then
      some { pool with adjusting := pool.adjusting - 1 }
    else
      some { pool with
        threads := pool.threads ++ [.starting]
        adjusting := pool.adjusting - 1 }
  | .markIdle worker =>
    match pool.threads[worker]? with
    | some .starting => some { pool.move worker .waiting with idleCount := pool.idleCount + 1 }
    | _ => none
  | .take worker =>
    match pool.threads[worker]?, pool.work with
    | some .waiting, task :: rest => some { pool.move worker (.took task) with work := rest }
    | _, _ => none
  | .waitEnds worker =>
    match pool.threads[worker]?, pool.work with
    | some .waiting, [] => some (pool.move worker .emptied)
    | _, _ => none
  | .unmarkIdle worker =>
    match pool.threads[worker]? with
    | some .emptied => some { pool.move worker .starting with idleCount := pool.idleCount - 1 }
    | some (.took task) =>
      some { pool.move worker (.running task) with idleCount := pool.idleCount - 1 }
    | _ => none
  | .finish worker =>
    match pool.threads[worker]? with
    | some (.running _) => some (pool.move worker .starting)
    | _ => none

def available (pool : DaemonWorkerPool Task) : Nat :=
  weigh (fun worker => if worker.aboutToTake then 1 else 0) pool.threads

/-- A submit that starts no thread because some worker counts as idle leaves enough
workers for the work that is queued, the other submits under way counted in. -/
def IdleSuffices (pool : DaemonWorkerPool Task) : DaemonAction Task → Prop
  | .adjustThreadCount => 0 < pool.idleCount → pool.threads.length < pool.maxWorkers →
      pool.work.length ≤ pool.available + (pool.adjusting - 1)
  | _ => True

instance (pool : DaemonWorkerPool Task) : DecidablePred pool.IdleSuffices := fun action => by
  unfold IdleSuffices
  split <;> infer_instance

variable {pool pool' : DaemonWorkerPool Task} {action : DaemonAction Task} {worker : Nat}
  {before after : DaemonWorker Task}

/-- The pool is at its limit, or each queued task has a worker to come for it or a submit
still to look after it. -/
structure Covered (pool : DaemonWorkerPool Task) : Prop where
  limited : pool.threads.length ≤ pool.maxWorkers
  covered : pool.threads.length = pool.maxWorkers ∨
    pool.work.length ≤ pool.available + pool.adjusting

theorem available_move (after : DaemonWorker Task) (found : pool.threads[worker]? = some before) :
    (pool.move worker after).available + (if before.aboutToTake then 1 else 0) =
      pool.available + (if after.aboutToTake then 1 else 0) :=
  weigh_set _ after found

section

variable (inv : pool.Covered)
include inv

theorem Covered.move (after : DaemonWorker Task) (found : pool.threads[worker]? = some before)
    (kept : before.aboutToTake = true → after.aboutToTake = true) :
    (pool.move worker after).Covered := by
  have moved := available_move after found
  have more : pool.available ≤ (pool.move worker after).available := by
    cases was : before.aboutToTake <;> simp [was, kept] at moved <;> omega
  refine ⟨by simpa [DaemonWorkerPool.move] using inv.limited, ?_⟩
  rcases inv.covered with full | enough
  · exact .inl (by simpa [DaemonWorkerPool.move] using full)
  · exact .inr (le_trans enough (Nat.add_le_add_right more _))

theorem Covered.take {task : Task} {rest : List Task}
    (found : pool.threads[worker]? = some .waiting) (work : pool.work = task :: rest) :
    ({ pool.move worker (.took task) with work := rest } : DaemonWorkerPool Task).Covered := by
  have moved := available_move (.took task) found
  simp only [DaemonWorker.aboutToTake, if_true, Bool.false_eq_true, if_false] at moved
  refine ⟨by simpa [DaemonWorkerPool.move] using inv.limited, ?_⟩
  rcases inv.covered with full | enough
  · exact .inl (by simpa [DaemonWorkerPool.move] using full)
  · rw [work, length_cons] at enough
    refine .inr ?_
    change rest.length ≤ (pool.move worker (.took task)).available + pool.adjusting
    omega

theorem Covered.adjust (suffice : pool.IdleSuffices .adjustThreadCount)
    (taken : pool.step .adjustThreadCount = some pool') : pool'.Covered := by
  simp only [step] at taken
  split at taken
  · cases taken
  next submitting =>
    split at taken
    next kept =>
      cases taken
      refine ⟨inv.limited, ?_⟩
      by_cases full : pool.maxWorkers ≤ pool.threads.length
      · exact .inl (le_antisymm inv.limited full)
      · exact .inr (suffice (kept.resolve_right full) (Nat.lt_of_not_le full))
    next starts =>
      cases taken
      have room : pool.threads.length < pool.maxWorkers := by omega
      refine ⟨by simpa using succ_le_of_lt room, .inr ?_⟩
      have enough := inv.covered.resolve_left (Nat.ne_of_lt room)
      have added : ({ pool with
          threads := pool.threads ++ [.starting]
          adjusting := pool.adjusting - 1 } : DaemonWorkerPool Task).available =
            pool.available + 1 := by
        simp [available, weigh, DaemonWorker.aboutToTake]
      rw [added]
      change pool.work.length ≤ pool.available + 1 + (pool.adjusting - 1)
      omega

theorem Covered.step (admitted : pool.IdleSuffices action)
    (taken : pool.step action = some pool') : pool'.Covered := by
  cases action <;> simp only [step] at taken
  case put task =>
    split at taken <;> cases taken
    refine ⟨inv.limited, inv.covered.imp_right fun enough => ?_⟩
    rw [length_append, length_singleton]
    exact succ_le_succ enough
  case adjustThreadCount => exact inv.adjust admitted taken
  case markIdle worker =>
    split at taken <;> cases taken
    rename_i found
    have moved := inv.move .waiting found fun _ => rfl
    exact ⟨moved.limited, moved.covered⟩
  case take worker =>
    split at taken <;> cases taken
    rename_i found work
    exact inv.take found work
  case waitEnds worker =>
    split at taken <;> cases taken
    rename_i found _
    exact inv.move _ found fun _ => rfl
  case unmarkIdle worker =>
    split at taken <;> cases taken
    next found =>
      have moved := inv.move .starting found fun _ => rfl
      exact ⟨moved.limited, moved.covered⟩
    next task found =>
      have moved := inv.move (.running task) found nofun
      exact ⟨moved.limited, moved.covered⟩
  case finish worker =>
    split at taken <;> cases taken
    rename_i found
    exact inv.move _ found fun _ => rfl

end

def Waits (pool : DaemonWorkerPool Task) : Prop :=
  pool.work ≠ [] ∧ pool.adjusting = 0 ∧ ∀ worker ∈ pool.threads, worker.aboutToTake = false

instance : Decidable pool.Waits := by
  unfold Waits
  infer_instance

theorem available_eq_zero (busy : ∀ worker ∈ pool.threads, worker.aboutToTake = false) :
    pool.available = 0 := by
  unfold available
  generalize pool.threads = threads at busy
  induction threads with
  | nil => rfl
  | cons first rest ih =>
    have others := ih fun worker member => busy worker (mem_cons_of_mem _ member)
    simp [weigh, busy first mem_cons_self, others]

/-- No task waits behind running ones while the pool could start a thread, in every
interleaving of submits and workers in which an idle count that keeps a submit from
starting a thread stands for enough workers. -/
theorem no_stranded_task {maxWorkers maxQueueSize : Nat} {actions : List (DaemonAction Task)}
    (run : RunWithin step IdleSuffices
      { maxWorkers := maxWorkers, maxQueueSize := maxQueueSize } actions pool)
    (waits : pool.Waits) : pool.threads.length = pool.maxWorkers := by
  have start : ({ maxWorkers := maxWorkers, maxQueueSize := maxQueueSize } :
      DaemonWorkerPool Task).Covered := ⟨by simp, .inr (by simp)⟩
  have inv := run.invariant (fun held admitted taken => held.step admitted taken) start
  obtain ⟨queued, done, busy⟩ := waits
  refine inv.covered.resolve_right fun enough => ?_
  rw [available_eq_zero busy, done] at enough
  exact queued (length_eq_zero_iff.mp (le_zero.mp enough))

theorem no_stranded_task_full :
    ∃ pool : DaemonWorkerPool Nat, RunWithin step IdleSuffices { maxWorkers := 2 }
        [.put 0, .adjustThreadCount, .markIdle 0, .take 0, .unmarkIdle 0, .put 1,
          .adjustThreadCount, .markIdle 1, .take 1, .unmarkIdle 1, .put 2,
          .adjustThreadCount] pool ∧ pool.Waits ∧ pool.threads.length = pool.maxWorkers := by
  refine exists_runWithin_of_check (fun pool => decide pool.Waits) (by decide)
    fun pool run checked => ?_
  have waits := of_decide_eq_true checked
  exact ⟨waits, no_stranded_task run waits⟩

/-- Two submits count the same idle worker: it takes the first task, and the second waits
behind it though the pool could start a second thread. -/
theorem stranded_task : ∃ pool : DaemonWorkerPool Nat, Run step { maxWorkers := 2 }
        [.put 0, .adjustThreadCount, .markIdle 0, .take 0, .unmarkIdle 0, .finish 0,
          .markIdle 0, .put 1, .adjustThreadCount, .put 2, .adjustThreadCount, .take 0,
          .unmarkIdle 0] pool ∧
      pool.Waits ∧ pool.threads = [.running 1] ∧ pool.threads.length < pool.maxWorkers :=
  exists_runWithin_of_decide (by decide)

end DaemonWorkerPool

namespace DaemonWorker

def idle : DaemonWorker Task → Nat
  | .waiting | .emptied | .took _ => 1
  | .starting | .running _ => 0

/-- The task a worker has in hand. -/
def tasks : DaemonWorker Task → List Task
  | .took task | .running task => [task]
  | .starting | .waiting | .emptied => []

end DaemonWorker

namespace DaemonAction

def submits : DaemonAction Task → List Task
  | .put task => [task]
  | _ => []

def finishes : DaemonAction Task → Nat
  | .finish _ => 1
  | _ => 0

end DaemonAction

namespace DaemonWorkerPool

variable {pool pool' : DaemonWorkerPool Task} {action : DaemonAction Task} {worker : Nat}
  {before : DaemonWorker Task}

/-- What has left the queue is the beginning of what was submitted, and each task of it is finished
or in the hands of a worker. -/
structure Served (maxWorkers : Nat) (actions : List (DaemonAction Task))
    (pool : DaemonWorkerPool Task) : Prop where
  limit : pool.maxWorkers = maxWorkers
  limited : pool.threads.length ≤ maxWorkers
  idle : pool.idleCount = weigh DaemonWorker.idle pool.threads
  order : ∃ served finished, actions.flatMap DaemonAction.submits = served ++ pool.work ∧
    served.Perm (finished ++ pool.threads.flatMap DaemonWorker.tasks) ∧
    finished.length = weigh DaemonAction.finishes actions

section

variable {maxWorkers : Nat} {actions : List (DaemonAction Task)}
  (served : Served maxWorkers actions pool)
include served

theorem Served.moved {idleCount : Nat} {work : List Task} (after : DaemonWorker Task)
    (taken done : List Task) (found : pool.threads[worker]? = some before)
    (silent : action.submits = []) (takes : pool.work = taken ++ work)
    (finishes : done.length = action.finishes)
    (idle : idleCount = pool.idleCount + after.idle - before.idle)
    (hands : done ++ after.tasks = before.tasks ++ taken) :
    Served maxWorkers (actions ++ [action])
      { pool.move worker after with work := work, idleCount := idleCount } := by
  obtain ⟨first, finished, order, perm, count⟩ := served.order
  have idleMoved := weigh_set DaemonWorker.idle after found
  have wasIdle := served.idle
  refine ⟨served.limit, ?_, ?_, ⟨first ++ taken, finished ++ done, ?_, ?_, ?_⟩⟩
  · simpa [move] using served.limited
  · simp only [move]
    omega
  · simp [order, silent, takes]
  · rw [append_assoc]
    refine (perm.append_right taken).trans ?_
    rw [append_assoc]
    exact (flatMap_set_perm found hands).symm.append_left finished
  · simp [count, finishes, weigh]

theorem Served.step (stepped : pool.step action = some pool') :
    Served maxWorkers (actions ++ [action]) pool' := by
  obtain ⟨first, finished, order, perm, count⟩ := served.order
  cases action <;> simp only [DaemonWorkerPool.step] at stepped
  case put task =>
    split at stepped <;> cases stepped
    refine ⟨served.limit, served.limited, served.idle, ⟨first, finished, ?_, perm, ?_⟩⟩
    · simp [order, DaemonAction.submits]
    · simp [count, weigh, DaemonAction.finishes]
  case adjustThreadCount =>
    have limit := served.limit
    have limited := served.limited
    split at stepped
    · cases stepped
    split at stepped <;> cases stepped
    all_goals
      refine ⟨limit, ?_, ?_, ⟨first, finished, ?_, ?_, ?_⟩⟩
      · simp
        omega
      · simpa [weigh, DaemonWorker.idle] using served.idle
      · simpa [DaemonAction.submits] using order
      · simpa [DaemonWorker.tasks] using perm
      · simpa [weigh, DaemonAction.finishes] using count
  case take worker =>
    split at stepped <;> cases stepped
    next task rest found work =>
      exact served.moved (.took task) [task] [] found rfl work rfl rfl rfl
  case markIdle worker =>
    split at stepped <;> cases stepped
    next found =>
      exact served.moved .waiting [] [] found rfl rfl rfl rfl rfl
  case waitEnds worker =>
    split at stepped <;> cases stepped
    next found empty =>
      exact served.moved .emptied [] [] found rfl rfl rfl rfl rfl
  case unmarkIdle worker =>
    split at stepped <;> cases stepped
    next found =>
      exact served.moved .starting [] [] found rfl rfl rfl rfl rfl
    next task found =>
      exact served.moved (.running task) [] [] found rfl rfl rfl rfl rfl
  case finish worker =>
    split at stepped <;> cases stepped
    next task found =>
      exact served.moved .starting [] [task] found rfl rfl rfl rfl rfl

end

/-- In every interleaving of submits and workers the pool stays within its limit, its idle count
is right, and the tasks leave the queue in the order of submission, none lost or handed out twice:
each is then finished or in the hands of one worker. -/
theorem tasks_served_in_order {maxWorkers maxQueueSize : Nat} {actions : List (DaemonAction Task)}
    (run : Run step { maxWorkers := maxWorkers, maxQueueSize := maxQueueSize } actions pool) :
    Served maxWorkers actions pool := by
  induction run with
  | nil => exact ⟨rfl, Nat.zero_le _, rfl, ⟨[], [], rfl, .nil, rfl⟩⟩
  | snoc _ _ stepped ih => exact ih.step stepped

/-- One worker has finished the first of three tasks and runs the second. -/
theorem tasks_served_in_order_three : ∃ pool : DaemonWorkerPool Nat,
    Run step { maxWorkers := 1 } [.put 0, .adjustThreadCount, .markIdle 0, .take 0, .unmarkIdle 0,
      .put 1, .put 2, .finish 0, .markIdle 0, .take 0, .unmarkIdle 0] pool ∧
      pool.work = [2] ∧ pool.threads.length ≤ 1 ∧ pool.idleCount = 0 :=
  exists_runWithin_of_check (fun pool => decide (pool.work = [2] ∧ pool.threads = [.running 1]))
    (by decide) fun pool run checked => by
      obtain ⟨work, threads⟩ := of_decide_eq_true checked
      have served := tasks_served_in_order run
      exact ⟨work, served.limited, served.idle.trans (by rw [threads]; rfl)⟩

end DaemonWorkerPool
end RabbitKit
