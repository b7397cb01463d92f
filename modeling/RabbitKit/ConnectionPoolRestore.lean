import RabbitKit.ConnectionPoolControl

/-! # Restoring the publisher connection

A rebuild that cannot connect leaves the publisher connection missing and schedules a task that
restores it, unless one is under way.  While the pool is neither closed nor given up, a missing
connection is therefore being created by a rebuild or has a restore task that will try again;
and a connection is replaced at most once, however many acquires fail on it.
-/

namespace RabbitKit

open LabelledRun AsyncConnectionPool PoolStage PoolResources Option List Nat

namespace AsyncConnectionPool

variable {pool pool' base : AsyncConnectionPool} {task : Nat} {before stage : PoolStage}
variable {action : ConnectionPoolAction} {creator : Bool}

def Restoring (pool : AsyncConnectionPool) : Prop :=
  ∃ (task : Nat) (stage : PoolStage), pool.restoreTask = some task ∧
    pool.tasks[task]? = some stage ∧ stage.restores = true

def Attended (pool : AsyncConnectionPool) : Prop :=
  pool.resources.publisherConnection.isSome = true ∨ pool.terminal = true ∨
    (∃ (task : Nat) (stage : PoolStage), pool.tasks[task]? = some stage ∧ stage.rebuilds = true) ∨
    Restoring pool

def Minded (pool : AsyncConnectionPool) : Prop :=
  pool.closing = true ∨
    (∀ {task : Nat} {stage : PoolStage}, pool.tasks[task]? = some stage → stage.closes = false) ∧
      Attended pool

def MindedBy (pool : AsyncConnectionPool) (task : Nat) (before : PoolStage) : Prop :=
  pool.closing = true ∨
    (∀ {task : Nat} {stage : PoolStage}, pool.tasks[task]? = some stage → stage.closes = false) ∧
      (pool.resources.publisherConnection.isSome = true ∨ pool.terminal = true ∨
        (∃ (other : Nat) (stage : PoolStage), task ≠ other ∧ pool.tasks[other]? = some stage ∧
          stage.rebuilds = true) ∨
        Restoring pool ∨ before.rebuilds = true)

section

variable (minded : Minded pool)
include minded

theorem MindedBy.of_found (found : pool.tasks[task]? = some before)
    (tasks : base.tasks = pool.tasks) (restoreTask : base.restoreTask = pool.restoreTask)
    (closing : base.closing = pool.closing)
    (connected : pool.resources.publisherConnection.isSome = true →
      base.resources.publisherConnection.isSome = true)
    (terminal : pool.terminal = true → base.terminal = true) : MindedBy base task before := by
  rcases minded with closed | ⟨noCloser, attended⟩
  · exact .inl (closing.trans closed)
  · refine .inr ⟨fun located => noCloser (tasks ▸ located), ?_⟩
    rcases attended with held | given | ⟨other, stage, located, rebuilds⟩ |
      ⟨other, stage, known, located, still⟩
    · exact .inl (connected held)
    · exact .inr (.inl (terminal given))
    · by_cases same : task = other
      · subst same
        cases some.inj (found.symm.trans located)
        exact .inr (.inr (.inr (.inr rebuilds)))
      · exact .inr (.inr (.inl ⟨other, stage, same, tasks ▸ located, rebuilds⟩))
    · exact .inr (.inr (.inr (.inl
        ⟨other, stage, restoreTask.trans known, tasks ▸ located, still⟩)))

theorem Minded.closing (found : pool.tasks[task]? = some before)
    (closer : before.closes = true) : pool.closing = true := by
  rcases minded with closed | ⟨noCloser, _⟩
  · exact closed
  · rw [noCloser found] at closer
    cases closer

theorem MindedBy.of_joined (tasks : base.tasks = pool.tasks ++ [.done])
    (same : base = { pool with tasks := base.tasks }) : MindedBy base pool.tasks.length .done := by
  rw [same, tasks]
  have kept : ∀ {other : Nat} {stage : PoolStage}, pool.tasks[other]? = some stage →
      (pool.tasks ++ [.done])[other]? = some stage := by
    intro other stage located
    have inBounds := (List.getElem?_eq_some_iff.mp located).1
    exact (getElem?_append_left inBounds).trans located
  rcases minded with closed | ⟨noCloser, attended⟩
  · exact .inl closed
  · refine .inr ⟨fun located => ?_, ?_⟩
    · rcases getElem?_of_joined located with stood | ⟨_, rfl⟩
      · exact noCloser stood
      · rfl
    · rcases attended with held | given | ⟨other, stage, located, rebuilds⟩ |
        ⟨other, stage, known, located, still⟩
      · exact .inl held
      · exact .inr (.inl given)
      · have different : pool.tasks.length ≠ other :=
          fun same => lt_irrefl _ (same ▸ (List.getElem?_eq_some_iff.mp located).1)
        exact .inr (.inr (.inl ⟨other, stage, different, kept located, rebuilds⟩))
      · exact .inr (.inr (.inr (.inl ⟨other, stage, known, kept located, still⟩)))

/-- Unless a rebuild has just given up the connection, it is minded as the task finds it. -/
theorem MindedBy.of_runs (notConnect : action ≠ .connect)
    (runs : Runs pool action base task before creator) :
    MindedBy base task before ∨ ∃ kind stale, before = .waiting (.rebuild kind stale) ∧
      action = .take task ∧ pool.lock = none ∧
      pool.tasks[task]? = some (.waiting (.rebuild kind stale)) ∧
      pool.resources.publisherConnection = stale := by
  cases runs with
  | calls called => exact .inl (.of_joined minded rfl rfl)
  | connects => exact absurd rfl notConnect
  | continues found | yieldsConsumer found | unwinds found =>
    exact .inl (.of_found minded found rfl rfl rfl id id)
  | takes free found => exact .inl (.of_found minded found rfl rfl rfl id id)
  | rebuilds free found same => exact .inr ⟨_, _, rfl, rfl, free, found, same⟩
  | yields found forPublisher =>
    exact .inl (.of_found minded found rfl rfl rfl (fun _ => rfl) id)
  | fails found later => exact .inl (.of_found minded found rfl rfl rfl id later)
  | proceeds found | breaksOff found => exact .inl (.inl (minded.closing found rfl))
  | givesUp found closer => exact .inl (.inl (minded.closing found closer))

end

theorem MindedBy.moves (minded : MindedBy base task before)
    (found : base.tasks[task]? = some before) (moved : pool'.tasks = base.tasks.set task stage)
    (restoreTask : pool'.restoreTask = base.restoreTask) (closing : pool'.closing = base.closing)
    (connection : pool'.resources.publisherConnection = base.resources.publisherConnection)
    (terminal : pool'.terminal = base.terminal) (noCloser : stage.closes = false)
    (rebuilt : before.rebuilds = true → Attended pool') (restores : before.restores = true →
      stage.restores = true ∨ pool'.closing = true ∨ Attended pool') : Minded pool' := by
  rcases minded with closed | ⟨others, attended⟩
  · exact .inl (closing.trans closed)
  · have open' : ∀ {other : Nat} {otherStage : PoolStage},
        pool'.tasks[other]? = some otherStage → otherStage.closes = false := by
      intro other otherStage located
      rw [moved] at located
      rcases getElem?_of_moved found located with ⟨_, rfl⟩ | ⟨_, stood⟩
      · exact noCloser
      · exact others stood
    rcases attended with held | given | ⟨other, otherStage, different, located, rebuilds⟩ |
      ⟨other, otherStage, known, located, still⟩ | rebuilds
    · exact .inr ⟨open', .inl (connection ▸ held)⟩
    · exact .inr ⟨open', .inr (.inl (terminal.trans given))⟩
    · refine .inr ⟨open', .inr (.inr (.inl ⟨other, otherStage, ?_, rebuilds⟩))⟩
      rw [moved, getElem?_set_ne different]
      exact located
    · by_cases same : task = other
      · subst same
        cases some.inj (found.symm.trans located)
        rcases restores still with kept | unneeded
        · have inBounds := (List.getElem?_eq_some_iff.mp found).1
          refine .inr ⟨open', .inr (.inr (.inr ⟨task, stage, restoreTask.trans known, ?_, kept⟩))⟩
          simp [moved, inBounds]
        · exact unneeded.imp_right fun attended => ⟨open', attended⟩
      · refine .inr ⟨open', .inr (.inr (.inr
          ⟨other, otherStage, restoreTask.trans known, ?_, still⟩))⟩
        rw [moved, getElem?_set_ne same]
        exact located
    · exact .inr ⟨open', rebuilt rebuilds⟩

theorem attended_scheduleRestore (controlled : Controlled pool) :
    pool.scheduleRestore.closing = true ∨ Attended pool.scheduleRestore := by
  unfold scheduleRestore
  split
  next unwanted =>
    exact ((Bool.or_eq_true _ _).mp unwanted).imp_right fun given => .inr (.inl given)
  · split
    next running =>
      obtain ⟨task, known, notEnded⟩ := (any_eq_true _ _).mp running
      obtain ⟨stage, located, kind⟩ := controlled.tracked known
      have still : stage.restores = true := by
        refine kind.resolve_left ?_
        rintro rfl
        exact of_decide_eq_true notEnded located
      exact .inr (.inr (.inr (.inr ⟨task, stage, known, located, still⟩)))
    · exact .inr (.inr (.inr (.inr ⟨pool.tasks.length, .scheduled, rfl, by simp [join], rfl⟩)))

theorem scheduleRestore_located {other : Nat}
    (located : pool.scheduleRestore.tasks[other]? = some stage) :
    pool.tasks[other]? = some stage ∨ stage = .scheduled := by
  revert located
  unfold scheduleRestore
  split
  · exact .inl
  · split
    · exact .inl
    · intro located
      exact (getElem?_of_joined located).imp_right fun last => last.2

theorem scheduleRestore_closing (pool : AsyncConnectionPool) :
    pool.scheduleRestore.closing = pool.closing := by
  unfold scheduleRestore
  split
  · rfl
  · split <;> rfl

theorem scheduleRestore_terminal (pool : AsyncConnectionPool) :
    pool.scheduleRestore.terminal = pool.terminal := by
  unfold scheduleRestore
  split
  · rfl
  · split <;> rfl

theorem MindedBy.schedules (minded : MindedBy base task before)
    (entered : Entered base task before) : Minded (base.setStage task .done).scheduleRestore := by
  rcases minded with closed | ⟨noCloser, _⟩
  · exact .inl ((scheduleRestore_closing _).trans closed)
  · have controlled : Controlled (base.setStage task .done) :=
      entered.moves rfl rfl rfl (by simp [holds]) (.inl rfl) (.inl rfl) entered.shut
    refine (attended_scheduleRestore controlled).imp_right fun attended => ⟨?_, attended⟩
    intro other stage located
    rcases scheduleRestore_located located with stood | rfl
    · rcases getElem?_of_moved entered.found stood with ⟨_, rfl⟩ | ⟨_, before⟩
      · rfl
      · exact noCloser before
    · rfl

theorem looked_publisherConnection {resources resources' : PoolResources}
    (looked : resources.Looked resources') :
    resources'.publisherConnection = resources.publisherConnection := by
  cases looked <;> rfl

theorem closes_of_restores (was : before.restores = true) : before.closes = false := by
  cases before with
  | waiting purpose =>
    cases purpose with
    | close => cases was
    | _ => rfl
  | closing phase => cases was
  | _ => rfl

theorem rebuilds_iff : before.rebuilds = true ↔ ∃ kind, before = .creating (.rebuild kind) := by
  constructor
  · intro creating
    cases before with
    | creating purpose =>
      cases purpose with
      | rebuild kind => exact ⟨kind, rfl⟩
      | get _ | connect | consumer _ => cases creating
    | _ => cases creating
  · rintro ⟨kind, rfl⟩
    rfl

theorem rebuilds_of_restores (was : before.restores = true) : before.rebuilds = false := by
  cases before with
  | creating purpose =>
    cases purpose with
    | rebuild _ => cases was
    | _ => rfl
  | _ => rfl

theorem Minded.of_outcome (minded : MindedBy base task before) (entered : Entered base task before)
    (outcome : Outcome base task before creator pool') : Minded pool' := by
  -- a task that closes the pool goes on only while the pool is being closed
  have closed : before.closes = true → base.closing = true := by
    intro closer
    rcases minded with closed | ⟨noCloser, _⟩
    · exact closed
    · rw [noCloser entered.found] at closer
      cases closer
  cases outcome with
  | rests looked plain other restored stale =>
    obtain ⟨_, _, notCloser⟩ := plain_iff.mp plain
    have kept := looked_publisherConnection looked
    refine minded.moves entered.found rfl rfl rfl kept rfl notCloser ?_ ?_
    · intro was
      exact .inl ((congrArg isSome kept).trans (restored was))
    · intro was
      cases other.symm.trans was
  | closesChannels other settled =>
    refine minded.moves entered.found rfl rfl rfl rfl rfl rfl ?_ ?_
    · intro was
      cases settled.symm.trans was
    · intro was
      cases other.symm.trans was
  | restores was still waits =>
    refine minded.moves entered.found rfl rfl rfl rfl rfl (closes_of_restores still) ?_
      fun _ => .inl still
    · intro rebuilds
      cases (rebuilds_of_restores was).symm.trans rebuilds
  | stops was unneeded =>
    refine minded.moves entered.found rfl rfl rfl rfl rfl rfl ?_ fun _ => .inr ?_
    · intro rebuilds
      cases (rebuilds_of_restores was).symm.trans rebuilds
    · rcases unneeded with connected | closing | given
      · exact .inr (.inl connected)
      · exact .inl closing
      · exact .inr (.inr (.inl given))
  | schedules other => exact minded.schedules entered
  | creates free possible same settled missing =>
    refine minded.moves entered.found rfl rfl rfl rfl rfl rfl ?_ fun was => .inl ?_
    · intro was
      cases settled.symm.trans was
    · exact same.symm.trans was
  | startsClose other => exact .inl rfl
  | closingPool _ closer | closingConnection _ closer | closed _ closer =>
    exact .inl (closed closer)

/-- A rebuild that gives up the connection creates another, unless all attempts have ended. -/
theorem Minded.detaches {kind : ChannelKind} {stale : Option Nat} (minded : Minded pool)
    (found : pool.tasks[task]? = some (.waiting (.rebuild kind stale)))
    (same : pool.resources.publisherConnection = stale)
    (taken : pool' = pool.takeLock task (.rebuild kind stale)) : Minded pool' := by
  simp only [takeLock, same, ne_eq, not_true_eq_false, ite_false] at taken
  subst taken
  have noCloser : ∀ {stage : PoolStage}, stage.closes = false → pool.closing = true ∨
      ∀ {other : Nat} {otherStage : PoolStage},
        (pool.tasks.set task stage)[other]? = some otherStage → otherStage.closes = false := by
    intro stage notCloser
    refine minded.imp_right fun held other otherStage located => ?_
    rcases getElem?_of_moved found located with ⟨_, rfl⟩ | ⟨_, stood⟩
    · exact notCloser
    · exact held.1 stood
  unfold beginCreate
  split
  next given =>
    rcases noCloser (show done.closes = false from rfl) with closed | others
    · exact .inl ((scheduleRestore_closing _).trans closed)
    · refine .inr ⟨fun located => ?_, .inr (.inl ((scheduleRestore_terminal _).trans given))⟩
      rcases scheduleRestore_located located with stood | rfl
      · exact others stood
      · rfl
  · have notCloser : (creating (.rebuild kind)).closes = false := rfl
    rcases noCloser notCloser with closed | others
    · exact .inl closed
    · have inBounds := (List.getElem?_eq_some_iff.mp found).1
      refine .inr ⟨others, .inr (.inr (.inl ⟨task, .creating (.rebuild kind), ?_, rfl⟩))⟩
      simp [setStage, inBounds]

theorem Minded.step (controlled : Controlled pool) (minded : Minded pool)
    (notConnect : action ≠ .connect) (taken : pool.step action = some pool') : Minded pool' := by
  cases stepped taken with
  | dies => exact minded
  | gaveUp => exact minded.imp_right fun held => ⟨held.1, .inr (.inl rfl)⟩
  | ran runs outcome builds =>
    rcases MindedBy.of_runs minded notConnect runs with found |
      ⟨kind, stale, rfl, rfl, free, located, same⟩
    · exact .of_outcome found (.of_runs controlled runs) outcome
    · exact minded.detaches located same (by simpa [step, free, located] using taken.symm)

/-- The connections that were replaced are different, and none of them is the current one. -/
structure Counted (pool : AsyncConnectionPool) : Prop where
  nodup : pool.replaced.Nodup
  current : ∀ {connection}, pool.resources.publisherConnection = some connection →
    connection < pool.resources.connections.length
  known : ∀ {connection}, connection ∈ pool.replaced →
    connection < pool.resources.connections.length ∧
      pool.resources.publisherConnection ≠ some connection

theorem Counted.of_same (counted : Counted pool) (replaced : pool'.replaced = pool.replaced)
    (length : pool'.resources.connections.length = pool.resources.connections.length)
    (connection : pool'.resources.publisherConnection = pool.resources.publisherConnection ∨
      pool'.resources.publisherConnection = none) : Counted pool' where
  nodup := replaced ▸ counted.nodup
  current := by
    intro other current
    rw [length]
    rcases connection with same | missing
    · exact counted.current (same ▸ current)
    · cases missing.symm.trans current
  known := by
    intro other member
    rw [replaced] at member
    obtain ⟨bounded, notCurrent⟩ := counted.known member
    refine ⟨length ▸ bounded, ?_⟩
    rcases connection with same | missing
    · exact same ▸ notCurrent
    · simp [missing]

theorem Counted.of_outcome (counted : Counted base)
    (outcome : Outcome base task before creator pool') : Counted pool' := by
  have length := outcome.connections
  cases outcome with
  | rests looked plain other restored stale =>
    exact counted.of_same rfl length (.inl (looked_publisherConnection looked))
  | schedules other =>
    refine counted.of_same ?_ length (.inl ?_)
    · unfold scheduleRestore
      split
      · rfl
      · split <;> rfl
    · rw [scheduleRestore_resources]
      rfl
  | closed other closer mine origin all => exact counted.of_same rfl length (.inr rfl)
  | _ => exact counted.of_same rfl length (.inl rfl)

theorem Counted.of_runs (counted : Counted pool)
    (runs : Runs pool action base task before creator) : Counted base := by
  cases runs with
  | rebuilds free found same =>
    rename_i stale
    refine ⟨?_, nofun, ?_⟩
    · refine nodup_append.mpr ⟨counted.nodup, by cases stale <;> simp, ?_⟩
      rintro connection member other current rfl
      exact (counted.known member).2 (same.trans (mem_toList.mp current))
    · intro connection member
      have length := detach_length pool.resources
      refine ⟨?_, by simp [detach]⟩
      rcases mem_append.mp member with old | current
      · exact length.symm ▸ (counted.known old).1
      · exact length.symm ▸ counted.current (same.trans (mem_toList.mp current))
  | yields found forPublisher =>
    refine ⟨counted.nodup, fun current => ?_, fun member => ⟨?_, ?_⟩⟩
    · cases some.inj current
      simp [install]
    · simpa [install] using lt_succ_of_lt (counted.known member).1
    · exact fun current => ne_of_gt (counted.known member).1 (some.inj current)
  | yieldsConsumer found =>
    refine ⟨counted.nodup, fun current => ?_, fun member => ⟨?_, (counted.known member).2⟩⟩
    · simpa [installConsumer] using lt_succ_of_lt (counted.current current)
    · simpa [installConsumer] using lt_succ_of_lt (counted.known member).1
  | proceeds found =>
    rename_i phase
    cases phase <;> exact counted.of_same rfl rfl (.inl rfl)
  | givesUp found closer =>
    exact counted.of_same rfl (abandonAll_length pool.resources)
      (.inr (abandonAll_publisherConnection pool.resources))
  | _ => exact counted.of_same rfl rfl (.inl rfl)

theorem Counted.step (counted : Counted pool) (taken : pool.step action = some pool') :
    Counted pool' := by
  cases stepped taken with
  | dies => exact counted.of_same rfl (length_modify ..) (.inl rfl)
  | gaveUp => exact counted.of_same rfl rfl (.inl rfl)
  | ran runs outcome builds => exact (counted.of_runs runs).of_outcome outcome

theorem counted_of_run {actions : List ConnectionPoolAction} (run : Run step {} actions pool) :
    Counted pool :=
  run.invariant (fun held _ taken => .step held taken) ⟨by simp, by simp, by simp⟩

/-- The restore task needs only its own steps and the lock to try again. -/
def TriesAgain (pool : AsyncConnectionPool) (task : Nat) : Prop :=
  ∃ actions pool', (∀ action ∈ actions, action = .wakes task ∨ action = .take task) ∧
    Run step pool.release actions pool' ∧
    pool'.tasks[task]? = some (.creating (.get .restore)) ∧ pool'.lock = some task

theorem triesAgain_of_waiting (missing : pool.resources.publisherConnection = none)
    (possible : pool.terminal = false)
    (found : pool.tasks[task]? = some (.waiting (.get .restore))) : TriesAgain pool task := by
  have inBounds := (List.getElem?_eq_some_iff.mp found).1
  refine ⟨[.take task], { pool.release with lock := some task }.setStage task
    (.creating (.get .restore)), by simp, .snoc .nil trivial ?_, ?_, rfl⟩
  · simp [step, release, found, takeLock, missing, beginCreate, possible]
  · simp [setStage, release, inBounds]

theorem TriesAgain.of_wakes (stage : PoolStage)
    (wakes : pool.release.step (.wakes task) = some (pool.release.setStage task stage))
    (later : TriesAgain (pool.setStage task stage) task) : TriesAgain pool task := by
  obtain ⟨actions, pool', own, run, creating, lock⟩ := later
  refine ⟨.wakes task :: actions, pool', ?_, ?_, creating, lock⟩
  · intro action member
    rcases mem_cons.mp member with rfl | rest
    · exact .inl rfl
    · exact own action rest
  · have first : Run step pool.release [.wakes task] (pool.release.setStage task stage) :=
      .snoc .nil trivial wakes
    exact first.append run

theorem triesAgain (missing : pool.resources.publisherConnection = none)
    (running : pool.closing = false) (possible : pool.terminal = false)
    (found : pool.tasks[task]? = some stage) (still : stage.restores = true)
    (notYet : stage ≠ .creating (.get .restore)) : TriesAgain pool task := by
  have inBounds := (List.getElem?_eq_some_iff.mp found).1
  have fromSleep : ∀ {pool : AsyncConnectionPool},
      pool.resources.publisherConnection = none → pool.closing = false →
      pool.terminal = false → pool.tasks[task]? = some .sleeping → TriesAgain pool task := by
    intro pool missing running possible found
    have inBounds := (List.getElem?_eq_some_iff.mp found).1
    refine .of_wakes (.waiting (.get .restore)) ?_ ?_
    · simp [step, release, found, missing, running]
    · exact triesAgain_of_waiting missing possible (by simp [setStage, inBounds])
  cases stage with
  | waiting purpose =>
    cases purpose with
    | get caller =>
      cases caller with
      | restore => exact triesAgain_of_waiting missing possible found
      | call | acquire _ | retry _ => cases still
    | getConsumer | connect | rebuild _ _ | replacement _ _ | close => cases still
  | creating purpose =>
    cases purpose with
    | get caller =>
      cases caller with
      | restore => exact absurd rfl notYet
      | call | acquire _ | retry _ => cases still
    | connect | rebuild _ | consumer _ => cases still
  | scheduled =>
    refine .of_wakes .sleeping ?_ ?_
    · simp [step, release, found, restoreLoop, missing, running, possible]
    · exact fromSleep missing running possible (by simp [setStage, inBounds])
  | sleeping => exact fromSleep missing running possible found
  | acquiring _ _ _ | retrying _ _ | unwinding | closing _ | closingPools _ | done => cases still

/-- What `connect` leaves behind while no `close_all` is under way. -/
def Connected (pool : AsyncConnectionPool) : Prop :=
  pool.resources.publisherConnection.isSome = true ∧ pool.closing = false ∧
    ∀ {task : Nat} {stage : PoolStage}, pool.tasks[task]? = some stage → stage.closes = false

/-- Once connected, a pool that is neither closed nor given up and has no publisher connection
creates one under the lock or has a restore task that will; and no connection is replaced
twice. -/
theorem lost_connection_restored {first second : List ConnectionPoolAction}
    (start : Run step {} first pool) (connected : Connected pool)
    (run : RunWithin step (fun _ action => action ≠ .connect) pool second pool') :
    pool'.replaced.Nodup ∧ (pool'.closing = false → pool'.terminal = false →
      pool'.resources.publisherConnection = none → (∃ task purpose, pool'.lock = some task ∧
        pool'.tasks[task]? = some (.creating purpose) ∧
        ∀ connecting, purpose ≠ .consumer connecting) ∨
      ∃ task, pool'.restoreTask = some task ∧ pool'.tasks[task]? ≠ some .done ∧
        TriesAgain pool' task) := by
  have whole := start.append run.unrestricted
  refine ⟨(counted_of_run whole).nodup, fun running possible missing => ?_⟩
  have controlled := controlled_of_run whole
  have minded : Controlled pool' ∧ Minded pool' := by
    refine run.invariant
      (fun {before} _ _ (held : Controlled before ∧ Minded before) admitted taken =>
        ⟨held.1.step taken, .step held.1 held.2 admitted taken⟩) ?_
    exact ⟨controlled_of_run start, .inr ⟨connected.2.2, .inl connected.1⟩⟩
  rcases minded.2 with closed | ⟨_, attended⟩
  · cases running.symm.trans closed
  · rcases attended with held | given | ⟨task, stage, located, rebuilds⟩ |
      ⟨task, stage, known, located, still⟩
    · rw [missing] at held
      cases held
    · cases possible.symm.trans given
    · obtain ⟨kind, rfl⟩ := rebuilds_iff.mp rebuilds
      exact .inl ⟨task, .rebuild kind, controlled.locked located rfl, located, by simp⟩
    · by_cases creating : stage = .creating (.get .restore)
      · subst creating
        exact .inl ⟨task, .get .restore, controlled.locked located rfl, located, by simp⟩
      · refine .inr ⟨task, known, ?_, triesAgain missing running possible located still creating⟩
        rw [located]
        rintro ended
        cases some.inj ended
        cases still

def connectedPool : AsyncConnectionPool :=
  { resources := PoolResources.installConsumer (PoolResources.install {})
    connectedOnce := true
    tasks := [.done] }

/-- Two acquires fail on one connection, the rebuild of the first fails, and the restore task
remains. -/
theorem lost_connection_restored_once :
    Run step {} [.connect, .take 0, .created 0, .created 0] connectedPool ∧
      Connected connectedPool ∧
      ∃ pool, RunWithin step (fun _ action => action ≠ .connect) connectedPool
        [.dies 0, .acquire .publisher false, .acquire .publisher false, .openFails 1,
          .openFails 2, .take 1, .createFails 1 false, .take 2] pool ∧
      pool.closing = false ∧ pool.terminal = false ∧ pool.resources.publisherConnection = none ∧
      ((∃ task purpose, pool.lock = some task ∧ pool.tasks[task]? = some (.creating purpose) ∧
        ∀ connecting, purpose ≠ .consumer connecting) ∨
      ∃ task, pool.restoreTask = some task ∧ pool.tasks[task]? ≠ some .done ∧
        TriesAgain pool task) := by
  have start : Run step {} [.connect, .take 0, .created 0, .created 0] connectedPool :=
    run_of_execute rfl
  have connected : Connected connectedPool := by
    refine ⟨rfl, rfl, fun {task stage} located => ?_⟩
    cases mem_singleton.mp (mem_of_getElem? located)
    rfl
  refine ⟨start, connected, exists_runWithin_of_check (fun pool => decide (pool.closing = false ∧
    pool.terminal = false ∧ pool.resources.publisherConnection = none)) (by decide +kernel)
    fun pool run checked => ?_⟩
  obtain ⟨running, possible, missing⟩ := of_decide_eq_true checked
  exact ⟨running, possible, missing,
    (lost_connection_restored start connected run).2 running possible missing⟩

/-- In every interleaving at most one task creates or closes connections, at most one restores
them and none while the pool is closing, and a connection that was replaced is not used again. -/
theorem pool_sections_exclusive {actions : List ConnectionPoolAction}
    (run : Run step {} actions pool) : (∀ {first second : Nat} {stage other : PoolStage},
        pool.tasks[first]? = some stage → pool.tasks[second]? = some other →
        (stage.holds = true → other.holds = true → first = second) ∧
        (stage.restores = true → other.restores = true → first = second ∧ pool.closing = false)) ∧
      ∀ connection ∈ pool.replaced, pool.resources.publisherConnection ≠ some connection := by
  have controlled := controlled_of_run run
  refine ⟨fun found found' => ⟨fun holds holds' => ?_, fun restores restores' => ?_⟩, ?_⟩
  · exact some.inj ((controlled.locked found holds).symm.trans (controlled.locked found' holds'))
  · obtain ⟨mine, running⟩ := controlled.restoring found restores
    exact ⟨some.inj (mine.symm.trans (controlled.restoring found' restores').1), running⟩
  · exact fun connection replaced => ((counted_of_run run).known replaced).2

/-- One of two acquires that fail on a dead connection replaces it while the other waits. -/
theorem pool_sections_exclusive_pair : ∃ pool, Run step {}
        [.connect, .take 0, .created 0, .created 0, .dies 0, .acquire .publisher false,
          .acquire .publisher false, .openFails 1, .openFails 2, .take 1] pool ∧
      pool.tasks.map PoolStage.holds = [false, true, false] ∧ 0 ∈ pool.replaced ∧
      pool.resources.publisherConnection ≠ some 0 :=
  exists_runWithin_of_check (fun pool => decide (pool.tasks.map PoolStage.holds =
      [false, true, false] ∧ 0 ∈ pool.replaced)) (by decide +kernel) fun pool run checked =>
    have checked := of_decide_eq_true checked
    ⟨checked.1, checked.2, (pool_sections_exclusive run).2 0 checked.2⟩

end AsyncConnectionPool
end RabbitKit
