import RabbitKit.ConnectionPoolSteps

/-! # Control of the connection pool

Whatever the interleaving, a task that creates or closes connections has the lock, and the only
restore task that has not ended is the one that the pool knows.
-/

namespace RabbitKit

open LabelledRun PoolStage PoolResources Option List

namespace AsyncConnectionPool

variable {pool pool' base : AsyncConnectionPool} {task : Nat} {before stage : PoolStage}
variable {action : ConnectionPoolAction} {creator : Bool}

structure Controlled (pool : AsyncConnectionPool) : Prop where
  locked : ∀ {task stage}, pool.tasks[task]? = some stage → stage.holds = true →
    pool.lock = some task
  restoring : ∀ {task stage}, pool.tasks[task]? = some stage → stage.restores = true →
    pool.restoreTask = some task ∧ pool.closing = false
  tracked : ∀ {task}, pool.restoreTask = some task →
    ∃ stage, pool.tasks[task]? = some stage ∧ (stage = .done ∨ stage.restores = true)
  shut : pool.shut = true → pool.closing = true

/-- What the task that runs finds: the lock may just have been released for it. -/
structure Entered (pool : AsyncConnectionPool) (task : Nat) (before : PoolStage) : Prop where
  found : pool.tasks[task]? = some before
  others : ∀ {other stage}, task ≠ other → pool.tasks[other]? = some stage →
    stage.holds = true → pool.lock = some other
  mine : before.holds = true → pool.lock = none ∨ pool.lock = some task
  restoring : ∀ {task stage}, pool.tasks[task]? = some stage → stage.restores = true →
    pool.restoreTask = some task ∧ pool.closing = false
  tracked : ∀ {task}, pool.restoreTask = some task →
    ∃ stage, pool.tasks[task]? = some stage ∧ (stage = .done ∨ stage.restores = true)
  fresh : before = .done → pool.restoreTask ≠ some task
  shut : pool.shut = true → pool.closing = true

theorem Entered.alone (entered : Entered base task before)
    (mine : base.lock = none ∨ before.holds = true) {other : Nat} (different : task ≠ other)
    (located : base.tasks[other]? = some stage) : stage.holds = false := by
  cases holds : stage.holds with
  | false => rfl
  | true =>
    have taken := entered.others different located holds
    have lock : base.lock = none ∨ base.lock = some task := mine.elim .inl entered.mine
    rcases lock with free | own
    · cases free.symm.trans taken
    · exact absurd (some.inj (own.symm.trans taken)) different

theorem Entered.moves (entered : Entered base task before)
    (moved : pool'.tasks = base.tasks.set task stage)
    (restoreTask : pool'.restoreTask = base.restoreTask) (closing : pool'.closing = base.closing)
    (holder : stage.holds = true → pool'.lock = some task)
    (lock : pool'.lock = base.lock ∨ base.lock = none ∨ before.holds = true)
    (restores : stage = .done ∨ stage.restores = before.restores)
    (shut : pool'.shut = true → base.closing = true) : Controlled pool' where
  locked := by
    intro other otherStage located holds
    rw [moved] at located
    rcases getElem?_of_moved entered.found located with ⟨rfl, rfl⟩ | ⟨different, stood⟩
    · exact holder holds
    · rcases lock with same | mine
      · exact same.trans (entered.others different stood holds)
      · rw [entered.alone mine different stood] at holds
        cases holds
  restoring := by
    intro other otherStage located still
    rw [moved] at located
    rw [restoreTask, closing]
    rcases getElem?_of_moved entered.found located with ⟨rfl, rfl⟩ | ⟨_, stood⟩
    · rcases restores with rfl | same
      · cases still
      · exact entered.restoring entered.found (same.symm.trans still)
    · exact entered.restoring stood still
  tracked := by
    intro other known
    rw [restoreTask] at known
    rw [moved]
    obtain ⟨otherStage, stood, kind⟩ := entered.tracked known
    by_cases same : task = other
    · subst same
      have inBounds := (List.getElem?_eq_some_iff.mp entered.found).1
      refine ⟨stage, by simp [inBounds], ?_⟩
      cases some.inj (entered.found.symm.trans stood)
      rcases kind with ended | was
      · exact absurd known (entered.fresh ended)
      · exact restores.imp_right fun kept => kept.trans was
    · exact ⟨otherStage, (getElem?_set_ne same).trans stood, kind⟩
  shut := fun ended => closing.trans (shut ended)

theorem Controlled.scheduleRestore (controlled : Controlled pool) :
    Controlled pool.scheduleRestore := by
  unfold AsyncConnectionPool.scheduleRestore
  split
  · exact controlled
  next needed =>
    have open' : pool.closing = false := by
      cases closing : pool.closing with
      | false => rfl
      | true => simp [closing] at needed
    split
    · exact controlled
    next ended =>
      -- the restore task that is known, if any, has ended
      have none_restores : ∀ {task : Nat} {stage : PoolStage}, pool.tasks[task]? = some stage →
          stage.restores = false := by
        intro task stage located
        cases still : stage.restores with
        | false => rfl
        | true =>
          have known := (controlled.restoring located still).1
          refine absurd ?_ ended
          rw [known, any_some, located]
          refine decide_eq_true fun same => ?_
          cases some.inj same
          cases still
      refine ⟨?_, ?_, ?_, controlled.shut⟩
      · intro task stage located holds
        rcases getElem?_of_joined located with stood | ⟨_, rfl⟩
        · exact controlled.locked stood holds
        · cases holds
      · intro task stage located still
        rcases getElem?_of_joined located with stood | ⟨rfl, rfl⟩
        · rw [none_restores stood] at still
          cases still
        · exact ⟨rfl, open'⟩
      · intro task known
        cases some.inj known
        exact ⟨.scheduled, by simp [join], .inr rfl⟩

theorem startClose_located {other : Nat} (found : pool.tasks[task]? = some before)
    (located : (pool.startClose task).tasks[other]? = some stage) :
    task = other ∧ stage = .waiting .close ∨ task ≠ other ∧ (stage = .unwinding ∨
      pool.tasks[other]? = some stage ∧ (pool.restoreTask = some other → stage = .done)) := by
  cases known : pool.restoreTask with
  | none =>
    simp only [startClose, known] at located
    rcases getElem?_of_moved found located with ⟨same, rfl⟩ | ⟨different, stood⟩
    · exact .inl ⟨same, rfl⟩
    · exact .inr ⟨different, .inr ⟨stood, by simp⟩⟩
  | some restore =>
    simp only [startClose, known] at located
    split at located
    next ended =>
      rcases getElem?_of_moved found located with ⟨same, rfl⟩ | ⟨different, stood⟩
      · exact .inl ⟨same, rfl⟩
      · refine .inr ⟨different, .inr ⟨stood, fun same => ?_⟩⟩
        cases some.inj same
        exact Option.some.inj (stood.symm.trans ended)
    · have inBounds := (List.getElem?_eq_some_iff.mp found).1
      by_cases same : task = other
      · subst same
        exact .inl ⟨rfl, by simpa [inBounds] using located.symm⟩
      · rw [getElem?_set_ne same] at located
        refine .inr ⟨same, ?_⟩
        by_cases cancelled : restore = other
        · subst cancelled
          rw [getElem?_set_self'] at located
          obtain ⟨_, _, rfl⟩ := map_eq_some_iff.mp located
          exact .inl rfl
        · rw [getElem?_set_ne cancelled] at located
          exact .inr ⟨located, fun known => absurd (some.inj known) cancelled⟩

theorem Entered.startClose (entered : Entered base task before) :
    Controlled (base.startClose task) := by
  refine ⟨?_, ?_, ?_, fun _ => rfl⟩
  · intro other stage located holds
    rcases startClose_located entered.found located with
      ⟨_, rfl⟩ | ⟨different, rfl | ⟨stood, _⟩⟩
    · cases holds
    · cases holds
    · exact entered.others different stood holds
  · intro other stage located still
    rcases startClose_located entered.found located with
      ⟨_, rfl⟩ | ⟨different, rfl | ⟨stood, ended⟩⟩
    · cases still
    · cases still
    · have known := (entered.restoring stood still).1
      rw [ended known] at still
      cases still
  · intro other known
    cases known

section

variable (controlled : Controlled pool)
include controlled

/-- A task goes on that has not ended, and the lock is as it was or no longer the task's. -/
theorem Entered.of_found (found : pool.tasks[task]? = some before)
    (active : before ≠ .done) (tasks : base.tasks = pool.tasks)
    (restoreTask : base.restoreTask = pool.restoreTask) (closing : base.closing = pool.closing)
    (lock : base.lock = pool.lock ∨ base.lock = (pool.unlock task).lock ∨
      base.lock = none ∧ before.holds = true)
    (shut : base.shut = true → pool.closing = true) : Entered base task before where
  found := tasks ▸ found
  others := by
    intro other stage different located holds
    rw [tasks] at located
    have taken := controlled.locked located holds
    rcases lock with same | freed | ⟨_, mine⟩
    · exact same.trans taken
    · have notMine : pool.lock ≠ some task := by
        rw [taken]
        exact fun same => different (some.inj same).symm
      exact freed.trans ((if_neg notMine).trans taken)
    · have same := (controlled.locked found mine).symm.trans taken
      exact absurd (some.inj same) different
  mine := by
    intro holds
    have taken := controlled.locked found holds
    rcases lock with same | freed | ⟨free, _⟩
    · exact .inr (same.trans taken)
    · exact .inl (freed.trans (if_pos taken))
    · exact .inl free
  restoring := by
    intro other stage located still
    rw [tasks] at located
    rw [restoreTask, closing]
    exact controlled.restoring located still
  tracked := by
    intro other known
    rw [restoreTask] at known
    rw [tasks]
    exact controlled.tracked known
  fresh := fun ended => absurd ended active
  shut := fun ended => closing.trans (shut ended)

theorem Entered.of_joined (tasks : base.tasks = pool.tasks ++ [.done])
    (restoreTask : base.restoreTask = pool.restoreTask) (lock : base.lock = pool.lock)
    (closing : base.closing = true → pool.closing = true)
    (shut : base.shut = true → base.closing = true) : Entered base pool.tasks.length .done where
  found := by simp [tasks]
  others := by
    intro other stage different located holds
    rw [tasks] at located
    rcases getElem?_of_joined located with stood | ⟨rfl, rfl⟩
    · exact lock.trans (controlled.locked stood holds)
    · cases holds
  mine := nofun
  restoring := by
    intro other stage located still
    rw [tasks] at located
    rcases getElem?_of_joined located with stood | ⟨rfl, rfl⟩
    · obtain ⟨known, running⟩ := controlled.restoring stood still
      refine ⟨restoreTask.trans known, ?_⟩
      cases closed : base.closing with
      | false => rfl
      | true => exact (closing closed).symm.trans running
    · cases still
  tracked := by
    intro other known
    rw [restoreTask] at known
    obtain ⟨stage, stood, kind⟩ := controlled.tracked known
    have inBounds := (List.getElem?_eq_some_iff.mp stood).1
    exact ⟨stage, by rw [tasks, List.getElem?_append_left inBounds, stood], kind⟩
  fresh := by
    intro _ known
    rw [restoreTask] at known
    obtain ⟨stage, stood, _⟩ := controlled.tracked known
    exact lt_irrefl _ (List.getElem?_eq_some_iff.mp stood).1
  shut := shut

theorem Entered.of_runs (runs : Runs pool action base task before creator) :
    Entered base task before := by
  cases runs with
  | calls called => exact .of_joined controlled rfl rfl rfl id controlled.shut
  | connects => exact .of_joined controlled rfl rfl rfl (by simp [join]) (by simp [join])
  | continues found waits active =>
    exact .of_found controlled found active rfl rfl rfl (.inl rfl) controlled.shut
  | takes _ found | rebuilds _ found =>
    exact .of_found controlled found (by simp) rfl rfl rfl (.inl rfl) controlled.shut
  | yields found | yieldsConsumer found | fails found | breaksOff found =>
    exact .of_found controlled found (by simp) rfl rfl rfl (.inr (.inr ⟨rfl, rfl⟩)) controlled.shut
  | proceeds found =>
    exact .of_found controlled found (by simp) rfl rfl rfl (.inl rfl) controlled.shut
  | givesUp found closer =>
    refine .of_found controlled found ?_ rfl rfl rfl (.inr (.inl rfl)) id
    rintro rfl
    cases closer
  | unwinds found =>
    exact .of_found controlled found (by simp) rfl rfl rfl (.inr (.inl rfl)) controlled.shut

omit controlled in
theorem Controlled.of_outcome (entered : Entered base task before)
    (outcome : Outcome base task before creator pool') : Controlled pool' := by
  cases outcome with
  | rests _ plain other _ _ =>
    obtain ⟨waits, notRestoring, _⟩ := plain_iff.mp plain
    exact entered.moves rfl rfl rfl (by simp [waits]) (.inl rfl)
      (.inr (notRestoring.trans other.symm)) entered.shut
  | closesChannels other _ =>
    exact entered.moves rfl rfl rfl (by simp [holds]) (.inl rfl) (.inr other.symm) entered.shut
  | restores was still waits =>
    exact entered.moves rfl rfl rfl (by simp [waits]) (.inl rfl) (.inr (still.trans was.symm))
      entered.shut
  | stops was unneeded =>
    exact entered.moves rfl rfl rfl (by simp [holds]) (.inl rfl) (.inl rfl) entered.shut
  | schedules other =>
    refine scheduleRestore ?_
    exact entered.moves rfl rfl rfl (by simp [holds]) (.inl rfl) (.inl rfl) entered.shut
  | creates free possible same _ missing =>
    exact entered.moves rfl rfl rfl (fun _ => rfl) (.inr (.inl free)) (.inr same.symm) entered.shut
  | startsClose other => exact entered.startClose
  | closingPool other _ mine | closingConnection other _ mine =>
    exact entered.moves rfl rfl rfl (fun _ => rfl) (.inr mine) (.inr other.symm) entered.shut
  | closed other closer mine origin all =>
    exact entered.moves rfl rfl rfl (by simp [holds]) (.inr mine) (.inl rfl) id

theorem Controlled.step (taken : pool.step action = some pool') : Controlled pool' := by
  cases stepped taken with
  | dies | gaveUp =>
    exact ⟨controlled.locked, controlled.restoring, controlled.tracked, controlled.shut⟩
  | ran runs outcome builds => exact .of_outcome (.of_runs controlled runs) outcome

end

theorem controlled_of_run {actions : List ConnectionPoolAction}
    (run : Run step {} actions pool) : Controlled pool :=
  run.invariant (fun held _ taken => .step held taken) ⟨by simp, by simp, by simp, by simp⟩

theorem scheduleRestore_resources (pool : AsyncConnectionPool) :
    pool.scheduleRestore.resources = pool.resources := by
  unfold scheduleRestore
  split
  · rfl
  · split <;> rfl

section

variable (resources : PoolResources)

theorem closeCurrent_length (current : Option Nat) :
    (current.toList.foldl closeConnection resources).connections.length =
      resources.connections.length := by
  cases current with
  | none => rfl
  | some connection => exact length_modify ..

theorem closePools_connections : resources.closePools.connections = resources.connections := by
  unfold closePools
  cases resources.publisherChannelPool <;> cases resources.mandatoryChannelPool <;> rfl

theorem detach_length : resources.detach.connections.length = resources.connections.length := by
  refine (closeCurrent_length resources.closePools _).trans ?_
  rw [closePools_connections]

theorem abandonAll_length :
    resources.abandonAll.connections.length = resources.connections.length :=
  (closeCurrent_length resources.detach _).trans (detach_length resources)

theorem abandonAll_publisherConnection : resources.abandonAll.publisherConnection = none := by
  unfold abandonAll
  cases resources.consumerConnection <;> rfl

end

theorem Outcome.connections (outcome : Outcome base task before creator pool') :
    pool'.resources.connections.length = base.resources.connections.length := by
  cases outcome with
  | rests looked _ _ _ _ => cases looked <;> rfl
  | schedules _ =>
    rw [scheduleRestore_resources]
    rfl
  | closingConnection _ _ _ _ _ =>
    simp [setStage, closeConnection]
  | _ => rfl

end AsyncConnectionPool
end RabbitKit
