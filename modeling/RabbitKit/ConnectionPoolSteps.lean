import RabbitKit.AsyncConnectionPool

/-! # Steps of the connection pool

A step runs one task from an `await` to the next.  `Runs` says which task, and in which pool:
the pool as the task finds it, with what its `await` has brought.  `Outcome` says what the task
makes of it.  What holds in every interleaving is derived from these two.
-/

namespace RabbitKit

open LabelledRun PoolStage PoolResources

namespace PoolStage

def holds : PoolStage → Bool
  | .creating _ | .closing _ => true
  | _ => false

def restores : PoolStage → Bool
  | .waiting (.get .restore) | .creating (.get .restore) | .scheduled | .sleeping => true
  | _ => false

def closes : PoolStage → Bool
  | .waiting .close | .closing _ => true
  | _ => false

def stale : PoolStage → Option (Option Nat)
  | .waiting (.rebuild _ stale) | .acquiring _ stale _ => some stale
  | _ => none

def rebuilds : PoolStage → Bool
  | .creating (.rebuild _) => true
  | _ => false

def plain (stage : PoolStage) : Bool := !stage.holds && !stage.restores && !stage.closes

variable {stage : PoolStage}

theorem plain_iff :
    stage.plain = true ↔ stage.holds = false ∧ stage.restores = false ∧ stage.closes = false := by
  simp only [plain, Bool.and_eq_true, Bool.not_eq_true', and_assoc]

theorem settled_of_waits (waits : stage.holds = false) : stage.rebuilds = false := by
  cases stage with
  | creating _ => cases waits
  | _ => rfl

end PoolStage

/-- A look for a channel pool finds the resources as they are, or builds a mandatory pool. -/
inductive PoolResources.Looked (resources : PoolResources) : PoolResources → Prop
  | same : Looked resources resources
  | built {connection : Nat} (connected : resources.publisherConnection = some connection)
      (missing : resources.mandatoryChannelPool = none) :
      Looked resources (resources.buildMandatory connection)

def CreatePurpose.missing (resources : PoolResources) : CreatePurpose → Option Nat
  | .get _ | .connect | .rebuild _ => resources.publisherConnection
  | .consumer _ => resources.consumerConnection

namespace AsyncConnectionPool

variable {pool pool' : AsyncConnectionPool} {task : Nat} {before stage : PoolStage}
variable {creator : Bool}

/-- The connections that a `close_all` has still to close: all, once the channel pools are
closed, or those it has come to. -/
def LeftToClose (pool : AsyncConnectionPool) (before : PoolStage) (todo : List Nat) : Prop :=
  (todo = [pool.resources.publisherConnection, pool.resources.consumerConnection].reduceOption ∧
      pool.resources.mandatoryChannelPool = none ∧
      (pool.resources.publisherChannelPool = none ∨ before = .closing .mandatoryPool)) ∨
    before = .closing (.connections todo)

/-- What a task that runs makes of the pool it finds; `creator` says whether it may begin to
create a connection. -/
inductive Outcome (pool : AsyncConnectionPool) (task : Nat) (before : PoolStage) :
    (creator : Bool) → AsyncConnectionPool → Prop
  | rests {creator : Bool} {resources : PoolResources} {stage : PoolStage}
      (looked : pool.resources.Looked resources) (plain : stage.plain = true)
      (other : before.restores = false)
      (restored : before.rebuilds = true → pool.resources.publisherConnection.isSome = true)
      (stale : ∀ connection, stage.stale = some connection →
        before.stale = some connection ∨ connection = pool.resources.publisherConnection ∧
          (connection = none → pool.resources.publisherChannelPool.isSome = true)) :
      Outcome pool task before creator ({ pool with resources := resources }.setStage task stage)
  | closesChannels {creator : Bool} {channelPool : Nat} {left : List Nat}
      (other : before.restores = false) (settled : before.rebuilds = false) :
      Outcome pool task before creator
        ({ pool with resources := pool.resources.closePool channelPool }.setStage task
          (.closingPools left))
  | restores {creator : Bool} {stage : PoolStage} (was : before.restores = true)
      (still : stage.restores = true) (waits : stage.holds = false) :
      Outcome pool task before creator (pool.setStage task stage)
  | stops {creator : Bool} (was : before.restores = true)
      (unneeded : pool.resources.publisherConnection.isSome = true ∨ pool.closing = true ∨
        pool.terminal = true) :
      Outcome pool task before creator (pool.setStage task .done)
  | schedules {creator : Bool} (other : before.restores = false) :
      Outcome pool task before creator (pool.setStage task .done).scheduleRestore
  | creates {purpose : CreatePurpose} (free : pool.lock = none) (possible : pool.terminal = false)
      (same : before.restores = (creating purpose).restores)
      (settled : before.rebuilds = false) (missing : purpose.missing pool.resources = none) :
      Outcome pool task before true
        ({ pool with lock := some task }.setStage task (.creating purpose))
  | startsClose {creator : Bool} (other : before.restores = false) :
      Outcome pool task before creator (pool.startClose task)
  | closingPool {creator : Bool} {phase : ClosePhase} {channelPool : Nat}
      (other : before.restores = false) (closer : before.closes = true)
      (mine : pool.lock = none ∨ before.holds = true)
      (order : phase = .publisherPool ∨
        phase = .mandatoryPool ∧ pool.resources.publisherChannelPool = none) :
      Outcome pool task before creator
        ({ pool with
          lock := some task
          resources := pool.resources.closePool channelPool }.setStage task (.closing phase))
  | closingConnection {creator : Bool} {connection : Nat} {left todo : List Nat}
      (other : before.restores = false) (closer : before.closes = true)
      (mine : pool.lock = none ∨ before.holds = true)
      (origin : pool.LeftToClose before todo)
      (rest : ∀ next ∈ todo, next = connection ∨ next ∈ left ∨
        pool.resources.isClosed next = true) :
      Outcome pool task before creator
        ({ pool with
          lock := some task
          resources := pool.resources.closeConnection connection }.setStage task
            (.closing (.connections left)))
  | closed {creator : Bool} {todo : List Nat} (other : before.restores = false)
      (closer : before.closes = true)
      (mine : pool.lock = none ∨ before.holds = true) (origin : pool.LeftToClose before todo)
      (all : ∀ next ∈ todo, pool.resources.isClosed next = true) :
      Outcome pool task before creator
        ({ pool with
          lock := none
          shut := pool.closing
          resources := { pool.resources with
            publisherConnection := none
            consumerConnection := none } }.setStage task .done)

theorem looked_current (resources : PoolResources) (kind : ChannelKind) :
    resources.Looked (resources.current kind).1 := by
  cases kind with
  | publisher => exact .same
  | mandatory =>
    unfold current
    dsimp only
    split
    · exact .same
    · exact .same
    next connected missing =>
      exact .built connected missing

theorem current_found {resources : PoolResources} {kind : ChannelKind} {channelPool : Nat}
    (found : (resources.current kind).2 = some channelPool)
    (unconnected : resources.publisherConnection = none) :
    resources.publisherChannelPool.isSome = true := by
  cases kind with
  | publisher =>
    have found : resources.publisherChannelPool = some channelPool := found
    rw [found]
    rfl
  | mandatory => simp [current, unconnected] at found

theorem settled_restored (settled : before.rebuilds = false) :
    before.rebuilds = true → pool.resources.publisherConnection.isSome = true := by
  simp [settled]

theorem heal_publisher_resources (pool : AsyncConnectionPool) (task : Nat) :
    (pool.heal .publisher task).resources = pool.resources := by
  cases found : pool.resources.publisherChannelPool <;> simp [heal, current, found, setStage]

theorem current_of_looked (resources : PoolResources) (kind : ChannelKind) :
    ((resources.current kind).1.current kind).1 = (resources.current kind).1 := by
  cases kind with
  | publisher => rfl
  | mandatory =>
    cases connected : resources.publisherConnection with
    | none => simp [current, connected]
    | some connection =>
      cases present : resources.mandatoryChannelPool with
      | none => simp [current, connected, present, buildMandatory]
      | some channelPool => simp [current, connected, present]

section

variable (other : before.restores = false)
  (restored : before.rebuilds = true → pool.resources.publisherConnection.isSome = true)
include other restored

theorem outcome_done : Outcome pool task before creator (pool.setStage task .done) :=
  .rests .same rfl other restored (by simp [stale])

theorem outcome_heal (kind : ChannelKind) :
    Outcome pool task before creator (pool.heal kind task) := by
  have looked := looked_current pool.resources kind
  unfold heal
  split
  · exact outcome_done other restored
  next resources channelPool found =>
    rw [found] at looked
    refine .rests looked rfl other restored fun connection same => .inr ?_
    have same : pool.resources.publisherConnection = connection := Option.some.inj same
    subst same
    exact ⟨rfl, current_found (congrArg Prod.snd found)⟩

theorem outcome_retry (kind : ChannelKind) :
    Outcome pool task before creator (pool.retry kind task) := by
  have looked := looked_current pool.resources kind
  unfold retry
  split
  · exact outcome_done other restored
  next resources channelPool found =>
    rw [found] at looked
    exact .rests looked rfl other restored (by simp [stale])

theorem outcome_afterRebuild (kind : ChannelKind) :
    Outcome pool task before creator (pool.afterRebuild kind task) := by
  unfold afterRebuild
  split
  · exact .rests .same rfl other restored (by simp [stale])
  · exact outcome_retry other restored kind

theorem outcome_replace (kind : ChannelKind) (channelPool : Nat) :
    Outcome pool task before creator (pool.replace kind channelPool task) := by
  have looked := looked_current pool.resources kind
  have again := current_of_looked pool.resources kind
  unfold replace
  split
  · exact outcome_done other restored
  next resources replacement found =>
    rw [found] at looked again
    split
    · exact .rests looked rfl other restored (by simp [stale])
    · unfold afterRebuild
      split
      · exact .rests looked rfl other restored (by simp [stale])
      · unfold retry
        split
        · exact .rests looked rfl other restored (by simp [stale])
        next resources' channelPool' found' =>
          have same : resources' = resources := (congrArg Prod.fst found').symm.trans again
          subst same
          exact .rests looked rfl other restored (by simp [stale])

end

theorem outcome_restoreLoop (was : before.restores = true) :
    Outcome pool task before creator (pool.restoreLoop task) := by
  unfold restoreLoop
  split
  · exact .restores was rfl rfl
  next unneeded =>
    refine .stops was ?_
    cases connected : pool.resources.publisherConnection with
    | some connection => exact .inl rfl
    | none =>
      cases closing : pool.closing with
      | true => exact .inr (.inl rfl)
      | false =>
        cases terminal : pool.terminal with
        | true => exact .inr (.inr rfl)
        | false => simp [connected, closing, terminal] at unneeded

theorem restoreLoop_resources (pool : AsyncConnectionPool) (task : Nat) :
    (pool.restoreLoop task).resources = pool.resources := by
  unfold restoreLoop
  split <;> rfl

theorem outcome_continueGet {caller : GetCaller}
    (same : before.restores = (waiting (.get caller)).restores)
    (restored : before.rebuilds = true → pool.resources.publisherConnection.isSome = true) :
    Outcome pool task before creator (pool.continueGet task caller) := by
  cases caller with
  | call => exact outcome_done same restored
  | acquire kind => exact outcome_heal same restored kind
  | retry kind => exact outcome_retry same restored kind
  | restore => exact outcome_restoreLoop same

variable {purpose : CreatePurpose}

theorem outcome_failCreate (same : before.restores = (creating purpose).restores)
    (settled : before.rebuilds = true → (creating purpose).rebuilds = true) :
    Outcome pool task before creator (pool.failCreate task false purpose) := by
  cases purpose with
  | get caller =>
    cases caller with
    | restore => exact outcome_restoreLoop same
    | call | acquire _ | retry _ => exact outcome_done same fun was => by cases settled was
  | connect => exact .startsClose same
  | rebuild kind => exact .schedules same
  | consumer connecting =>
    cases connecting with
    | false => exact outcome_done same fun was => by cases settled was
    | true => exact .startsClose same

theorem outcome_failCreate_permanent (pool : AsyncConnectionPool) (task : Nat)
    (purpose : CreatePurpose) : ∃ terminal, (pool.terminal = true → terminal = true) ∧
      Outcome { pool with terminal := terminal } task (.creating purpose) creator
        (pool.failCreate task true purpose) := by
  cases purpose with
  | get caller =>
    cases caller with
    | restore => exact ⟨true, fun _ => rfl, .stops rfl (.inr (.inr rfl))⟩
    | call | acquire _ | retry _ =>
      exact ⟨pool.terminal, id, outcome_done rfl (settled_restored rfl)⟩
  | connect => exact ⟨pool.terminal, id, .startsClose rfl⟩
  | rebuild kind => exact ⟨pool.terminal, id, .schedules rfl⟩
  | consumer connecting =>
    refine ⟨pool.terminal, id, ?_⟩
    cases connecting with
    | false => exact outcome_done rfl (settled_restored rfl)
    | true => exact .startsClose rfl

theorem release_of_free (free : pool.lock = none) : pool.release = pool := by
  cases pool
  cases free
  rfl

theorem outcome_beginCreate (purpose : CreatePurpose)
    (same : before.restores = (creating purpose).restores)
    (settled : before.rebuilds = false) (missing : purpose.missing pool.resources = none) :
    Outcome pool.release task before true (pool.beginCreate task purpose) := by
  unfold beginCreate
  split
  · exact outcome_failCreate same (by simp [settled])
  next possible =>
    exact .creates rfl (Bool.eq_false_iff.mpr possible) same settled missing

theorem outcome_beginCreate_free (free : pool.lock = none) (purpose : CreatePurpose)
    (same : before.restores = (creating purpose).restores)
    (settled : before.rebuilds = false) (missing : purpose.missing pool.resources = none) :
    Outcome pool task before true (pool.beginCreate task purpose) := by
  have outcome : Outcome pool.release task before true (pool.beginCreate task purpose) :=
    outcome_beginCreate purpose same settled missing
  rwa [release_of_free free] at outcome

theorem outcome_connectConsumer (pool : AsyncConnectionPool) (task : Nat)
    (other : before.restores = false) (settled : before.rebuilds = false) :
    ∃ connectedOnce, Outcome { pool.release with connectedOnce := connectedOnce } task before true
      (pool.connectConsumer task) := by
  unfold connectConsumer
  split
  next missing =>
    exact ⟨pool.connectedOnce, outcome_beginCreate (.consumer true) other settled missing⟩
  · exact ⟨true, outcome_done other (settled_restored settled)⟩

section

variable (other : before.restores = false)
include other

section

variable (closer : before.closes = true) (mine : pool.lock = none ∨ before.holds = true)
include closer mine

theorem outcome_closeConnections {todo : List Nat}
    (origin : pool.LeftToClose before todo) (left : List Nat)
    (rest : ∀ next ∈ todo, next ∈ left ∨ pool.resources.isClosed next = true) :
    Outcome pool task before creator (pool.closeConnections task left) := by
  induction left with
  | nil => exact .closed other closer mine origin fun next member => by simpa using rest next member
  | cons connection left ih =>
    unfold closeConnections
    split
    next isClosed =>
      refine ih fun next member => ?_
      rcases rest next member with found | already
      · rcases List.mem_cons.mp found with rfl | later
        · exact .inr isClosed
        · exact .inl later
      · exact .inr already
    · refine .closingConnection other closer mine origin fun next member => ?_
      rcases rest next member with found | already
      · rcases List.mem_cons.mp found with same | later
        · exact .inl same
        · exact .inr (.inl later)
      · exact .inr (.inr already)

theorem outcome_closeMandatoryPool (first : pool.resources.publisherChannelPool = none) :
    Outcome pool task before creator (pool.closeMandatoryPool task) := by
  unfold closeMandatoryPool
  split
  · exact .closingPool other closer mine (.inr ⟨rfl, first⟩)
  next second =>
    exact outcome_closeConnections other closer mine (.inl ⟨rfl, second, .inl first⟩) _
      fun next member => .inl member

theorem outcome_closePublisherPool :
    Outcome pool task before creator (pool.closePublisherPool task) := by
  unfold closePublisherPool
  split
  · exact .closingPool other closer mine (.inl rfl)
  next first =>
    exact outcome_closeMandatoryPool other closer mine first

end

end

theorem closeChannels_mandatoryChannelPool (pool : AsyncConnectionPool) (task : Nat)
    (left : List Nat) : (pool.closeChannels task left).resources.mandatoryChannelPool =
      pool.resources.mandatoryChannelPool := by
  cases left <;> rfl

theorem outcome_closeChannels (other : before.restores = false)
    (settled : before.rebuilds = false) (left : List Nat) :
    Outcome pool task before creator (pool.closeChannels task left) := by
  cases left with
  | nil => exact outcome_done other (settled_restored settled)
  | cons channelPool left => exact .closesChannels other settled

def isCall : ConnectionPoolAction → Bool
  | .getPublisher | .getConsumer | .acquire _ _ | .closePublisherChannels | .closeAll => true
  | _ => false

def passed (resources : PoolResources) : ClosePhase → PoolResources
  | .publisherPool => { resources with publisherChannelPool := none }
  | .mandatoryPool => { resources with mandatoryChannelPool := none }
  | .connections _ => resources

/-- Purposes for which a task that gets the lock may create a connection; a rebuild does it only
if the connection is the one it failed on. -/
def seeks : LockPurpose → Bool
  | .get _ | .getConsumer | .connect => true
  | .rebuild _ _ | .replacement _ _ | .close => false

/-- The task that an action runs, the pool as it finds it, its stage until then, and whether it
may begin to create a connection. -/
inductive Runs (pool : AsyncConnectionPool) :
    ConnectionPoolAction → AsyncConnectionPool → Nat → PoolStage → Bool → Prop
  | calls {action : ConnectionPoolAction} (called : isCall action = true) :
      Runs pool action (pool.join .done) pool.tasks.length .done false
  | connects :
      Runs pool .connect ({ pool with closing := false, shut := false }.join .done)
        pool.tasks.length .done false
  | continues {action : ConnectionPoolAction} {task : Nat} {before : PoolStage}
      (found : pool.tasks[task]? = some before) (waits : before.holds = false)
      (active : before ≠ .done) : Runs pool action pool task before false
  | takes {task : Nat} {purpose : LockPurpose} {connectedOnce : Bool} (free : pool.lock = none)
      (found : pool.tasks[task]? = some (.waiting purpose)) :
      Runs pool (.take task) { pool with connectedOnce := connectedOnce } task
        (.waiting purpose) (seeks purpose)
  | rebuilds {task : Nat} {kind : ChannelKind} {stale : Option Nat} (free : pool.lock = none)
      (found : pool.tasks[task]? = some (.waiting (.rebuild kind stale)))
      (same : pool.resources.publisherConnection = stale) :
      Runs pool (.take task)
        { pool with
          resources := pool.resources.detach
          replaced := pool.replaced ++ stale.toList } task (.waiting (.rebuild kind stale)) true
  | yields {task : Nat} {purpose : CreatePurpose} {connectedOnce : Bool}
      (found : pool.tasks[task]? = some (.creating purpose))
      (forPublisher : ∀ connecting, purpose ≠ .consumer connecting) :
      Runs pool (.created task)
        { pool with
          lock := none
          resources := pool.resources.install
          connectedOnce := connectedOnce } task (.creating purpose) true
  | yieldsConsumer {task : Nat} {connecting connectedOnce : Bool}
      (found : pool.tasks[task]? = some (.creating (.consumer connecting))) :
      Runs pool (.created task)
        { pool with
          lock := none
          resources := pool.resources.installConsumer
          connectedOnce := connectedOnce } task (.creating (.consumer connecting)) false
  | fails {action : ConnectionPoolAction} {task : Nat} {purpose : CreatePurpose} {terminal : Bool}
      (found : pool.tasks[task]? = some (.creating purpose))
      (later : pool.terminal = true → terminal = true) :
      Runs pool action { pool with lock := none, terminal := terminal } task
        (.creating purpose) false
  | proceeds {task : Nat} {phase : ClosePhase}
      (found : pool.tasks[task]? = some (.closing phase)) :
      Runs pool (.proceeds task) { pool with resources := passed pool.resources phase } task
        (.closing phase) false
  | givesUp {task : Nat} {before : PoolStage} (found : pool.tasks[task]? = some before)
      (closer : before.closes = true) :
      Runs pool (.timeout task)
        { pool.unlock task with
          resources := pool.resources.abandonAll
          shut := pool.closing } task before false
  | breaksOff {action : ConnectionPoolAction} {task : Nat} {phase : ClosePhase}
      (found : pool.tasks[task]? = some (.closing phase)) :
      Runs pool action pool.release task (.closing phase) false
  | unwinds {action : ConnectionPoolAction} {task : Nat}
      (found : pool.tasks[task]? = some .unwinding) :
      Runs pool action (pool.unlock task) task .unwinding false

/-- A mandatory pool is built by a task that has the lock or finds it free, or at the start of
an acquire of a mandatory channel. -/
def MayBuild (base : AsyncConnectionPool) (before : PoolStage) (action : ConnectionPoolAction)
    (pool' : AsyncConnectionPool) : Prop :=
  pool'.resources.mandatoryChannelPool = base.resources.mandatoryChannelPool ∨
    base.lock = none ∨ before.holds = true ∨ ∃ idle, action = .acquire .mandatory idle

/-- What a step does: something happens to a connection, or a task runs. -/
inductive Stepped (pool : AsyncConnectionPool) (action : ConnectionPoolAction) :
    AsyncConnectionPool → Prop
  | dies {connection : Nat} :
      Stepped pool action { pool with
        resources := { pool.resources with
          connections := pool.resources.connections.modify connection fun found =>
            { found with status := .closed } } }
  | gaveUp : Stepped pool action { pool with terminal := true }
  | ran {base pool' : AsyncConnectionPool} {task : Nat} {before : PoolStage} {creator : Bool}
      (runs : Runs pool action base task before creator)
      (outcome : Outcome base task before creator pool')
      (builds : MayBuild base before action pool') : Stepped pool action pool'

theorem setStage_join (pool : AsyncConnectionPool) (stage : PoolStage) :
    (pool.join .done).setStage pool.tasks.length stage = pool.join stage := by
  simp [setStage, join]

variable {action : ConnectionPoolAction}

theorem stepped_call {stage : PoolStage}
    (called : isCall action = true) (plain : stage.plain = true) (unstale : stage.stale = none) :
    Stepped pool action (pool.join stage) := by
  rw [← setStage_join]
  refine .ran (.calls called) (.rests .same plain rfl (settled_restored rfl) ?_) (.inl rfl)
  simp [unstale]

theorem stepped_startAcquire (idle : Bool) (kind : ChannelKind) :
    Stepped pool (.acquire kind idle) (pool.startAcquire idle kind) := by
  cases kind <;> simp only [startAcquire]
  case publisher =>
    split
    · exact stepped_call rfl rfl rfl
    · split
      · exact stepped_call rfl rfl rfl
      · refine .ran (.calls rfl) (outcome_heal rfl (settled_restored rfl) .publisher) (.inl ?_)
        exact congrArg mandatoryChannelPool (heal_publisher_resources _ _)
  case mandatory =>
    split
    · exact stepped_call rfl rfl rfl
    · split
      · exact stepped_call rfl rfl rfl
      · exact .ran (.calls rfl)
          (outcome_heal rfl (settled_restored rfl) .mandatory) (.inr (.inr (.inr ⟨idle, rfl⟩)))

theorem stepped_takeLock {purpose : LockPurpose} (free : pool.lock = none)
    (found : pool.tasks[task]? = some (.waiting purpose)) :
    Stepped pool (.take task) (pool.takeLock task purpose) := by
  cases purpose with
  | get caller =>
    simp only [takeLock]
    split
    next missing =>
      have same : (waiting (.get caller)).restores = (creating (.get caller)).restores := by
        cases caller <;> rfl
      exact .ran (.takes free found)
        (outcome_beginCreate_free free (.get caller) same rfl missing) (.inr (.inl free))
    · exact .ran (.takes free found)
        (outcome_continueGet rfl (settled_restored rfl)) (.inr (.inl free))
  | getConsumer =>
    simp only [takeLock]
    split
    next missing =>
      exact .ran (.takes free found)
        (outcome_beginCreate_free free (.consumer false) rfl rfl missing) (.inr (.inl free))
    · exact .ran (.takes free found) (outcome_done rfl (settled_restored rfl)) (.inr (.inl free))
  | connect =>
    simp only [takeLock]
    split
    next missing =>
      exact .ran (.takes free found)
        (outcome_beginCreate_free free .connect rfl rfl missing) (.inr (.inl free))
    · obtain ⟨connectedOnce, outcome⟩ := outcome_connectConsumer pool task
          (show (waiting .connect).restores = false from rfl) rfl
      rw [release_of_free free] at outcome
      exact .ran (.takes free found) outcome (.inr (.inl free))
  | rebuild kind stale =>
    simp only [takeLock]
    split
    · exact .ran (.takes free found)
        (outcome_afterRebuild rfl (settled_restored rfl) kind) (.inr (.inl free))
    next same =>
      have same : pool.resources.publisherConnection = stale := not_not.mp same
      refine .ran (.rebuilds free found same) ?_ (.inr (.inl free))
      refine outcome_beginCreate_free ?_ (.rebuild kind) rfl rfl rfl
      exact free
  | replacement kind channelPool =>
    exact .ran (.takes free found) (outcome_replace rfl (settled_restored rfl) kind channelPool)
      (.inr (.inl free))
  | close =>
    exact .ran (.takes free found) (outcome_closePublisherPool rfl rfl (.inl free))
      (.inr (.inl free))

theorem stepped_yield (found : pool.tasks[task]? = some (.creating purpose)) :
    Stepped pool (.created task) (pool.yield task purpose) := by
  cases purpose with
  | get caller =>
    refine .ran (.yields found (by simp)) (outcome_continueGet ?_ fun _ => rfl) (.inr (.inl rfl))
    cases caller <;> rfl
  | rebuild kind =>
    exact .ran (.yields found (by simp))
      (outcome_afterRebuild rfl (fun _ => rfl) kind) (.inr (.inl rfl))
  | connect =>
    obtain ⟨connectedOnce, outcome⟩ := outcome_connectConsumer
      { pool with resources := pool.resources.install } task
      (show (creating .connect).restores = false from rfl) rfl
    exact .ran (.yields found (by simp)) outcome (.inr (.inl rfl))
  | consumer connecting =>
    exact .ran (.yieldsConsumer found) (outcome_done rfl (settled_restored rfl)) (.inr (.inl rfl))

theorem stepped_failCreate {terminal : Bool} (found : pool.tasks[task]? = some (.creating purpose))
    (later : pool.terminal = true → terminal = true) (isPermanent : Bool) : Stepped pool action
      ({ pool.release with terminal := terminal }.failCreate task isPermanent purpose) := by
  cases isPermanent with
  | false => exact .ran (.fails found later) (outcome_failCreate rfl id) (.inr (.inl rfl))
  | true =>
    obtain ⟨final, ever, outcome⟩ := outcome_failCreate_permanent
      { pool.release with terminal := terminal } task purpose
    exact .ran (.fails found fun already => ever (later already)) outcome (.inr (.inl rfl))

theorem stepped_proceed {phase : ClosePhase} (found : pool.tasks[task]? = some (.closing phase)) :
    Stepped pool (.proceeds task) (pool.proceed task phase) := by
  refine .ran (.proceeds found) ?_ (.inr (.inr (.inl rfl)))
  cases phase with
  | publisherPool => exact outcome_closeMandatoryPool rfl rfl (.inr rfl) rfl
  | mandatoryPool =>
    exact outcome_closeConnections rfl rfl (.inr rfl) (.inl ⟨rfl, rfl, .inr rfl⟩) _
      fun next member => .inl member
  | connections left =>
    exact outcome_closeConnections rfl rfl (.inr rfl) (.inr rfl) _ fun next member => .inl member

theorem stepped_rest (found : pool.tasks[task]? = some before)
    (waits : before.holds = false := by rfl) (active : before ≠ .done := by simp)
    (other : before.restores = false := by rfl) (plain : stage.plain = true := by rfl)
    (stale : ∀ connection, stage.stale = some connection → before.stale = some connection := by
      simp [stale]) :
    Stepped pool action (pool.setStage task stage) :=
  .ran (.continues found waits active)
    (.rests .same plain other (settled_restored (settled_of_waits waits))
      fun connection named => .inl (stale connection named)) (.inl rfl)

theorem stepped_cancelled (found : pool.tasks[task]? = some before)
    (taken : pool.cancelled task before = some pool') : Stepped pool (.cancel task) pool' := by
  cases before with
  | waiting purpose =>
    cases purpose with
    | get caller =>
      cases caller with
      | restore => cases taken
      | call | acquire _ | retry _ =>
        cases taken
        exact stepped_rest found
    | connect =>
      cases taken
      exact .ran (.continues found rfl (by simp)) (.startsClose rfl) (.inl rfl)
    | getConsumer | rebuild _ _ | replacement _ _ | close =>
      cases taken
      exact stepped_rest found
  | creating purpose =>
    have failed : Stepped pool (.cancel task) (pool.release.failCreate task false purpose) :=
      stepped_failCreate found id false
    cases purpose with
    | get caller =>
      cases caller with
      | restore => cases taken
      | call | acquire _ | retry _ =>
        cases taken
        exact failed
    | connect | rebuild _ | consumer _ =>
      cases taken
      exact failed
  | closing phase =>
    cases taken
    exact .ran (.breaksOff found) (outcome_done rfl (settled_restored rfl)) (.inl rfl)
  | acquiring _ _ _ | retrying _ _ | closingPools _ =>
    cases taken
    exact stepped_rest found
  | scheduled | sleeping | unwinding | done => cases taken

theorem stepped (taken : pool.step action = some pool') : Stepped pool action pool' := by
  cases action <;> simp only [step] at taken
  case connect =>
    cases taken
    rw [← setStage_join]
    exact .ran .connects (.rests .same rfl rfl (settled_restored rfl) (by simp [stale])) (.inl rfl)
  case getPublisher | getConsumer =>
    cases taken
    exact stepped_call rfl rfl rfl
  case acquire kind idle =>
    cases taken
    exact stepped_startAcquire idle kind
  case closePublisherChannels =>
    cases taken
    exact .ran (.calls rfl) (outcome_closeChannels rfl rfl _)
      (.inl (closeChannels_mandatoryChannelPool _ _ _))
  case closeAll =>
    cases taken
    exact .ran (.calls rfl) (.startsClose rfl) (.inl rfl)
  case take task =>
    split at taken
    next free found =>
      cases taken
      exact stepped_takeLock free found
    · cases taken
  case created task =>
    split at taken
    next found =>
      cases taken
      exact stepped_yield found
    · cases taken
  case createFails task isPermanent =>
    split at taken
    next found =>
      cases taken
      exact stepped_failCreate found (by simp +contextual) isPermanent
    · cases taken
  case acquireEnds task =>
    split at taken
    next found =>
      cases taken
      exact stepped_rest found
    next found =>
      cases taken
      exact stepped_rest found
    · cases taken
  case acquireClosed task =>
    split at taken
    next kind _ channelPool found =>
      split at taken
      · split at taken
        · cases taken
          exact stepped_rest found
        next free =>
          cases taken
          exact .ran (.continues found rfl (by simp))
            (outcome_replace rfl (settled_restored rfl) kind channelPool)
            (.inr (.inl free))
      · cases taken
    · cases taken
  case openFails task =>
    split at taken
    next found =>
      cases taken
      exact stepped_rest found
    · cases taken
  case wakes task =>
    split at taken
    next found =>
      cases taken
      exact .ran (.continues found rfl (by simp)) (outcome_restoreLoop rfl)
        (.inl (congrArg mandatoryChannelPool (restoreLoop_resources pool _)))
    next found =>
      split at taken
      next unneeded =>
        cases taken
        refine .ran (.continues found rfl (by simp)) (.stops rfl ?_) (.inl rfl)
        rcases (Bool.or_eq_true _ _).mp unneeded with closing | connected
        · exact .inr (.inl closing)
        · exact .inl connected
      · cases taken
        exact .ran (.continues found rfl (by simp)) (.restores rfl rfl rfl) (.inl rfl)
    · cases taken
  case proceeds task =>
    split at taken
    next found =>
      cases taken
      exact stepped_proceed found
    next found =>
      cases taken
      exact .ran (.continues found rfl (by simp)) (outcome_closeChannels rfl rfl _)
        (.inl (closeChannels_mandatoryChannelPool _ _ _))
    · cases taken
  case timeout task =>
    split at taken
    next found =>
      cases taken
      exact .ran (.givesUp found rfl) (outcome_done rfl (settled_restored rfl)) (.inl rfl)
    next found =>
      cases taken
      exact .ran (.givesUp found rfl) (outcome_done rfl (settled_restored rfl)) (.inl rfl)
    · cases taken
  case cancel task =>
    split at taken
    next found =>
      exact stepped_cancelled found taken
    · cases taken
  case unwinds task =>
    split at taken
    next found =>
      cases taken
      exact .ran (.unwinds found) (outcome_done rfl (settled_restored rfl)) (.inl rfl)
    · cases taken
  case dies connection =>
    cases taken
    exact .dies
  case gaveUp =>
    cases taken
    exact .gaveUp

end AsyncConnectionPool
end RabbitKit
