import RabbitKit.ConnectionPoolControl

/-! # Closing the connection pool

`close_all` takes the lock, closes the channel pools and then the connections; past its timeout
it abandons them.  Nothing but the lock keeps other tasks away: neither an acquire nor
`get_publisher_connection` looks at `_closing`.  In runs in which no task gets the lock for a
new connection after the close, no creation that was under way at a timed-out close succeeds
after it, and no mandatory pool is asked for while the connections are closed, the pool does not
outlive its close.
-/

namespace RabbitKit

open LabelledRun PoolResources PoolStage List Option

namespace PoolResources

variable {resources resources' : PoolResources} {role : ConnectionRole} {connection : Nat}

def Live (resources : PoolResources) (role : ConnectionRole) (connection : Nat) : Prop :=
  ∃ entry, resources.connections[connection]? = some entry ∧ entry.role = role ∧
    entry.status = .live

def Rooted (resources : PoolResources) (channelPool : Nat) : Prop :=
  ∃ entry, resources.channelPools[channelPool]? = some entry ∧
    resources.publisherConnection = some entry.connection

structure Sound (resources : PoolResources) : Prop where
  publisher : ∀ {connection}, resources.Live .publisher connection →
    resources.publisherConnection = some connection
  consumer : ∀ {connection}, resources.Live .consumer connection →
    resources.consumerConnection = some connection
  publisherPool : ∀ {channelPool}, resources.publisherChannelPool = some channelPool →
    resources.Rooted channelPool
  mandatoryPool : ∀ {channelPool}, resources.mandatoryChannelPool = some channelPool →
    resources.Rooted channelPool

theorem Sound.no_pools (sound : Sound resources) (missing : resources.publisherConnection = none) :
    resources.publisherChannelPool = none ∧ resources.mandatoryChannelPool = none := by
  refine ⟨Option.eq_none_iff_forall_ne_some.mpr fun _ found => ?_,
    Option.eq_none_iff_forall_ne_some.mpr fun _ found => ?_⟩
  · obtain ⟨_, _, connected⟩ := sound.publisherPool found
    cases missing.symm.trans connected
  · obtain ⟨_, _, connected⟩ := sound.mandatoryPool found
    cases missing.symm.trans connected

/-- Connections and channel pools only end: what the operations that close have in common. -/
structure Fades (resources resources' : PoolResources) : Prop where
  live : ∀ {role connection}, resources'.Live role connection → resources.Live role connection
  pools : ∀ {channelPool : Nat} {entry : ChannelPoolEntry},
    resources.channelPools[channelPool]? = some entry →
      ∃ entry', resources'.channelPools[channelPool]? = some entry' ∧
        entry'.connection = entry.connection

theorem Fades.refl : Fades resources resources := ⟨id, fun found => ⟨_, found, rfl⟩⟩

theorem Fades.trans {first second third : PoolResources} (head : Fades first second)
    (tail : Fades second third) : Fades first third := by
  refine ⟨fun live => head.live (tail.live live), fun found => ?_⟩
  obtain ⟨middle, found', same⟩ := head.pools found
  obtain ⟨final, found'', same'⟩ := tail.pools found'
  exact ⟨final, found'', same'.trans same⟩

variable {change : PoolConnection → PoolConnection}

theorem not_live_modify (ends : ∀ entry, (change entry).status ≠ .live) (resources : PoolResources)
    (role : ConnectionRole) (connection : Nat) :
    ¬ Live { resources with connections := resources.connections.modify connection change }
      role connection := by
  rintro ⟨entry, found, _, live⟩
  rw [getElem?_modify_eq] at found
  obtain ⟨before, _, rfl⟩ := map_eq_some_iff.mp found
  exact ends before live

theorem fades_modify (ends : ∀ entry, (change entry).status ≠ .live) (resources : PoolResources)
    (connection : Nat) : Fades resources
      { resources with connections := resources.connections.modify connection change } := by
  refine ⟨fun {role other} live => ?_, fun found => ⟨_, found, rfl⟩⟩
  by_cases same : connection = other
  · subst same
    exact absurd live (not_live_modify ends resources role connection)
  · obtain ⟨entry, found, rest⟩ := live
    exact ⟨entry, (getElem?_modify_ne _ _ same).symm.trans found, rest⟩

theorem fades_dies (resources : PoolResources) (connection : Nat) :
    Fades resources { resources with
      connections := resources.connections.modify connection fun found =>
        { found with status := .closed } } :=
  fades_modify (by simp) resources connection

theorem closing_not_live (entry : PoolConnection) :
    (if entry.status = .live then ConnectionStatus.closing else entry.status) ≠ .live := by
  split
  · simp
  · assumption

section

variable (resources : PoolResources)

theorem fades_closeConnection (connection : Nat) :
    Fades resources (resources.closeConnection connection) :=
  fades_modify (fun entry => closing_not_live entry) resources connection

theorem not_live_closeConnection (role : ConnectionRole)
    (connection : Nat) : ¬ (resources.closeConnection connection).Live role connection :=
  not_live_modify (fun entry => closing_not_live entry) resources role connection

theorem fades_closePool (channelPool : Nat) :
    Fades resources (resources.closePool channelPool) := by
  refine ⟨id, fun {other entry} found => ?_⟩
  by_cases same : channelPool = other
  · subst same
    exact ⟨{ entry with closed := true }, by simp [closePool, found], rfl⟩
  · exact ⟨entry, (getElem?_modify_ne _ _ same).trans found, rfl⟩

theorem fades_closePools : Fades resources resources.closePools ∧
      resources.closePools.publisherConnection = resources.publisherConnection ∧
      resources.closePools.consumerConnection = resources.consumerConnection := by
  unfold closePools
  generalize [resources.publisherChannelPool, resources.mandatoryChannelPool].reduceOption = pools
  suffices all : ∀ reached : PoolResources, Fades resources reached ∧
      reached.publisherConnection = resources.publisherConnection ∧
      reached.consumerConnection = resources.consumerConnection →
      Fades resources (pools.foldl closePool reached) ∧
        (pools.foldl closePool reached).publisherConnection = resources.publisherConnection ∧
        (pools.foldl closePool reached).consumerConnection = resources.consumerConnection by
    exact all _ ⟨.refl, rfl, rfl⟩
  induction pools with
  | nil => exact fun _ faded => faded
  | cons channelPool pools ih =>
    intro reached faded
    exact ih _ ⟨faded.1.trans (fades_closePool reached channelPool), faded.2⟩

theorem fades_closeCurrent (current : Option Nat) :
    Fades resources (current.toList.foldl closeConnection resources) ∧
      ∀ {connection}, current = some connection →
        ∀ role, ¬ (current.toList.foldl closeConnection resources).Live role connection := by
  cases current with
  | none => exact ⟨.refl, by simp⟩
  | some connection =>
    refine ⟨fades_closeConnection resources connection, fun same role => ?_⟩
    cases some.inj same
    exact not_live_closeConnection resources role connection

theorem fades_detach : Fades resources resources.detach ∧
      ∀ {connection}, resources.publisherConnection = some connection →
        ∀ role, ¬ resources.detach.Live role connection := by
  obtain ⟨faded, _, _⟩ := fades_closePools resources
  obtain ⟨faded', ended⟩ := fades_closeCurrent resources.closePools resources.publisherConnection
  exact ⟨⟨(faded.trans faded').live, (faded.trans faded').pools⟩, ended⟩

theorem detach_consumerConnection :
    resources.detach.consumerConnection = resources.consumerConnection := by
  have kept := (fades_closePools resources).2.2
  unfold detach
  cases resources.publisherConnection <;> exact kept

theorem fades_abandonAll : Fades resources resources.abandonAll ∧
      ∀ {connection}, resources.publisherConnection = some connection ∨
        resources.consumerConnection = some connection →
        ∀ role, ¬ resources.abandonAll.Live role connection := by
  obtain ⟨faded, ended⟩ := fades_detach resources
  obtain ⟨faded', ended'⟩ := fades_closeCurrent resources.detach resources.consumerConnection
  refine ⟨⟨(faded.trans faded').live, (faded.trans faded').pools⟩, fun current role live => ?_⟩
  rcases current with current | current
  · exact ended current role (faded'.live live)
  · exact ended' current role live

end

/-- Resources that fade stay sound if a connection is given up only once it has ended, and the
publisher connection only with its channel pools. -/
theorem Sound.of_fades (sound : Sound resources) (faded : Fades resources resources')
    (publisher : resources'.publisherConnection = resources.publisherConnection ∨
      resources'.publisherChannelPool = none ∧ resources'.mandatoryChannelPool = none ∧
        ∀ {connection}, resources.publisherConnection = some connection →
          ¬ resources'.Live .publisher connection)
    (consumer : resources'.consumerConnection = resources.consumerConnection ∨
      ∀ {connection}, resources.consumerConnection = some connection →
        ¬ resources'.Live .consumer connection)
    (publisherPool : resources'.publisherChannelPool = resources.publisherChannelPool ∨
      resources'.publisherChannelPool = none)
    (mandatoryPool : resources'.mandatoryChannelPool = resources.mandatoryChannelPool ∨
      resources'.mandatoryChannelPool = none) : Sound resources' where
  publisher := by
    intro connection live
    have was := sound.publisher (faded.live live)
    rcases publisher with same | ⟨_, _, ended⟩
    · exact same.trans was
    · exact absurd live (ended was)
  consumer := by
    intro connection live
    have was := sound.consumer (faded.live live)
    rcases consumer with same | ended
    · exact same.trans was
    · exact absurd live (ended was)
  publisherPool := by
    intro channelPool current
    rcases publisher with kept | ⟨dropped, _, _⟩
    · rcases publisherPool with same | dropped
      · obtain ⟨entry, found, connected⟩ := sound.publisherPool (same.symm.trans current)
        obtain ⟨entry', found', same'⟩ := faded.pools found
        exact ⟨entry', found', by rw [kept, connected, same']⟩
      · cases dropped.symm.trans current
    · cases dropped.symm.trans current
  mandatoryPool := by
    intro channelPool current
    rcases publisher with kept | ⟨_, dropped, _⟩
    · rcases mandatoryPool with same | dropped
      · obtain ⟨entry, found, connected⟩ := sound.mandatoryPool (same.symm.trans current)
        obtain ⟨entry', found', same'⟩ := faded.pools found
        exact ⟨entry', found', by rw [kept, connected, same']⟩
      · cases dropped.symm.trans current
    · cases dropped.symm.trans current

theorem Sound.detach (sound : Sound resources) : Sound resources.detach := by
  obtain ⟨faded, ended⟩ := fades_detach resources
  exact sound.of_fades faded (.inr ⟨rfl, rfl, fun current => ended current _⟩)
    (.inl (detach_consumerConnection resources)) (.inr rfl) (.inr rfl)

theorem abandonAll_pools (resources : PoolResources) :
    resources.abandonAll.publisherChannelPool = none ∧
      resources.abandonAll.mandatoryChannelPool = none := by
  unfold abandonAll
  cases resources.consumerConnection <;> exact ⟨rfl, rfl⟩

theorem Sound.abandonAll (sound : Sound resources) : Sound resources.abandonAll := by
  obtain ⟨faded, ended⟩ := fades_abandonAll resources
  obtain ⟨publisherPool, mandatoryPool⟩ := abandonAll_pools resources
  exact sound.of_fades faded
    (.inr ⟨publisherPool, mandatoryPool, fun current => ended (.inl current) _⟩)
    (.inr fun current => ended (.inr current) _) (.inr publisherPool) (.inr mandatoryPool)

theorem live_append {role' : ConnectionRole}
    (connections : resources'.connections = resources.connections ++ [{ role := role' }])
    (live : resources'.Live role connection) :
    resources.Live role connection ∨ role = role' ∧ connection = resources.connections.length := by
  obtain ⟨entry, found, isRole, isLive⟩ := live
  rw [connections] at found
  rcases getElem?_of_joined found with stood | ⟨last, rfl⟩
  · exact .inl ⟨entry, stood, isRole, isLive⟩
  · exact .inr ⟨isRole.symm, last⟩

section

variable (sound : Sound resources)
include sound

theorem Sound.install
    (missing : resources.publisherConnection = none) : Sound resources.install where
  publisher := by
    intro connection live
    rcases live_append rfl live with was | ⟨_, rfl⟩
    · cases missing.symm.trans (sound.publisher was)
    · rfl
  consumer := by
    intro connection live
    rcases live_append rfl live with was | ⟨other, _⟩
    · exact sound.consumer was
    · cases other
  publisherPool := by
    intro channelPool current
    cases some.inj current
    exact ⟨{ connection := resources.connections.length }, by simp [PoolResources.install], rfl⟩
  mandatoryPool := by
    intro channelPool current
    cases (sound.no_pools missing).2.symm.trans current

theorem Sound.installConsumer
    (missing : resources.consumerConnection = none) : Sound resources.installConsumer where
  publisher := by
    intro connection live
    rcases live_append rfl live with was | ⟨other, _⟩
    · exact sound.publisher was
    · cases other
  consumer := by
    intro connection live
    rcases live_append rfl live with was | ⟨_, rfl⟩
    · cases missing.symm.trans (sound.consumer was)
    · rfl
  publisherPool := sound.publisherPool
  mandatoryPool := sound.mandatoryPool

theorem Sound.buildMandatory (connected : resources.publisherConnection = some connection) :
    Sound (resources.buildMandatory connection) where
  publisher := sound.publisher
  consumer := sound.consumer
  publisherPool := by
    intro channelPool current
    obtain ⟨entry, found, root⟩ := sound.publisherPool current
    have inBounds := (List.getElem?_eq_some_iff.mp found).1
    exact ⟨entry, (List.getElem?_append_left inBounds).trans found, root⟩
  mandatoryPool := by
    intro channelPool current
    cases Option.some.inj current
    exact ⟨{ connection := connection }, by simp [PoolResources.buildMandatory], connected⟩

theorem Sound.looked (looked : resources.Looked resources') : Sound resources' := by
  cases looked with
  | same => exact sound
  | built connected missing => exact sound.buildMandatory connected

end

end PoolResources

namespace PoolStage

def closesConnections : PoolStage → Bool
  | .closing (.connections _) => true
  | _ => false

def wantsConnection : PoolStage → Bool
  | .waiting (.get .restore) => false
  | .waiting (.get _) | .waiting .getConsumer | .waiting .connect => true
  | _ => false

def Fits (resources : PoolResources) : PoolStage → Prop
  | .creating purpose => purpose.missing resources = none
  | .closing .mandatoryPool => resources.publisherChannelPool = none
  | .closing (.connections left) =>
    resources.publisherChannelPool = none ∧ resources.mandatoryChannelPool = none ∧
      ∀ connection, resources.publisherConnection = some connection ∨
        resources.consumerConnection = some connection →
        connection ∈ left ∨ ∀ role, ¬ resources.Live role connection
  | _ => True

variable {stage : PoolStage} {resources : PoolResources}

theorem fits_of_waits (waits : stage.holds = false) : stage.Fits resources := by
  cases stage with
  | creating _ | closing _ => cases waits
  | _ => trivial

theorem stale_of_restores (still : stage.restores = true) : stage.stale = none := by
  cases stage with
  | waiting purpose =>
    cases purpose with
    | rebuild _ _ => cases still
    | _ => rfl
  | acquiring _ _ _ => cases still
  | _ => rfl

theorem fits_of_empty (stage : PoolStage) (publisher : resources.publisherConnection = none)
    (consumer : resources.consumerConnection = none)
    (publisherPool : resources.publisherChannelPool = none)
    (mandatoryPool : resources.mandatoryChannelPool = none) : stage.Fits resources := by
  cases stage with
  | creating purpose =>
    cases purpose with
    | consumer _ => exact consumer
    | _ => exact publisher
  | closing phase =>
    cases phase with
    | publisherPool => trivial
    | mandatoryPool => exact publisherPool
    | connections left =>
      refine ⟨publisherPool, mandatoryPool, fun connection current => ?_⟩
      simp [publisher, consumer] at current
  | _ => trivial

/-- What a task knows stays true while connections end and a mandatory pool is built, unless it
closes the connections. -/
theorem Fits.kept {resources resources' : PoolResources} (fits : stage.Fits resources)
    (live : ∀ {role connection}, resources'.Live role connection → resources.Live role connection)
    (publisher : resources'.publisherConnection = resources.publisherConnection)
    (consumer : resources'.consumerConnection = resources.consumerConnection)
    (publisherPool : resources'.publisherChannelPool = resources.publisherChannelPool)
    (mandatoryPool : stage.closesConnections = true →
      resources'.mandatoryChannelPool = resources.mandatoryChannelPool) :
    stage.Fits resources' := by
  cases stage with
  | creating purpose =>
    cases purpose with
    | consumer _ => exact consumer.trans fits
    | _ => exact publisher.trans fits
  | closing phase =>
    cases phase with
    | publisherPool => trivial
    | mandatoryPool => exact publisherPool.trans fits
    | connections left =>
      obtain ⟨first, second, rest⟩ := fits
      refine ⟨publisherPool.trans first, (mandatoryPool rfl).trans second, ?_⟩
      intro connection current
      rw [publisher, consumer] at current
      exact (rest connection current).imp_right fun ended role isLive =>
        ended role (live isLive)
  | _ => trivial

end PoolStage

namespace AsyncConnectionPool

variable {pool pool' base : AsyncConnectionPool} {task : Nat} {before stage : PoolStage}
variable {action : ConnectionPoolAction} {creator : Bool}

/-- No task gets the lock for a new connection after `close_all` has returned, no creation that
was under way then succeeds, and no mandatory pool is asked for while `close_all` waits for the
close of a connection. -/
def Orderly (pool : AsyncConnectionPool) : ConnectionPoolAction → Prop
  | .take task => pool.shut = true → pool.terminal = false →
      pool.tasks[task]?.all (fun stage => !stage.wantsConnection) = true
  | .created _ => pool.shut = false
  | .acquire .mandatory _ => pool.resources.publisherConnection.isSome = true →
      pool.tasks.all (fun stage => !stage.closesConnections) = true
  | _ => True

instance (pool : AsyncConnectionPool) : DecidablePred pool.Orderly := fun action => by
  unfold Orderly
  split <;> infer_instance

structure Tidy (pool : AsyncConnectionPool) : Prop where
  controlled : Controlled pool
  sound : pool.resources.Sound
  fits : ∀ {task : Nat} {stage : PoolStage}, pool.tasks[task]? = some stage →
    stage.Fits pool.resources
  stale : ∀ {task : Nat} {stage : PoolStage} {connection}, pool.tasks[task]? = some stage →
    stage.stale = some connection → connection.isSome = true
  shut : pool.shut = true →
    pool.resources.publisherConnection = none ∧ pool.resources.consumerConnection = none

/-- What a task that runs finds in an orderly run. -/
structure Ready (pool : AsyncConnectionPool) (task : Nat) (before : PoolStage) : Prop where
  entered : Entered pool task before
  sound : pool.resources.Sound
  others : ∀ {other : Nat} {stage : PoolStage}, task ≠ other → pool.tasks[other]? = some stage →
    stage.Fits pool.resources
  closer : before.closes = true → before.Fits pool.resources
  stale : ∀ {task : Nat} {stage : PoolStage} {connection}, pool.tasks[task]? = some stage →
    stage.stale = some connection → connection.isSome = true
  shut : pool.shut = true →
    pool.resources.publisherConnection = none ∧ pool.resources.consumerConnection = none

theorem Ready.of_found (tidy : Tidy pool) (entered : Entered base task before)
    (tasks : base.tasks = pool.tasks) (resources : base.resources = pool.resources)
    (shut : base.shut = pool.shut) : Ready base task before where
  entered := entered
  sound := resources ▸ tidy.sound
  others := by
    intro other stage _ located
    rw [resources]
    exact tidy.fits (tasks ▸ located)
  closer := by
    intro _
    rw [resources]
    exact tidy.fits (tasks ▸ entered.found)
  stale := fun located => tidy.stale (tasks ▸ located)
  shut := by
    rw [shut, resources]
    exact tidy.shut

theorem Ready.of_joined (tidy : Tidy pool) (entered : Entered base task .done)
    (tasks : base.tasks = pool.tasks ++ [.done]) (resources : base.resources = pool.resources)
    (shut : base.shut = true → pool.shut = true) : Ready base task .done where
  entered := entered
  sound := resources ▸ tidy.sound
  others := by
    intro other stage _ located
    rw [tasks] at located
    rw [resources]
    rcases getElem?_of_joined located with stood | ⟨_, rfl⟩
    · exact tidy.fits stood
    · trivial
  closer := nofun
  stale := by
    intro other stage connection located named
    rw [tasks] at located
    rcases getElem?_of_joined located with stood | ⟨_, rfl⟩
    · exact tidy.stale stood named
    · cases named
  shut := by
    rw [resources]
    exact fun ended => tidy.shut (shut ended)

theorem Ready.of_alone (tidy : Tidy pool) (entered : Entered base task before)
    (alone : base.lock = none ∨ before.holds = true) (sound : base.resources.Sound)
    (tasks : base.tasks = pool.tasks) (closer : before.closes = true → before.Fits base.resources)
    (shut : base.shut = true → base.resources.publisherConnection = none ∧
      base.resources.consumerConnection = none) : Ready base task before where
  entered := entered
  sound := sound
  others := fun different located =>
    fits_of_waits (entered.alone alone different located)
  closer := closer
  stale := fun located => tidy.stale (tasks ▸ located)
  shut := shut

variable {resources : PoolResources}

theorem Sound.passed (sound : resources.Sound) (phase : ClosePhase) :
    (passed resources phase).Sound := by
  cases phase with
  | publisherPool =>
    refine sound.of_fades ⟨id, fun found => ?_⟩ (.inl rfl) (.inl rfl) (.inr rfl) (.inl rfl)
    exact ⟨_, found, rfl⟩
  | mandatoryPool =>
    refine sound.of_fades ⟨id, fun found => ?_⟩ (.inl rfl) (.inl rfl) (.inl rfl) (.inr rfl)
    exact ⟨_, found, rfl⟩
  | connections left => exact sound

theorem fits_passed {phase : ClosePhase} (fits : (PoolStage.closing phase).Fits resources) :
    (PoolStage.closing phase).Fits (passed resources phase) := by
  cases phase <;> exact fits

variable {purpose : CreatePurpose}

theorem missing_publisher (forPublisher : ∀ connecting, purpose ≠ .consumer connecting) :
    purpose.missing resources = resources.publisherConnection := by
  cases purpose with
  | consumer connecting => exact absurd rfl (forPublisher connecting)
  | _ => rfl

theorem Ready.of_runs (tidy : Tidy pool) (orderly : pool.Orderly action)
    (runs : Runs pool action base task before creator) : Ready base task before := by
  have entered := Entered.of_runs tidy.controlled runs
  cases runs with
  | calls called => exact .of_joined tidy entered rfl rfl id
  | connects => exact .of_joined tidy entered rfl rfl (by simp [join])
  | continues | takes | fails | breaksOff | unwinds => exact .of_found tidy entered rfl rfl rfl
  | rebuilds free found same =>
    refine .of_alone tidy entered (.inl free) tidy.sound.detach rfl (fun closes => ?_) ?_
    · cases closes
    · intro ended
      exact ⟨rfl, (detach_consumerConnection _).trans (tidy.shut ended).2⟩
  | yields found forPublisher =>
    have notShut : pool.shut = false := orderly
    refine .of_alone tidy entered (.inl rfl) (tidy.sound.install ?_) rfl (fun closes => ?_) ?_
    · rw [← missing_publisher forPublisher]
      exact tidy.fits found
    · cases closes
    · intro ended
      cases notShut.symm.trans ended
  | yieldsConsumer found =>
    have notShut : pool.shut = false := orderly
    refine .of_alone tidy entered (.inl rfl) (tidy.sound.installConsumer (tidy.fits found)) rfl
      (fun closes => ?_) ?_
    · cases closes
    · intro ended
      cases notShut.symm.trans ended
  | proceeds found =>
    refine .of_alone tidy entered (.inr rfl) (Sound.passed tidy.sound _) rfl
      (fun _ => fits_passed (tidy.fits found)) ?_
    intro ended
    have empty := tidy.shut ended
    rename_i phase
    cases phase <;> exact empty
  | givesUp found closer =>
    have publisher := abandonAll_publisherConnection pool.resources
    obtain ⟨publisherPool, mandatoryPool⟩ := abandonAll_pools pool.resources
    exact {
      entered := entered
      sound := tidy.sound.abandonAll
      others := fun _ _ =>
        fits_of_empty _ publisher rfl publisherPool mandatoryPool
      closer := fun _ => fits_of_empty _ publisher rfl publisherPool mandatoryPool
      stale := tidy.stale
      shut := fun _ => ⟨publisher, rfl⟩ }

theorem Ready.moves (ready : Ready base task before) (controlled : Controlled pool')
    (moved : pool'.tasks = base.tasks.set task stage) (sound : pool'.resources.Sound)
    (mine : stage.Fits pool'.resources)
    (others : ∀ {other : Nat} {stage : PoolStage}, task ≠ other →
      base.tasks[other]? = some stage → stage.Fits pool'.resources)
    (stale : ∀ {connection}, stage.stale = some connection → connection.isSome = true)
    (shut : pool'.shut = true → pool'.resources.publisherConnection = none ∧
      pool'.resources.consumerConnection = none) : Tidy pool' where
  controlled := controlled
  sound := sound
  fits := by
    intro other otherStage located
    rw [moved] at located
    rcases getElem?_of_moved ready.entered.found located with ⟨_, rfl⟩ | ⟨different, stood⟩
    · exact mine
    · exact others different stood
  stale := by
    intro other otherStage connection located named
    rw [moved] at located
    rcases getElem?_of_moved ready.entered.found located with ⟨_, rfl⟩ | ⟨_, stood⟩
    · exact stale named
    · exact ready.stale stood named
  shut := shut

theorem Tidy.scheduleRestore (tidy : Tidy pool) : Tidy pool.scheduleRestore := by
  have controlled := tidy.controlled.scheduleRestore
  revert controlled
  unfold AsyncConnectionPool.scheduleRestore
  split
  · exact fun _ => tidy
  · split
    · exact fun _ => tidy
    · intro controlled
      refine ⟨controlled, tidy.sound, ?_, ?_, tidy.shut⟩
      · intro task stage located
        rcases getElem?_of_joined located with stood | ⟨_, rfl⟩
        · exact tidy.fits stood
        · trivial
      · intro task stage connection located named
        rcases getElem?_of_joined located with stood | ⟨_, rfl⟩
        · exact tidy.stale stood named
        · cases named

theorem Ready.startClose (ready : Ready base task before) : Tidy (base.startClose task) := by
  refine ⟨ready.entered.startClose, ready.sound, ?_, ?_, ready.shut⟩
  · intro other stage located
    rcases startClose_located ready.entered.found located with
      ⟨_, rfl⟩ | ⟨different, rfl | ⟨stood, _⟩⟩
    · trivial
    · trivial
    · exact ready.others different stood
  · intro other stage connection located named
    rcases startClose_located ready.entered.found located with
      ⟨_, rfl⟩ | ⟨different, rfl | ⟨stood, _⟩⟩
    · cases named
    · cases named
    · exact ready.stale stood named

/-- The connections that are current when the channel pools are closed are among those left. -/
theorem Ready.left (ready : Ready base task before) (closer : before.closes = true)
    {todo : List Nat} (origin : base.LeftToClose before todo) :
    (PoolStage.closing (.connections todo)).Fits base.resources := by
  have known := ready.closer closer
  rcases origin with ⟨rfl, second, first⟩ | rfl
  · refine ⟨first.elim id fun was => ?_, second, fun connection current => .inl ?_⟩
    · subst was
      exact known
    · refine mem_filterMap.mpr ⟨some connection, ?_, rfl⟩
      rcases current with current | current <;> simp [current]
  · exact known

theorem not_live_of_isClosed {connection : Nat}
    (ended : resources.isClosed connection = true) (role : ConnectionRole) :
    ¬ resources.Live role connection := by
  rintro ⟨entry, found, _, live⟩
  simp [isClosed, found, live] at ended

theorem Tidy.of_outcome (ready : Ready base task before)
    (outcome : Outcome base task before creator pool')
    (builds : ∀ {other : Nat} {stage : PoolStage}, task ≠ other →
      base.tasks[other]? = some stage → stage.closesConnections = true →
      pool'.resources.mandatoryChannelPool = base.resources.mandatoryChannelPool) : Tidy pool' := by
  have controlled := Controlled.of_outcome ready.entered outcome
  have fresh {connection : Option Nat} (named : none = some connection) :
      connection.isSome = true := by cases named
  cases outcome with
  | rests looked plain other _ stale =>
    obtain ⟨waits, _, _⟩ := plain_iff.mp plain
    refine ready.moves controlled rfl (ready.sound.looked looked) (fits_of_waits waits) ?_ ?_ ?_
    · intro other otherStage different stood
      have known := ready.others different stood
      have kept := builds different stood
      cases looked with
      | same => exact known
      | built connected missing => exact known.kept id rfl rfl rfl kept
    · intro connection named
      rcases stale connection named with was | ⟨same, present⟩
      · exact ready.stale ready.entered.found was
      · cases missing : connection with
        | some connection => rfl
        | none =>
          have there := present missing
          rw [missing] at same
          rw [(ready.sound.no_pools same.symm).1] at there
          cases there
    · intro ended
      have empty := ready.shut ended
      cases looked with
      | same | built => exact empty
  | closesChannels other _ =>
    refine ready.moves controlled rfl ?_ trivial ?_ fresh ready.shut
    · exact ready.sound.of_fades (fades_closePool _ _) (.inl rfl) (.inl rfl)
        (.inl rfl) (.inl rfl)
    · intro other otherStage different stood
      exact (ready.others different stood).kept id rfl rfl rfl fun _ => rfl
  | restores was still waits =>
    refine ready.moves controlled rfl ready.sound (fits_of_waits waits) ready.others ?_ ready.shut
    intro connection named
    rw [stale_of_restores still] at named
    cases named
  | stops was unneeded =>
    exact ready.moves controlled rfl ready.sound trivial ready.others fresh ready.shut
  | schedules other =>
    have moved : Controlled (base.setStage task .done) :=
      ready.entered.moves rfl rfl rfl (by simp [holds]) (.inl rfl) (.inl rfl) ready.entered.shut
    have ended : Tidy (base.setStage task .done) :=
      ready.moves moved rfl ready.sound trivial ready.others fresh ready.shut
    exact ended.scheduleRestore
  | creates free possible same _ missing =>
    exact ready.moves controlled rfl ready.sound missing ready.others fresh ready.shut
  | startsClose other => exact ready.startClose
  | closingPool other closer mine order =>
    refine ready.moves controlled rfl ?_ ?_ ?_ fresh ready.shut
    · exact ready.sound.of_fades (fades_closePool _ _) (.inl rfl) (.inl rfl)
        (.inl rfl) (.inl rfl)
    · rcases order with rfl | ⟨rfl, first⟩
      · trivial
      · exact first
    · exact fun different stood => fits_of_waits (ready.entered.alone mine different stood)
  | closingConnection other closer mine origin rest =>
    obtain ⟨first, second, known⟩ := ready.left closer origin
    rename_i connection left todo
    refine ready.moves controlled rfl ?_ ⟨first, second, ?_⟩ ?_ fresh ready.shut
    · exact ready.sound.of_fades (fades_closeConnection _ _) (.inl rfl) (.inl rfl)
        (.inl rfl) (.inl rfl)
    · intro next current
      have faded := fades_closeConnection base.resources connection
      rcases known next current with member | ended
      · rcases rest next member with rfl | later | ended
        · exact .inr fun role => not_live_closeConnection _ role _
        · exact .inl later
        · exact .inr fun role live => not_live_of_isClosed ended role (faded.live live)
      · exact .inr fun role live => ended role (faded.live live)
    · exact fun different stood => fits_of_waits (ready.entered.alone mine different stood)
  | closed other closer mine origin all =>
    obtain ⟨first, second, known⟩ := ready.left closer origin
    have gone : ∀ {connection}, base.resources.publisherConnection = some connection ∨
        base.resources.consumerConnection = some connection →
        ∀ role, ¬ base.resources.Live role connection := by
      intro connection current
      rcases known connection current with member | ended
      · exact not_live_of_isClosed (all connection member)
      · exact ended
    refine ready.moves controlled rfl ?_ trivial ?_ fresh (fun _ => ⟨rfl, rfl⟩)
    · refine ready.sound.of_fades ⟨id, fun found => ⟨_, found, rfl⟩⟩
        (.inr ⟨first, second, fun current => gone (.inl current) _⟩)
        (.inr fun current => gone (.inr current) _) (.inl rfl) (.inl rfl)
    · exact fun different stood => fits_of_waits (ready.entered.alone mine different stood)

theorem Runs.of_acquire {kind : ChannelKind} {idle : Bool}
    (runs : Runs pool (.acquire kind idle) base task before creator) :
    base.resources = pool.resources ∧ ∀ {other : Nat} {stage : PoolStage},
      base.tasks[other]? = some stage → stage = .done ∨ stage ∈ pool.tasks := by
  have kept : ∀ {other : Nat} {stage : PoolStage}, pool.tasks[other]? = some stage →
      stage = .done ∨ stage ∈ pool.tasks :=
    fun located => .inr (mem_of_getElem? located)
  cases runs with
  | calls called =>
    refine ⟨rfl, fun located => ?_⟩
    rcases getElem?_of_joined located with stood | ⟨_, rfl⟩
    · exact kept stood
    · exact .inl rfl
  | continues | fails | breaksOff | unwinds => exact ⟨rfl, kept⟩

theorem Outcome.mandatoryChannelPool (outcome : Outcome base task before creator pool') :
    pool'.resources.mandatoryChannelPool = base.resources.mandatoryChannelPool ∨
      base.resources.publisherConnection.isSome = true := by
  cases outcome with
  | rests looked plain other _ stale =>
    cases looked with
    | same => exact .inl rfl
    | built connected missing => exact .inr (by rw [connected]; rfl)
  | schedules other =>
    exact .inl (congrArg mandatoryChannelPool (scheduleRestore_resources _))
  | _ => exact .inl rfl

variable {other : Nat}

theorem no_build (ready : Ready base task before) (orderly : pool.Orderly action)
    (runs : Runs pool action base task before creator)
    (outcome : Outcome base task before creator pool')
    (builds : MayBuild base before action pool') (different : task ≠ other)
    (located : base.tasks[other]? = some stage) (closes : stage.closesConnections = true) :
    pool'.resources.mandatoryChannelPool = base.resources.mandatoryChannelPool := by
  have holds : stage.holds = true := by
    cases stage with
    | closing _ => rfl
    | _ => cases closes
  rcases builds with same | free | mine | ⟨idle, rfl⟩
  · exact same
  · rw [ready.entered.alone (.inl free) different located] at holds
    cases holds
  · rw [ready.entered.alone (.inr mine) different located] at holds
    cases holds
  · obtain ⟨resources, tasks⟩ := runs.of_acquire
    refine outcome.mandatoryChannelPool.resolve_right fun connected => ?_
    rw [resources] at connected
    have none_closes := all_eq_true.mp (orderly connected)
    rcases tasks located with rfl | member
    · cases closes
    · have notClosing := none_closes stage member
      rw [closes] at notClosing
      cases notClosing

theorem Tidy.step (tidy : Tidy pool) (orderly : pool.Orderly action)
    (taken : pool.step action = some pool') : Tidy pool' := by
  have controlled := tidy.controlled.step taken
  cases stepped taken with
  | dies =>
    have faded := fades_dies pool.resources
    refine ⟨controlled, ?_, ?_, tidy.stale, tidy.shut⟩
    · exact tidy.sound.of_fades (faded _) (.inl rfl) (.inl rfl) (.inl rfl) (.inl rfl)
    · intro task stage located
      exact (tidy.fits located).kept (faded _).live rfl rfl rfl fun _ => rfl
  | gaveUp => exact ⟨controlled, tidy.sound, tidy.fits, tidy.stale, tidy.shut⟩
  | ran runs outcome builds =>
    have ready := Ready.of_runs tidy orderly runs
    exact .of_outcome ready outcome (no_build ready orderly runs outcome builds)

theorem tidy_of_run {actions : List ConnectionPoolAction}
    (run : RunWithin step Orderly {} actions pool) : Tidy pool := by
  refine run.invariant (fun held admitted taken => .step held admitted taken) ?_
  exact {
    controlled := controlled_of_run .nil
    sound := ⟨by simp [PoolResources.Live], by simp [PoolResources.Live], by simp, by simp⟩
    fits := by simp
    stale := by simp
    shut := by simp }

theorem not_creating_of_waits (waits : stage.holds = false) (purpose : CreatePurpose) :
    stage ≠ .creating purpose := by
  rintro rfl
  cases waits

theorem Outcome.begun (outcome : Outcome base task before creator pool')
    (found : base.tasks[task]? = some before)
    (creating : pool'.tasks[other]? = some (.creating purpose)) :
    base.tasks[other]? = some (.creating purpose) ∨ creator = true ∧ base.terminal = false := by
  -- the running task comes to a stage at which it creates nothing
  have stood : ∀ {stage : PoolStage}, (∀ purpose, stage ≠ .creating purpose) →
      (base.tasks.set task stage)[other]? = some (.creating purpose) →
      base.tasks[other]? = some (.creating purpose) := by
    intro stage never located
    rcases getElem?_of_moved found located with ⟨_, same⟩ | ⟨_, stood⟩
    · exact absurd same.symm (never purpose)
    · exact stood
  cases outcome with
  | rests looked plain _ _ _ =>
    obtain ⟨waits, _, _⟩ := plain_iff.mp plain
    exact .inl (stood (not_creating_of_waits waits) creating)
  | closesChannels | stops | closingPool | closingConnection | closed =>
    exact .inl (stood (by simp) creating)
  | restores _ _ waits => exact .inl (stood (not_creating_of_waits waits) creating)
  | schedules _ =>
    refine .inl (stood (show ∀ purpose, done ≠ .creating purpose by simp) ?_)
    revert creating
    unfold scheduleRestore
    split
    · exact id
    · split
      · exact id
      · intro creating
        rcases getElem?_of_joined creating with stood | ⟨_, same⟩
        · exact stood
        · cases same
  | creates free possible same _ missing => exact .inr ⟨rfl, possible⟩
  | startsClose _ =>
    rcases startClose_located found creating with ⟨_, same⟩ | ⟨_, same | ⟨stood, _⟩⟩
    · cases same
    · cases same
    · exact .inl stood

theorem Runs.creating (runs : Runs pool action base task before creator)
    (creating : base.tasks[other]? = some (.creating purpose)) :
    pool.tasks[other]? = some (.creating purpose) := by
  cases runs with
  | calls | connects =>
    rcases getElem?_of_joined creating with stood | ⟨_, same⟩
    · exact stood
    · cases same
  | _ => exact creating

theorem no_creator (tidy : Tidy pool) (orderly : pool.Orderly action) (shut : pool.shut = true)
    (runs : Runs pool action base task before true) (possible : base.terminal = false) : False := by
  obtain ⟨missing, _⟩ := tidy.shut shut
  generalize mayCreate : true = creator at runs
  cases runs with
  | takes free found =>
    have unwanted := orderly shut possible
    rw [found] at unwanted
    rename_i purpose connectedOnce
    cases purpose with
    | get caller =>
      cases caller with
      | restore =>
        have running := (tidy.controlled.restoring found rfl).2
        cases running.symm.trans (tidy.controlled.shut shut)
      | call | acquire _ | retry _ => cases unwanted
    | getConsumer | connect => cases unwanted
    | rebuild _ _ | replacement _ _ | close => cases mayCreate
  | rebuilds free found same =>
    have there := tidy.stale found rfl
    rw [← same, missing] at there
    cases there
  | yields found forPublisher => cases shut.symm.trans orderly
  | calls | connects | continues | yieldsConsumer | fails | proceeds | givesUp | breaksOff
  | unwinds => cases mayCreate

theorem begins_nothing (tidy : Tidy pool) (orderly : pool.Orderly action)
    (shut : pool.shut = true) (taken : pool.step action = some pool')
    (creating : pool'.tasks[other]? = some (.creating purpose)) :
    pool.tasks[other]? = some (.creating purpose) := by
  cases stepped taken with
  | dies | gaveUp => exact creating
  | ran runs outcome builds =>
    have ready := Ready.of_runs tidy orderly runs
    rcases outcome.begun ready.entered.found creating with already | ⟨rfl, possible⟩
    · exact runs.creating already
    · exact (no_creator tidy orderly shut runs possible).elim

theorem makes_nothing (orderly : pool.Orderly action) (shut : pool.shut = true)
    (taken : pool.step action = some pool') :
    pool'.resources.connections.length = pool.resources.connections.length := by
  cases stepped taken with
  | dies => exact length_modify ..
  | gaveUp => rfl
  | ran runs outcome builds =>
    refine outcome.connections.trans ?_
    cases runs with
    | rebuilds free found same => exact detach_length _
    | yields | yieldsConsumer => cases shut.symm.trans orderly
    | proceeds found =>
      rename_i phase
      cases phase <;> rfl
    | givesUp found closer => exact abandonAll_length _
    | _ => rfl

/-- No connection is held, no channel pool is current, and every connection that was ever
created is closed or being closed. -/
structure Ended (resources : PoolResources) : Prop where
  publisher : resources.publisherConnection = none
  consumer : resources.consumerConnection = none
  publisherPool : resources.publisherChannelPool = none
  mandatoryPool : resources.mandatoryChannelPool = none
  connections : ∀ entry ∈ resources.connections, entry.status ≠ .live

theorem Tidy.ended (tidy : Tidy pool) (shut : pool.shut = true) : Ended pool.resources := by
  obtain ⟨publisher, consumer⟩ := tidy.shut shut
  refine ⟨publisher, consumer, (tidy.sound.no_pools publisher).1,
    (tidy.sound.no_pools publisher).2, fun entry member live => ?_⟩
  obtain ⟨connection, found⟩ := mem_iff_getElem?.mp member
  cases role : entry.role with
  | publisher => cases publisher.symm.trans (tidy.sound.publisher ⟨entry, found, role, live⟩)
  | consumer => cases consumer.symm.trans (tidy.sound.consumer ⟨entry, found, role, live⟩)

/-- In orderly runs at most one publisher connection is live, the channel pools are built on it,
and a closed pool holds nothing, has nothing open and begins nothing. -/
theorem never_outlives_close {actions : List ConnectionPoolAction}
    (run : RunWithin step Orderly {} actions pool) :
    (∀ first second, pool.resources.Live .publisher first →
      pool.resources.Live .publisher second → first = second) ∧
    (∀ channelPool, pool.resources.publisherChannelPool = some channelPool ∨
      pool.resources.mandatoryChannelPool = some channelPool → pool.resources.Rooted channelPool) ∧
    (pool.shut = true → Ended pool.resources ∧
      ∀ action pool', pool.Orderly action → pool.step action = some pool' →
        pool'.resources.connections.length = pool.resources.connections.length ∧
        ∀ (task : Nat) (purpose : CreatePurpose), pool'.tasks[task]? = some (.creating purpose) →
          pool.tasks[task]? = some (.creating purpose)) := by
  have tidy := tidy_of_run run
  refine ⟨fun first second live live' => ?_, fun channelPool current => ?_, fun shut => ?_⟩
  · exact some.inj ((tidy.sound.publisher live).symm.trans (tidy.sound.publisher live'))
  · exact current.elim tidy.sound.publisherPool tidy.sound.mandatoryPool
  · refine ⟨tidy.ended shut, fun action pool' orderly taken => ?_⟩
    exact ⟨makes_nothing orderly shut taken,
      fun task purpose creating => begins_nothing tidy orderly shut taken creating⟩

/-- Calls that meet a close: an acquire waits, its open fails, and by the time it has the lock
for a rebuild the pool is closed; it gives up on a deadline. -/
theorem never_outlives_close_waiting : ∃ pool, RunWithin step Orderly {}
      [.connect, .take 0, .created 0, .created 0, .acquire .publisher false,
        .acquire .mandatory false, .openFails 1, .closeAll, .take 3, .proceeds 3, .proceeds 3,
        .proceeds 3, .proceeds 3, .take 1, .cancel 1] pool ∧
      pool.shut = true ∧ Ended pool.resources := by
  refine exists_runWithin_of_check
    (fun pool => pool.shut) (by decide +kernel)
    fun pool run shut => ?_
  exact ⟨shut, ((never_outlives_close run).2.2 shut).1⟩

/-- An acquire whose open failed waits for the lock while the pool is closed: it finds the
connection gone, asks for another and creates one that nobody will close.  A creation that is
under way when a close times out ends in the same way.  And a mandatory acquire that comes while
the connections are closed builds a channel pool that stays open. -/
theorem outlives_close : (∃ pool, Run step {}
      [.connect, .take 0, .created 0, .created 0, .acquire .publisher false, .openFails 1,
        .closeAll, .take 2, .proceeds 2, .proceeds 2, .proceeds 2, .take 1, .take 1, .created 1]
      pool ∧ pool.shut = true ∧ pool.resources.publisherConnection = some 2 ∧
      pool.resources.connections[2]? = some ⟨.publisher, .live⟩) ∧
    (∃ pool, Run step {} [.getPublisher, .take 0, .closeAll, .timeout 1, .created 0] pool ∧
      pool.shut = true ∧ pool.resources.publisherConnection = some 0 ∧
      pool.resources.connections[0]? = some ⟨.publisher, .live⟩) ∧ (∃ pool, Run step {}
      [.connect, .take 0, .created 0, .created 0, .closeAll, .take 1, .proceeds 1,
        .acquire .mandatory false, .proceeds 1, .proceeds 1] pool ∧
      pool.shut = true ∧ pool.resources.mandatoryChannelPool = some 1 ∧
      pool.resources.isClosedPool 1 = false) := by
  refine ⟨?_, ?_, ?_⟩
  · exact exists_runWithin_of_decide (by decide +kernel)
  · exact exists_runWithin_of_decide (by decide +kernel)
  · exact exists_runWithin_of_decide (by decide +kernel)

end AsyncConnectionPool
end RabbitKit
