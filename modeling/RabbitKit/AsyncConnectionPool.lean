import RabbitKit.LabelledRun

/-! # The asynchronous connection pool

`AsyncConnectionPool`: one publisher and one consumer connection, a channel pool for ordinary
publishes and one for mandatory ones on the publisher connection, and a lock under which connections
are created and closed. Calls run as tasks of one event loop, so a task goes on from one `await` to
the next without interruption; `PoolStage` says at which `await` it is.

Two fields are not in the source: `shut`, that a `close_all` has returned and `connect` was not
called since it began, and `replaced`, the connections that rebuilds have replaced.
-/

namespace RabbitKit

open LabelledRun

inductive ConnectionRole
  | publisher
  | consumer
  deriving DecidableEq

inductive ConnectionStatus
  | live
  | closing
  | closed
  deriving DecidableEq

structure PoolConnection where
  role : ConnectionRole
  status : ConnectionStatus := .live
  deriving DecidableEq

/-- A channel pool that was built: its connection, and `_closed`. -/
structure ChannelPoolEntry where
  connection : Nat
  closed : Bool := false
  deriving DecidableEq

inductive ChannelKind
  | publisher
  | mandatory
  deriving DecidableEq

/-- Connections and channel pools are known by the order in which they were made. -/
structure PoolResources where
  connections : List PoolConnection := []
  channelPools : List ChannelPoolEntry := []
  publisherConnection : Option Nat := none
  consumerConnection : Option Nat := none
  publisherChannelPool : Option Nat := none
  mandatoryChannelPool : Option Nat := none
  deriving DecidableEq

namespace PoolResources

variable (resources : PoolResources)

/-- `close` is begun, or was before. -/
def closeConnection (connection : Nat) : PoolResources :=
  { resources with
    connections := resources.connections.modify connection fun found =>
      { found with status := if found.status = .live then .closing else found.status } }

/-- `close_all` or `abandon` of a channel pool. -/
def closePool (channelPool : Nat) : PoolResources :=
  { resources with
    channelPools := resources.channelPools.modify channelPool fun found =>
      { found with closed := true } }

def isClosed (connection : Nat) : Bool :=
  resources.connections[connection]?.any (·.status = .closed)

def isClosedPool (channelPool : Nat) : Bool :=
  resources.channelPools[channelPool]?.any (·.closed)

def install : PoolResources :=
  { resources with
    connections := resources.connections ++ [{ role := .publisher }]
    publisherConnection := some resources.connections.length
    channelPools := resources.channelPools ++ [{ connection := resources.connections.length }]
    publisherChannelPool := some resources.channelPools.length }

def installConsumer : PoolResources :=
  { resources with
    connections := resources.connections ++ [{ role := .consumer }]
    consumerConnection := some resources.connections.length }

/-- `AsyncConnectionPool._mandatory_pool`. -/
def buildMandatory (connection : Nat) : PoolResources :=
  { resources with
    channelPools := resources.channelPools ++ [{ connection := connection }]
    mandatoryChannelPool := some resources.channelPools.length }

/-- `_current_publisher_pool` and `_current_mandatory_pool`; the latter builds the pool when
there is none. -/
def current : ChannelKind → PoolResources × Option Nat
  | .publisher => (resources, resources.publisherChannelPool)
  | .mandatory =>
    match resources.publisherConnection, resources.mandatoryChannelPool with
    | none, _ => (resources, none)
    | some _, some channelPool => (resources, some channelPool)
    | some connection, none =>
      (resources.buildMandatory connection, some resources.channelPools.length)

def closePools : PoolResources :=
  [resources.publisherChannelPool, resources.mandatoryChannelPool].reduceOption.foldl
    closePool resources

/-- The teardown of `_rebuild_publisher_connection`. -/
def detach : PoolResources :=
  { resources.publisherConnection.toList.foldl closeConnection resources.closePools with
    publisherConnection := none
    publisherChannelPool := none
    mandatoryChannelPool := none }

/-- `AsyncConnectionPool._abandon_all`. -/
def abandonAll : PoolResources :=
  { resources.consumerConnection.toList.foldl closeConnection resources.detach with
    consumerConnection := none }

end PoolResources

/-- Who called `get_publisher_connection`: the user, an acquire at its start, an acquire after
a rebuild, or the restore task. -/
inductive GetCaller
  | call
  | acquire (kind : ChannelKind)
  | retry (kind : ChannelKind)
  | restore
  deriving DecidableEq

inductive LockPurpose
  | get (caller : GetCaller)
  | getConsumer
  | connect
  | rebuild (kind : ChannelKind) (stale : Option Nat)
  | replacement (kind : ChannelKind) (channelPool : Nat)
  | close
  deriving DecidableEq

inductive CreatePurpose
  | get (caller : GetCaller)
  | connect
  | rebuild (kind : ChannelKind)
  | consumer (connecting : Bool)
  deriving DecidableEq

/-- What `_close_all_locked` waits for: the close of a channel pool, or of a connection with
the connections left to close. -/
inductive ClosePhase
  | publisherPool
  | mandatoryPool
  | connections (left : List Nat)
  deriving DecidableEq

inductive PoolStage
  | waiting (purpose : LockPurpose)
  | creating (purpose : CreatePurpose)
  | acquiring (kind : ChannelKind) (stale : Option Nat) (channelPool : Nat)
  | retrying (kind : ChannelKind) (channelPool : Nat)
  | scheduled
  | sleeping
  | unwinding
  | closing (phase : ClosePhase)
  | closingPools (left : List Nat)
  | done
  deriving DecidableEq

structure AsyncConnectionPool where
  resources : PoolResources := {}
  closing : Bool := false
  terminal : Bool := false
  connectedOnce : Bool := false
  shut : Bool := false
  replaced : List Nat := []
  lock : Option Nat := none
  restoreTask : Option Nat := none
  tasks : List PoolStage := []
  deriving DecidableEq

inductive ConnectionPoolAction
  | connect
  | getPublisher
  | getConsumer
  | acquire (kind : ChannelKind) (idle : Bool)
  | closePublisherChannels
  | closeAll
  | take (task : Nat)
  | created (task : Nat)
  | createFails (task : Nat) (isPermanent : Bool)
  | acquireEnds (task : Nat)
  | acquireClosed (task : Nat)
  | openFails (task : Nat)
  | wakes (task : Nat)
  | proceeds (task : Nat)
  | timeout (task : Nat)
  | cancel (task : Nat)
  | unwinds (task : Nat)
  | dies (connection : Nat)
  | gaveUp
  deriving DecidableEq

namespace AsyncConnectionPool

variable (pool : AsyncConnectionPool)

def setStage (task : Nat) (stage : PoolStage) : AsyncConnectionPool :=
  { pool with tasks := pool.tasks.set task stage }

def join (stage : PoolStage) : AsyncConnectionPool :=
  { pool with tasks := pool.tasks ++ [stage] }

def release : AsyncConnectionPool := { pool with lock := none }

/-- `_acquire_healing` up to its first acquire. -/
def heal (kind : ChannelKind) (task : Nat) : AsyncConnectionPool :=
  match pool.resources.current kind with
  | (_, none) => pool.setStage task .done
  | (resources, some channelPool) =>
    { pool with resources := resources }.setStage task
      (.acquiring kind pool.resources.publisherConnection channelPool)

/-- The second acquire of `_acquire_healing`. -/
def retry (kind : ChannelKind) (task : Nat) : AsyncConnectionPool :=
  match pool.resources.current kind with
  | (_, none) => pool.setStage task .done
  | (resources, some channelPool) =>
    { pool with resources := resources }.setStage task (.retrying kind channelPool)

/-- `_acquire_healing` after a rebuild. -/
def afterRebuild (kind : ChannelKind) (task : Nat) : AsyncConnectionPool :=
  match pool.resources.publisherConnection with
  | none => pool.setStage task (.waiting (.get (.retry kind)))
  | some _ => pool.retry kind task

def replace (kind : ChannelKind) (channelPool task : Nat) : AsyncConnectionPool :=
  match pool.resources.current kind with
  | (_, none) => pool.setStage task .done
  | (resources, some replacement) =>
    if replacement = channelPool ∨ resources.isClosedPool replacement = true then
      { pool with resources := resources }.setStage task .done
    else { pool with resources := resources }.afterRebuild kind task

/-- `_schedule_publisher_restore`. -/
def scheduleRestore : AsyncConnectionPool :=
  if pool.closing || pool.terminal then pool
  else if pool.restoreTask.any (fun task => pool.tasks[task]? ≠ some PoolStage.done) then pool
  else { pool.join .scheduled with restoreTask := some pool.tasks.length }

/-- The head of the loop of `_restore_publisher_connection`. -/
def restoreLoop (task : Nat) : AsyncConnectionPool :=
  if pool.resources.publisherConnection.isNone && !pool.closing && !pool.terminal then
    pool.setStage task .sleeping
  else pool.setStage task .done

/-- Where a task goes on once it has a connection. -/
def continueGet (task : Nat) : GetCaller → AsyncConnectionPool
  | .call => pool.setStage task .done
  | .acquire kind => pool.heal kind task
  | .retry kind => pool.retry kind task
  | .restore => pool.restoreLoop task

/-- `close_all` up to its wait for the lock. -/
def startClose (task : Nat) : AsyncConnectionPool :=
  { pool with
    closing := true
    restoreTask := none
    tasks := (match pool.restoreTask with
      | some restore =>
        if pool.tasks[restore]? = some PoolStage.done then pool.tasks
        else pool.tasks.set restore .unwinding
      | none => pool.tasks).set task (.waiting .close) }

/-- `_create_connection` raises. -/
def failCreate (task : Nat) (isPermanent : Bool) : CreatePurpose → AsyncConnectionPool
  | .get .restore =>
    if isPermanent then { pool with terminal := true }.setStage task .done
    else pool.restoreLoop task
  | .get _ | .consumer false => pool.setStage task .done
  | .rebuild _ => (pool.setStage task .done).scheduleRestore
  | .connect | .consumer true => pool.startClose task

/-- A terminal error makes `_create_connection` raise at once. -/
def beginCreate (task : Nat) (purpose : CreatePurpose) : AsyncConnectionPool :=
  if pool.terminal then pool.release.failCreate task false purpose
  else { pool with lock := some task }.setStage task (.creating purpose)

/-- The second half of `_connect_unguarded`. -/
def connectConsumer (task : Nat) : AsyncConnectionPool :=
  match pool.resources.consumerConnection with
  | none => pool.beginCreate task (.consumer true)
  | some _ => { pool.release with connectedOnce := true }.setStage task .done

/-- The loop of `_close_all_locked` over the connections, and its end. -/
def closeConnections (task : Nat) : List Nat → AsyncConnectionPool
  | connection :: left =>
    if pool.resources.isClosed connection then closeConnections task left
    else
      { pool with
        lock := some task
        resources := pool.resources.closeConnection connection }.setStage task
          (.closing (.connections left))
  | [] =>
    { pool with
      lock := none
      shut := pool.closing
      resources := { pool.resources with
        publisherConnection := none
        consumerConnection := none } }.setStage task .done

/-- In `_close_all_locked`. -/
def closeMandatoryPool (task : Nat) : AsyncConnectionPool :=
  match pool.resources.mandatoryChannelPool with
  | some channelPool =>
    { pool with
      lock := some task
      resources := pool.resources.closePool channelPool }.setStage task
        (.closing .mandatoryPool)
  | none => pool.closeConnections task
      [pool.resources.publisherConnection, pool.resources.consumerConnection].reduceOption

/-- In `_close_all_locked`. -/
def closePublisherPool (task : Nat) : AsyncConnectionPool :=
  match pool.resources.publisherChannelPool with
  | some channelPool =>
    { pool with
      lock := some task
      resources := pool.resources.closePool channelPool }.setStage task
        (.closing .publisherPool)
  | none => pool.closeMandatoryPool task

/-- The loop of `close_publisher_channels`. -/
def closeChannels (task : Nat) : List Nat → AsyncConnectionPool
  | channelPool :: left =>
    { pool with resources := pool.resources.closePool channelPool }.setStage task
      (.closingPools left)
  | [] => pool.setStage task .done

def takeLock (task : Nat) : LockPurpose → AsyncConnectionPool
  | .get caller =>
    match pool.resources.publisherConnection with
    | none => pool.beginCreate task (.get caller)
    | some _ => pool.continueGet task caller
  | .getConsumer =>
    match pool.resources.consumerConnection with
    | none => pool.beginCreate task (.consumer false)
    | some _ => pool.setStage task .done
  | .connect =>
    match pool.resources.publisherConnection with
    | none => pool.beginCreate task .connect
    | some _ => pool.connectConsumer task
  | .rebuild kind stale =>
    if pool.resources.publisherConnection ≠ stale then pool.afterRebuild kind task
    else
      { pool with
        resources := pool.resources.detach
        replaced := pool.replaced ++ stale.toList }.beginCreate task (.rebuild kind)
  | .replacement kind channelPool => pool.replace kind channelPool task
  | .close => pool.closePublisherPool task

def yield (task : Nat) : CreatePurpose → AsyncConnectionPool
  | .get caller =>
    { pool.release with resources := pool.resources.install }.continueGet task caller
  | .rebuild kind =>
    { pool.release with resources := pool.resources.install }.afterRebuild kind task
  | .connect => { pool with resources := pool.resources.install }.connectConsumer task
  | .consumer connecting =>
    { pool.release with
      resources := pool.resources.installConsumer
      connectedOnce := pool.connectedOnce || connecting }.setStage task .done

def proceed (task : Nat) : ClosePhase → AsyncConnectionPool
  | .publisherPool =>
    { pool with
      resources := { pool.resources with publisherChannelPool := none } }.closeMandatoryPool task
  | .mandatoryPool =>
    { pool with
      resources := { pool.resources with mandatoryChannelPool := none } }.closeConnections task
        [pool.resources.publisherConnection, pool.resources.consumerConnection].reduceOption
  | .connections left => pool.closeConnections task left

def unlock (task : Nat) : AsyncConnectionPool :=
  { pool with lock := if pool.lock = some task then none else pool.lock }

/-- `close_all` has run out of time. -/
def giveUp (task : Nat) : AsyncConnectionPool :=
  { pool.unlock task with
    resources := pool.resources.abandonAll
    shut := pool.closing }.setStage task .done

def cancelled (task : Nat) : PoolStage → Option AsyncConnectionPool
  | .creating (.get .restore) | .waiting (.get .restore) | .scheduled | .sleeping | .unwinding
  | .done => none
  | .creating purpose => some (pool.release.failCreate task false purpose)
  | .waiting .connect => some (pool.startClose task)
  | .closing _ => some (pool.release.setStage task .done)
  | .waiting _ | .acquiring _ _ _ | .retrying _ _ | .closingPools _ =>
    some (pool.setStage task .done)

/-- An acquire up to its first `await`. -/
def startAcquire (idle : Bool) : ChannelKind → AsyncConnectionPool
  | .publisher =>
    match pool.resources.publisherChannelPool with
    | none => pool.join (.waiting (.get (.acquire .publisher)))
    | some _ =>
      if idle then pool.join .done else (pool.join .done).heal .publisher pool.tasks.length
  | .mandatory =>
    match pool.resources.publisherConnection with
    | none => pool.join (.waiting (.get (.acquire .mandatory)))
    | some _ =>
      if idle && pool.resources.mandatoryChannelPool.isSome then pool.join .done
      else (pool.join .done).heal .mandatory pool.tasks.length

def step : ConnectionPoolAction → Option AsyncConnectionPool
  | .connect =>
    some ({ pool with closing := false, shut := false }.join (.waiting .connect))
  | .getPublisher => some (pool.join (.waiting (.get .call)))
  | .getConsumer => some (pool.join (.waiting .getConsumer))
  | .acquire kind idle => some (pool.startAcquire idle kind)
  | .closePublisherChannels =>
    some ((pool.join .done).closeChannels pool.tasks.length
      [pool.resources.publisherChannelPool, pool.resources.mandatoryChannelPool].reduceOption)
  | .closeAll => some ((pool.join .done).startClose pool.tasks.length)
  | .take task =>
    match pool.lock, pool.tasks[task]? with
    | none, some (.waiting purpose) => some (pool.takeLock task purpose)
    | _, _ => none
  | .created task =>
    match pool.tasks[task]? with
    | some (.creating purpose) => some (pool.yield task purpose)
    | _ => none
  | .createFails task isPermanent =>
    match pool.tasks[task]? with
    | some (.creating purpose) =>
      some ({ pool.release with
        terminal := pool.terminal || (isPermanent && pool.connectedOnce) }.failCreate
          task isPermanent purpose)
    | _ => none
  | .acquireEnds task =>
    match pool.tasks[task]? with
    | some (.acquiring _ _ _) | some (.retrying _ _) => some (pool.setStage task .done)
    | _ => none
  | .acquireClosed task =>
    match pool.tasks[task]? with
    | some (.acquiring kind _ channelPool) =>
      if pool.resources.isClosedPool channelPool then
        match pool.lock with
        | some _ => some (pool.setStage task (.waiting (.replacement kind channelPool)))
        | none => some (pool.replace kind channelPool task)
      else none
    | _ => none
  | .openFails task =>
    match pool.tasks[task]? with
    | some (.acquiring kind stale _) => some (pool.setStage task (.waiting (.rebuild kind stale)))
    | _ => none
  | .wakes task =>
    match pool.tasks[task]? with
    | some .scheduled => some (pool.restoreLoop task)
    | some .sleeping =>
      if pool.closing || pool.resources.publisherConnection.isSome then
        some (pool.setStage task .done)
      else some (pool.setStage task (.waiting (.get .restore)))
    | _ => none
  | .proceeds task =>
    match pool.tasks[task]? with
    | some (.closing phase) => some (pool.proceed task phase)
    | some (.closingPools left) => some (pool.closeChannels task left)
    | _ => none
  | .timeout task =>
    match pool.tasks[task]? with
    | some (.waiting .close) | some (.closing _) => some (pool.giveUp task)
    | _ => none
  | .cancel task =>
    match pool.tasks[task]? with
    | some stage => pool.cancelled task stage
    | none => none
  | .unwinds task =>
    match pool.tasks[task]? with
    | some .unwinding => some ((pool.unlock task).setStage task .done)
    | _ => none
  | .dies connection =>
    some { pool with
      resources := { pool.resources with
        connections := pool.resources.connections.modify connection fun found =>
          { found with status := .closed } } }
  | .gaveUp => some { pool with terminal := true }

end AsyncConnectionPool
end RabbitKit
