import RabbitKit.LabelledRun
import RabbitKit.QueueDefinitions

/-! # Migration of classic queues to quorum queues

`rabbitkit topology migrate` with the drain-cutover strategy: for each declared quorum queue
that is live as a classic one, the messages are shovelled to a temporary quorum queue, the
queue is deleted and declared again as quorum with its bindings, and the messages are
shovelled back.  After each step the command writes the steps completed so far to a state
file, from which a run with `--resume` goes on.

The model has one process at a time, which may end between any two of its management calls
and checkpoints, and the shovels, which move on their own.  A shovel takes the length of its
source when it is declared, moves that many messages one at a time, and deletes itself.  The
broker has no other clients.
-/

namespace RabbitKit

open LabelledRun

structure LiveBinding where
  source : String
  routingKey : String
  arguments : ArgumentTable

structure LiveQueue (Message : Type*) where
  durable : Bool := true
  arguments : ArgumentTable
  bindings : List LiveBinding := []
  messages : List Message := []

/-- `rabbitkit-migrate-{queue}-out` and `rabbitkit-migrate-{queue}-back`. -/
structure ShovelName where
  queue : String
  back : Bool
  deriving DecidableEq

def quorumOnly : ArgumentTable := OrderedDict.empty.set "x-queue-type" (.text "quorum")

/-- What the server checks: the arguments a quorum queue may have, which by default are all but
those for lazy queues and priorities, and the exchanges a queue can be bound to. -/
structure BrokerRules where
  allows : ArgumentTable → Bool := fun arguments =>
    (arguments.get? "x-queue-mode").isNone && (arguments.get? "x-max-priority").isNone
  exchanges : List String := []
  allows_quorumOnly : allows quorumOnly = true := by decide

/-- A shovel is known by its name and the number of messages it has still to move. -/
structure MigrationBroker (Message : Type*) where
  rules : BrokerRules := {}
  queues : OrderedDict String (LiveQueue Message) := .empty
  shovels : OrderedDict ShovelName Nat := .empty

/-- `name + _TMP_SUFFIX`. -/
def temporary (name : String) : String := name ++ ".migrate-tmp"

def ShovelName.source (shovel : ShovelName) : String :=
  if shovel.back then temporary shovel.queue else shovel.queue

def ShovelName.destination (shovel : ShovelName) : String :=
  if shovel.back then shovel.queue else temporary shovel.queue

variable {Message : Type*}

/-- As in `_live_classic_queues`. -/
def LiveQueue.isClassic (queue : LiveQueue Message) : Bool :=
  match queue.arguments.get? "x-queue-type" with
  | some kind => kind = .text "classic"
  | none => true

/-- The original arguments with `x-queue-type` replaced. -/
def quorumArguments (arguments : ArgumentTable) : ArgumentTable :=
  (arguments.erase "x-queue-type").set "x-queue-type" (.text "quorum")

def LiveQueue.accepts (queue : LiveQueue Message) (arguments : ArgumentTable) : Bool :=
  queue.durable && (queue.arguments.keys ++ arguments.keys).all
    (fun key => queue.arguments.get? key = arguments.get? key)

namespace MigrationBroker

variable (broker : MigrationBroker Message)

def messages (name : String) : List Message :=
  ((broker.queues.get? name).map (·.messages)).getD []

def classic (name : String) : Bool :=
  (broker.queues.get? name).any (·.isClassic)

def consumers (name : String) : Nat :=
  broker.shovels.entries.countP (·.1.source = name)

def setQueue (name : String) (queue : LiveQueue Message) : MigrationBroker Message :=
  { broker with queues := broker.queues.set name queue }

/-- Declaring a queue is refused for its arguments, or if it exists with other properties. -/
def declareQueue (name : String) (arguments : ArgumentTable) : Option (MigrationBroker Message) :=
  match broker.queues.get? name with
  | none =>
    if broker.rules.allows arguments then some (broker.setQueue name { arguments := arguments })
    else none
  | some queue => if queue.accepts arguments then some broker else none

def deleteQueue (name : String) : Option (MigrationBroker Message) :=
  match broker.queues.get? name with
  | some _ => some { broker with queues := broker.queues.erase name }
  | none => none

def bindQueue (name : String) (binding : LiveBinding) : Option (MigrationBroker Message) :=
  match broker.queues.get? name with
  | some queue =>
    if binding.source ∈ broker.rules.exchanges then
      some (broker.setQueue name { queue with bindings := queue.bindings ++ [binding] })
    else none
  | none => none

/-- Declaring a shovel again starts it anew; one with nothing to move ends at once. -/
def putShovel (shovel : ShovelName) : MigrationBroker Message :=
  let length := (broker.messages shovel.source).length
  { broker with
    shovels := if length = 0 then broker.shovels.erase shovel
      else broker.shovels.set shovel length }

def moveOne (shovel : ShovelName) : Option (MigrationBroker Message) :=
  match broker.shovels.get? shovel, broker.queues.get? shovel.source,
      broker.queues.get? shovel.destination with
  | some remaining, some source, some destination =>
    match source.messages with
    | message :: rest =>
      let taken := broker.setQueue shovel.source { source with messages := rest }
      let given := taken.setQueue shovel.destination
        { destination with messages := destination.messages ++ [message] }
      some { given with
        shovels := if remaining ≤ 1 then broker.shovels.erase shovel
          else broker.shovels.set shovel (remaining - 1) }
    | [] => none
  | _, _, _ => none

end MigrationBroker

inductive MigrationStep
  | checkConsumers
  | snapshot
  | createTmp
  | shovelToTmp
  | waitSourceEmpty
  | deleteSource
  | redeclareQuorum
  | recreateBindings
  | shovelBack
  | waitTmpEmpty
  | deleteTmp
  deriving DecidableEq

def MigrationStep.next : MigrationStep → Option MigrationStep
  | .checkConsumers => some .snapshot
  | .snapshot => some .createTmp
  | .createTmp => some .shovelToTmp
  | .shovelToTmp => some .waitSourceEmpty
  | .waitSourceEmpty => some .deleteSource
  | .deleteSource => some .redeclareQuorum
  | .redeclareQuorum => some .recreateBindings
  | .recreateBindings => some .shovelBack
  | .shovelBack => some .waitTmpEmpty
  | .waitTmpEmpty => some .deleteTmp
  | .deleteTmp => none

structure QueueSnapshot where
  durable : Bool
  arguments : ArgumentTable
  bindings : List LiveBinding

structure QueueProgress where
  completed : List MigrationStep := []
  snapshot : Option QueueSnapshot := none

namespace QueueProgress

variable (progress : QueueProgress)

/-- `not done(step)`, and for the snapshot also `qstate["snapshot"] is None`. -/
def needs (step : MigrationStep) : Bool :=
  step ∉ progress.completed || (step = .snapshot && progress.snapshot.isNone)

def mark (step : MigrationStep) : QueueProgress :=
  if step ∈ progress.completed then progress
  else { progress with completed := progress.completed ++ [step] }

def quorumArgs : ArgumentTable :=
  quorumArguments ((progress.snapshot.map (·.arguments)).getD .empty)

def wantedBindings : List LiveBinding :=
  ((progress.snapshot.map (·.bindings)).getD []).filter (·.source ≠ "")

end QueueProgress

inductive MigrationPoint
  | enter (step : MigrationStep)
  | perform (step : MigrationStep)
  | delete (temporary : Bool)
  | bind (left : List LiveBinding)
  | mark (step : MigrationStep)

structure MigrationProcess where
  dryRun : Bool
  force : Bool
  state : OrderedDict String QueueProgress
  queue : String
  point : MigrationPoint := .enter .checkConsumers
  pending : List String

structure MigrateOptions where
  execute : Bool := false
  dryRun : Bool := false
  force : Bool := false
  resume : Bool := false
  queue : Option String := none

/-- `exitCode` is that of the last run, if it ended by itself. -/
structure MigrationWorld (Message : Type*) where
  broker : MigrationBroker Message
  file : OrderedDict String QueueProgress := .empty
  process : Option MigrationProcess := none
  exitCode : Option Nat := none

/-- `sorted(declared)`. -/
structure DeclaredQueues where
  names : List String
  distinct : names.Nodup

inductive MigrationAction
  | start (options : MigrateOptions)
  | work
  | crash
  | timeout
  | shovel (name : ShovelName)

def MigrationProcess.progress (process : MigrationProcess) : QueueProgress :=
  process.state.getD process.queue {}

namespace MigrationWorld

variable (world : MigrationWorld Message) (process : MigrationProcess)

/-- The declared quorum queues that are live as classic ones. -/
def candidates (declared : DeclaredQueues) (queue : Option String) : List String :=
  declared.names.filter fun name => world.broker.classic name && queue.all (· = name)

/-- `migrate_command` up to its first queue. -/
def start (declared : DeclaredQueues) (options : MigrateOptions) : MigrationWorld Message :=
  if options.dryRun && !options.execute then { world with exitCode := some 1 }
  else
    match world.candidates declared options.queue with
    | [] => { world with exitCode := some 0 }
    | name :: rest =>
      if !options.execute then { world with exitCode := some 0 }
      else
        { world with
          process := some
            { dryRun := options.dryRun
              force := options.force
              state := if options.resume then world.file else .empty
              queue := name
              pending := rest }
          exitCode := none }

def fail : MigrationWorld Message := { world with process := none, exitCode := some 1 }

def goTo (point : MigrationPoint) : MigrationWorld Message :=
  { world with process := some { process with point := point } }

/-- `_call`; a management call that is refused ends the run. -/
def call (request : MigrationBroker Message → Option (MigrationBroker Message))
    (next : MigrationPoint) : MigrationWorld Message :=
  if process.dryRun then world.goTo process next
  else
    match request world.broker with
    | some broker => { world with broker := broker }.goTo process next
    | none => world.fail

/-- `_wait_empty` returns, or keeps polling. -/
def waitEmpty (name : String) (next : MigrationPoint) : Option (MigrationWorld Message) :=
  if process.dryRun then some (world.goTo process next)
  else
    match world.broker.queues.get? name with
    | some queue => if queue.messages.isEmpty then some (world.goTo process next) else none
    | none => some world.fail

/-- `_verify_empty`. -/
def verifyEmpty (name : String) (next : MigrationPoint) : MigrationWorld Message :=
  if process.dryRun then world.goTo process next
  else
    match world.broker.queues.get? name with
    | some queue => if queue.messages.isEmpty then world.goTo process next else world.fail
    | none => world.fail

/-- One management call or checkpoint of `_drain_cutover_queue`. -/
def advance (step : MigrationStep) : MigrationWorld Message :=
  match step.next with
  | some next => world.goTo process (.enter next)
  | none =>
    match process.pending with
    | name :: rest =>
      { world with process := some { process with
          queue := name, point := .enter .checkConsumers, pending := rest } }
    | [] => { world with process := none, exitCode := some 0 }

/-- A step that is not done; `recreate-bindings` has no call of its own. -/
def perform : MigrationStep → Option (MigrationWorld Message)
  | .checkConsumers =>
    match world.broker.queues.get? process.queue with
    | some _ =>
      if 0 < world.broker.consumers process.queue && !process.force then some world.fail
      else some (world.goTo process (.mark .checkConsumers))
    | none => some world.fail
  | .snapshot =>
    match world.broker.queues.get? process.queue with
    | some queue =>
      let taken := { process.progress with
        snapshot := some ⟨queue.durable, queue.arguments, queue.bindings⟩ }
      some (world.goTo { process with state := process.state.set process.queue taken }
        (.mark .snapshot))
    | none => some world.fail
  | .createTmp => some (world.call process (·.declareQueue (temporary process.queue) quorumOnly)
      (.mark .createTmp))
  | .shovelToTmp => some (world.call process (fun broker => some (broker.putShovel
      ⟨process.queue, false⟩)) (.mark .shovelToTmp))
  | .waitSourceEmpty => world.waitEmpty process process.queue (.mark .waitSourceEmpty)
  | .deleteSource => some (world.verifyEmpty process process.queue (.delete false))
  | .redeclareQuorum => some (world.call process (·.declareQueue process.queue
      process.progress.quorumArgs) (.mark .redeclareQuorum))
  | .recreateBindings => some (world.goTo process (.bind process.progress.wantedBindings))
  | .shovelBack => some (world.call process (fun broker => some (broker.putShovel
      ⟨process.queue, true⟩)) (.mark .shovelBack))
  | .waitTmpEmpty => world.waitEmpty process (temporary process.queue) (.mark .waitTmpEmpty)
  | .deleteTmp => some (world.verifyEmpty process (temporary process.queue) (.delete true))

/-- `mark`: the whole state is written to the file. -/
def checkpoint (step : MigrationStep) : MigrationWorld Message :=
  let marked := { process with
    state := process.state.set process.queue (process.progress.mark step) }
  let saved := if process.dryRun then world else { world with file := marked.state }
  saved.advance marked step

def work : Option (MigrationWorld Message) :=
  match process.point with
  | .enter step =>
    some (if process.progress.needs step then world.goTo process (.perform step)
      else world.advance process step)
  | .perform step => world.perform process step
  | .delete false => some (world.call process (·.deleteQueue process.queue) (.mark .deleteSource))
  | .delete true => some (world.call process (·.deleteQueue (temporary process.queue))
      (.mark .deleteTmp))
  | .bind (binding :: left) => some (world.call process (·.bindQueue process.queue binding)
      (.bind left))
  | .bind [] => some (world.goTo process (.mark .recreateBindings))
  | .mark step => some (world.checkpoint process step)

/-- A wait gives up only on a queue that still has messages. -/
def timesOut : Bool :=
  !process.dryRun &&
    match process.point with
    | .perform .waitSourceEmpty => !(world.broker.messages process.queue).isEmpty
    | .perform .waitTmpEmpty => !(world.broker.messages (temporary process.queue)).isEmpty
    | _ => false

/-- `migrate_command`, its crashes, and the shovels. -/
def step (declared : DeclaredQueues) (world : MigrationWorld Message) :
    MigrationAction → Option (MigrationWorld Message)
  | .start options =>
    match world.process with
    | none => some (world.start declared options)
    | some _ => none
  | .work =>
    match world.process with
    | some process => world.work process
    | none => none
  | .crash =>
    match world.process with
    | some _ => some { world with process := none, exitCode := none }
    | none => none
  | .timeout =>
    match world.process with
    | some process => if world.timesOut process then some world.fail else none
    | none => none
  | .shovel name =>
    match world.broker.moveOne name with
    | some broker => some { world with broker := broker }
    | none => none

end MigrationWorld
end RabbitKit
