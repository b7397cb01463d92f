import RabbitKit.QueueMigration

/-! # A migration loses no message

A queue is deleted only after it was seen empty, and what could fill it again is at rest by
then: while the source is a classic queue no shovel moves back, and once it is not, none moves
out.  So whatever runs are started, and however they end, the messages of a queue are in the
queue or in its temporary queue.  That needs the temporary queue to be nobody else's: no
declared queue may have the name of the temporary queue of another.
-/

namespace RabbitKit

open LabelledRun MigrationBroker ShovelName MigrationWorld MigrationPoint OrderedDict Bool List

variable {Message : Type*}

theorem temporary_ne (name : String) : temporary name ≠ name := by
  intro same
  have lengths := congrArg String.length same
  simp [temporary] at lengths

theorem quorumOnly_eq : quorumOnly = quorumArguments .empty := rfl

theorem temporary_injective {first second : String} (same : temporary first = temporary second) :
    first = second :=
  (String.append_left_inj _).mp same

/-- No declared queue has the name of the temporary queue of another. -/
def DeclaredQueues.Apart (declared : DeclaredQueues) : Prop :=
  ∀ first ∈ declared.names, ∀ second ∈ declared.names, temporary first ≠ second

instance (declared : DeclaredQueues) : Decidable declared.Apart := by
  unfold DeclaredQueues.Apart
  infer_instance

namespace MigrationBroker

variable {broker broker' : MigrationBroker Message} {own name : String} {back : Bool}

/-- Everything but the queue, its temporary queue and their shovels is as before. -/
structure Local (own : String) (broker broker' : MigrationBroker Message) : Prop where
  queues : ∀ name, name ≠ own → name ≠ temporary own →
    broker'.queues.get? name = broker.queues.get? name
  shovels : ∀ shovel : ShovelName, shovel.queue ≠ own →
    broker'.shovels.get? shovel = broker.shovels.get? shovel
  rules : broker'.rules = broker.rules

/-- A shovel moves what its source holds: out while the source is classic, and back once it
is not. -/
structure Ledger (broker : MigrationBroker Message) (name : String) : Prop where
  out : ∀ remaining, broker.shovels.get? ⟨name, false⟩ = some remaining →
    broker.classic name = true ∧ remaining = (broker.messages name).length ∧ 0 < remaining
  back : ∀ remaining, broker.shovels.get? ⟨name, true⟩ = some remaining →
    broker.classic name = false ∧ remaining = (broker.messages (temporary name)).length ∧
      0 < remaining

def content (broker : MigrationBroker Message) (name : String) : List Message :=
  broker.messages name ++ broker.messages (temporary name)

structure Kept (own : String) (broker broker' : MigrationBroker Message) : Prop where
  elsewhere : Local own broker broker'
  ledger : broker'.Ledger own
  content : (broker'.content own).Perm (broker.content own)

theorem Kept.refl (ledger : broker.Ledger own) : Kept own broker broker :=
  ⟨⟨fun _ _ _ => rfl, fun _ _ => rfl, rfl⟩, ledger, .refl _⟩

theorem messages_congr (same : broker'.queues.get? name = broker.queues.get? name) :
    broker'.messages name = broker.messages name := by
  rw [messages, same, messages]

theorem classic_congr (same : broker'.queues.get? name = broker.queues.get? name) :
    broker'.classic name = broker.classic name := by
  rw [classic, same, classic]

section

variable (broker : MigrationBroker Message)

@[simp]
theorem get?_setQueue (target name : String) (queue : LiveQueue Message) :
    (broker.setQueue target queue).queues.get? name =
      if name = target then some queue else broker.queues.get? name :=
  get?_set _ _ _ _

@[simp]
theorem rules_setQueue (target : String) (queue : LiveQueue Message) :
    (broker.setQueue target queue).rules = broker.rules :=
  rfl

@[simp]
theorem messages_setQueue (target name : String) (queue : LiveQueue Message) :
    (broker.setQueue target queue).messages name =
      if name = target then queue.messages else broker.messages name := by
  unfold messages
  rw [get?_setQueue]
  split <;> rfl

@[simp]
theorem classic_setQueue (target name : String) (queue : LiveQueue Message) :
    (broker.setQueue target queue).classic name =
      if name = target then queue.isClassic else broker.classic name := by
  unfold classic
  rw [get?_setQueue]
  split <;> rfl

end

theorem isClassic_eq_false {queue : LiveQueue Message}
    (kind : queue.arguments.get? "x-queue-type" = some (.text "quorum")) :
    queue.isClassic = false := by
  simp [LiveQueue.isClassic, kind]

theorem kept_of_same (ledger : broker.Ledger own) (elsewhere : Local own broker broker')
    (classic : broker'.classic own = broker.classic own)
    (source : broker'.messages own = broker.messages own)
    (temp : broker'.messages (temporary own) = broker.messages (temporary own))
    (shovels : broker'.shovels = broker.shovels) : Kept own broker broker' where
  elsewhere := elsewhere
  ledger := by
    refine ⟨fun remaining found => ?_, fun remaining found => ?_⟩
    · rw [shovels] at found
      rw [classic, source]
      exact ledger.out remaining found
    · rw [shovels] at found
      rw [classic, temp]
      exact ledger.back remaining found
  content := by
    unfold content
    rw [source, temp]

variable {target : String}

theorem local_set (mine : target = own ∨ target = temporary own) (queue : LiveQueue Message) :
    Local own broker (broker.setQueue target queue) where
  queues name notOwn notTemp := by
    have other : name ≠ target := by
      rcases mine with rfl | rfl
      · exact notOwn
      · exact notTemp
    simp [other]
  shovels _ _ := rfl
  rules := rfl

theorem local_erase (mine : target = own ∨ target = temporary own) :
    Local own broker { broker with queues := broker.queues.erase target } where
  queues name notOwn notTemp := by
    have other : name ≠ target := by
      rcases mine with rfl | rfl
      · exact notOwn
      · exact notTemp
    simp [other]
  shovels _ _ := rfl
  rules := rfl

theorem messages_of_absent (absent : broker.queues.get? name = none) :
    broker.messages name = [] := by
  simp [messages, absent]

variable {arguments : ArgumentTable}

/-- A queue that was declared is new, or was there before. -/
theorem declareQueue_eq_some (declared : broker.declareQueue name arguments = some broker') :
    broker.queues.get? name = none ∧ broker' = broker.setQueue name { arguments := arguments } ∨
      broker' = broker := by
  unfold declareQueue at declared
  split at declared
  next absent =>
    split at declared <;> cases declared
    exact .inl ⟨absent, rfl⟩
  · split at declared <;> cases declared
    exact .inr rfl

theorem bindQueue_eq_some {binding : LiveBinding}
    (bound : broker.bindQueue name binding = some broker') :
    ∃ queue, broker.queues.get? name = some queue ∧ broker' =
      broker.setQueue name { queue with bindings := queue.bindings ++ [binding] } := by
  unfold bindQueue at bound
  split at bound
  next queue found =>
    split at bound <;> cases bound
    exact ⟨queue, found, rfl⟩
  · cases bound

theorem kept_declareTmp (ledger : broker.Ledger own)
    (declared : broker.declareQueue (temporary own) arguments = some broker') :
    Kept own broker broker' ∧ broker'.classic own = broker.classic own := by
  rcases declareQueue_eq_some declared with ⟨absent, rfl⟩ | rfl
  · have classic : (broker.setQueue (temporary own) { arguments := arguments }).classic own =
        broker.classic own := by
      simp [(temporary_ne own).symm]
    refine ⟨kept_of_same ledger (local_set (.inr rfl) _) classic ?_ ?_ rfl, classic⟩
    · simp [(temporary_ne own).symm]
    · simp [messages_of_absent absent]
  · exact ⟨.refl ledger, rfl⟩

theorem kept_redeclare (ledger : broker.Ledger own) (cut : broker.classic own = false)
    (declared : broker.declareQueue own (quorumArguments arguments) = some broker') :
    Kept own broker broker' ∧ broker'.classic own = false := by
  rcases declareQueue_eq_some declared with ⟨absent, rfl⟩ | rfl
  · have classic : (broker.setQueue own
        { arguments := quorumArguments arguments }).classic own = false := by
      rw [classic_setQueue, if_pos rfl]
      exact isClassic_eq_false (by simp [quorumArguments])
    refine ⟨kept_of_same ledger (local_set (.inl rfl) _) (classic.trans cut.symm) ?_ ?_ rfl,
      classic⟩
    · simp [messages_of_absent absent]
    · simp [temporary_ne own]
  · exact ⟨.refl ledger, cut⟩

variable {binding : LiveBinding}

theorem classic_bindQueue (bound : broker.bindQueue own binding = some broker') (name : String) :
    broker'.classic name = broker.classic name := by
  obtain ⟨queue, found, rfl⟩ := bindQueue_eq_some bound
  rw [classic_setQueue]
  split
  next same =>
    subst same
    simp [classic, found, LiveQueue.isClassic]
  · rfl

theorem kept_bindQueue (ledger : broker.Ledger own)
    (bound : broker.bindQueue own binding = some broker') :
    Kept own broker broker' ∧ broker'.classic own = broker.classic own := by
  have classic := classic_bindQueue bound own
  obtain ⟨queue, found, rfl⟩ := bindQueue_eq_some bound
  refine ⟨kept_of_same ledger (local_set (.inl rfl) _) classic ?_ ?_ rfl, classic⟩
  · simp [messages, found]
  · simp [temporary_ne own]

theorem get?_putShovel (broker : MigrationBroker Message) (shovel other : ShovelName) :
    (broker.putShovel shovel).shovels.get? other = if other = shovel then
        if (broker.messages shovel.source).length = 0 then none
        else some (broker.messages shovel.source).length else broker.shovels.get? other := by
  unfold putShovel
  dsimp only
  split
  · simp
  · simp

theorem local_putShovel (back : Bool) : Local own broker (broker.putShovel ⟨own, back⟩) := by
  refine ⟨fun _ _ _ => rfl, fun shovel other => ?_, rfl⟩
  have different : shovel ≠ ⟨own, back⟩ := fun same => other (same ▸ rfl)
  rw [get?_putShovel, if_neg different]

theorem kept_putShovel (ledger : broker.Ledger own) (direction : broker.classic own = !back) :
    Kept own broker (broker.putShovel ⟨own, back⟩) where
  elsewhere := local_putShovel back
  ledger := by
    have started {remaining : Nat} (found :
        (if (broker.messages (source ⟨own, back⟩)).length = 0 then none
          else some (broker.messages (source ⟨own, back⟩)).length) = some remaining) :
        remaining = (broker.messages (source ⟨own, back⟩)).length ∧ 0 < remaining := by
      split at found
      · cases found
      next positive =>
        cases found
        exact ⟨rfl, Nat.pos_of_ne_zero positive⟩
    refine ⟨fun remaining found => ?_, fun remaining found => ?_⟩ <;>
      rw [get?_putShovel] at found <;> cases back
    · exact ⟨direction, started (by simpa using found)⟩
    · exact ledger.out remaining (by simpa using found)
    · exact ledger.back remaining (by simpa using found)
    · exact ⟨direction, started (by simpa using found)⟩
  content := .refl _

theorem messages_erase (broker : MigrationBroker Message) (target name : String) :
    ({ broker with queues := broker.queues.erase target } : MigrationBroker Message).messages name =
      if name = target then [] else broker.messages name := by
  unfold messages
  rw [get?_erase]
  split <;> rfl

theorem classic_erase (broker : MigrationBroker Message) (target name : String) :
    ({ broker with queues := broker.queues.erase target } : MigrationBroker Message).classic name =
      if name = target then false else broker.classic name := by
  unfold classic
  rw [get?_erase]
  split <;> rfl

theorem deleteQueue_eq_some (deleted : broker.deleteQueue name = some broker') :
    broker' = { broker with queues := broker.queues.erase name } := by
  unfold deleteQueue at deleted
  split at deleted <;> cases deleted
  rfl

theorem kept_deleteSource (ledger : broker.Ledger own) (classic : broker.classic own = true)
    (empty : broker.messages own = []) (deleted : broker.deleteQueue own = some broker') :
    Kept own broker broker' ∧ broker'.classic own = false := by
  obtain rfl := deleteQueue_eq_some deleted
  refine ⟨⟨local_erase (.inl rfl), ⟨fun remaining found => ?_, fun remaining found => ?_⟩, ?_⟩, ?_⟩
  · have rest := ledger.out remaining found
    simp only [empty, length_nil] at rest
    omega
  · have late := (ledger.back remaining found).1
    cases late.symm.trans classic
  · unfold content
    rw [messages_erase, messages_erase, if_pos rfl, if_neg (temporary_ne own), empty]
  · rw [classic_erase, if_pos rfl]

theorem kept_deleteTmp (ledger : broker.Ledger own) (empty : broker.messages (temporary own) = [])
    (deleted : broker.deleteQueue (temporary own) = some broker') :
    Kept own broker broker' ∧ broker'.classic own = broker.classic own := by
  obtain rfl := deleteQueue_eq_some deleted
  have different := (temporary_ne own).symm
  have classic := classic_erase broker (temporary own) own
  rw [if_neg different] at classic
  refine ⟨kept_of_same ledger (local_erase (.inr rfl)) classic ?_ ?_ rfl, classic⟩
  · rw [messages_erase, if_neg different]
  · rw [messages_erase, if_pos rfl, empty]

variable {shovel : ShovelName}

theorem moveOne_eq_some (moved : broker.moveOne shovel = some broker') :
    ∃ remaining source destination message rest, broker.shovels.get? shovel = some remaining ∧
      broker.queues.get? shovel.source = some source ∧
      broker.queues.get? shovel.destination = some destination ∧ source.messages = message :: rest ∧
      broker' = { (broker.setQueue shovel.source { source with messages := rest }).setQueue
          shovel.destination { destination with messages := destination.messages ++ [message] } with
        shovels := if remaining ≤ 1 then broker.shovels.erase shovel
          else broker.shovels.set shovel (remaining - 1) } := by
  unfold moveOne at moved
  split at moved
  next remaining source destination found sourceFound destinationFound =>
    split at moved
    next message rest holds =>
      exact ⟨remaining, source, destination, message, rest, found, sourceFound, destinationFound,
        holds, (Option.some.inj moved).symm⟩
    · cases moved
  · cases moved

theorem local_moveOne (moved : broker.moveOne ⟨own, back⟩ = some broker') :
    Local own broker broker' := by
  obtain ⟨remaining, source, destination, message, rest, -, -, -, -, rfl⟩ := moveOne_eq_some moved
  refine ⟨fun name notOwn notTemp => ?_, fun shovel other => ?_, rfl⟩
  · cases back <;> simp [ShovelName.source, ShovelName.destination, notOwn, notTemp]
  · have different : shovel ≠ ⟨own, back⟩ := fun same => other (same ▸ rfl)
    split <;> simp [different]

theorem shovels_moveOne (moved : broker.moveOne shovel = some broker') :
    ∃ remaining, broker.shovels.get? shovel = some remaining ∧
      broker'.shovels.get? shovel = (if remaining ≤ 1 then none else some (remaining - 1)) ∧
      ∀ other, other ≠ shovel → broker'.shovels.get? other = broker.shovels.get? other := by
  obtain ⟨remaining, _, _, _, _, found, -, -, -, rfl⟩ := moveOne_eq_some moved
  refine ⟨remaining, found, ?_, fun other different => ?_⟩
  · split <;> simp
  · split <;> simp [different]

theorem left_moveOne {remaining left : Nat}
    (next : (if remaining ≤ 1 then none else some (remaining - 1)) = some left) :
    left + 1 = remaining ∧ 0 < left := by
  split at next
  · cases next
  · cases next
    omega

theorem messages_moveOne (moved : broker.moveOne shovel = some broker') :
    ∃ message rest, broker.messages shovel.source = message :: rest ∧
      broker'.messages shovel.source = rest ∧
      broker'.messages shovel.destination = broker.messages shovel.destination ++ [message] ∧
      ∀ name, broker'.classic name = broker.classic name := by
  obtain ⟨remaining, source, destination, message, rest, -, sourceFound, destinationFound, holds,
    rfl⟩ := moveOne_eq_some moved
  have apart : shovel.source ≠ shovel.destination := by
    cases shovel with
    | mk queue back =>
      cases back
      · exact (temporary_ne queue).symm
      · exact temporary_ne queue
  have classicSource : broker.classic shovel.source = source.isClassic := by
    simp [classic, sourceFound]
  have classicDestination : broker.classic shovel.destination = destination.isClassic := by
    simp [classic, destinationFound]
  refine ⟨message, rest, by simp [messages, sourceFound, holds], ?_, ?_, fun name => ?_⟩
  · change ((broker.setQueue _ _).setQueue _ _).messages shovel.source = rest
    simp [apart]
  · simp [messages, destinationFound]
  · change ((broker.setQueue _ _).setQueue _ _).classic name = _
    rw [classic_setQueue, classic_setQueue]
    split
    next same =>
      exact same ▸ classicDestination.symm
    · split
      next same =>
        exact same ▸ classicSource.symm
      · rfl

theorem kept_moveOne (ledger : broker.Ledger own)
    (moved : broker.moveOne ⟨own, back⟩ = some broker') : Kept own broker broker' := by
  obtain ⟨remaining, found, counted, others⟩ := shovels_moveOne moved
  obtain ⟨message, rest, holds, source, destination, classic⟩ := messages_moveOne moved
  have moves := local_moveOne moved
  cases back with
  | false =>
    have source : broker'.messages own = rest := source
    have holds : broker.messages own = message :: rest := holds
    have destination : broker'.messages (temporary own) = _ := destination
    obtain ⟨early, total, -⟩ := ledger.out remaining found
    refine ⟨moves, ⟨fun left next => ?_, fun left next => ?_⟩, ?_⟩
    · obtain ⟨less, positive⟩ := left_moveOne (counted.symm.trans next)
      rw [holds, length_cons] at total
      rw [classic own, source]
      exact ⟨early, by omega, positive⟩
    · rw [others ⟨own, true⟩ (by simp)] at next
      cases (ledger.back left next).1.symm.trans early
    · rw [content, content, source, destination, holds, ← append_assoc]
      exact perm_append_singleton message _
  | true =>
    have source : broker'.messages (temporary own) = rest := source
    have holds : broker.messages (temporary own) = message :: rest := holds
    have destination : broker'.messages own = _ := destination
    obtain ⟨late, total, -⟩ := ledger.back remaining found
    refine ⟨moves, ⟨fun left next => ?_, fun left next => ?_⟩, ?_⟩
    · rw [others ⟨own, false⟩ (by simp)] at next
      cases late.symm.trans (ledger.out left next).1
    · obtain ⟨less, positive⟩ := left_moveOne (counted.symm.trans next)
      rw [holds, length_cons] at total
      rw [classic own, source]
      exact ⟨late, by omega, positive⟩
    · rw [content, content, source, destination, holds, append_assoc]
      rfl

def DeletesEmpty (broker broker' : MigrationBroker Message) : Prop :=
  ∀ name queue, broker.queues.get? name = some queue → broker'.queues.get? name = none →
    queue.messages = []

theorem deletesEmpty_refl (broker : MigrationBroker Message) : DeletesEmpty broker broker :=
  fun _ _ found gone => nomatch found.symm.trans gone

theorem deletesEmpty_setQueue (broker : MigrationBroker Message) (target : String)
    (queue : LiveQueue Message) : DeletesEmpty broker (broker.setQueue target queue) := by
  intro name held found gone
  rw [get?_setQueue] at gone
  split at gone
  · cases gone
  · cases found.symm.trans gone

theorem deletesEmpty_declareQueue (declared : broker.declareQueue name arguments = some broker') :
    DeletesEmpty broker broker' := by
  rcases declareQueue_eq_some declared with ⟨_, rfl⟩ | rfl
  · exact deletesEmpty_setQueue _ _ _
  · exact deletesEmpty_refl _

theorem deletesEmpty_bindQueue
    (bound : broker.bindQueue name binding = some broker') : DeletesEmpty broker broker' := by
  obtain ⟨queue, _, rfl⟩ := bindQueue_eq_some bound
  exact deletesEmpty_setQueue _ _ _

theorem deletesEmpty_deleteQueue (empty : broker.messages name = [])
    (deleted : broker.deleteQueue name = some broker') : DeletesEmpty broker broker' := by
  obtain rfl := deleteQueue_eq_some deleted
  intro other queue found gone
  rw [get?_erase] at gone
  split at gone
  next same =>
    subst same
    simpa [messages, found] using empty
  · cases found.symm.trans gone

theorem deletesEmpty_moveOne
    (moved : broker.moveOne shovel = some broker') : DeletesEmpty broker broker' := by
  obtain ⟨remaining, source, destination, message, rest, -, -, -, -, rfl⟩ := moveOne_eq_some moved
  intro name queue found gone
  rw [get?_setQueue, get?_setQueue] at gone
  split at gone
  · cases gone
  · split at gone
    · cases gone
    · cases found.symm.trans gone

section Elsewhere

variable {declared : DeclaredQueues}

theorem Local.same (elsewhere : Local own broker broker') (apart : declared.Apart)
    (ownListed : own ∈ declared.names) (listed : name ∈ declared.names) (other : name ≠ own) :
    broker'.queues.get? name = broker.queues.get? name ∧
      broker'.queues.get? (temporary name) = broker.queues.get? (temporary name) ∧
      ∀ back, broker'.shovels.get? ⟨name, back⟩ = broker.shovels.get? ⟨name, back⟩ := by
  refine ⟨elsewhere.queues name other (apart own ownListed name listed).symm,
    elsewhere.queues _ (apart name listed own ownListed) fun same => ?_,
    fun back => elsewhere.shovels _ other⟩
  exact other (temporary_injective same)

section

variable (kept : Kept own broker broker') (apart : declared.Apart)
  (ownListed : own ∈ declared.names)
include kept apart ownListed

theorem Kept.ledgers (ledgers : ∀ name ∈ declared.names, broker.Ledger name) :
    ∀ name ∈ declared.names, broker'.Ledger name := by
  intro name listed
  by_cases other : name = own
  · exact other ▸ kept.ledger
  · obtain ⟨source, temp, shovels⟩ := kept.elsewhere.same apart ownListed listed other
    have ledger := ledgers name listed
    refine ⟨fun remaining found => ?_, fun remaining found => ?_⟩
    · rw [shovels] at found
      rw [classic_congr source, messages_congr source]
      exact ledger.out remaining found
    · rw [shovels] at found
      rw [classic_congr source, messages_congr temp]
      exact ledger.back remaining found

theorem Kept.contents (listed : name ∈ declared.names) :
    (broker'.content name).Perm (broker.content name) := by
  by_cases other : name = own
  · exact other ▸ kept.content
  · obtain ⟨source, temp, -⟩ := kept.elsewhere.same apart ownListed listed other
    unfold MigrationBroker.content
    rw [messages_congr source, messages_congr temp]

end

end Elsewhere

end MigrationBroker

def MigrationStep.index : MigrationStep → Nat
  | .checkConsumers => 0
  | .snapshot => 1
  | .createTmp => 2
  | .shovelToTmp => 3
  | .waitSourceEmpty => 4
  | .deleteSource => 5
  | .redeclareQuorum => 6
  | .recreateBindings => 7
  | .shovelBack => 8
  | .waitTmpEmpty => 9
  | .deleteTmp => 10

def MigrationPoint.early : MigrationPoint → Bool
  | .enter step | .perform step => step.index ≤ 5
  | .delete temporary => !temporary
  | .bind _ => false
  | .mark step => step.index < 5

namespace MigrationWorld

variable {world world' : MigrationWorld Message} {process : MigrationProcess}
  {declared : DeclaredQueues} {original : String → List Message} {action : MigrationAction}
  {next : MigrationPoint} {step step' : MigrationStep}

/-- A state tells of a queue that its classic form was deleted only if it was. -/
def Truthful (declared : DeclaredQueues) (state : OrderedDict String QueueProgress)
    (broker : MigrationBroker Message) : Prop :=
  ∀ name ∈ declared.names, .deleteSource ∈ (state.getD name {}).completed →
    broker.classic name = false

/-- A process that issues its calls works on a queue that is classic until it deletes it, and
deletes what it has seen empty. -/
structure AtWork (declared : DeclaredQueues) (broker : MigrationBroker Message)
    (process : MigrationProcess) : Prop where
  listed : ∀ name ∈ process.queue :: process.pending, name ∈ declared.names
  distinct : (process.queue :: process.pending).Nodup
  waiting : ∀ name ∈ process.pending, broker.classic name = true
  phase : broker.classic process.queue = process.point.early
  emptied : ∀ temp, process.point = .delete temp →
    broker.messages (if temp then temporary process.queue else process.queue) = []
  truthful : Truthful declared process.state broker

/-- The ledgers are right, each queue and its temporary queue have the messages they had at
first, and the state file is truthful. -/
structure Sound (declared : DeclaredQueues) (original : String → List Message)
    (broker : MigrationBroker Message) (file : OrderedDict String QueueProgress) : Prop where
  ledgers : ∀ name ∈ declared.names, broker.Ledger name
  known : ∀ shovel, (broker.shovels.get? shovel).isSome = true → shovel.queue ∈ declared.names
  contents : ∀ name ∈ declared.names, (broker.content name).Perm (original name)
  truthful : Truthful declared file broker

structure Conserving (declared : DeclaredQueues) (original : String → List Message)
    (world : MigrationWorld Message) : Prop where
  sound : Sound declared original world.broker world.file
  working : ∀ process, world.process = some process → process.dryRun = false →
    AtWork declared world.broker process

theorem Sound.ended (sound : Sound declared original world.broker world.file)
    {exitCode : Option Nat} :
    Conserving declared original { world with process := none, exitCode := exitCode } where
  sound := sound
  working := nofun

theorem Sound.kept {broker broker' : MigrationBroker Message}
    {file : OrderedDict String QueueProgress} (sound : Sound declared original broker file)
    (apart : declared.Apart) {own : String} (ownListed : own ∈ declared.names)
    (kept : MigrationBroker.Kept own broker broker')
    (never : broker.classic own = false → broker'.classic own = false) :
    Sound declared original broker' file where
  ledgers := kept.ledgers apart ownListed sound.ledgers
  known shovel found := by
    by_cases other : shovel.queue = own
    · exact other ▸ ownListed
    · have same : broker'.shovels.get? shovel = broker.shovels.get? shovel :=
        kept.elsewhere.shovels shovel other
      exact sound.known shovel (same ▸ found)
  contents name listed := (kept.contents apart ownListed listed).trans (sound.contents name listed)
  truthful name listed claimed := by
    have cut := sound.truthful name listed claimed
    by_cases other : name = own
    · subst other
      exact never cut
    · obtain ⟨source, -, -⟩ := kept.elsewhere.same apart ownListed listed other
      exact (classic_congr source).trans cut

variable {broker : MigrationBroker Message}

theorem AtWork.goTo (atWork : AtWork declared broker process)
    (phase : next.early = process.point.early) (emptied : ∀ temp, next = .delete temp →
      broker.messages (if temp then temporary process.queue else process.queue) = []) :
    AtWork declared broker { process with point := next } :=
  { atWork with phase := atWork.phase.trans phase.symm, emptied := emptied }

theorem early_next (later : step.next = some step') : (enter step').early = (mark step).early := by
  cases step <;> cases later <;> rfl

theorem conserving_advance (sound : Sound declared original world.broker world.file)
    (atWork : AtWork declared world.broker process) (phase : ∀ later, step.next = some later →
      (enter later).early = process.point.early) :
    Conserving declared original (world.advance process step) := by
  unfold advance
  split
  next later following =>
    refine ⟨sound, fun moved same _ => ?_⟩
    cases same
    exact atWork.goTo (phase later following) nofun
  · split
    next name rest pending =>
      refine ⟨sound, fun moved same _ => ?_⟩
      cases same
      obtain ⟨listed, distinct, waiting, -, -, truthful⟩ := atWork
      rw [pending] at listed distinct waiting
      refine ⟨fun other member => listed other (mem_cons_of_mem _ member),
        (nodup_cons.mp distinct).2,
        fun other member => waiting other (mem_cons_of_mem _ member),
        waiting name mem_cons_self, nofun, truthful⟩
    · exact sound.ended

theorem getD_set (state : OrderedDict String QueueProgress) (own name : String)
    (progress : QueueProgress) : (state.set own progress).getD name {} =
      if name = own then progress else state.getD name {} := by
  unfold OrderedDict.getD
  rw [get?_set]
  split <;> rfl

variable {name : String}

theorem messages_eq_nil {queue : LiveQueue Message} (found : broker.queues.get? name = some queue)
    (empty : queue.messages.isEmpty = true) : broker.messages name = [] := by
  simpa [messages, found] using empty

section

variable (inv : Conserving declared original world) (running : world.process = some process)
  (live : process.dryRun = false)
  {request : MigrationBroker Message → Option (MigrationBroker Message)}
include inv running live

theorem Conserving.goTo (phase : next.early = process.point.early)
    (emptied : ∀ temp, next = .delete temp →
      world.broker.messages (if temp then temporary process.queue else process.queue) = []) :
    Conserving declared original (world.goTo process next) where
  sound := inv.sound
  working moved same _ := by
    cases same
    exact (inv.working process running live).goTo phase emptied

theorem Conserving.call (apart : declared.Apart)
    (kept : ∀ broker, request world.broker = some broker →
      MigrationBroker.Kept process.queue world.broker broker ∧
        broker.classic process.queue = next.early)
    (forward : process.point.early = false → next.early = false)
    (notDelete : ∀ temp, next ≠ .delete temp) :
    Conserving declared original (world.call process request next) := by
  have atWork := inv.working process running live
  have ownListed := atWork.listed process.queue mem_cons_self
  unfold MigrationWorld.call
  rw [live, if_neg Bool.false_ne_true]
  split
  next broker answered =>
    obtain ⟨kept, phase⟩ := kept broker answered
    have never (cut : world.broker.classic process.queue = false) :
        broker.classic process.queue = false :=
      phase.trans (forward (atWork.phase.symm.trans cut))
    have sound := inv.sound.kept apart ownListed kept never
    have others {name : String} (listed : name ∈ declared.names) (other : name ≠ process.queue) :
        broker.classic name = world.broker.classic name :=
      classic_congr (kept.elsewhere.same apart ownListed listed other).1
    refine ⟨sound, fun moved same _ => ?_⟩
    cases same
    refine ⟨atWork.listed, atWork.distinct, fun name pending => ?_, phase,
      fun temp deleting => absurd deleting (notDelete temp), fun name listed claimed => ?_⟩
    · have different : name ≠ process.queue := fun same =>
        (nodup_cons.mp atWork.distinct).1 (same ▸ pending)
      have listed := atWork.listed name (mem_cons_of_mem _ pending)
      exact (others listed different).trans (atWork.waiting name pending)
    · have cut := atWork.truthful name listed claimed
      by_cases same : name = process.queue
      · subst same
        exact never cut
      · exact (others listed same).trans cut
  · exact inv.sound.ended

theorem Conserving.checkpoint (here : process.point = .mark step) :
    Conserving declared original (world.checkpoint process step) := by
  have atWork := inv.working process running live
  have truthful : Truthful declared
      (process.state.set process.queue (process.progress.mark step)) world.broker := by
    intro name listed claimed
    rw [getD_set] at claimed
    split at claimed
    next same =>
      subst same
      unfold QueueProgress.mark at claimed
      split at claimed
      · exact atWork.truthful _ listed claimed
      · rcases mem_append.mp claimed with claimed | claimed
        · exact atWork.truthful _ listed claimed
        · have deleted : MigrationStep.deleteSource = step := mem_singleton.mp claimed
          rw [atWork.phase, here, ← deleted]
          rfl
    · exact atWork.truthful name listed claimed
  unfold MigrationWorld.checkpoint
  dsimp only
  rw [if_neg (eq_false_iff.mp live)]
  refine conserving_advance ⟨inv.sound.ledgers, inv.sound.known, inv.sound.contents, truthful⟩
    { atWork with truthful := truthful } fun later following => ?_
  rw [here]
  exact early_next following

theorem Conserving.enter (here : process.point = .enter step) : Conserving declared original
      (if process.progress.needs step then world.goTo process (.perform step)
        else world.advance process step) := by
  have atWork := inv.working process running live
  split
  · exact inv.goTo running live (by rw [here]; rfl) nofun
  next done =>
    refine conserving_advance inv.sound atWork fun later following => ?_
    rw [here, early_next following]
    by_cases deletes : step = .deleteSource
    · -- the state is truthful, so the deletion of a classic queue is not skipped
      subst deletes
      have listed := atWork.listed process.queue mem_cons_self
      have claimed : .deleteSource ∈ process.progress.completed := by
        simpa [QueueProgress.needs] using done
      have cut := atWork.truthful _ listed claimed
      rw [atWork.phase, here] at cut
      cases cut
    · cases step <;> first | rfl | exact absurd rfl deletes

theorem Conserving.waitEmpty (phase : (mark step).early = process.point.early)
    (taken : world.waitEmpty process name (.mark step) = some world') :
    Conserving declared original world' := by
  unfold MigrationWorld.waitEmpty at taken
  rw [if_neg (eq_false_iff.mp live)] at taken
  split at taken
  · split at taken <;> cases taken
    exact inv.goTo running live phase nofun
  · cases taken
    exact inv.sound.ended

theorem Conserving.verifyEmpty (temp : Bool) (phase : (delete temp).early = process.point.early) :
    Conserving declared original (world.verifyEmpty process
      (if temp then temporary process.queue else process.queue) (.delete temp)) := by
  unfold MigrationWorld.verifyEmpty
  rw [if_neg (eq_false_iff.mp live)]
  split
  next queue found =>
    split
    next empty =>
      refine inv.goTo running live phase fun other same => ?_
      cases same
      exact messages_eq_nil found empty
    · exact inv.sound.ended
  · exact inv.sound.ended

theorem Conserving.perform (apart : declared.Apart)
    (here : process.point = .perform step) (taken : world.perform process step = some world') :
    Conserving declared original world' := by
  have atWork := inv.working process running live
  have ledger := inv.sound.ledgers process.queue (atWork.listed process.queue mem_cons_self)
  have phase := atWork.phase
  rw [here] at phase
  cases step with
  | checkConsumers =>
    simp only [perform] at taken
    split at taken
    · split at taken <;> cases taken
      · exact inv.sound.ended
      · exact inv.goTo running live (by rw [here]; rfl) (by simp)
    · cases taken
      exact inv.sound.ended
  | snapshot =>
    simp only [perform] at taken
    split at taken <;> cases taken
    · refine ⟨inv.sound, fun moved same _ => ?_⟩
      cases same
      refine { atWork with phase := phase, emptied := by simp, truthful := ?_ }
      intro name listed claimed
      rw [getD_set] at claimed
      split at claimed
      next same =>
        subst same
        exact atWork.truthful _ listed claimed
      · exact atWork.truthful name listed claimed
    · exact inv.sound.ended
  | createTmp =>
    cases taken
    refine inv.call running live apart (fun broker answered => ?_) (by rw [here]; decide) (by simp)
    obtain ⟨kept, same⟩ := kept_declareTmp ledger answered
    exact ⟨kept, same.trans phase⟩
  | shovelToTmp | shovelBack =>
    cases taken
    refine inv.call running live apart (fun broker answered => ?_) (by rw [here]; decide) (by simp)
    cases answered
    exact ⟨kept_putShovel ledger phase, phase⟩
  | waitSourceEmpty | waitTmpEmpty => exact inv.waitEmpty running live (by rw [here]; rfl) taken
  | deleteSource =>
    cases taken
    exact inv.verifyEmpty running live false (by rw [here]; rfl)
  | redeclareQuorum =>
    cases taken
    refine inv.call running live apart (fun broker answered => ?_) (by rw [here]; decide) (by simp)
    exact kept_redeclare ledger phase answered
  | recreateBindings =>
    cases taken
    exact inv.goTo running live (by rw [here]; rfl) (by simp)
  | deleteTmp =>
    cases taken
    exact inv.verifyEmpty running live true (by rw [here]; rfl)

theorem Conserving.work (apart : declared.Apart)
    (taken : world.work process = some world') : Conserving declared original world' := by
  have atWork := inv.working process running live
  have ledger := inv.sound.ledgers process.queue (atWork.listed process.queue mem_cons_self)
  have phase := atWork.phase
  have emptied := atWork.emptied
  cases here : process.point with
  | enter step =>
    simp only [MigrationWorld.work, here] at taken
    cases taken
    exact inv.enter running live here
  | perform step =>
    simp only [MigrationWorld.work, here] at taken
    exact inv.perform running live apart here taken
  | delete temp =>
    rw [here] at phase
    cases temp <;> simp only [MigrationWorld.work, here] at taken
    case false =>
      cases taken
      refine inv.call running live apart (fun broker answered => ?_)
        (by rw [here]; decide) (by simp)
      exact kept_deleteSource ledger phase (emptied false here) answered
    case true =>
      cases taken
      refine inv.call running live apart (fun broker answered => ?_)
        (by rw [here]; decide) (by simp)
      obtain ⟨kept, same⟩ := kept_deleteTmp ledger (emptied true here) answered
      exact ⟨kept, same.trans phase⟩
  | bind left =>
    rw [here] at phase
    cases left <;> simp only [MigrationWorld.work, here] at taken
    case nil =>
      cases taken
      exact inv.goTo running live (by rw [here]; rfl) (by simp)
    case cons binding left =>
      cases taken
      refine inv.call running live apart (fun broker answered => ?_) (fun _ => rfl) (by simp)
      obtain ⟨kept, same⟩ := kept_bindQueue ledger answered
      exact ⟨kept, same.trans phase⟩
  | mark step =>
    simp only [MigrationWorld.work, here] at taken
    cases taken
    exact inv.checkpoint running live here

end

/-- The broker after a step: as it was, or after one request or one move of a shovel. -/
inductive Request (world : MigrationWorld Message) : MigrationBroker Message → Prop
  | nothing : Request world world.broker
  | declares {name : String} {arguments : ArgumentTable} {broker : MigrationBroker Message}
      (answered : world.broker.declareQueue name (quorumArguments arguments) = some broker) :
      Request world broker
  | deletes {process : MigrationProcess} {temp : Bool} {broker : MigrationBroker Message}
      (running : world.process = some process) (live : process.dryRun = false)
      (here : process.point = .delete temp)
      (answered : world.broker.deleteQueue
        (if temp then temporary process.queue else process.queue) = some broker) :
      Request world broker
  | binds {name : String} {binding : LiveBinding} {broker : MigrationBroker Message}
      (answered : world.broker.bindQueue name binding = some broker) : Request world broker
  | shovels (shovel : ShovelName) : Request world (world.broker.putShovel shovel)
  | moves {shovel : ShovelName} {broker : MigrationBroker Message}
      (moved : world.broker.moveOne shovel = some broker) : Request world broker

/-- A step of a dry run: the broker and the state file are left alone, and the run stays a
dry one. -/
structure Untouched (world world' : MigrationWorld Message) : Prop where
  broker : world'.broker = world.broker
  file : world'.file = world.file
  dry : ∀ process, world'.process = some process → process.dryRun = true

structure Effect (world : MigrationWorld Message) (process : MigrationProcess)
    (world' : MigrationWorld Message) : Prop where
  request : Request world world'.broker
  untouched : process.dryRun = true → Untouched world world'

section

variable {moved : MigrationProcess} (same : moved.dryRun = process.dryRun)
include same

theorem effect_goTo : Effect world process (world.goTo moved next) := by
  refine ⟨.nothing, fun dry => ⟨rfl, rfl, ?_⟩⟩
  rintro _ ⟨⟩
  exact same.trans dry

theorem effect_advance : Effect world process (world.advance moved step) := by
  unfold advance
  split
  · exact effect_goTo same
  · split
    · refine ⟨.nothing, fun dry => ⟨rfl, rfl, ?_⟩⟩
      rintro _ ⟨⟩
      exact same.trans dry
    · exact ⟨.nothing, fun _ => ⟨rfl, rfl, nofun⟩⟩

end

theorem effect_fail : Effect world process world.fail := ⟨.nothing, fun _ => ⟨rfl, rfl, nofun⟩⟩

theorem effect_call
    (asked : ∀ broker, process.dryRun = false → request world.broker = some broker →
      Request world broker) : Effect world process (world.call process request next) := by
  unfold call
  split
  · exact effect_goTo rfl
  next live =>
    split
    next broker answered =>
      exact ⟨asked broker (eq_false_iff.mpr live) answered, fun dry => absurd dry live⟩
    · exact effect_fail

theorem effect_waitEmpty (taken : world.waitEmpty process name next = some world') :
    Effect world process world' := by
  unfold waitEmpty at taken
  split at taken
  · cases taken
    exact effect_goTo rfl
  · split at taken
    · split at taken <;> cases taken
      exact effect_goTo rfl
    · cases taken
      exact effect_fail

theorem effect_verifyEmpty : Effect world process (world.verifyEmpty process name next) := by
  unfold verifyEmpty
  split
  · exact effect_goTo rfl
  · split
    · split
      · exact effect_goTo rfl
      · exact effect_fail
    · exact effect_fail

theorem effect_perform (taken : world.perform process step = some world') :
    Effect world process world' := by
  cases step with
  | createTmp =>
    cases taken
    rw [quorumOnly_eq]
    exact effect_call fun _ _ answered => .declares answered
  | redeclareQuorum =>
    cases taken
    exact effect_call fun _ _ answered => .declares answered
  | shovelToTmp | shovelBack =>
    cases taken
    refine effect_call fun broker _ answered => ?_
    cases answered
    exact .shovels _
  | checkConsumers =>
    simp only [perform] at taken
    split at taken
    · split at taken <;> cases taken
      · exact effect_fail
      · exact effect_goTo rfl
    · cases taken
      exact effect_fail
  | snapshot =>
    simp only [perform] at taken
    split at taken <;> cases taken
    · exact effect_goTo rfl
    · exact effect_fail
  | waitSourceEmpty | waitTmpEmpty => exact effect_waitEmpty taken
  | deleteSource | deleteTmp =>
    cases taken
    exact effect_verifyEmpty
  | recreateBindings =>
    cases taken
    exact effect_goTo rfl

theorem broker_advance (world : MigrationWorld Message) (process : MigrationProcess)
    (step : MigrationStep) : (world.advance process step).broker = world.broker := by
  unfold advance
  split
  · rfl
  · split <;> rfl

theorem effect_work (running : world.process = some process)
    (taken : world.work process = some world') : Effect world process world' := by
  unfold work at taken
  split at taken
  · cases taken
    split
    · exact effect_goTo rfl
    · exact effect_advance rfl
  · exact effect_perform taken
  next here =>
    cases taken
    exact effect_call fun _ live answered => .deletes running live here answered
  next here =>
    cases taken
    exact effect_call fun _ live answered => .deletes running live here answered
  · cases taken
    exact effect_call fun _ _ answered => .binds answered
  · cases taken
    exact effect_goTo rfl
  · cases taken
    unfold checkpoint
    dsimp only
    split
    · exact effect_advance rfl
    next live =>
      refine ⟨?_, fun dry => absurd dry live⟩
      rw [broker_advance]
      exact .nothing

theorem start_broker (options : MigrateOptions) :
    (world.start declared options).broker = world.broker ∧
      (world.start declared options).file = world.file := by
  unfold start
  split
  · exact ⟨rfl, rfl⟩
  · split
    · exact ⟨rfl, rfl⟩
    · split <;> exact ⟨rfl, rfl⟩

section

variable (inv : Conserving declared original world)
include inv

theorem Conserving.start (idle : world.process = none) (options : MigrateOptions) :
    Conserving declared original (world.start declared options) := by
  refine ⟨?_, fun process running live => ?_⟩
  · rw [(start_broker options).1, (start_broker options).2]
    exact inv.sound
  · rw [(start_broker options).1]
    unfold MigrationWorld.start at running
    split at running
    · cases idle.symm.trans running
    · split at running
      · cases idle.symm.trans running
      next name rest found =>
        split at running
        · cases idle.symm.trans running
        · cases running
          have candidate (other : String) (member : other ∈ name :: rest) :
              other ∈ declared.names ∧ world.broker.classic other = true := by
            rw [← found] at member
            obtain ⟨listed, live⟩ := mem_filter.mp member
            exact ⟨listed, (and_eq_true_iff.mp live).1⟩
          have distinct : (name :: rest).Nodup := found ▸ declared.distinct.filter _
          refine ⟨fun other member => (candidate other member).1, distinct,
            fun other member => (candidate other (mem_cons_of_mem _ member)).2,
            (candidate name mem_cons_self).2, nofun, ?_⟩
          intro other listed claimed
          split at claimed
          · exact inv.sound.truthful other listed claimed
          · simp [OrderedDict.getD] at claimed

theorem Conserving.shovel (apart : declared.Apart) {shovel : ShovelName}
    (moved : world.broker.moveOne shovel = some broker) :
    Conserving declared original { world with broker := broker } := by
  obtain ⟨own, back⟩ := shovel
  obtain ⟨remaining, found, -, -⟩ := shovels_moveOne moved
  obtain ⟨message, rest, holds, source, destination, classic⟩ := messages_moveOne moved
  have ownListed := inv.sound.known ⟨own, back⟩ (by rw [found]; rfl)
  have ledger := inv.sound.ledgers own ownListed
  have kept := kept_moveOne ledger moved
  refine ⟨inv.sound.kept apart ownListed kept (fun cut => (classic own).trans cut),
    fun process running live => ?_⟩
  have atWork := inv.working process running live
  refine ⟨atWork.listed, atWork.distinct,
    fun name member => (classic name).trans (atWork.waiting name member),
    (classic process.queue).trans atWork.phase, fun temp deleting => ?_,
    fun name listed claimed => (classic name).trans (atWork.truthful name listed claimed)⟩
  have emptied := atWork.emptied temp deleting
  have phase := atWork.phase
  rw [deleting] at phase
  by_cases same : process.queue = own
  · subst same
    cases temp with
    | false =>
      -- a classic queue is filled by no shovel, and an empty one has nothing to move
      cases back with
      | false => cases holds.symm.trans emptied
      | true => cases phase.symm.trans (ledger.back remaining found).1
    | true =>
      cases back with
      | false => cases phase.symm.trans (ledger.out remaining found).1
      | true => cases holds.symm.trans emptied
  · have listed := atWork.listed process.queue mem_cons_self
    obtain ⟨sourceSame, tempSame, -⟩ := kept.elsewhere.same apart ownListed listed same
    cases temp with
    | false => exact (messages_congr sourceSame).trans emptied
    | true => exact (messages_congr tempSame).trans emptied

theorem Conserving.stepped (apart : declared.Apart)
    (taken : world.step declared action = some world') : Conserving declared original world' := by
  cases action <;> simp only [step] at taken
  case start options =>
    split at taken <;> cases taken
    rename_i idle
    exact inv.start idle options
  case work =>
    split at taken
    next process running =>
      cases live : process.dryRun with
      | false => exact inv.work running live apart taken
      | true =>
        obtain ⟨broker, file, dry⟩ := (effect_work running taken).untouched live
        refine ⟨by rw [broker, file]; exact inv.sound, fun moved same live => ?_⟩
        cases live.symm.trans (dry moved same)
    · cases taken
  case crash =>
    split at taken <;> cases taken
    exact inv.sound.ended
  case timeout =>
    split at taken
    · split at taken <;> cases taken
      exact inv.sound.ended
    · cases taken
  case shovel name =>
    split at taken
    next broker moved =>
      cases taken
      exact inv.shovel apart moved
    · cases taken

end

theorem request_step (taken : world.step declared action = some world') :
    Request world world'.broker := by
  cases action <;> simp only [step] at taken
  case start options =>
    split at taken <;> cases taken
    rw [(start_broker options).1]
    exact .nothing
  case work =>
    split at taken
    next process running =>
      exact (effect_work running taken).request
    · cases taken
  case crash =>
    split at taken <;> cases taken
    exact .nothing
  case timeout =>
    split at taken
    · split at taken <;> cases taken
      exact .nothing
    · cases taken
  case shovel name =>
    split at taken
    next broker moved =>
      cases taken
      exact .moves moved
    · cases taken

theorem Conserving.deletesEmpty (inv : Conserving declared original world)
    (request : Request world broker) : MigrationBroker.DeletesEmpty world.broker broker := by
  cases request with
  | nothing | shovels => exact deletesEmpty_refl _
  | declares answered => exact deletesEmpty_declareQueue answered
  | deletes running live here answered =>
    have emptied := (inv.working _ running live).emptied _ here
    exact deletesEmpty_deleteQueue emptied answered
  | binds answered => exact deletesEmpty_bindQueue answered
  | moves moved => exact deletesEmpty_moveOne moved

/-- In this state the messages of each declared queue and of its temporary queue are the ones
they had at first, a step deletes a queue only when it is empty, and a dry run or a plan
leaves the broker alone. -/
structure NothingLost (declared : DeclaredQueues) (before : MigrationBroker Message)
    (world : MigrationWorld Message) : Prop where
  somewhere : ∀ name ∈ declared.names, (world.broker.content name).Perm (before.content name)
  deletesEmpty : ∀ action world', world.step declared action = some world' →
    MigrationBroker.DeletesEmpty world.broker world'.broker
  dryRun : ∀ process, world.process = some process → process.dryRun = true →
    ∀ world', world.step declared .work = some world' → world'.broker = world.broker
  plan : ∀ options, options.execute = false → ∀ world',
    world.step declared (.start options) = some world' →
      world'.broker = world.broker ∧ world'.process = none

theorem conserving_init (unused : broker.shovels = .empty)
    (contents : ∀ name ∈ declared.names, (broker.content name).Perm (original name)) :
    Conserving declared original { broker := broker } where
  sound := by
    refine ⟨fun name _ => ⟨?_, ?_⟩, ?_, contents, ?_⟩
    · simp [unused]
    · simp [unused]
    · simp [unused]
    · simp [Truthful, OrderedDict.getD]
  working := nofun

/-- Whatever runs follow each other and however they end, no message is lost, if no declared
queue has the name of the temporary queue of another. -/
theorem migration_loses_nothing {broker : MigrationBroker Message}
    {actions : List MigrationAction} (apart : declared.Apart) (unused : broker.shovels = .empty)
    (run : Run (MigrationWorld.step declared) { broker := broker } actions world) :
    NothingLost declared broker world := by
  have inv := run.invariant (fun held _ taken => .stepped held apart taken)
    (conserving_init unused fun _ _ => .refl _)
  refine ⟨inv.sound.contents, fun _ _ taken => inv.deletesEmpty (request_step taken),
    fun process running dry world' taken => ?_, fun options planned world' taken => ?_⟩
  · simp only [step, running] at taken
    exact ((effect_work running taken).untouched dry).broker
  · simp only [step] at taken
    split at taken <;> cases taken
    rename_i idle
    refine ⟨(start_broker options).1, ?_⟩
    unfold start
    split
    · exact idle
    · split
      · exact idle
      · simp [planned, idle]

/-- A run that is cut off after it deleted the classic queue leaves the messages in the
temporary queue. -/
theorem migration_loses_nothing_cut : ∃ world, Run (MigrationWorld.step ⟨["orders"], by decide⟩)
        { broker := MigrationBroker.setQueue {} "orders" ⟨true, .empty, [], [1, 2]⟩ }
        (flatten [[.start { execute := true }], replicate 12 .work,
          replicate 2 (.shovel ⟨"orders", false⟩), replicate 6 .work, [.crash]]) world ∧
      world.broker.messages "orders" = [] ∧ world.broker.messages "orders.migrate-tmp" = [1, 2] ∧
      NothingLost ⟨["orders"], by decide⟩
        (MigrationBroker.setQueue {} "orders" ⟨true, .empty, [], [1, 2]⟩) world := by
  refine exists_runWithin_of_check (fun world => decide (world.broker.messages "orders" = [] ∧
      world.broker.messages "orders.migrate-tmp" = [1, 2])) (by decide +kernel)
    fun world run checked => ?_
  obtain ⟨source, temp⟩ := of_decide_eq_true checked
  exact ⟨source, temp, migration_loses_nothing (by decide) rfl run⟩

/-- With a declared queue named like the temporary queue of another, the migration of the
other deletes that queue while the first migration's shovel still fills it: the second
message is nowhere. -/
theorem migration_loses_message :
    ∃ world, Run (MigrationWorld.step ⟨["a", "a.migrate-tmp"], by decide⟩)
        { broker := MigrationBroker.setQueue
            (MigrationBroker.setQueue {} "a" ⟨true, .empty, [], [1]⟩)
            "a.migrate-tmp" ⟨true, .empty, [], [2, 3]⟩ }
        (flatten [[.start { execute := true, queue := some "a.migrate-tmp" }],
          replicate 12 .work, replicate 2 (.shovel ⟨"a.migrate-tmp", false⟩),
          replicate 17 .work, [.crash, .start { execute := true }],
          replicate 12 .work, [.shovel ⟨"a", false⟩], replicate 17 .work,
          [.shovel ⟨"a", true⟩], replicate 5 .work, [.shovel ⟨"a.migrate-tmp", true⟩, .work]])
        world ∧ world.broker.messages "a" = [1] ∧ world.broker.messages "a.migrate-tmp" = [] ∧
      world.broker.messages "a.migrate-tmp.migrate-tmp" = [3] :=
  exists_runWithin_of_decide (by decide +kernel)

end MigrationWorld
end RabbitKit
