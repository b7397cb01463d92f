import RabbitKit.PlainRoutes

/-! # Dead-letter coverage

A message that is rejected without requeueing is discarded by the server unless its
queue has a dead-letter path.  The broker therefore gives every route that may reject
such a path of its own, and leaves out a queue that already is the dead-letter queue of
another route.  The broker decides the latter by the name of the queue.
-/

namespace RabbitKit

open TableRequest QueueSpec RabbitQueue Option List

structure DeadLetter where
  routingKey : String
  headers : HeaderTable

structure ExchangeRouting where
  accepts : ExchangeType → String → ArgumentTable → DeadLetter → Prop

structure ExchangeGraph where
  types : String → Option ExchangeType
  queueBindings : List QueueBinding
  exchangeBindings : List ExchangeBinding

namespace ExchangeGraph

/-- A message published to an exchange reaches a queue. -/
inductive Routed (graph : ExchangeGraph) (routing : ExchangeRouting) (message : DeadLetter) :
    String → String → Prop
  | queue {type : ExchangeType} {binding : QueueBinding} :
      binding ∈ graph.queueBindings → graph.types binding.exchange = some type →
      routing.accepts type binding.routingKey binding.arguments message →
      Routed graph routing message binding.exchange binding.queue
  | exchange {type : ExchangeType} {binding : ExchangeBinding} {queue : String} :
      binding ∈ graph.exchangeBindings → graph.types binding.source = some type →
      routing.accepts type binding.routingKey binding.arguments message →
      Routed graph routing message binding.destination queue →
      Routed graph routing message binding.source queue

end ExchangeGraph

namespace QueueRecord

variable (record : QueueRecord)

def deadLetterExchange : Option ArgumentValue := record.arguments.get? "x-dead-letter-exchange"

def deadLetterKey : Option ArgumentValue := record.arguments.get? "x-dead-letter-routing-key"

def DeadLettersTo (queue : String) : Prop :=
  record.deadLetterExchange = some (.text "") ∧ record.deadLetterKey = some (.text queue)

def DeadLettersInto (graph : ExchangeGraph) (routing : ExchangeRouting) (queue : String) : Prop :=
  record.DeadLettersTo queue ∨
    ∃ exchange message, exchange ≠ "" ∧ record.deadLetterExchange = some (.text exchange) ∧
      (record.deadLetterKey = none ∨
        record.deadLetterKey = some (.text message.routingKey)) ∧
      graph.Routed routing message exchange queue

end QueueRecord

def Server.graph (server : Server) : ExchangeGraph where
  types exchange := (server.exchanges.get? exchange).map ExchangeRecord.type
  queueBindings := server.queueBindings
  exchangeBindings := server.exchangeBindings

namespace Route

variable (route : Route)

/-- Everything but an `ACK_FIRST` route without a filter may reject. -/
def mayReject : Bool := !(route.ackPolicy == .ackFirst && !route.hasFilter)

/-- A route whose rejects the broker promises to keep. -/
structure NeedsPath (safety : SafetyConfig) : Prop where
  notStream : route.queue.isStream = false
  mayReject : route.mayReject = true
  autoProvision : route.resolvedPolicy safety = .autoProvision
  noField : route.queue.deadLetterExchange = none
  noArgument : route.queue.arguments.get? "x-dead-letter-exchange" = none

def Covered (setup : BrokerSetup) (routes : List Route) (final : Server) : Prop :=
  ∃ record target, final.queues.get? route.queue.name = some record ∧
    record.DeadLettersTo target ∧ (∃ ask ∈ setup.queueAsks routes, ask.key = target) ∧
    ∃ existing, final.queues.get? target = some existing

def InUseAsDlq (routes : List Route) (routing : ExchangeRouting) (final : Server) : Prop :=
  ∃ other ∈ routes, other.queue.name ≠ route.queue.name ∧
    ∃ record, final.queues.get? other.queue.name = some record ∧
      record.DeadLettersInto final.graph routing route.queue.name

end Route

/-- No refused declaration of a dead-letter path is continued over. -/
def BrokerSetup.Escalates (setup : BrokerSetup) : Prop :=
  setup.kind = .sync ∨ setup.safety.onTopologyConflict = .raise

theorem BrokerSetup.not_continuesOver {setup : BrokerSetup} (escalates : setup.Escalates)
    {record : QueueRecord} {exchange : ArgumentValue}
    (path : record.deadLetterExchange = some exchange) : setup.continuesOver record = false := by
  have present : (record.arguments.get? "x-dead-letter-exchange").isSome = true :=
    isSome_iff_exists.mpr ⟨exchange, path⟩
  rcases escalates with sync | raise
  · simp [continuesOver, sync, present]
  · simp [continuesOver, raise]

def describedGraph (server : Server) (routes : List Route) : ExchangeGraph where
  types exchange := ((server.exchanges.get? exchange).or
    (TableRequest.firstValue exchange (exchangeAsks routes))).map ExchangeRecord.type
  queueBindings := server.queueBindings ++ routes.flatMap Route.queueBindings
  exchangeBindings := server.exchangeBindings ++ routes.flatMap Route.exchangeBindings

namespace QueueRecord

variable {graph : ExchangeGraph} {routing : ExchangeRouting} {queue : String}
  {record existing : QueueRecord}

theorem DeadLettersInto.exchange (path : record.DeadLettersInto graph routing queue) :
    ∃ exchange, record.deadLetterExchange = some exchange := by
  rcases path with ⟨direct, _⟩ | ⟨exchange, _, _, named, _⟩
  · exact ⟨_, direct⟩
  · exact ⟨_, named⟩

theorem deadLettersInto_congr
    (same : ∀ key, existing.arguments.get? key = record.arguments.get? key) :
    existing.DeadLettersInto graph routing queue ↔ record.DeadLettersInto graph routing queue := by
  have sameExchange : existing.deadLetterExchange = record.deadLetterExchange := same _
  have sameKey : existing.deadLetterKey = record.deadLetterKey := same _
  unfold DeadLettersInto DeadLettersTo
  rw [sameExchange, sameKey]

theorem not_deadLettersInto (absent : record.deadLetterExchange = none) :
    ¬ record.DeadLettersInto graph routing queue := by
  intro path
  obtain ⟨exchange, named⟩ := path.exchange
  rw [absent] at named
  cases named

/-- Over the default exchange a queue dead-letters to the one it names. -/
theorem deadLettersInto_iff_of_deadLettersTo {target : String}
    (path : record.DeadLettersTo target) :
    record.DeadLettersInto graph routing queue ↔ target = queue := by
  constructor
  · rintro (⟨_, named⟩ | ⟨exchange, _, notDefault, named, _⟩)
    · exact ArgumentValue.text.inj (some.inj (path.2.symm.trans named))
    · exact absurd (ArgumentValue.text.inj (some.inj (named.symm.trans path.1))) notDefault
  · rintro rfl
    exact .inl path

end QueueRecord

namespace Route

variable (route : Route)

/-- The broker leaves the queue as it is: it has the name of a dead-letter queue, and no
retry of its own. -/
def LeftAlone (routes : List Route) (setup : BrokerSetup) : Prop :=
  route.isAnothersDlq routes = true ∧ route.declaredRetry routes setup = none

/-- The retry or the safety net of the route leads into a queue, or the options of its own
queue do. -/
def Feeds (setup : BrokerSetup) (routes : List Route) (routing : ExchangeRouting)
    (server : Server) (queue : String) : Prop :=
  match route.deadLetterTarget routes setup with
  | some target => target = queue
  | none => route.queue.record.DeadLettersInto (describedGraph server routes) routing queue

variable {route} {routes : List Route} {setup : BrokerSetup}

theorem leftAlone_iff (needs : route.NeedsPath setup.safety) :
    route.LeftAlone routes setup ↔ route.deadLetterTarget routes setup = none := by
  unfold LeftAlone deadLetterTarget
  cases declared : route.declaredRetry routes setup with
  | some config => simp
  | none =>
    cases anothers : route.isAnothersDlq routes with
    | true => simp
    | false =>
      have unretried : route.effectiveRetryConfig setup.retry = none := by
        simpa [declaredRetry, anothers] using declared
      have rejects : route.canRejectWithoutDlx setup.retry = true := by
        simp [canRejectWithoutDlx, needs.notStream, unretried, needs.noField]
        simpa [mayReject] using needs.mayReject
      simp [rejects, needs.autoProvision]

theorem deadLettersTo_withDeadLetter (plain : route.Plain routes) (target : String) :
    (route.withDeadLetter target).record.DeadLettersTo target := by
  refine ⟨?_, ?_⟩
  · change (route.withDeadLetter target).declareArguments.get? _ = _
    rw [get?_declareArguments_deadLetterExchange]
    exact congrArg (fun raw => or raw (some (.text ""))) plain.exchange
  · change (route.withDeadLetter target).declareArguments.get? _ = _
    rw [get?_declareArguments_deadLetterRoutingKey]
    exact congrArg (fun raw => or raw (some (.text target))) plain.routingKey

theorem deadLetterExchange_record (plain : route.Plain routes) :
    route.queue.record.deadLetterExchange = route.queue.deadLetterExchange.map .text := by
  change route.queue.declareArguments.get? _ = _
  rw [get?_declareArguments_deadLetterExchange, plain.exchange]
  rfl

/-- A consumed quorum dead-letter queue has no dead-letter path. -/
theorem deadLetterExchange_of_consumes (plain : route.Plain routes)
    (consumes : route.consumesQuorumDlq routes = true) :
    route.queue.deadLetterExchange = none := by
  by_contra set
  obtain ⟨exchange, named⟩ := ne_none_iff_exists'.mp set
  have declared : route.queue.declareArguments.get? "x-dead-letter-exchange" =
      some (.text exchange) := by
    rw [get?_declareArguments_deadLetterExchange, plain.exchange, named]
    rfl
  have listed := plain.consumed consumes _ (OrderedDict.mem_entries_of_get? declared)
  simp [skippedArguments] at listed

theorem deadLetterExchange_asQuorumDlq (plain : route.Plain routes)
    (consumes : route.consumesQuorumDlq routes = true) :
    (route.asQuorumDlq setup).record.deadLetterExchange = none := by
  change (route.asQuorumDlq setup).declareArguments.get? _ = _
  rw [get?_declareArguments_deadLetterExchange]
  change (route.queue.arguments.get? _).or (route.queue.deadLetterExchange.map _) = _
  rw [plain.exchange, deadLetterExchange_of_consumes plain consumes]
  rfl

theorem deadLetterExchange_dlq (name : String) (quorum : Bool) (brokerMajor : Option Nat)
    (groupSize : Option Int) :
    (dlqQueueSpec name quorum brokerMajor groupSize).record.deadLetterExchange = none := by
  change (dlqQueueSpec name quorum brokerMajor groupSize).declareArguments.get? _ = none
  rw [get?_declareArguments_deadLetterExchange]
  cases quorum <;> rfl

theorem exists_dlqName_of_isAnothersDlq (anothers : route.isAnothersDlq routes = true) :
    ∃ other ∈ routes, route.queue.name = dlqName other.queue.name := by
  simpa [isAnothersDlq] using anothers

end Route

section Coverage

variable {setup : BrokerSetup} {registry : Registry setup.retry} {routing : ExchangeRouting}
  {server final : Server} {route : Route}

section

variable (auto : setup.mode = .autoDeclare)
  (plain : ∀ route ∈ registry.routes, route.Plain registry.routes)
  (success : setup.declareTopology registry.routes server = .ok final)
include auto success

theorem graph_of_declareTopology : final.graph = describedGraph server registry.routes := by
  have granted := (grants_of_declareTopology auto success).2
  unfold Server.graph describedGraph
  rw [granted.queueBindings, granted.exchangeBindings]
  congr 1
  funext exchange
  rw [get?_performAll granted.exchanges]

theorem arguments_of_claim (escalates : setup.Escalates) {name : String} {record : QueueRecord}
    (asked : claim name record ∈ setup.queueAsks registry.routes) {exchange : ArgumentValue}
    (path : record.deadLetterExchange = some exchange) :
    ∃ existing, final.queues.get? name = some existing ∧
      ∀ key, existing.arguments.get? key = record.arguments.get? key := by
  obtain ⟨existing, found, accepted⟩ := TableRequest.accepts_of_claim
    (setup.acceptsQueue_self record) (grants_of_declareTopology auto success).2.queues asked
  rw [BrokerSetup.acceptsQueue, BrokerSetup.not_continuesOver escalates path, Bool.or_false,
    QueueRecord.equivalent_iff] at accepted
  exact ⟨existing, found, accepted.2.2.2⟩

include plain

/-- A path that the broker adds is on the declared queue. -/
theorem deadLettersTo_of_target (escalates : setup.Escalates) (member : route ∈ registry.routes)
    {target : String} (targeted : route.deadLetterTarget registry.routes setup = some target) :
    ∃ record, final.queues.get? route.queue.name = some record ∧ record.DeadLettersTo target := by
  obtain ⟨plan, source, auxiliary, asks, _, _, sourced⟩ :=
    asks_of_start auto success member (plain route member)
  cases sourced with
  | own untargeted | consumed untargeted =>
    rw [untargeted] at targeted
    cases targeted
  | pathed same =>
    cases targeted.symm.trans same
    have asked := Route.mem_queueAsks member (asks ▸ mem_cons_self)
    have path := Route.deadLettersTo_withDeadLetter (plain route member) target
    obtain ⟨existing, found, alike⟩ := arguments_of_claim auto success escalates asked path.1
    exact ⟨existing, found, (alike _).trans path.1, (alike _).trans path.2⟩

theorem covered_of_target (escalates : setup.Escalates) (member : route ∈ registry.routes)
    {target : String} (targeted : route.deadLetterTarget registry.routes setup = some target) :
    route.Covered setup registry.routes final := by
  obtain ⟨record, found, path⟩ := deadLettersTo_of_target auto plain success escalates member
    targeted
  obtain ⟨plan, source, auxiliary, asks, planned, listed, _⟩ :=
    asks_of_start auto success member (plain route member)
  obtain ⟨ask, inAuxiliary, key⟩ := Route.asks_deadLetterTarget planned listed targeted
  have asked : ask ∈ setup.queueAsks registry.routes :=
    Route.mem_queueAsks member (asks ▸ mem_cons_of_mem _ inAuxiliary)
  exact ⟨record, target, found, path, ⟨ask, asked, key⟩, key ▸ exists_of_asked auto success asked⟩

theorem inUse_of_feeds (escalates : setup.Escalates) {other : Route}
    (member : other ∈ registry.routes) (different : other.queue.name ≠ route.queue.name)
    (feeds : other.Feeds setup registry.routes routing server route.queue.name) :
    route.InUseAsDlq registry.routes routing final := by
  refine ⟨other, member, different, ?_⟩
  rw [graph_of_declareTopology auto success]
  unfold Route.Feeds at feeds
  cases targeted : other.deadLetterTarget registry.routes setup with
  | some target =>
    obtain ⟨record, found, path⟩ := deadLettersTo_of_target auto plain success escalates member
      targeted
    simp only [targeted] at feeds
    exact ⟨record, found, (QueueRecord.deadLettersInto_iff_of_deadLettersTo path).mpr feeds⟩
  | none =>
    simp only [targeted] at feeds
    obtain ⟨exchange, named⟩ := feeds.exchange
    obtain ⟨plan, source, auxiliary, asks, _, _, sourced⟩ :=
      asks_of_start auto success member (plain other member)
    cases sourced with
    | pathed same =>
      rw [targeted] at same
      cases same
    | own =>
      have asked := Route.mem_queueAsks member (asks ▸ mem_cons_self)
      obtain ⟨existing, found, alike⟩ := arguments_of_claim auto success escalates asked named
      exact ⟨existing, found, (QueueRecord.deadLettersInto_congr alike).mpr feeds⟩
    | consumed _ consumes =>
      have unset := Route.deadLetterExchange_of_consumes (plain other member) consumes
      rw [Route.deadLetterExchange_record (plain other member), unset] at named
      cases named

section

variable (fresh : server.queues = .empty) (raises : setup.safety.onTopologyConflict = .raise)
include fresh raises

/-- A queue that gets no path from the broker has the arguments of its own options, or none
of them is a path. -/
theorem record_of_untargeted (member : route ∈ registry.routes)
    (untargeted : route.deadLetterTarget registry.routes setup = none) {record : QueueRecord}
    (found : final.queues.get? route.queue.name = some record) :
    (∀ key, record.arguments.get? key = route.queue.record.arguments.get? key) ∨
      record.deadLetterExchange = none ∧ route.queue.record.deadLetterExchange = none := by
  obtain ⟨plan, source, auxiliary, asks, _, _, sourced⟩ :=
    asks_of_start auto success member (plain route member)
  cases sourced with
  | pathed same =>
    rw [untargeted] at same
    cases same
  | own =>
    obtain ⟨existing, present, same⟩ := equivalent_of_claim auto success raises
      (Route.mem_queueAsks member (asks ▸ mem_cons_self))
    cases found.symm.trans present
    exact .inl ((QueueRecord.equivalent_iff _ _).mp same).2.2.2
  | consumed _ consumes =>
    -- whoever declared the queue first gave it no path
    obtain ⟨owner, _, named⟩ :=
      Route.exists_dlqName_of_isAnothersDlq (Bool.and_eq_true_iff.mp consumes).1
    rw [named] at found
    obtain ⟨other, inRoutes, kinds⟩ := record_of_dlqName auto plain success fresh found
    have unset : route.queue.record.deadLetterExchange = none := by
      rw [Route.deadLetterExchange_record (plain route member),
        Route.deadLetterExchange_of_consumes (plain route member) consumes]
      rfl
    refine .inr ⟨?_, unset⟩
    rcases kinds with ⟨ask, asked, key, offered⟩ | ⟨quorum, groupSize, _, rfl⟩
    · obtain rfl : other = route := inj_on_of_nodup_map registry.distinct inRoutes member
        (asked.key.symm.trans (key.trans named.symm))
      cases asked with
      | pathed same =>
        rw [untargeted] at same
        cases same
      | own =>
        cases offered
        exact unset
      | consumed =>
        cases offered
        exact Route.deadLetterExchange_asQuorumDlq (plain other member) consumes
    · exact Route.deadLetterExchange_dlq _ _ _ _

theorem deadLetterExchange_of_untargeted (member : route ∈ registry.routes)
    (untargeted : route.deadLetterTarget registry.routes setup = none) {record : QueueRecord}
    (found : final.queues.get? route.queue.name = some record) :
    record.deadLetterExchange = route.queue.record.deadLetterExchange := by
  rcases record_of_untargeted auto plain success fresh raises member untargeted found with
    same | ⟨none, none'⟩
  · exact same _
  · exact none.trans none'.symm

theorem exists_feeds_of_inUse (inUse : route.InUseAsDlq registry.routes routing final) :
    ∃ other ∈ registry.routes, other.queue.name ≠ route.queue.name ∧
      other.Feeds setup registry.routes routing server route.queue.name := by
  obtain ⟨other, member, different, record, found, path⟩ := inUse
  refine ⟨other, member, different, ?_⟩
  rw [graph_of_declareTopology auto success] at path
  unfold Route.Feeds
  cases targeted : other.deadLetterTarget registry.routes setup with
  | some target =>
    obtain ⟨existing, present, known⟩ := deadLettersTo_of_target auto plain success
      (.inr raises) member targeted
    cases found.symm.trans present
    exact (QueueRecord.deadLettersInto_iff_of_deadLettersTo known).mp path
  | none =>
    rcases record_of_untargeted auto plain success fresh raises member targeted found with
      same | ⟨absent, _⟩
    · exact (QueueRecord.deadLettersInto_congr same).mp path
    · exact absurd path (QueueRecord.not_deadLettersInto absent)

theorem not_covered_of_leftAlone (member : route ∈ registry.routes)
    (needs : route.NeedsPath setup.safety) (left : route.LeftAlone registry.routes setup) :
    ¬ route.Covered setup registry.routes final := by
  rintro ⟨record, target, found, path, _⟩
  have absent := deadLetterExchange_of_untargeted auto plain success fresh raises member
    ((Route.leftAlone_iff needs).mp left) found
  rw [Route.deadLetterExchange_record (plain route member), needs.noField, path.1] at absent
  cases absent

end

end

/-- Every queue that the broker leaves alone, though it may reject, is fed by another route. -/
def Fed (setup : BrokerSetup) (routes : List Route) (routing : ExchangeRouting)
    (server : Server) : Prop :=
  ∀ route ∈ routes, route.NeedsPath setup.safety → route.LeftAlone routes setup →
    ∃ other ∈ routes, other.queue.name ≠ route.queue.name ∧
      other.Feeds setup routes routing server route.queue.name

/-- Every route that may reject dead-letters to a queue of the same run, or its queue is a
dead-letter queue in use. -/
def RejectsKept (setup : BrokerSetup) (routes : List Route) (routing : ExchangeRouting)
    (final : Server) : Prop :=
  ∀ route ∈ routes, route.NeedsPath setup.safety →
    route.Covered setup routes final ∨ route.InUseAsDlq routes routing final

end Coverage

def plainSetup : BrokerSetup where
  kind := .sync
  arithmetic := RetryRoute.exactArithmetic

def ordersRoute : Route where
  queue := ⟨{ name := "orders" }, rfl⟩

def ordersDlqRoute : Route where
  queue := ⟨{ name := "orders.dlq" }, rfl⟩

def consumedDlq : Registry none where
  routes := [ordersRoute, ordersDlqRoute]
  valid := by
    intro route member
    rcases List.mem_pair.mp member with rfl | rfl <;> rfl
  distinct := by decide

def discardedDlq : Registry none where
  routes := [{ ordersRoute with rejectWithoutDlx := some .discard }, ordersDlqRoute]
  valid := by
    intro route member
    rcases List.mem_pair.mp member with rfl | rfl <;> rfl
  distinct := by decide

theorem plain_of_name {route : Route} {routes : List Route}
    (named : ∃ name valid, route.queue = ⟨{ name := name }, valid⟩)
    (unbound : route.exchange = none) : route.Plain routes := by
  obtain ⟨name, valid, queue⟩ := named
  constructor <;> simp [queue, unbound, Route.consumesQuorumDlq, isQuorum]

end RabbitKit
