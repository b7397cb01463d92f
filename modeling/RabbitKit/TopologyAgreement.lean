import RabbitKit.DeadLetterCoverage

/-! # Wiring, declaration and verification

Three passes read the retry settings of a route: the declaration of its topology, the
installation of its retry middleware and the verification of a topology.  Only the first
one makes an exception for a queue that has the name of another route's dead-letter
queue.  Over routes defined by their typed options nothing else tells the passes apart.
-/

namespace RabbitKit

open TableRequest QueueSpec RabbitQueue Route RetryRoute OrderedDict List

/-- The queues a configuration publishes to exist, and terminal rejects reach the
dead-letter queue. -/
def Route.RetryDeclared (route : Route) (config : RetryConfig) (final : Server) : Prop :=
  (∀ name ∈ config.publishTargets route.queue.name,
      ∃ record, final.queues.get? name = some record) ∧
    ∃ record, final.queues.get? route.queue.name = some record ∧
      record.DeadLettersTo (dlqName route.queue.name)

/-- After a start: a retry middleware was installed on a route exactly if its topology
was declared, and verification finds nothing wrong. -/
structure StartAgrees (setup : BrokerSetup) (routes : List Route) (final : Server) : Prop where
  installed : ∀ route ∈ routes, route.hasRetryMiddleware = false →
    ∀ wired, route.wireRetryMiddleware setup.retry = .ok wired →
      (wired.hasRetryMiddleware = true ↔
        ∃ config, route.effectiveRetryConfig setup.retry = some config ∧
          route.RetryDeclared config final)
  verified : ∃ findings,
    verifyTopology setup.arithmetic setup.retry routes (some final) = .ok findings ∧
      failedFindings findings = []

/-- Routes that ask for one dead-letter queue, as its owner or as its consumer, ask for a queue
of one type. -/
structure SameTypes (setup : BrokerSetup) (routes : List Route) : Prop where
  consumed : ∀ route ∈ routes, ∀ dlq ∈ route.dlqs setup, ∀ other ∈ routes,
    other.queue.name = dlq.1 → other.queue.isQuorum = dlq.2
  shared : ∀ route ∈ routes, ∀ dlq ∈ route.dlqs setup, ∀ other ∈ routes,
    ∀ dlq' ∈ other.dlqs setup, dlq'.1 = dlq.1 → dlq'.2 = dlq.2

theorem ArgumentValue.pyEq_self (value : ArgumentValue) : value.pyEq value = true := by
  cases value <;> simp [pyEq]

theorem queueTypeText_declareArguments (spec : QueueSpec)
    (typed : spec.arguments.get? "x-queue-type" = none) :
    queueTypeText spec.declareArguments = spec.queueType.value := by
  rw [queueTypeText, get?_declareArguments_type, typed]
  rfl

namespace Route

variable {route : Route} {routes : List Route} {setup : BrokerSetup}

theorem get?_declareArguments_withDeadLetter {dlq key : String}
    (notExchange : key ≠ "x-dead-letter-exchange") (notKey : key ≠ "x-dead-letter-routing-key") :
    (route.withDeadLetter dlq).declareArguments.get? key =
      route.queue.declareArguments.get? key := by
  simp only [declareArguments, get?_update]
  refine congrArg _ ?_
  -- the options after the dead-letter path are the same
  iterate 14 refine get?_setSome_congr ?_ _ _
  simp only [get?_setSome, notExchange, notKey, if_false]
  rfl

/-- A dead-letter path that the broker adds contradicts nothing the route says. -/
theorem agreesWith_withDeadLetter (plain : route.Plain routes)
    (unset : route.queue.deadLetterExchange = none) (dlq : String) :
    route.queue.AgreesWith (route.withDeadLetter dlq).record where
  type := queueTypeText_declareArguments (route.withDeadLetter dlq) plain.typed
  durable := rfl
  arguments key value declared _ := by
    by_cases isExchange : key = "x-dead-letter-exchange"
    · subst isExchange
      rw [get?_declareArguments_deadLetterExchange, plain.exchange, unset] at declared
      cases declared
    by_cases isKey : key = "x-dead-letter-routing-key"
    · subst isKey
      rw [get?_declareArguments_deadLetterRoutingKey, plain.routingKey,
        plain.keyed unset] at declared
      cases declared
    · refine ⟨value, ?_, value.pyEq_self⟩
      exact (get?_declareArguments_withDeadLetter isExchange isKey).trans declared

theorem agreesWith_record (plain : route.Plain routes) :
    route.queue.AgreesWith route.queue.record where
  type := queueTypeText_declareArguments _ plain.typed
  durable := rfl
  arguments _ value declared _ := ⟨value, declared, value.pyEq_self⟩

end Route

theorem queueTypeText_congr {first second : ArgumentTable}
    (same : ∀ key, first.get? key = second.get? key) :
    queueTypeText first = queueTypeText second := by
  rw [queueTypeText, queueTypeText, same]

theorem RabbitQueue.AgreesWith.of_equivalent {queue : RabbitQueue} {existing record : QueueRecord}
    (same : existing.equivalent record = true) (agrees : queue.AgreesWith record) :
    queue.AgreesWith existing := by
  obtain ⟨durable, _, _, arguments⟩ := (QueueRecord.equivalent_iff _ _).mp same
  refine ⟨(queueTypeText_congr arguments).trans agrees.type, durable.trans agrees.durable, ?_⟩
  intro key value declared checked
  rw [arguments]
  exact agrees.arguments key value declared checked

/-- The type of a dead-letter queue. -/
theorem queueTypeText_dlqQueueSpec (name : String) (quorum : Bool) (brokerMajor : Option Nat)
    (groupSize : Option Int) :
    queueTypeText (dlqQueueSpec name quorum brokerMajor groupSize).declareArguments =
      if quorum then QueueType.quorum.value else QueueType.classic.value := by
  cases quorum <;> exact queueTypeText_declareArguments _ rfl

theorem isQuorum_dlqQueueSpec (name : String) (quorum : Bool) (brokerMajor : Option Nat)
    (groupSize : Option Int) :
    (dlqQueueSpec name quorum brokerMajor groupSize).isQuorum = quorum := by
  cases quorum <;> rfl

theorem validate_dlqQueueSpec (name : String) (quorum : Bool) (brokerMajor : Option Nat)
    (groupSize : Option Int) : (dlqQueueSpec name quorum brokerMajor groupSize).validate =
      (dlqQueueSpec name quorum none groupSize).validate := by
  cases quorum <;> rfl

namespace Route

variable {route : Route} {routes : List Route} {setup : BrokerSetup}

def described (queue : RabbitQueue) : String × String :=
  (queue.name, queueTypeText queue.declareArguments)

/-- A verification, which knows no version, expects the names and types that are asked
for. -/
theorem expected_of_definitions {config : RetryConfig}
    (effective : route.effectiveRetryConfig setup.retry = some config) {queues : List RabbitQueue}
    (defined : config.getDelayQueueDefinitions setup.arithmetic route.queue.name
      (some route.queue.queueType) setup.brokerMajor = .ok queues) :
    route.expectedAuxiliary setup.arithmetic setup.retry = .ok (queues.map described) := by
  obtain ⟨tiers, tiered, afterTiers⟩ := ok_of_bind defined
  obtain ⟨dlq, constructed, collected⟩ := ok_of_bind afterTiers
  cases collected
  have valid : (dlqQueueSpec (dlqName route.queue.name)
      (config.isQuorumDlq (some route.queue.queueType)) none
      (config.quorumInitialGroupSize.map fun size => size)).validate = .ok () := by
    rw [← validate_dlqQueueSpec _ _ setup.brokerMajor, ← construct_eq_ok constructed]
    exact dlq.valid
  have unversioned : config.getDelayQueueDefinitions setup.arithmetic route.queue.name
      (some route.queue.queueType) none = .ok (tiers.flatten ++ [⟨_, valid⟩]) := by
    rw [RetryConfig.getDelayQueueDefinitions, tiered, dlqQueueDefinition, construct_of_valid valid]
    rfl
  have same : described ⟨_, valid⟩ = described dlq := by
    have spec := construct_eq_ok constructed
    rw [described, described, spec, queueTypeText_dlqQueueSpec, queueTypeText_dlqQueueSpec,
      name_dlqQueueSpec, name_dlqQueueSpec]
  rw [expectedAuxiliary, effective]
  change (do
    let queues ← config.getDelayQueueDefinitions setup.arithmetic route.queue.name
      (some route.queue.queueType) none
    return queues.map described) = _
  rw [unversioned, map_append, map_singleton, ← same, ← map_singleton, ← map_append]
  rfl

/-- The type that a route's own request gives its queue. -/
theorem SourceAsk.queueType (plain : route.Plain routes) {ask : QueueRequest}
    (asked : SourceAsk route routes setup ask) {record : QueueRecord}
    (offered : ask.value = some record) :
    queueTypeText record.arguments = route.queue.queueType.value := by
  cases asked <;> cases offered <;> exact queueTypeText_declareArguments _ plain.typed

end Route

section Start

variable {setup : BrokerSetup} {registry : Registry setup.retry} {final : Server} {route : Route}
  (auto : setup.mode = .autoDeclare)
  (plain : ∀ route ∈ registry.routes, route.Plain registry.routes)
  (success : setup.declareTopology registry.routes {} = .ok final)
include auto success

theorem asks_definitions (plain : route.Plain registry.routes) (member : route ∈ registry.routes)
    {config : RetryConfig} (declared : route.declaredRetry registry.routes setup = some config) :
    ∃ queues, config.getDelayQueueDefinitions setup.arithmetic route.queue.name
        (some route.queue.queueType) setup.brokerMajor = .ok queues ∧
      ∀ queue ∈ queues, route.retryRequest queue ∈ setup.queueAsks registry.routes := by
  obtain ⟨plan, source, auxiliary, asks, planned, listed, _⟩ :=
    asks_of_start auto success member plain
  cases planned with
  | safety undeclared | untouched undeclared =>
    rw [undeclared] at declared
    cases declared
  | retry same =>
    cases declared.symm.trans same
    obtain ⟨queues, defined, mapped⟩ := ok_of_bind listed
    cases mapped
    refine ⟨queues, defined, fun queue inQueues => mem_queueAsks member ?_⟩
    rw [asks]
    exact mem_cons_of_mem _ (mem_map_of_mem inQueues)

theorem bindings_of_start {binding : QueueBinding}
    (expected : binding ∈ expectedBindings registry.routes) : binding ∈ final.queueBindings := by
  rw [(grants_of_declareTopology auto success).2.queueBindings]
  obtain ⟨route, member, bound⟩ := mem_flatMap.mp expected
  refine mem_append_right _ (mem_flatMap.mpr ⟨route, member, ?_⟩)
  unfold expectedExchange at bound
  unfold queueBindings
  cases named : route.exchange with
  | none => simp [named] at bound
  | some exchange =>
    simp only [named, Option.filter_some] at bound
    split at bound
    · simpa using bound
    · cases bound

variable (raises : setup.safety.onTopologyConflict = .raise)

section

include raises

theorem type_of_claim {name : String} {record : QueueRecord}
    (asked : claim name record ∈ setup.queueAsks registry.routes) :
    ∃ existing, final.queues.get? name = some existing ∧
      queueTypeText existing.arguments = queueTypeText record.arguments := by
  obtain ⟨existing, found, same⟩ := equivalent_of_claim auto success raises asked
  exact ⟨existing, found, queueTypeText_congr ((QueueRecord.equivalent_iff _ _).mp same).2.2.2⟩

theorem exchange_of_start (plain : route.Plain registry.routes) (member : route ∈ registry.routes)
    {exchange : RabbitExchange} (named : route.exchange = some exchange) :
    ∃ record, final.exchanges.get? exchange.name = some record ∧ record.type = exchange.type ∧
      record.durable = exchange.durable := by
  have asked : claim exchange.name exchange.record ∈ exchangeAsks registry.routes := by
    refine mem_flatMap.mpr ⟨route, member, ?_⟩
    have active := plain.activeExchange exchange named
    simp [exchangeRequests, named, RabbitExchange.request, active]
  have self : setup.acceptsExchange exchange.record exchange.record = true := by
    simp [BrokerSetup.acceptsExchange, ExchangeRecord.equivalent, sameArguments_iff]
  obtain ⟨existing, found, accepted⟩ :=
    accepts_of_claim self (grants_of_declareTopology auto success).2.exchanges asked
  simp only [BrokerSetup.acceptsExchange, raises, ExchangeRecord.equivalent, Bool.or_eq_true,
    Bool.and_eq_true, beq_iff_eq, reduceCtorEq, or_false] at accepted
  exact ⟨existing, found, accepted.1.1.1.1, accepted.1.1.1.2⟩

end

include plain raises

variable (types : SameTypes setup registry.routes)
include types

/-- The queue of a route is declared as the route says. -/
theorem queue_of_start (member : route ∈ registry.routes) :
    ∃ record, final.queues.get? route.queue.name = some record ∧ route.queue.AgreesWith record := by
  have own := plain route member
  obtain ⟨plan, source, auxiliary, asks, _, _, sourced⟩ := asks_of_start auto success member own
  have asked : source ∈ setup.queueAsks registry.routes :=
    mem_queueAsks member (asks ▸ mem_cons_self)
  cases sourced with
  | pathed _ unset =>
    obtain ⟨existing, found, same⟩ := equivalent_of_claim auto success raises asked
    exact ⟨existing, found, .of_equivalent same (agreesWith_withDeadLetter own unset _)⟩
  | own =>
    obtain ⟨existing, found, same⟩ := equivalent_of_claim auto success raises asked
    exact ⟨existing, found, .of_equivalent same (agreesWith_record own)⟩
  | consumed untargeted consumes =>
    obtain ⟨anothers, quorum⟩ := Bool.and_eq_true_iff.mp consumes
    obtain ⟨owner, _, named⟩ := exists_dlqName_of_isAnothersDlq anothers
    obtain ⟨record, found⟩ := exists_of_asked auto success asked
    have isQuorum : route.queue.queueType = .quorum := beq_iff_eq.mp quorum
    refine ⟨record, found, ?_⟩
    change final.queues.get? route.queue.name = some record at found
    rw [named] at found
    obtain ⟨other, inRoutes, kinds⟩ := record_of_dlqName auto plain success rfl found
    rcases kinds with ⟨ask, kind, key, offered⟩ | ⟨quorum', groupSize, listed, rfl⟩
    · obtain rfl : other = route := inj_on_of_nodup_map registry.distinct inRoutes member
        (kind.key.symm.trans (key.trans named.symm))
      have durable : record.durable = other.queue.durable := by
        cases kind <;> cases offered <;> rfl
      exact .of_skipped (kind.queueType own offered) durable (own.consumed consumes)
    · have typed := types.consumed other inRoutes _ listed route member named
      have isTrue : quorum' = true := typed.symm.trans quorum
      subst isTrue
      refine .of_skipped ?_ (durable_of_isQuorum route.queue quorum).symm (own.consumed consumes)
      rw [isQuorum]
      exact queueTypeText_dlqQueueSpec _ true _ _

omit raises in
theorem type_of_quorumDlq (member : route ∈ registry.routes) {record : QueueRecord}
    (listed : (dlqName route.queue.name, true) ∈ route.dlqs setup)
    (found : final.queues.get? (dlqName route.queue.name) = some record) :
    queueTypeText record.arguments = QueueType.quorum.value := by
  obtain ⟨other, inRoutes, kinds⟩ := record_of_dlqName auto plain success rfl found
  rcases kinds with ⟨ask, kind, key, offered⟩ | ⟨quorum, groupSize, listed', rfl⟩
  · have consumed := types.consumed route member _ listed other inRoutes
      (kind.key.symm.trans key)
    rw [kind.queueType (plain other inRoutes) offered, beq_iff_eq.mp consumed]
  · obtain rfl : quorum = true := types.shared route member _ listed other inRoutes _ listed' rfl
    exact queueTypeText_dlqQueueSpec _ true _ _

/-- The queues of declared retries have their types. -/
theorem auxiliary_of_start (member : route ∈ registry.routes) {config : RetryConfig}
    (declared : route.declaredRetry registry.routes setup = some config) {queue : RabbitQueue}
    {queues : List RabbitQueue} (defined : config.getDelayQueueDefinitions setup.arithmetic
      route.queue.name (some route.queue.queueType) setup.brokerMajor = .ok queues)
    (inQueues : queue ∈ queues)
    (asked : route.retryRequest queue ∈ setup.queueAsks registry.routes) :
    ∃ record, final.queues.get? queue.name = some record ∧
      queueTypeText record.arguments = queueTypeText queue.declareArguments := by
  rcases RetryConfig.definition_kinds defined inQueues with ⟨index, _, delays⟩ | spec
  · obtain ⟨_, shard, _, _, _, _, _, spec⟩ := delays
    have request : route.retryRequest queue = .claim queue.name queue.record := by
      have notDlq : queue.name ≠ dlqName route.queue.name := by
        rw [spec]
        exact shardQueueName_ne_dlqName _ _ _
      rw [retryRequest, if_neg notDlq, RabbitQueue.request, spec]
      rfl
    rw [request] at asked
    exact type_of_claim auto success raises asked
  · have named : queue.name = dlqName route.queue.name := by
      rw [spec, name_dlqQueueSpec]
    have active : queue.passive = false := by
      rw [spec, passive_dlqQueueSpec]
    rw [retryRequest, if_pos named, dlqRequest, active] at asked
    cases quorum : queue.isQuorum with
    | false =>
      simp only [quorum, Bool.false_eq_true, if_false] at asked
      exact type_of_claim auto success raises asked
    | true =>
      obtain ⟨record, found⟩ := exists_of_asked auto success asked
      simp only [quorum, Bool.false_eq_true, if_false, if_true] at found
      have flag : config.isQuorumDlq (some route.queue.queueType) = true := by
        rwa [spec, isQuorum_dlqQueueSpec] at quorum
      have listed : (dlqName route.queue.name, true) ∈ route.dlqs setup := by
        rw [dlqs_of_retry (effective_of_declaredRetry declared), flag]
        exact mem_singleton_self _
      refine ⟨record, found, ?_⟩
      rw [spec, queueTypeText_dlqQueueSpec, flag, if_pos rfl]
      change final.queues.get? queue.name = some record at found
      exact type_of_quorumDlq auto plain success types member listed (named ▸ found)

end Start

section Agreement

variable {setup : BrokerSetup} {registry : Registry setup.retry} {final : Server}
  (auto : setup.mode = .autoDeclare) (raises : setup.safety.onTopologyConflict = .raise)
  (plain : ∀ route ∈ registry.routes, route.Plain registry.routes)
  (types : SameTypes setup registry.routes)
  (success : setup.declareTopology registry.routes {} = .ok final)
include auto raises plain success

theorem retryDeclared_of_declaredRetry {route : Route} (member : route ∈ registry.routes)
    {config : RetryConfig} (declared : route.declaredRetry registry.routes setup = some config) :
    route.RetryDeclared config final := by
  obtain ⟨queues, defined, asked⟩ :=
    asks_definitions auto success (plain route member) member declared
  refine ⟨fun name target => ?_, ?_⟩
  · rw [← RetryConfig.names_of_definitions defined] at target
    obtain ⟨queue, inQueues, rfl⟩ := mem_map.mp target
    rw [← route.key_retryRequest queue]
    exact exists_of_asked auto success (asked queue inQueues)
  · exact deadLettersTo_of_target auto plain success (.inr raises) member
      (by simp [deadLetterTarget, declared])

include types

theorem expectedAuxiliary_of_start {route : Route} (member : route ∈ registry.routes)
    (alike : route.declaredRetry registry.routes setup = route.effectiveRetryConfig setup.retry) :
    ∃ entries, route.expectedAuxiliary setup.arithmetic setup.retry = .ok entries ∧
      ∀ entry ∈ entries, ∃ record, final.queues.get? entry.1 = some record ∧
        queueTypeText record.arguments = entry.2 := by
  cases effective : route.effectiveRetryConfig setup.retry with
  | none =>
    refine ⟨[], ?_, fun entry member => absurd member not_mem_nil⟩
    rw [expectedAuxiliary, effective]
  | some config =>
    have declared := alike.trans effective
    obtain ⟨queues, defined, asked⟩ :=
      asks_definitions auto success (plain route member) member declared
    refine ⟨_, expected_of_definitions effective defined, fun entry inEntries => ?_⟩
    obtain ⟨queue, inQueues, rfl⟩ := mem_map.mp inEntries
    exact auxiliary_of_start auto plain success raises types member declared defined inQueues
      (asked queue inQueues)

/-- Where declaration and verification see the same retries, verification expects what was
declared. -/
theorem exists_provides (alike : ∀ route ∈ registry.routes,
      route.declaredRetry registry.routes setup = route.effectiveRetryConfig setup.retry) :
    ∃ expected, expectedTopology setup.arithmetic setup.retry registry.routes = .ok expected ∧
      final.Provides expected := by
  have expectedOf := fun route member =>
    expectedAuxiliary_of_start auto raises plain types success member (alike route member)
  obtain ⟨auxiliary, collected⟩ := exists_mapM_ok fun route member =>
    (expectedOf route member).imp fun _ => And.left
  refine ⟨_, by rw [expectedTopology, collected]; rfl, ?_⟩
  constructor
  case exchanges =>
    intro entry listed
    obtain ⟨exchange, inExchanges, same⟩ := mem_map.mp (mem_of_mem_assignAll listed)
    obtain ⟨route, inRoutes, expected⟩ := mem_filterMap.mp inExchanges
    have named : route.exchange = some exchange := (Option.filter_eq_some_iff.mp expected).1
    have isEntry : exchange = entry.2 := congrArg Prod.snd same
    exact isEntry ▸ exchange_of_start auto success raises (plain route inRoutes) inRoutes named
  case queues =>
    intro entry listed
    obtain ⟨route, inRoutes, same⟩ := mem_map.mp (mem_of_mem_assignAll listed)
    have queue : route.queue = entry.2 := congrArg Prod.snd same
    exact queue ▸ queue_of_start auto plain success raises types inRoutes
  case deadLetter =>
    intro name listed record found
    obtain ⟨route, retried, rfl⟩ := mem_map.mp listed
    obtain ⟨member, enabled⟩ := mem_filter.mp retried
    obtain ⟨config, effective⟩ := Option.isSome_iff_exists.mp enabled
    obtain ⟨existing, present, path⟩ := (retryDeclared_of_declaredRetry auto raises plain success
      member ((alike route member).trans effective)).2
    cases found.symm.trans present
    exact ⟨_, path.1⟩
  case auxiliary =>
    intro entry listed
    obtain ⟨entries, inAuxiliary, inEntries⟩ := mem_flatten.mp (mem_of_mem_assignAll listed)
    obtain ⟨route, inRoutes, expected⟩ := (mem_mapM collected).1 _ inAuxiliary
    obtain ⟨known, expectedKnown, holds⟩ := expectedOf route inRoutes
    cases expected.symm.trans expectedKnown
    exact holds _ inEntries
  case bindings =>
    intro binding listed _ _
    exact ⟨binding, bindings_of_start auto success listed, rfl, rfl, rfl⟩

omit types in
/-- A route that inherits retry under the name of a dead-letter queue gets no path, which
verification misses. -/
theorem failed_of_inherited {route other : Route} (member : route ∈ registry.routes)
    (inRoutes : other ∈ registry.routes) (named : route.queue.name = dlqName other.queue.name)
    (inherits : route.retryOverride = .inherited) {config : RetryConfig}
    (retry : setup.retry = some config) {expected : ExpectedTopology}
    (formed : expectedTopology setup.arithmetic setup.retry registry.routes = .ok expected) :
    ¬ final.Provides expected := by
  intro provides
  have effective : route.effectiveRetryConfig setup.retry = some config := by
    rw [effectiveRetryConfig, inherits, retry]
  have anothers : route.isAnothersDlq registry.routes = true := by
    simpa [isAnothersDlq] using ⟨other, inRoutes, named⟩
  have untargeted : route.deadLetterTarget registry.routes setup = none := by
    simp [deadLetterTarget, declaredRetry, anothers, inherits]
  obtain ⟨auxiliary, _, collected⟩ := ok_of_bind formed
  cases collected
  obtain ⟨plan, source, rest, asks, _, _, sourced⟩ :=
    asks_of_start auto success member (plain route member)
  obtain ⟨record, found⟩ := exists_of_asked auto success
    (mem_queueAsks member (asks ▸ mem_cons_self))
  rw [sourced.key] at found
  have needed : route.queue.name ∈ retriedQueues setup.retry registry.routes :=
    mem_map.mpr ⟨route, mem_filter.mpr ⟨member, by rw [hasRetryEnabled, effective]; rfl⟩, rfl⟩
  obtain ⟨exchange, path⟩ := provides.deadLetter _ needed record found
  have absent := deadLetterExchange_of_untargeted auto plain success rfl raises member untargeted
    found
  rw [deadLetterExchange_record (plain route member),
    deadLetterExchange_of_retry (registry.valid route member) effective] at absent
  cases path.symm.trans absent

end Agreement

def retryDefault : RetryConfig := (RetryRoute.singleRetry 5).config

def retrySetup : BrokerSetup := { plainSetup with retry := some retryDefault }

def inheritingDlq : Registry retrySetup.retry where
  routes := consumedDlq.routes
  valid := by
    intro route member
    rcases List.mem_pair.mp member with rfl | rfl <;> rfl
  distinct := consumedDlq.distinct

def optedOutRoute : Route := { ordersDlqRoute with retryOverride := .disabled }

def optedOutDlq : Registry retrySetup.retry where
  routes := [ordersRoute, optedOutRoute]
  valid := by
    intro route member
    rcases List.mem_pair.mp member with rfl | rfl <;> rfl
  distinct := by decide

def ordersServer : Server where
  queues := ((OrderedDict.empty.set "orders" (ordersRoute.withDeadLetter "orders.dlq").record).set
    "orders.retry.1" (retryDefault.delaySpec "orders" .classic 1 0 5000).record).set
    "orders.dlq" (dlqQueueSpec "orders.dlq" false none none).record

theorem retryDefault_definitions :
    retryDefault.getDelayQueueDefinitions exactArithmetic "orders" (some .classic) none =
      .ok [⟨retryDefault.delaySpec "orders" .classic 1 0 5000, rfl⟩,
        ⟨dlqQueueSpec "orders.dlq" false none none, rfl⟩] :=
  singleRetry_definitions 5

theorem ordersRoute_declareAuxiliary (server : Server) :
    ordersRoute.declareAuxiliary retrySetup server (.retry retryDefault) =
      [⟨retryDefault.delaySpec "orders" .classic 1 0 5000, rfl⟩,
        ⟨dlqQueueSpec "orders.dlq" false none none, rfl⟩].foldlM
          (ordersRoute.declareRetryQueue retrySetup) server := by
  change (do
    let queues ← retryDefault.getDelayQueueDefinitions exactArithmetic "orders" (some .classic) none
    queues.foldlM (ordersRoute.declareRetryQueue retrySetup) server) = _
  rw [retryDefault_definitions]
  rfl

theorem declareTopology_pair (consumer : Route)
    (later : consumer.declare [ordersRoute, consumer] retrySetup ordersServer = .ok ordersServer)
    (kept : ordersRoute.declaredRetry [ordersRoute, consumer] retrySetup = some retryDefault) :
    retrySetup.declareTopology [ordersRoute, consumer] {} = .ok ordersServer := by
  have first : ordersRoute.declare [ordersRoute, consumer] retrySetup {} = .ok ordersServer := by
    have planned : ordersRoute.deadLetterPlan [ordersRoute, consumer] retrySetup =
        .ok (.retry retryDefault) := by
      change Except.ok (ordersRoute.planFor [ordersRoute, consumer] retrySetup none) = _
      simp only [planFor, kept]
    change (do
      let plan ← ordersRoute.deadLetterPlan [ordersRoute, consumer] retrySetup
      let declared ← ordersRoute.declareSource [ordersRoute, consumer] retrySetup {} plan
      ordersRoute.declareAuxiliary retrySetup (ordersRoute.bindSource retrySetup declared) plan) = _
    rw [planned]
    change ordersRoute.declareAuxiliary retrySetup
      ⟨.empty, empty.set "orders" (ordersRoute.withDeadLetter "orders.dlq").record,
        [], []⟩ (.retry retryDefault) = _
    rw [ordersRoute_declareAuxiliary]
    rfl
  rw [BrokerSetup.declareTopology, foldlM_cons, first]
  change (consumer.declare [ordersRoute, consumer] retrySetup ordersServer).bind .ok = _
  rw [later]
  rfl

end RabbitKit
