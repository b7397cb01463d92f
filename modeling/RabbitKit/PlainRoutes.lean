import RabbitKit.TopologyVerification

/-! # Routes that are defined by their typed options

Raw arguments, passive declarations and a consumed quorum dead-letter queue with options of its own
let the passes over the routes read different things.  For all other routes the requests that a
start makes follow from a few settings: the queue of the route, with a dead-letter path where the
broker adds one, its delay queues and its dead-letter queue.
-/

namespace RabbitKit

open TableRequest QueueSpec RabbitQueue BrokerSetup List

theorem firstFault_eq_ok {checks : List (Bool × TopologyFault)}
    (passed : firstFault checks = .ok ())
    {check : Bool × TopologyFault} (member : check ∈ checks) : check.1 = false := by
  unfold firstFault at passed
  split at passed
  · cases passed
  next absent =>
    simpa using find?_eq_none.mp absent check member

theorem durable_of_isQuorum (queue : RabbitQueue) (quorum : queue.isQuorum = true) :
    queue.durable = true := by
  have checked : (!queue.durable, .queueInvalid queue.name .quorumNotDurable) ∈
      queue.toQueueSpec.checks := by
    simp [QueueSpec.checks, quorum, quorumChecks]
  simpa using firstFault_eq_ok queue.valid checked

/-- No delay queue has the name of a dead-letter queue: one ends in a digit, one in a letter. -/
theorem shardQueueName_ne_dlqName_of (source other : String) (attempt shard : Nat) :
    shardQueueName source attempt shard ≠ dlqName other := by
  intro same
  have last : (shardQueueName source attempt shard).toList.getLast? = some 'q' := by
    rw [same, dlqName, String.toList_append]
    simp
  have numeral (stem : String) (n : Nat) : (stem ++ toString n).toList.getLast? ≠ some 'q' := by
    rw [String.toList_append, numeral_toList, getLast?_append_of_ne_nil _ Nat.toDigits_ne_nil]
    intro ends
    have digit := Nat.isDigit_of_mem_toDigits (by decide) (by decide) (mem_of_getLast? ends)
    revert digit
    decide
  unfold shardQueueName at last
  split at last
  · exact numeral _ _ last
  · exact numeral _ _ last

namespace Route

variable (route : Route) (routes : List Route) (setup : BrokerSetup)

/-- The options that the passes read are set by fields, and in no other way. -/
structure Plain : Prop where
  active : route.queue.passive = false
  activeExchange : ∀ exchange ∈ route.exchange, exchange.passive = false
  typed : route.queue.arguments.get? "x-queue-type" = none
  exchange : route.queue.arguments.get? "x-dead-letter-exchange" = none
  routingKey : route.queue.arguments.get? "x-dead-letter-routing-key" = none
  /-- A routing key for rejected messages needs an exchange for them. -/
  keyed : route.queue.deadLetterExchange = none → route.queue.deadLetterRoutingKey = none
  /-- The owner may have declared the queue before. -/
  consumed : route.consumesQuorumDlq routes = true →
    ∀ entry ∈ route.queue.declareArguments.entries, entry.1 ∈ skippedArguments

def resolvedPolicy (safety : SafetyConfig) : RejectWithoutDlxPolicy :=
  route.rejectWithoutDlx.getD safety.rejectWithoutDlx

/-- The queue that a route's retry or its safety net dead-letters to. -/
def deadLetterTarget : Option String :=
  match route.declaredRetry routes setup with
  | some _ => some (dlqName route.queue.name)
  | none =>
    if route.canRejectWithoutDlx setup.retry = true ∧
        route.resolvedPolicy setup.safety = .autoProvision ∧ route.isAnothersDlq routes = false then
      some (route.queue.name ++ setup.safety.dlqSuffix)
    else none

/-- The dead-letter queue a route may ask for, and whether it is a quorum queue. -/
def dlqs : List (String × Bool) :=
  match route.effectiveRetryConfig setup.retry with
  | some config => [(dlqName route.queue.name, config.isQuorumDlq (some route.queue.queueType))]
  | none => [(route.queue.name ++ setup.safety.dlqSuffix, route.queue.isQuorum)]

/-- What a start asks for under the name of a route's queue. -/
inductive SourceAsk : QueueRequest → Prop
  | pathed {target : String} (targeted : route.deadLetterTarget routes setup = some target)
      (unset : route.queue.deadLetterExchange = none) :
      SourceAsk (.claim route.queue.name (route.withDeadLetter target).record)
  | own (untargeted : route.deadLetterTarget routes setup = none) :
      SourceAsk (.claim route.queue.name route.queue.record)
  | consumed (untargeted : route.deadLetterTarget routes setup = none)
      (consumes : route.consumesQuorumDlq routes = true) :
      SourceAsk (.offer route.queue.name (route.asQuorumDlq setup).record)

/-- What a start asks for besides the queue of a route. -/
inductive AuxiliaryAsk (ask : QueueRequest) : Prop
  | dlq (quorum : Bool) (groupSize : Option Int) (listed : (ask.key, quorum) ∈ route.dlqs setup)
      (offered : ask.value =
        some (dlqQueueSpec ask.key quorum setup.brokerMajor groupSize).record) : AuxiliaryAsk ask
  | delay (attempt shard : Nat)
      (named : ask.key = shardQueueName route.queue.name attempt shard) : AuxiliaryAsk ask

end Route

namespace Route

variable {route : Route} {routes : List Route} {setup : BrokerSetup}

theorem mem_queueAsks (member : route ∈ routes) {ask : QueueRequest}
    (asked : ask ∈ route.asks routes setup) : ask ∈ setup.queueAsks routes :=
  mem_flatMap.mpr ⟨route, member, asked⟩

theorem asks_cases {requests : List QueueRequest}
    (formed : route.queueRequests routes setup = .ok requests) :
    ∃ plan source auxiliary, route.deadLetterPlan routes setup = .ok plan ∧
      route.sourceRequest routes setup plan = .ok source ∧
      route.auxiliaryRequests setup plan = .ok auxiliary ∧
      route.asks routes setup = source :: auxiliary := by
  obtain ⟨plan, planned, afterPlan⟩ := ok_of_bind formed
  obtain ⟨source, sourced, afterSource⟩ := ok_of_bind afterPlan
  obtain ⟨auxiliary, listed, afterAuxiliary⟩ := ok_of_bind afterSource
  cases afterAuxiliary
  refine ⟨plan, source, auxiliary, planned, sourced, listed, ?_⟩
  simp only [asks, formed]

theorem effective_of_declaredRetry {config : RetryConfig}
    (declared : route.declaredRetry routes setup = some config) :
    route.effectiveRetryConfig setup.retry = some config := by
  unfold declaredRetry at declared
  split at declared
  · cases declared
  · exact declared

theorem deadLetterExchange_of_retry (valid : route.validate setup.retry = .ok ())
    {config : RetryConfig} (effective : route.effectiveRetryConfig setup.retry = some config) :
    route.queue.deadLetterExchange = none := by
  have checked : (route.hasRetryEnabled setup.retry && route.queue.deadLetterExchange.isSome,
      .retryDeadLetterExchange) ∈ route.checks setup.retry := by
    simp [checks]
  have passed := firstFault_eq_ok valid (mem_map_of_mem checked)
  simpa [hasRetryEnabled, effective] using passed

/-- The plan of a route, read off its settings. -/
inductive Planned (route : Route) (routes : List Route) (setup : BrokerSetup) :
    DeadLetterPlan → Prop
  | retry {config : RetryConfig} (declared : route.declaredRetry routes setup = some config) :
      Planned route routes setup (.retry config)
  | safety (declared : route.declaredRetry routes setup = none)
      (rejects : route.canRejectWithoutDlx setup.retry = true)
      (targeted : route.deadLetterTarget routes setup =
        some (route.queue.name ++ setup.safety.dlqSuffix)) :
      Planned route routes setup (.safety (route.queue.name ++ setup.safety.dlqSuffix))
  | untouched (declared : route.declaredRetry routes setup = none)
      (untargeted : route.deadLetterTarget routes setup = none) :
      Planned route routes setup .untouched

theorem planned_of_plan (auto : setup.mode = .autoDeclare) {plan : DeadLetterPlan}
    (planned : route.deadLetterPlan routes setup = .ok plan) : Planned route routes setup plan := by
  obtain ⟨provisioned, resolved, chosen⟩ := ok_of_bind planned
  cases chosen
  unfold planFor
  cases declared : route.declaredRetry routes setup with
  | some config => exact .retry declared
  | none =>
    simp only [safetyDlq, auto, resolveSafetyDlq] at resolved
    cases rejects : route.canRejectWithoutDlx setup.retry with
    | false =>
      simp only [rejects, Bool.false_eq_true, if_false] at resolved
      cases resolved
      exact .untouched declared (by simp [deadLetterTarget, declared, rejects])
    | true =>
      simp only [rejects, if_true] at resolved
      cases policy : route.rejectWithoutDlx.getD setup.safety.rejectWithoutDlx with
      | error =>
        simp only [policy] at resolved
        cases resolved
      | discard =>
        simp only [policy] at resolved
        cases resolved
        exact .untouched declared (by simp [deadLetterTarget, declared, resolvedPolicy, policy])
      | autoProvision =>
        simp only [policy] at resolved
        cases resolved
        cases anothers : route.isAnothersDlq routes with
        | true => exact .untouched declared (by simp [deadLetterTarget, declared, anothers])
        | false =>
          refine .safety declared rejects ?_
          simp [deadLetterTarget, declared, rejects, resolvedPolicy, policy, anothers]

theorem sourceAsk_of_planned (plain : route.Plain routes)
    (valid : route.validate setup.retry = .ok ()) {plan : DeadLetterPlan}
    (planned : Planned route routes setup plan) {source : QueueRequest}
    (sourced : route.sourceRequest routes setup plan = .ok source) :
    SourceAsk route routes setup source := by
  have claimed {target : String} {queue : RabbitQueue}
      (constructed : (route.withDeadLetter target).construct = .ok queue) :
      queue.request = .claim route.queue.name (route.withDeadLetter target).record := by
    rw [request, construct_eq_ok constructed, withDeadLetter, plain.active]
    rfl
  cases planned with
  | retry declared =>
    obtain ⟨queue, constructed, requested⟩ := ok_of_bind sourced
    cases requested
    rw [claimed constructed]
    refine .pathed (by simp [deadLetterTarget, declared]) ?_
    exact deadLetterExchange_of_retry valid (effective_of_declaredRetry declared)
  | safety _ rejects targeted =>
    obtain ⟨queue, constructed, requested⟩ := ok_of_bind sourced
    cases requested
    rw [claimed constructed]
    refine .pathed targeted ?_
    by_contra set
    have isSet : route.queue.deadLetterExchange.isSome = true := Option.isSome_iff_ne_none.mpr set
    simp [canRejectWithoutDlx, isSet] at rejects
  | untouched _ untargeted =>
    simp only [sourceRequest] at sourced
    split at sourced
    next consumes =>
      obtain ⟨queue, constructed, requested⟩ := ok_of_bind sourced
      cases requested
      have spec := construct_eq_ok constructed
      have quorum : queue.isQuorum = true := by
        rw [spec]
        exact (Bool.and_eq_true_iff.mp consumes).2
      have active : queue.passive = false := by
        rw [spec]
        exact plain.active
      have offered : queue.dlqRequest =
          .offer route.queue.name (route.asQuorumDlq setup).record := by
        rw [dlqRequest, active, quorum, spec]
        rfl
      rw [offered]
      exact .consumed untargeted consumes
    · cases sourced
      rw [request, plain.active]
      exact .own untargeted

theorem value_dlqRequest {queue : RabbitQueue} (active : queue.passive = false) :
    queue.dlqRequest.value = some queue.record := by
  simp only [dlqRequest, active, Bool.false_eq_true, if_false]
  split <;> rfl

theorem passive_dlqQueueSpec (name : String) (quorum : Bool) (brokerMajor : Option Nat)
    (groupSize : Option Int) :
    (dlqQueueSpec name quorum brokerMajor groupSize).passive = false := by
  cases quorum <;> rfl

theorem auxiliaryAsk_dlq {dlq : RabbitQueue} {name : String} {quorum : Bool}
    {groupSize : Option Int}
    (spec : dlq.toQueueSpec = dlqQueueSpec name quorum setup.brokerMajor groupSize)
    (listed : (name, quorum) ∈ route.dlqs setup) : AuxiliaryAsk route setup dlq.dlqRequest := by
  have named : dlq.dlqRequest.key = name := by
    rw [dlq.key_dlqRequest, spec, name_dlqQueueSpec]
  refine .dlq quorum groupSize (named ▸ listed) ?_
  have active : dlq.passive = false := by
    rw [spec, passive_dlqQueueSpec]
  rw [value_dlqRequest active, named, spec]

theorem dlqs_of_retry {config : RetryConfig}
    (effective : route.effectiveRetryConfig setup.retry = some config) :
    route.dlqs setup =
      [(dlqName route.queue.name, config.isQuorumDlq (some route.queue.queueType))] := by
  simp only [dlqs, effective]

theorem dlqs_of_rejects (rejects : route.canRejectWithoutDlx setup.retry = true) :
    route.dlqs setup =
      [(route.queue.name ++ setup.safety.dlqSuffix, route.queue.isQuorum)] := by
  have unretried : route.effectiveRetryConfig setup.retry = none := by
    by_contra retried
    have enabled : (route.effectiveRetryConfig setup.retry).isSome = true :=
      Option.isSome_iff_ne_none.mpr retried
    simp [canRejectWithoutDlx, enabled] at rejects
  simp only [dlqs, unretried]

theorem auxiliaryAsk_of_planned {plan : DeadLetterPlan} (planned : Planned route routes setup plan)
    {auxiliary : List QueueRequest} (listed : route.auxiliaryRequests setup plan = .ok auxiliary)
    {ask : QueueRequest} (member : ask ∈ auxiliary) : AuxiliaryAsk route setup ask := by
  cases planned with
  | untouched =>
    cases listed
    cases member
  | safety _ rejects =>
    obtain ⟨dlq, defined, mapped⟩ := ok_of_bind listed
    cases mapped
    obtain rfl := mem_singleton.mp member
    refine auxiliaryAsk_dlq (construct_eq_ok defined) ?_
    rw [dlqs_of_rejects rejects]
    exact mem_singleton_self _
  | @retry config declared =>
    obtain ⟨queues, defined, mapped⟩ := ok_of_bind listed
    cases mapped
    obtain ⟨queue, inQueues, rfl⟩ := mem_map.mp member
    rcases RetryConfig.definition_kinds defined inQueues with ⟨index, _, delays⟩ | spec
    · obtain ⟨_, shard, _, _, _, _, _, spec⟩ := delays
      refine .delay (index + 1) shard ?_
      rw [key_retryRequest, spec]
      rfl
    · have named : queue.name = dlqName route.queue.name := by
        rw [spec, name_dlqQueueSpec]
      rw [retryRequest, if_pos named]
      refine auxiliaryAsk_dlq spec ?_
      rw [dlqs_of_retry (effective_of_declaredRetry declared)]
      exact mem_singleton_self _

theorem asks_targets {config : RetryConfig}
    (declared : route.declaredRetry routes setup = some config) {plan : DeadLetterPlan}
    (planned : Planned route routes setup plan) {auxiliary : List QueueRequest}
    (listed : route.auxiliaryRequests setup plan = .ok auxiliary) {name : String}
    (target : name ∈ config.publishTargets route.queue.name) :
    ∃ ask ∈ auxiliary, ask.key = name := by
  cases planned with
  | safety undeclared | untouched undeclared =>
    rw [undeclared] at declared
    cases declared
  | @retry other same =>
    cases declared.symm.trans same
    obtain ⟨queues, defined, mapped⟩ := ok_of_bind listed
    cases mapped
    rw [← RetryConfig.names_of_definitions defined] at target
    obtain ⟨queue, member, rfl⟩ := mem_map.mp target
    exact ⟨route.retryRequest queue, mem_map_of_mem member, route.key_retryRequest queue⟩

/-- The target of a dead-letter path is asked for along with the queue. -/
theorem asks_deadLetterTarget {plan : DeadLetterPlan} (planned : Planned route routes setup plan)
    {auxiliary : List QueueRequest} (listed : route.auxiliaryRequests setup plan = .ok auxiliary)
    {target : String} (targeted : route.deadLetterTarget routes setup = some target) :
    ∃ ask ∈ auxiliary, ask.key = target := by
  cases planned with
  | @retry config declared =>
    have isDlq : target = dlqName route.queue.name := by
      simpa [deadLetterTarget, declared] using targeted.symm
    refine asks_targets declared (.retry declared) listed ?_
    rw [isDlq]
    exact mem_append_right _ (mem_singleton_self _)
  | safety _ _ provided =>
    cases provided.symm.trans targeted
    obtain ⟨dlq, defined, mapped⟩ := ok_of_bind listed
    cases mapped
    refine ⟨dlq.dlqRequest, mem_singleton_self _, ?_⟩
    rw [dlq.key_dlqRequest, construct_eq_ok defined, name_dlqQueueSpec]
  | untouched _ untargeted =>
    rw [untargeted] at targeted
    cases targeted

theorem SourceAsk.key {source : QueueRequest} (asked : SourceAsk route routes setup source) :
    source.key = route.queue.name := by
  cases asked <;> rfl

end Route

section Start

variable {setup : BrokerSetup} {registry : Registry setup.retry} {server final : Server}
  (auto : setup.mode = .autoDeclare)
  (plain : ∀ route ∈ registry.routes, route.Plain registry.routes)
  (success : setup.declareTopology registry.routes server = .ok final)
include auto success

theorem asks_of_start {route : Route} (member : route ∈ registry.routes)
    (plain : route.Plain registry.routes) :
    ∃ plan source auxiliary, route.asks registry.routes setup = source :: auxiliary ∧
      Route.Planned route registry.routes setup plan ∧
      route.auxiliaryRequests setup plan = .ok auxiliary ∧
      Route.SourceAsk route registry.routes setup source := by
  obtain ⟨requests, formed⟩ := (grants_of_declareTopology auto success).1 route member
  obtain ⟨plan, source, auxiliary, planned, sourced, listed, asked⟩ := Route.asks_cases formed
  have known := Route.planned_of_plan auto planned
  exact ⟨plan, source, auxiliary, asked, known, listed,
    Route.sourceAsk_of_planned plain (registry.valid route member) known sourced⟩

theorem exists_of_asked {ask : QueueRequest} (asked : ask ∈ setup.queueAsks registry.routes) :
    ∃ existing, final.queues.get? ask.key = some existing :=
  isSome_get?_of_mem (grants_of_declareTopology auto success).2.queues asked

theorem equivalent_of_claim (raises : setup.safety.onTopologyConflict = .raise) {name : String}
    {record : QueueRecord} (asked : claim name record ∈ setup.queueAsks registry.routes) :
    ∃ existing, final.queues.get? name = some existing ∧ existing.equivalent record = true := by
  obtain ⟨existing, found, accepted⟩ := accepts_of_claim (setup.acceptsQueue_self record)
    (grants_of_declareTopology auto success).2.queues asked
  refine ⟨existing, found, ?_⟩
  simpa [acceptsQueue, continuesOver, raises] using accepted

include plain

/-- Under the name of a dead-letter queue a fresh server has the queue of a route, or a
dead-letter queue. -/
theorem record_of_dlqName (fresh : server.queues = .empty) {source : String} {record : QueueRecord}
    (found : final.queues.get? (dlqName source) = some record) :
    ∃ route ∈ registry.routes,
      (∃ ask, Route.SourceAsk route registry.routes setup ask ∧ ask.key = dlqName source ∧
        ask.value = some record) ∨
      ∃ quorum groupSize, (dlqName source, quorum) ∈ route.dlqs setup ∧
        record = (dlqQueueSpec (dlqName source) quorum setup.brokerMajor groupSize).record := by
  rw [get?_performAll (grants_of_declareTopology auto success).2.queues, fresh] at found
  obtain ⟨ask, asked, key, offered⟩ := exists_of_firstValue found
  obtain ⟨route, member, inAsks⟩ := mem_flatMap.mp asked
  obtain ⟨plan, first, auxiliary, asks, planned, listed, sourced⟩ :=
    asks_of_start auto success member (plain route member)
  refine ⟨route, member, ?_⟩
  rw [asks] at inAsks
  rcases mem_cons.mp inAsks with rfl | inAuxiliary
  · exact .inl ⟨ask, sourced, key, offered⟩
  · cases Route.auxiliaryAsk_of_planned planned listed inAuxiliary with
    | dlq quorum groupSize listed value =>
      refine .inr ⟨quorum, groupSize, key ▸ listed, ?_⟩
      rw [offered, key] at value
      exact Option.some.inj value
    | delay attempt shard named =>
      exact absurd (named.symm.trans key) (shardQueueName_ne_dlqName_of _ _ _ _)

end Start
end RabbitKit
