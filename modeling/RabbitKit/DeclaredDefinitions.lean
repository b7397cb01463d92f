import RabbitKit.TopologyDeclaration

/-! # The definitions a broker asks for

Declaring the topology of a list of routes is a list of requests to the two tables of the server.
Which requests those are depends on the routes and the settings only; the server decides whether
they are granted.
-/

namespace RabbitKit

open RabbitQueue BrokerSetup TableRequest TopologyMode Route List

open TableRequest (perform performAll performAll_append)

abbrev QueueRequest := TableRequest String QueueRecord

abbrev ExchangeRequest := TableRequest String ExchangeRecord

def RabbitQueue.request (queue : RabbitQueue) : QueueRequest :=
  if queue.passive then .probe queue.name else .claim queue.name queue.record

def RabbitQueue.dlqRequest (queue : RabbitQueue) : QueueRequest :=
  if queue.passive then .probe queue.name
  else if queue.isQuorum then .offer queue.name queue.record
  else .claim queue.name queue.record

theorem RabbitQueue.key_request (queue : RabbitQueue) : queue.request.key = queue.name := by
  unfold request
  split <;> rfl

theorem RabbitQueue.key_dlqRequest (queue : RabbitQueue) : queue.dlqRequest.key = queue.name := by
  unfold dlqRequest
  split
  · rfl
  · split <;> rfl

def RabbitExchange.request (exchange : RabbitExchange) : ExchangeRequest :=
  if exchange.passive then .probe exchange.name else .claim exchange.name exchange.record

namespace Route

variable (route : Route) (routes : List Route) (setup : BrokerSetup)

def sourceRequest : DeadLetterPlan → Except TopologyFault QueueRequest
  | .retry _ => do
      let queue ← (route.withDeadLetter (dlqName route.queue.name)).construct
      return queue.request
  | .safety dlq => do
      let queue ← (route.withDeadLetter dlq).construct
      return queue.request
  | .untouched =>
    if route.consumesQuorumDlq routes then do
      let queue ← (route.asQuorumDlq setup).construct
      return queue.dlqRequest
    else return route.queue.request

def retryRequest (queue : RabbitQueue) : QueueRequest :=
  if queue.name = dlqName route.queue.name then queue.dlqRequest else queue.request

theorem key_retryRequest (queue : RabbitQueue) : (route.retryRequest queue).key = queue.name := by
  unfold retryRequest
  split
  · exact queue.key_dlqRequest
  · exact queue.key_request

def auxiliaryRequests : DeadLetterPlan → Except TopologyFault (List QueueRequest)
  | .retry config => do
      let queues ← config.getDelayQueueDefinitions setup.arithmetic route.queue.name
        (some route.queue.queueType) setup.brokerMajor
      return queues.map route.retryRequest
  | .safety dlq => do
      let queue ← dlqQueueDefinition dlq route.queue.isQuorum setup.brokerMajor none
      return [queue.dlqRequest]
  | .untouched => .ok []

def queueRequests : Except TopologyFault (List QueueRequest) := do
  let plan ← route.deadLetterPlan routes setup
  let source ← route.sourceRequest routes setup plan
  let auxiliary ← route.auxiliaryRequests setup plan
  return source :: auxiliary

def exchangeRequests : List ExchangeRequest :=
  match route.exchange with
  | none => []
  | some exchange => [exchange.request]

def queueBindings : List QueueBinding :=
  match route.exchange with
  | none => []
  | some exchange => [route.binding exchange]

def exchangeBindings : List ExchangeBinding :=
  match route.exchange with
  | none => []
  | some exchange =>
    match exchange.bindTo with
    | none => []
    | some source => [⟨exchange.name, source, exchange.routingKey, exchange.bindArguments⟩]

end Route

theorem sameArguments_iff (first second : ArgumentTable) :
    sameArguments first second = true ↔ ∀ key, first.get? key = second.get? key := by
  simp only [sameArguments, all_eq_true, mem_append, beq_iff_eq]
  constructor
  · intro same key
    by_cases listed : key ∈ first.keys ∨ key ∈ second.keys
    · exact same key listed
    · rw [not_or] at listed
      rw [(first.get?_eq_none_iff key).mpr listed.1, (second.get?_eq_none_iff key).mpr listed.2]
  · exact fun same key _ => same key

theorem QueueRecord.equivalent_iff (existing declared : QueueRecord) :
    existing.equivalent declared = true ↔
      existing.durable = declared.durable ∧ existing.exclusive = declared.exclusive ∧
      existing.autoDelete = declared.autoDelete ∧
      ∀ key, existing.arguments.get? key = declared.arguments.get? key := by
  simp only [equivalent, Bool.and_eq_true, beq_iff_eq, sameArguments_iff, and_assoc]

theorem BrokerSetup.acceptsQueue_self (setup : BrokerSetup) (record : QueueRecord) :
    setup.acceptsQueue record record = true := by
  rw [acceptsQueue, Bool.or_eq_true, QueueRecord.equivalent_iff]
  exact .inl ⟨rfl, rfl, rfl, fun _ => rfl⟩

structure Grants (setup : BrokerSetup) (queues : List QueueRequest)
    (exchanges : List ExchangeRequest) (queueBindings : List QueueBinding)
    (exchangeBindings : List ExchangeBinding) (server next : Server) : Prop where
  queues : performAll setup.acceptsQueue server.queues queues = .ok next.queues
  exchanges : performAll setup.acceptsExchange server.exchanges exchanges =
    .ok next.exchanges
  queueBindings : next.queueBindings = server.queueBindings ++ queueBindings
  exchangeBindings : next.exchangeBindings = server.exchangeBindings ++ exchangeBindings

namespace Grants

variable {setup : BrokerSetup} {queues moreQueues : List QueueRequest}
  {exchanges moreExchanges : List ExchangeRequest}
  {queueBindings moreQueueBindings : List QueueBinding}
  {exchangeBindings moreExchangeBindings : List ExchangeBinding} {server middle next : Server}

theorem refl : Grants setup [] [] [] [] server server :=
  ⟨rfl, rfl, (append_nil _).symm, (append_nil _).symm⟩

theorem trans (first : Grants setup queues exchanges queueBindings exchangeBindings server middle)
    (second : Grants setup moreQueues moreExchanges moreQueueBindings moreExchangeBindings
      middle next) : Grants setup (queues ++ moreQueues) (exchanges ++ moreExchanges)
      (queueBindings ++ moreQueueBindings) (exchangeBindings ++ moreExchangeBindings)
      server next where
  queues := by rw [performAll_append first.queues, second.queues]
  exchanges := by rw [performAll_append first.exchanges, second.exchanges]
  queueBindings := by
    rw [second.queueBindings, first.queueBindings, append_assoc]
  exchangeBindings := by
    rw [second.exchangeBindings, first.exchangeBindings, append_assoc]

theorem queue {request : QueueRequest} {table : OrderedDict String QueueRecord}
    (granted : perform setup.acceptsQueue server.queues request = .ok table) :
    Grants setup [request] [] [] [] server { server with queues := table } :=
  ⟨performAll_singleton.trans granted, rfl, (append_nil _).symm, (append_nil _).symm⟩

theorem exchange {request : ExchangeRequest} {table : OrderedDict String ExchangeRecord}
    (granted : perform setup.acceptsExchange server.exchanges request = .ok table) :
    Grants setup [] [request] [] [] server { server with exchanges := table } :=
  ⟨rfl, performAll_singleton.trans granted, (append_nil _).symm, (append_nil _).symm⟩

end Grants

section Steps

variable {setup : BrokerSetup} {server next : Server}

section

variable (auto : setup.mode = .autoDeclare)
include auto

theorem grants_of_declareQueue {queue : RabbitQueue}
    (success : setup.declareQueue server queue = .ok next) :
    Grants setup [queue.request] [] [] [] server next := by
  simp only [declareQueue, auto] at success
  unfold request
  cases passive : queue.passive with
  | true =>
    simp only [passive, entityAction, if_true] at success
    split at success
    next present =>
      cases success
      exact Grants.queue (by simp [perform, present])
    · cases success
  | false =>
    simp only [passive, TopologyMode.entityAction, Bool.false_eq_true, if_false] at success
    split at success
    next absent =>
      cases success
      exact Grants.queue (by simp [perform, absent])
    next existing found =>
      split at success
      next accepted =>
        cases success
        exact Grants.queue (by simp [perform, found, accepted])
      · cases success

theorem grants_of_declareExchange {exchange : RabbitExchange}
    (success : setup.declareExchange server exchange = .ok next) :
    Grants setup [] [exchange.request] [] [] server next := by
  simp only [declareExchange, auto] at success
  unfold RabbitExchange.request
  cases passive : exchange.passive with
  | true =>
    simp only [passive, entityAction, if_true] at success
    split at success
    · cases success
    · split at success
      next present =>
        cases success
        exact Grants.exchange (by simp [perform, present])
      · cases success
  | false =>
    simp only [passive, TopologyMode.entityAction, Bool.false_eq_true, if_false] at success
    split at success
    · cases success
    · split at success
      next absent =>
        cases success
        exact Grants.exchange (by simp [perform, absent])
      next existing found =>
        split at success
        next accepted =>
          cases success
          exact Grants.exchange (by simp [perform, found, accepted])
        · cases success

theorem grants_of_declareDlq {queue : RabbitQueue}
    (success : setup.declareDlq server queue = .ok next) :
    Grants setup [queue.dlqRequest] [] [] [] server next := by
  unfold declareDlq at success
  split at success
  next existing =>
    cases success
    simp only [Bool.and_eq_true] at existing
    unfold RabbitQueue.dlqRequest
    cases passive : queue.passive <;>
      exact Grants.queue (by simp [perform, existing.1.1, existing.2])
  next missing =>
    have declared := grants_of_declareQueue auto success
    unfold RabbitQueue.dlqRequest
    unfold request at declared
    cases passive : queue.passive with
    | true => simpa [passive] using declared
    | false =>
      cases quorum : queue.isQuorum with
      | false => simpa [passive, quorum] using declared
      | true =>
        -- the queue was not there, so that offering and claiming it are the same
        have absent : server.queues.get? queue.name = none := by
          simpa [quorum, auto] using missing
        simp only [passive, Bool.false_eq_true, if_false] at declared ⊢
        refine { declared with queues := ?_ }
        have queues := declared.queues
        rwa [performAll_singleton, ← perform_offer_eq_claim absent,
          ← performAll_singleton] at queues

theorem grants_of_bindExchange {exchange : RabbitExchange}
    (success : setup.bindExchange server exchange = .ok next) : Grants setup [] [] []
      (match exchange.bindTo with
        | none => []
        | some source => [⟨exchange.name, source, exchange.routingKey, exchange.bindArguments⟩])
      server next := by
  simp only [bindExchange, auto, bindingAction] at success
  cases bound : exchange.bindTo with
  | none =>
    simp only [bound] at success
    cases success
    exact .refl
  | some source =>
    simp only [bound] at success
    split at success
    · cases success
    · split at success
      · cases success
        exact ⟨rfl, rfl, (append_nil _).symm, rfl⟩
      · cases success

end

variable {route : Route} {routes : List Route}

section

variable (auto : setup.mode = .autoDeclare)
include auto

theorem grants_of_declareExchanges (success : route.declareExchanges setup server = .ok next) :
    Grants setup [] route.exchangeRequests [] route.exchangeBindings server next := by
  unfold declareExchanges at success
  unfold exchangeRequests exchangeBindings
  cases named : route.exchange with
  | none =>
    simp only [named] at success
    cases success
    exact .refl
  | some exchange =>
    simp only [named] at success
    obtain ⟨middle, declared, bound⟩ := ok_of_bind success
    exact (grants_of_declareExchange auto declared).trans (grants_of_bindExchange auto bound)

theorem grants_bindSource :
    Grants setup [] [] route.queueBindings [] server (route.bindSource setup server) := by
  unfold Route.bindSource Route.queueBindings
  cases route.exchange with
  | none => exact Grants.refl
  | some exchange =>
    simp only [BrokerSetup.bindQueue, auto, TopologyMode.bindingAction]
    exact ⟨rfl, rfl, rfl, (append_nil _).symm⟩

theorem grants_of_declareSource {plan : DeadLetterPlan}
    (success : route.declareSource routes setup server plan = .ok next) :
    ∃ request, route.sourceRequest routes setup plan = .ok request ∧
      Grants setup [request] [] [] [] server next := by
  cases plan with
  | retry | safety =>
    obtain ⟨queue, constructed, declared⟩ := ok_of_bind success
    refine ⟨queue.request, ?_, grants_of_declareQueue auto declared⟩
    simp only [sourceRequest, constructed]
    rfl
  | untouched =>
    simp only [declareSource] at success
    split at success
    next consumed =>
      obtain ⟨queue, constructed, declared⟩ := ok_of_bind success
      refine ⟨queue.dlqRequest, ?_, grants_of_declareDlq auto declared⟩
      simp only [sourceRequest, consumed, if_true, constructed]
      rfl
    next plain =>
      refine ⟨route.queue.request, ?_, grants_of_declareQueue auto success⟩
      simp only [sourceRequest, plain]
      rfl

theorem grants_of_retryQueues {queues : List RabbitQueue}
    (success : queues.foldlM (route.declareRetryQueue setup) server = .ok next) :
    Grants setup (queues.map route.retryRequest) [] [] [] server next := by
  induction queues generalizing server with
  | nil =>
    cases success
    exact .refl
  | cons queue queues ih =>
    obtain ⟨middle, declared, later⟩ := ok_of_bind success
    have first : Grants setup [route.retryRequest queue] [] [] [] server middle := by
      unfold declareRetryQueue at declared
      unfold retryRequest
      split at declared
      next isDlq =>
        rw [if_pos isDlq]
        exact grants_of_declareDlq auto declared
      next delays =>
        rw [if_neg delays]
        exact grants_of_declareQueue auto declared
    exact first.trans (ih later)

theorem grants_of_declareAuxiliary {plan : DeadLetterPlan}
    (success : route.declareAuxiliary setup server plan = .ok next) :
    ∃ requests, route.auxiliaryRequests setup plan = .ok requests ∧
      Grants setup requests [] [] [] server next := by
  cases plan with
  | retry config =>
    obtain ⟨queues, defined, declared⟩ := ok_of_bind success
    refine ⟨queues.map route.retryRequest, ?_, grants_of_retryQueues auto declared⟩
    simp only [auxiliaryRequests, defined]
    rfl
  | safety dlq =>
    obtain ⟨queue, defined, declared⟩ := ok_of_bind success
    refine ⟨[queue.dlqRequest], ?_, grants_of_declareDlq auto declared⟩
    simp only [auxiliaryRequests, defined]
    rfl
  | untouched =>
    cases success
    exact ⟨[], rfl, .refl⟩

theorem grants_of_declare (success : route.declare routes setup server = .ok next) :
    ∃ requests, route.queueRequests routes setup = .ok requests ∧
      Grants setup requests route.exchangeRequests route.queueBindings route.exchangeBindings
        server next := by
  obtain ⟨exchanged, exchanges, afterExchanges⟩ := ok_of_bind success
  obtain ⟨plan, planned, afterPlan⟩ := ok_of_bind afterExchanges
  obtain ⟨declared, source, auxiliary⟩ := ok_of_bind afterPlan
  obtain ⟨sourceRequest, sourced, sourceGranted⟩ := grants_of_declareSource auto source
  obtain ⟨requests, listed, auxiliaryGranted⟩ := grants_of_declareAuxiliary auto auxiliary
  refine ⟨sourceRequest :: requests, ?_, ?_⟩
  · simp only [queueRequests, planned, sourced, listed, bind, Except.bind]
    rfl
  · simpa using (((grants_of_declareExchanges auto exchanges).trans sourceGranted).trans
      (grants_bindSource auto)).trans auxiliaryGranted

end

end Steps

def Route.asks (route : Route) (routes : List Route) (setup : BrokerSetup) : List QueueRequest :=
  match route.queueRequests routes setup with
  | .ok requests => requests
  | .error _ => []

namespace BrokerSetup

variable (setup : BrokerSetup) (routes : List Route)

def queueAsks : List QueueRequest := routes.flatMap fun route => route.asks routes setup

end BrokerSetup

def exchangeAsks (routes : List Route) : List ExchangeRequest :=
  routes.flatMap Route.exchangeRequests

theorem grants_of_routes {setup : BrokerSetup} (auto : setup.mode = .autoDeclare)
    {all routes : List Route} {server next : Server}
    (success : routes.foldlM (fun server route => route.declare all setup server) server =
      .ok next) : (∀ route ∈ routes, ∃ requests, route.queueRequests all setup = .ok requests) ∧
      Grants setup (routes.flatMap fun route => route.asks all setup)
        (routes.flatMap exchangeRequests) (routes.flatMap queueBindings)
        (routes.flatMap exchangeBindings) server next := by
  induction routes generalizing server with
  | nil =>
    cases success
    exact ⟨fun route member => absurd member not_mem_nil, .refl⟩
  | cons route routes ih =>
    obtain ⟨middle, declared, later⟩ := ok_of_bind success
    obtain ⟨requests, formed, granted⟩ := grants_of_declare auto declared
    obtain ⟨allFormed, laterGranted⟩ := ih later
    refine ⟨fun other member => ?_, ?_⟩
    · rcases mem_cons.mp member with rfl | inRest
      · exact ⟨requests, formed⟩
      · exact allFormed other inRest
    · have asked : route.asks all setup = requests := by
        simp only [asks, formed]
      simp only [flatMap_cons, asked]
      exact granted.trans laterGranted

/-- A start that returns: every request of every route was granted, in order. -/
theorem grants_of_declareTopology {setup : BrokerSetup} (auto : setup.mode = .autoDeclare)
    {routes : List Route} {server final : Server}
    (success : setup.declareTopology routes server = .ok final) :
    (∀ route ∈ routes, ∃ requests, route.queueRequests routes setup = .ok requests) ∧
      Grants setup (setup.queueAsks routes) (exchangeAsks routes)
        (routes.flatMap queueBindings) (routes.flatMap exchangeBindings) server final :=
  grants_of_routes auto success

end RabbitKit
