import RabbitKit.RpcSteps

/-! # The reply consumer

Whoever finds the reply consumer neither running nor being started starts it; nobody else does
before it is recorded, so there is at most one as long as nobody closes the client.  A call that
finds it being started goes on at once.  Its request can therefore leave before there is a
consumer; where no call comes in between, every request follows a consume that has succeeded.
-/

namespace RabbitKit

open LabelledRun CallStage List Option

namespace CallStage

def follows : CallStage → Bool
  | .consumed _ | .registering => true
  | stage => stage.waits

theorem follows_eq_false_of_ended {stage : CallStage} (ended : stage.ended = true) :
    stage.follows = false := by
  cases stage <;> first | rfl | cases ended

end CallStage

namespace RpcClient

variable {config : RpcConfig} {client client' shared : RpcClient} {id : Nat}
variable {call call' : RpcCall} {callStep : RpcCallStep} {action : RpcAction}

/-- The call has the right to start the consumer. -/
def Holds (config : RpcConfig) (client : RpcClient) (id : Nat) : Prop :=
  client.consuming = false ∧
    (config.variant ≠ .async ∧ client.starting = true ∨
      config.variant = .async ∧ client.lock = some id)

/-- No other call starts the consumer. -/
def Alone (client : RpcClient) (id : Nat) : Prop :=
  ∀ (other : Nat) (party : RpcCall), id ≠ other → client.calls[other]? = some party →
    party.stage.starts = false

structure Starter (config : RpcConfig) (client : RpcClient) : Prop where
  holds : ∀ {id : Nat} {call : RpcCall}, client.calls[id]? = some call →
    call.stage.starts = true → Holds config client id
  alone : ∀ {id : Nat} {call : RpcCall}, client.calls[id]? = some call →
    call.stage.starts = true → Alone client id

theorem starter_put (starter : Starter config client) (found : client.calls[id]? = some call)
    (sameCalls : shared.calls = client.calls)
    (mine : call'.stage.starts = true → Holds config shared id ∧ Alone client id)
    (theirs : Alone client id ∨ shared.consuming = client.consuming ∧
      shared.starting = client.starting ∧ shared.lock = client.lock) :
    Starter config (shared.put id call') := by
  constructor
  · intro other party located starts
    rw [put, sameCalls] at located
    rcases getElem?_of_moved found located with ⟨rfl, rfl⟩ | ⟨different, stood⟩
    · exact (mine starts).1
    · rcases theirs with alone | ⟨sameConsuming, sameStarting, sameLock⟩
      · simp [alone other party different stood] at starts
      · have held := starter.holds stood starts
        rwa [put, sameConsuming, sameStarting, sameLock]
  · intro other party located starts third thirdParty different thirdLocated
    rw [put, sameCalls] at located thirdLocated
    rcases getElem?_of_moved found located with ⟨rfl, rfl⟩ | ⟨notOther, stood⟩
    · rcases getElem?_of_moved found thirdLocated with ⟨rfl, _⟩ | ⟨_, thirdStood⟩
      · exact absurd rfl different
      · exact (mine starts).2 third thirdParty different thirdStood
    · have alone := starter.alone stood starts
      rcases getElem?_of_moved found thirdLocated with ⟨rfl, rfl⟩ | ⟨_, thirdStood⟩
      · refine Bool.eq_false_iff.mpr fun startsToo => ?_
        have notStarting := (mine startsToo).2 other party notOther stood
        simp [notStarting] at starts
      · exact alone third thirdParty different thirdStood

theorem Starter.none_of_idle (starter : Starter config client) (free : client.lock = none)
    (kind : config.variant ≠ .async ∧ client.starting = false ∨ config.variant = .async) :
    Alone client id := by
  intro other party _ located
  refine Bool.eq_false_iff.mpr fun starts => ?_
  obtain ⟨_, held⟩ := starter.holds located starts
  rcases held with ⟨notAsync, starting⟩ | ⟨isAsync, locked⟩
  · rcases kind with ⟨_, idle⟩ | isAsync
    · simp [idle] at starting
    · exact notAsync isAsync
  · simp [free] at locked

theorem Advanced.starter (advanced : Advanced config client id call callStep shared call')
    (starter : Starter config client) (found : client.calls[id]? = some call) :
    Starter config (shared.put id call') := by
  have sameCalls := advanced.frame.1
  cases advanced with
  | starts was free idle kind =>
    have alone : Alone client id :=
      starter.none_of_idle free (kind.imp (fun sync => ⟨sync.1, sync.2.1⟩) (·.1))
    refine starter_put starter found sameCalls (fun _ => ⟨⟨idle, ?_⟩, alone⟩) (.inl alone)
    exact kind.imp (fun sync => ⟨sync.1, sync.2.2.1⟩) (fun async => ⟨async.1, async.2.2⟩)
  | consumes was | consumeFails was =>
    have starts : call.stage.starts = true := by rw [was]; rfl
    exact starter_put starter found sameCalls
      (fun _ => ⟨starter.holds found starts, starter.alone found starts⟩) (.inr ⟨rfl, rfl, rfl⟩)
  | consumesAsync was | records was | clears was | breaksOff was =>
    have starts : call.stage.starts = true := by rw [was]; rfl
    exact starter_put starter found sameCalls nofun
      (.inl (starter.alone found starts))
  | checks _ was =>
    rcases was with ⟨_, rfl⟩ | ⟨_, rfl, _⟩ <;>
      exact starter_put starter found sameCalls nofun (.inr ⟨rfl, rfl, rfl⟩)
  | goesOn _ still =>
    refine starter_put starter found sameCalls (fun starts => ?_) (.inr ⟨rfl, rfl, rfl⟩)
    simp [starts_eq_false_of_waits still] at starts
  | pops _ _ ends =>
    refine starter_put starter found sameCalls (fun starts => ?_) (.inr ⟨rfl, rfl, rfl⟩)
    simp [starts_eq_false_of_ended ends.ended] at starts
  | turnsBack | skips | refuses | registers | sends | expires | leaves | leavesWait | quits =>
    exact starter_put starter found sameCalls nofun (.inr ⟨rfl, rfl, rfl⟩)

theorem starter_of_back (starter : Starter config client)
    (back : ∀ (id : Nat) (party : RpcCall), client'.calls[id]? = some party →
      party.stage.starts = true →
      ∃ before : RpcCall, client.calls[id]? = some before ∧ before.stage.starts = true)
    (idle : client'.consuming = true → client.consuming = true)
    (sameStarting : client'.starting = client.starting) (sameLock : client'.lock = client.lock) :
    Starter config client' := by
  constructor
  · intro id party located starts
    obtain ⟨before, found, started⟩ := back id party located starts
    obtain ⟨notConsuming, held⟩ := starter.holds found started
    refine ⟨Bool.eq_false_iff.mpr fun consuming => ?_, ?_⟩
    · simp [idle consuming] at notConsuming
    · rwa [sameStarting, sameLock]
  · intro id party located starts other third different thirdLocated
    obtain ⟨before, found, started⟩ := back id party located starts
    refine Bool.eq_false_iff.mpr fun startsToo => ?_
    obtain ⟨thirdBefore, thirdFound, thirdStarted⟩ := back other third thirdLocated startsToo
    simp [starter.alone found started other thirdBefore different thirdFound] at thirdStarted

theorem stage_failPending (client : RpcClient) (id : Nat) :
    client.failPending.calls[id]?.map RpcCall.stage = client.calls[id]?.map RpcCall.stage := by
  simp only [failPending, List.getElem?_mapIdx, Option.map_map]
  congr 1
  funext call
  dsimp only [Function.comp]
  split <;> rfl

theorem starter_step (starter : Starter config client)
    (taken : client.step config action = some client') : Starter config client' := by
  cases stepped taken with
  | advanced found advanced => exact advanced.starter starter found
  | called =>
    refine starter_of_back starter (fun id party located starts => ?_) id rfl rfl
    rcases getElem?_of_joined located with stood | ⟨_, rfl⟩
    · exact ⟨party, stood, starts⟩
    · cases starts
  | resolved found =>
    refine starter_put starter found rfl (fun starts => ?_) (.inr ⟨rfl, rfl, rfl⟩)
    exact ⟨starter.holds found starts, starter.alone found starts⟩
  | closeFails =>
    refine starter_of_back starter (fun id party located starts => ?_) id rfl rfl
    have same := stage_failPending client id
    rw [show client.failPending.calls[id]? = some party from located] at same
    obtain ⟨before, found, same⟩ := map_eq_some_iff.mp same.symm
    exact ⟨before, found, same ▸ starts⟩
  | closeResets =>
    exact starter_of_back starter (fun _ party located starts => ⟨party, located, starts⟩)
      nofun rfl rfl
  | discarded | closing | closeReads | closeCancels | closeCancelFails =>
    exact ⟨starter.holds, starter.alone⟩

theorem starter_initial : Starter config {} := ⟨by simp, by simp⟩

/-- The only consumer is recorded or about to be. -/
structure Subscribed (client : RpcClient) : Prop where
  recorded : ∀ tag ∈ client.consumers, client.consuming = true ∧ client.consumerTag = some tag ∨
    ∃ (id : Nat) (call : RpcCall), client.calls[id]? = some call ∧ call.stage = .consumed tag
  single : client.consumers.length ≤ 1

section

variable (subscribed : Subscribed client)
include subscribed

/-- While the consumer is started, what there is of consumers is the one just started. -/
theorem Subscribed.tag_eq (starter : Starter config client)
    (found : client.calls[id]? = some call) (starts : call.stage.starts = true) {tag : Nat}
    (member : tag ∈ client.consumers) : call.stage = .consumed tag := by
  rcases subscribed.recorded tag member with ⟨consuming, _⟩ | ⟨other, party, located, consumed⟩
  · have notConsuming := (starter.holds found starts).1
    simp [notConsuming] at consuming
  · by_cases same : id = other
    · subst same
      cases found.symm.trans located
      exact consumed
    · have notStarting := starter.alone found starts other party same located
      rw [consumed] at notStarting
      cases notStarting

theorem Subscribed.none_of_consuming
    (starter : Starter config client) (found : client.calls[id]? = some call)
    (was : call.stage = .consuming) : client.consumers = [] := by
  refine eq_nil_iff_forall_not_mem.mpr fun tag member => ?_
  have consumed := subscribed.tag_eq starter found (by rw [was]; rfl) member
  simp [was] at consumed

theorem subscribed_of_forth
    (forth : ∀ (id : Nat) (call : RpcCall) tag, client.calls[id]? = some call →
      call.stage = .consumed tag →
      ∃ call' : RpcCall, client'.calls[id]? = some call' ∧ call'.stage = .consumed tag)
    (sameConsuming : client'.consuming = client.consuming)
    (sameTag : client'.consumerTag = client.consumerTag)
    (fewer : client'.consumers.Sublist client.consumers) : Subscribed client' := by
  constructor
  · intro tag member
    rw [sameConsuming, sameTag]
    refine (subscribed.recorded tag (fewer.subset member)).imp_right ?_
    rintro ⟨id, call, found, consumed⟩
    exact ⟨id, forth id call tag found consumed⟩
  · exact fewer.length_le.trans subscribed.single

theorem subscribed_put (found : client.calls[id]? = some call)
    (sameCalls : shared.calls = client.calls) (sameConsuming : shared.consuming = client.consuming)
    (sameTag : shared.consumerTag = client.consumerTag)
    (sameConsumers : shared.consumers = client.consumers)
    (kept : ∀ tag, call.stage = .consumed tag → call'.stage = .consumed tag) :
    Subscribed (shared.put id call') := by
  refine subscribed_of_forth subscribed ?_ sameConsuming sameTag (sameConsumers ▸ .refl _)
  intro other party tag located consumed
  rw [put, sameCalls]
  rcases getElem?_moved call' found located with ⟨rfl, moved⟩ | stood
  · exact ⟨call', moved, kept tag consumed⟩
  · exact ⟨party, stood, consumed⟩

end

theorem Advanced.subscribed (advanced : Advanced config client id call callStep shared call')
    (subscribed : Subscribed client) (starter : Starter config client)
    (found : client.calls[id]? = some call) : Subscribed (shared.put id call') := by
  cases advanced with
  | consumes was =>
    have none := subscribed.none_of_consuming starter found was
    have inBounds := (List.getElem?_eq_some_iff.mp found).1
    constructor
    · intro tag member
      have same : tag = client.tags := by simpa [put, none] using member
      refine .inr ⟨id, { call with stage := .consumed client.tags }, ?_, by rw [same]⟩
      simp [put, inBounds]
    · simp [put, none]
  | consumesAsync was =>
    have none := subscribed.none_of_consuming starter found was
    constructor
    · intro tag member
      have same : tag = client.tags := by simpa [put, none] using member
      exact .inl ⟨rfl, by simp [put, same]⟩
    · simp [put, none]
  | records was =>
    constructor
    · intro tag member
      have consumed := subscribed.tag_eq starter found (by rw [was]; rfl) member
      cases was.symm.trans consumed
      exact .inl ⟨rfl, rfl⟩
    · exact subscribed.single
  | checks _ was | goesOn was =>
    refine subscribed_put subscribed found rfl rfl rfl rfl fun tag consumed => ?_
    rw [consumed] at was
    simp at was
  | turnsBack _ was | quits was =>
    refine subscribed_put subscribed found rfl rfl rfl rfl fun tag consumed => ?_
    rw [consumed] at was
    simp at was
  | skips was | starts was | consumeFails was | breaksOff was | clears was | refuses was
  | registers was | sends was | expires was | pops was =>
    refine subscribed_put subscribed found rfl rfl rfl rfl fun tag consumed => ?_
    rw [consumed] at was
    cases was
  | leaves leaves | leavesWait leaves =>
    refine subscribed_put subscribed found rfl rfl rfl rfl fun tag consumed => ?_
    have was := leaves.waits
    rw [consumed] at was
    cases was

theorem subscribed_step (subscribed : Subscribed client) (starter : Starter config client)
    (taken : client.step config action = some client')
    (forgotten : ∀ index, client.closes[index]? = some .resetting →
      action = .actClose index .reset → client.consumers = []) : Subscribed client' := by
  cases stepped taken with
  | advanced found advanced => exact advanced.subscribed subscribed starter found
  | called =>
    refine subscribed_of_forth subscribed (fun id call tag found consumed => ?_) rfl rfl (.refl _)
    have inBounds := (List.getElem?_eq_some_iff.mp found).1
    exact ⟨call, (List.getElem?_append_left inBounds).trans found, consumed⟩
  | resolved found =>
    exact subscribed_put subscribed found rfl rfl rfl rfl fun _ consumed => consumed
  | closeCancels =>
    exact subscribed_of_forth subscribed (fun _ call _ found consumed => ⟨call, found, consumed⟩)
      rfl rfl erase_sublist
  | closeFails =>
    refine subscribed_of_forth subscribed (fun id call tag found consumed => ?_) rfl rfl (.refl _)
    have same := stage_failPending client id
    rw [found] at same
    obtain ⟨after, located, same⟩ := map_eq_some_iff.mp same
    exact ⟨after, located, same.trans consumed⟩
  | closeResets found =>
    have none := forgotten _ found rfl
    constructor
    · intro tag member
      simp [moveClose, none] at member
    · simp [moveClose, none]
  | discarded | closing | closeReads | closeCancelFails =>
    exact ⟨subscribed.recorded, subscribed.single⟩

theorem subscribed_initial : Subscribed {} := ⟨by simp, by simp⟩

/-- A call that comes to the section of `_ensure_consuming` does not find a first consumer being
started. -/
def Unhurried (client : RpcClient) : RpcAction → Prop
  | .act _ .ensure => client.starting = true → client.consumed = true
  | _ => True

instance (client : RpcClient) : DecidablePred (Unhurried client) := fun action => by
  unfold Unhurried
  split <;> infer_instance

structure Ready (client : RpcClient) : Prop where
  consuming : client.consuming = true → client.consumed = true
  follows : ∀ {id : Nat} {call : RpcCall}, client.calls[id]? = some call →
    call.stage.follows = true → client.consumed = true
  handed : ∀ request ∈ client.handed, request.2 = true

theorem ready_put (ready : Ready client) (found : client.calls[id]? = some call)
    (sameCalls : shared.calls = client.calls)
    (grows : client.consumed = true → shared.consumed = true)
    (running : shared.consuming = true → shared.consumed = true)
    (mine : call'.stage.follows = true → shared.consumed = true)
    (handed : ∀ request ∈ shared.handed, request.2 = true) : Ready (shared.put id call') := by
  refine ⟨running, ?_, handed⟩
  intro other party located follows
  rw [put, sameCalls] at located
  rcases getElem?_of_moved found located with ⟨rfl, rfl⟩ | ⟨_, stood⟩
  · exact mine follows
  · exact grows (ready.follows stood follows)

theorem Advanced.ready (advanced : Advanced config client id call callStep shared call')
    (ready : Ready client) (unhurried : Unhurried client (.act id callStep))
    (found : client.calls[id]? = some call) : Ready (shared.put id call') := by
  -- a call that has come after a consume stays after it
  have kept (follows : call.stage.follows = true) : Ready (client.put id call') :=
    ready_put ready found rfl (fun same => same) ready.consuming
      (fun _ => ready.follows found follows) ready.handed
  have leaves (out : call'.stage.follows = false) : Ready (client.put id call') :=
    ready_put ready found rfl (fun same => same) ready.consuming (by simp [out]) ready.handed
  cases advanced with
  | checks _ was => rcases was with ⟨_, rfl⟩ | ⟨_, rfl, _⟩ <;> exact leaves rfl
  | turnsBack | refuses | leaves | leavesWait | quits | consumeFails => exact leaves rfl
  | breaksOff | clears | starts =>
    have moved := leaves rfl
    exact ⟨moved.consuming, moved.follows, moved.handed⟩
  | skips _ already =>
    rcases already with consuming | ⟨_, starting⟩
    · exact ready_put ready found rfl (fun same => same) ready.consuming
        (fun _ => ready.consuming consuming) ready.handed
    · exact ready_put ready found rfl (fun same => same) ready.consuming
        (fun _ => unhurried starting) ready.handed
  | consumes | consumesAsync =>
    exact ready_put ready found rfl (fun _ => rfl) (fun _ => rfl) (fun _ => rfl) ready.handed
  | records was =>
    have consumed := ready.follows found (by rw [was]; rfl)
    exact ready_put ready found rfl (fun same => same) (fun _ => consumed) (fun _ => consumed)
      ready.handed
  | registers was =>
    have moved := kept (by rw [was]; rfl)
    exact ⟨moved.consuming, moved.follows, moved.handed⟩
  | sends was =>
    have moved := kept (by rw [was]; rfl)
    refine ⟨moved.consuming, moved.follows, ?_⟩
    intro request member
    rcases mem_append.mp member with earlier | last
    · exact ready.handed request earlier
    · cases mem_singleton.mp last
      exact ready.follows found (by rw [was]; rfl)
  | goesOn was => rcases was with was | was <;> exact kept (by rw [was]; rfl)
  | expires was => exact kept (by rw [was]; rfl)
  | pops was _ ends =>
    have moved := leaves (follows_eq_false_of_ended ends.ended)
    exact ⟨moved.consuming, moved.follows, moved.handed⟩

theorem ready_step (ready : Ready client) (unhurried : Unhurried client action)
    (taken : client.step config action = some client') : Ready client' := by
  cases stepped taken with
  | advanced found advanced => exact advanced.ready ready unhurried found
  | called =>
    refine ⟨ready.consuming, ?_, ready.handed⟩
    intro id call located follows
    rcases getElem?_of_joined located with stood | ⟨_, rfl⟩
    · exact ready.follows stood follows
    · cases follows
  | resolved found =>
    exact ready_put ready found rfl id ready.consuming
      (fun follows => ready.follows found follows) ready.handed
  | closeFails =>
    refine ⟨ready.consuming, ?_, ready.handed⟩
    intro id call located follows
    have same := stage_failPending client id
    rw [show client.failPending.calls[id]? = some call from located] at same
    obtain ⟨before, found, same⟩ := map_eq_some_iff.mp same.symm
    exact ready.follows found (same ▸ follows)
  | closeResets => exact ⟨by simp [moveClose], ready.follows, ready.handed⟩
  | discarded | closing | closeReads | closeCancels | closeCancelFails =>
    exact ⟨ready.consuming, ready.follows, ready.handed⟩

variable {admits : RpcClient → RpcAction → Prop} {actions : List RpcAction}

theorem starter_of_run
    (run : RunWithin (step config) admits {} actions client) : Starter config client :=
  run.invariant (fun starter _ taken => starter_step starter taken) starter_initial

theorem closes_nil_of_step (taken : client.step config action = some client')
    (none : client'.closes = []) : client.closes = [] := by
  cases stepped taken with
  | advanced _ advanced => exact advanced.frame.2.2.1 ▸ none
  | closing => simp at none
  | called | resolved | discarded => exact none
  | closeReads | closeCancels | closeCancelFails | closeFails | closeResets =>
    simpa [moveClose, failPending] using none

/-- There is at most one consumer until somebody closes the client. -/
theorem subscribed_of_run
    (run : RunWithin (step config) admits {} actions client) (unclosed : client.closes = []) :
    Subscribed client := by
  induction run with
  | nil => exact subscribed_initial
  | snoc earlier _ last ih =>
    have none := closes_nil_of_step last unclosed
    refine subscribed_step (ih none) (starter_of_run earlier) last ?_
    intro index found
    simp [none] at found

/-- Where no call comes to `_ensure_consuming` while the first consumer is started, every request is
handed over after a consume that has succeeded; and there is at most one consumer until somebody
closes the client. -/
theorem requests_follow_consumer {actions : List RpcAction}
    (run : RunWithin (step config) Unhurried {} actions client) :
    (∀ request ∈ client.handed, request.2 = true) ∧
      (client.closes = [] → client.consumers.length ≤ 1) := by
  have ready : Ready client := run.invariant ready_step ⟨by simp, by simp, by simp⟩
  exact ⟨ready.handed, fun unclosed => (subscribed_of_run run unclosed).single⟩

theorem requests_follow_consumer_retried :
    ∃ client, RunWithin (step ⟨.pumping, 2, none⟩) Unhurried {}
        ([.call, .call] ++ [.check, .recheck, .ensure, .consumeFails, .clear].map (.act 0) ++
          [.check, .recheck, .ensure, .consumeOk, .record, .register, .send].map (.act 1))
        client ∧ client.handed = [(1, true)] ∧ (∀ request ∈ client.handed, request.2 = true) ∧
      (client.closes = [] → client.consumers.length ≤ 1) := by
  refine exists_runWithin_of_check (fun client => client.handed = [(1, true)]) (by decide +kernel)
    fun client run handed => ?_
  exact ⟨of_decide_eq_true handed, requests_follow_consumer run⟩

/-- The second call goes on while the first still starts the consumer, which then fails. -/
theorem request_before_consumer : ∃ client, Run (step ⟨.pumping, 2, none⟩) {}
        ([.call, .call] ++ [.check, .recheck, .ensure].map (.act 0) ++
          [.check, .recheck, .ensure, .register, .send].map (.act 1) ++
          [.consumeFails, .clear].map (.act 0)) client ∧
      client.handed = [(1, false)] ∧ client.consumers = [] :=
  exists_runWithin_of_decide (by decide +kernel)

end RpcClient
end RabbitKit
