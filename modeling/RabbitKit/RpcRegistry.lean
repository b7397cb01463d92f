import Mathlib.Data.List.Perm.Subperm
import RabbitKit.RpcSteps

/-! # The registry of pending calls

The waiters of a client are registered under their correlation ids.  A call that leaves without
removing its entry costs the client one of its `max_pending` places for good: a call whose
envelope is refused or whose publish raises does so, a cancelled one, one that pumps a failing
connection after its reply has arrived, and, where the exception of a future is raised at once,
one whose reply is too large.  In runs without these the registry holds the calls in progress.
-/

namespace RabbitKit

open LabelledRun CallStage List Option

namespace RpcClient

variable {config : RpcConfig} {client client' : RpcClient} {id : Nat} {call call' : RpcCall}

def inProgress (client : RpcClient) : List Nat :=
  (List.range client.calls.length).filter fun id => client.calls[id]?.any (·.stage.waits)

/-- The registry and the calls in progress agree; `close` takes the calls out of the registry
whose outcome is then settled. -/
structure RegistryExact (config : RpcConfig) (client : RpcClient) : Prop where
  ended : ∀ id call, client.calls[id]? = some call → call.stage.ended = true →
    id ∉ client.pending.keys
  registered : ∀ id ∈ client.pending.keys, id ∈ client.inProgress
  inProgress : ∀ id ∈ client.inProgress, id ∈ client.pending.keys ∨
    client.closed = true ∧ ∀ call ∈ client.calls[id]?, call.future ≠ .pending
  refused : ∀ id client', client.step config (.act id .register) = some client' →
    client'.calls[id]?.map RpcCall.stage = some (.raised .maxPending) →
    config.maxPending ≤ client.inProgress.length
  returned : ∀ id (call : RpcCall) reply, client.calls[id]? = some call →
    call.stage = .returned reply → reply.correlationId = some id

/-- The steps that leave the entry of a registered call behind. -/
def Leaks (config : RpcConfig) (call : RpcCall) : RpcCallStep → Prop
  | .envelopeRaises | .publishRaises | .cancel => True
  | .pumpRaises => call.future ≠ .pending
  | .wake => config.variant ≠ .pumping ∧ call.future = .tooLarge
  | _ => False

instance (config : RpcConfig) (call : RpcCall) :
    DecidablePred (Leaks config call) := fun callStep => by
  unfold Leaks
  split <;> infer_instance

/-- No registered call leaks. -/
def Regular (config : RpcConfig) (client : RpcClient) : RpcAction → Prop
  | .act id callStep => client.registered id = true →
      ∀ call ∈ client.calls[id]?, ¬ Leaks config call callStep
  | _ => True

instance (config : RpcConfig) (client : RpcClient) :
    DecidablePred (Regular config client) := fun action => by
  unfold Regular
  split <;> infer_instance

/-- What holds of a call that is registered or not with a client that is closed or not. -/
structure CallKept (closed registered : Bool) (id : Nat) (call : RpcCall) : Prop where
  waits : registered = true → call.stage.waits = true
  settled : call.stage.waits = true → registered = false → closed = true ∧ call.future ≠ .pending
  early : call.stage.waits = false → call.stage.ended = false → call.future = .pending
  released : call.future = .closed → registered = false
  cancelled : call.future = .cancelled →
    call.stage = .expiring .timeout ∨ call.stage.ended = true
  own : ∀ reply, call.future = .result reply → reply.correlationId = some id
  returned : ∀ reply, call.stage = .returned reply → reply.correlationId = some id

namespace CallKept

variable {closed registered : Bool} {stage : CallStage}

theorem arrived : CallKept closed false id {} where
  waits isRegistered := by cases isRegistered
  settled waits := by cases waits
  early _ _ := rfl
  released _ := rfl
  cancelled future := by cases future
  own _ future := by cases future
  returned _ stage := by cases stage

section

variable (kept : CallKept closed registered id call)
include kept

section

variable (early : call.stage.waits = false)
include early

theorem unregistered : registered = false := by
  cases isRegistered : registered with
  | false => rfl
  | true => simp [kept.waits isRegistered] at early

theorem before_registration (lasting : call.stage.ended = false)
    (still : stage.waits = false) (notReturned : ∀ reply, stage ≠ .returned reply) :
    CallKept closed registered id { call with stage := stage } := by
  have opened := kept.early early lasting
  have out := kept.unregistered early
  refine ⟨by simp [out], by simp [still], fun _ _ => opened, fun _ => out, ?_, kept.own, ?_⟩
  · simp [opened]
  · intro reply returned
    exact absurd returned (notReturned reply)

theorem registers (lasting : call.stage.ended = false) :
    CallKept closed true id { call with stage := .sending } := by
  have opened := kept.early early lasting
  exact ⟨fun _ => rfl, by simp, by simp [CallStage.waits], by simp [opened], by simp [opened],
    kept.own, by simp⟩

end

theorem goesOn (was : call.stage.waits = true)
    (still : stage.waits = true) (notExpiring : call.stage ≠ .expiring .timeout) :
    CallKept closed registered id { call with stage := stage } := by
  refine ⟨fun _ => still, fun _ => kept.settled was, ?_, kept.released, ?_, kept.own, ?_⟩
  · simp [still]
  · intro cancelled
    rcases kept.cancelled cancelled with expiring | ended
    · exact absurd expiring notExpiring
    · simp [waits_eq_false_of_ended ended] at was
  · intro reply returned
    rw [show stage = .returned reply from returned] at still
    cases still

theorem ends (ended : stage.ended = true)
    (own : ∀ reply, stage = .returned reply → reply.correlationId = some id) :
    CallKept closed false id { call with stage := stage } := by
  have notWaiting := waits_eq_false_of_ended ended
  exact ⟨by simp, by simp [notWaiting], by simp [ended], fun _ => rfl, fun _ => .inr ended,
    kept.own, own⟩

theorem cancels (was : call.stage = .waiting) :
    CallKept closed registered id (call.cancel (.expiring .timeout)) := by
  have moved := kept.goesOn (by rw [was]; rfl)
    (show (expiring .timeout).waits = true from rfl) (by simp [was])
  unfold RpcCall.cancel
  split
  · have settled : registered = false → closed = true := fun isOut =>
      (kept.settled (by rw [was]; rfl) isOut).1
    exact ⟨moved.waits, fun _ isOut => ⟨settled isOut, by simp⟩, by simp [CallStage.waits],
      by simp, by simp, by simp, by simp⟩
  · exact moved

theorem cancels_ends : CallKept closed false id (call.cancel (.raised .cancelled)) := by
  unfold RpcCall.cancel
  split
  · exact ⟨by simp, by simp [CallStage.waits], by simp [CallStage.ended], by simp,
      by simp [CallStage.ended], by simp, by simp⟩
  · exact kept.ends rfl (by simp)

theorem resolves {reply : RpcReply}
    (isRegistered : registered = true) (addressed : reply.correlationId = some id) :
    CallKept closed registered id
      { call with future := if config.tooLarge reply then .tooLarge else .result reply } := by
  have waits := kept.waits isRegistered
  refine ⟨fun _ => waits, by simp [isRegistered], by simp [waits], ?_, ?_, ?_, kept.returned⟩
  · split <;> simp
  · split <;> simp
  · intro answer
    split
    · simp
    · rintro ⟨rfl⟩
      exact addressed

end

end CallKept

theorem outcome_returned {future : ReplyFuture} {reply : RpcReply}
    (returned : future.outcome = .returned reply) : future = .result reply := by
  cases future <;> simp_all [ReplyFuture.outcome]

theorem Ends.own {stage : CallStage} {closed registered : Bool} (ends : Ends config call stage)
    (kept : CallKept closed registered id call) :
    ∀ reply, stage = .returned reply → reply.correlationId = some id := by
  intro reply returned
  cases ends with
  | outcome => exact kept.own reply (outcome_returned returned)
  | _ => cases returned

variable {callStep : RpcCallStep} {shared : RpcClient}

theorem Leaves.unregistered {error : RpcError}
    (leaves : Leaves config call callStep error) (found : client.calls[id]? = some call)
    (kept : CallKept client.closed (client.registered id) id call)
    (regular : Regular config client (.act id callStep)) : client.registered id = false := by
  cases isRegistered : client.registered id with
  | false => rfl
  | true =>
    have notLeaking := regular isRegistered call found
    cases leaves with
    | envelopeRaises | publishRaises | cancel => exact absurd trivial notLeaking
    | pumpRaises _ _ future => exact absurd future notLeaking
    | wake was notPumping future outcome =>
      cases answered : call.future with
      | pending => exact absurd answered future
      | result => simp [answered, ReplyFuture.outcome] at outcome
      | tooLarge => exact absurd ⟨notPumping, answered⟩ notLeaking
      | closed => simp [kept.released answered] at isRegistered
      | cancelled =>
        have stage := kept.cancelled answered
        simp [was, ended] at stage

theorem Advanced.kept (advanced : Advanced config client id call callStep shared call')
    (found : client.calls[id]? = some call)
    (kept : CallKept client.closed (client.registered id) id call)
    (regular : Regular config client (.act id callStep)) :
    CallKept shared.closed (shared.registered id) id call' := by
  cases advanced with
  | checks _ was =>
    rcases was with ⟨was, rfl⟩ | ⟨was, rfl, _⟩ <;>
      exact kept.before_registration (by rw [was]; rfl) (by rw [was]; rfl) rfl (by simp)
  | turnsBack _ was | quits was =>
    rcases was with was | was <;>
      exact kept.before_registration (by rw [was]; rfl) (by rw [was]; rfl) rfl (by simp)
  | skips was | starts was | consumes was | consumesAsync was | consumeFails was | breaksOff was
  | records was | clears was | refuses was =>
    exact kept.before_registration (by rw [was]; rfl) (by rw [was]; rfl) rfl (by simp)
  | registers was =>
    have moved := kept.registers (by rw [was]; rfl) (by rw [was]; rfl)
    simpa [registered] using moved
  | sends was => exact kept.goesOn (by rw [was]; rfl) rfl (by simp [was])
  | goesOn was still =>
    rcases was with was | was <;> exact kept.goesOn (by rw [was]; rfl) still (by simp [was])
  | expires was => exact kept.cancels was
  | pops _ _ ends =>
    have moved := kept.ends ends.ended (ends.own kept)
    simpa [registered, pop] using moved
  | leaves leaves =>
    have out := leaves.unregistered found kept regular
    rw [out]
    exact kept.ends rfl (by simp)
  | leavesWait leaves =>
    have out := leaves.unregistered found kept regular
    rw [out]
    exact kept.cancels_ends

structure Kept (client : RpcClient) : Prop where
  calls : ∀ {id : Nat} {call : RpcCall}, client.calls[id]? = some call →
    CallKept client.closed (client.registered id) id call
  known : ∀ {id : Nat}, client.registered id = true → id < client.calls.length

theorem kept_put (kept : Kept client) (found : client.calls[id]? = some call)
    (sameCalls : shared.calls = client.calls) (sameClosed : shared.closed = client.closed)
    (others : ∀ other, id ≠ other → shared.registered other = client.registered other)
    (moved : CallKept shared.closed (shared.registered id) id call') :
    Kept (shared.put id call') := by
  have inBounds := (List.getElem?_eq_some_iff.mp found).1
  constructor
  · intro other party located
    rw [put, sameCalls] at located
    rcases getElem?_of_moved found located with ⟨rfl, rfl⟩ | ⟨different, stood⟩
    · exact moved
    · have held := kept.calls stood
      rw [← sameClosed, ← others other different] at held
      exact held
  · intro other isRegistered
    have length : (shared.put id call').calls.length = client.calls.length := by
      simp [put, sameCalls]
    rw [length]
    by_cases same : id = other
    · exact same ▸ inBounds
    · exact kept.known ((others other same).symm.trans isRegistered)

theorem kept_called (kept : Kept client) : Kept { client with calls := client.calls ++ [{}] } := by
  constructor
  · intro id call located
    rcases getElem?_of_joined located with stood | ⟨rfl, rfl⟩
    · exact kept.calls stood
    · have out : client.registered client.calls.length = false :=
        Bool.eq_false_iff.mpr fun isRegistered => absurd (kept.known isRegistered) (lt_irrefl _)
      show CallKept client.closed (client.registered client.calls.length) _ _
      rw [out]
      exact .arrived
  · intro id isRegistered
    have before : id < client.calls.length := kept.known isRegistered
    simp only [length_append, length_singleton]
    omega

theorem CallKept.failed {closed registered : Bool} (kept : CallKept closed registered id call) :
    CallKept true false id
      (if registered && call.future = .pending then { call with future := .closed } else call) := by
  split
  next waiting =>
    obtain ⟨isRegistered, _⟩ := (Bool.and_eq_true _ _).mp waiting
    have waits := kept.waits isRegistered
    exact ⟨by simp, fun _ _ => ⟨rfl, by simp⟩, by simp [waits], fun _ => rfl, by simp, by simp,
      kept.returned⟩
  next notWaiting =>
    refine ⟨by simp, fun waits _ => ⟨rfl, fun opened => ?_⟩, kept.early, fun _ => rfl,
      kept.cancelled, kept.own, kept.returned⟩
    cases isRegistered : registered with
    | false => exact (kept.settled waits isRegistered).2 opened
    | true => simp [isRegistered, opened] at notWaiting

theorem kept_failPending (kept : Kept client) :
    Kept { client.failPending with closed := true } := by
  constructor
  · intro id call located
    simp only [failPending, getElem?_mapIdx, map_eq_some_iff] at located
    obtain ⟨before, found, rfl⟩ := located
    exact (kept.calls found).failed
  · intro id isRegistered
    cases isRegistered

theorem kept_step {action : RpcAction} (kept : Kept client) (regular : Regular config client action)
    (taken : client.step config action = some client') : Kept client' := by
  cases stepped taken with
  | called => exact kept_called kept
  | advanced found advanced =>
    obtain ⟨sameCalls, sameClosed, _, others⟩ := advanced.frame
    exact kept_put kept found sameCalls sameClosed others
      (advanced.kept found (kept.calls found) regular)
  | resolved found addressed isRegistered opened =>
    exact kept_put kept found rfl rfl (fun _ _ => rfl)
      ((kept.calls found).resolves isRegistered addressed)
  | closeFails => exact ⟨(kept_failPending kept).calls, (kept_failPending kept).known⟩
  | discarded | closing | closeReads | closeCancels | closeCancelFails | closeResets =>
    exact ⟨kept.calls, kept.known⟩

theorem kept_of_run {actions : List RpcAction}
    (run : RunWithin (step config) (Regular config) {} actions client) : Kept client :=
  run.invariant kept_step ⟨by simp, by simp [registered]⟩

theorem mem_inProgress_iff :
    id ∈ client.inProgress ↔ ∃ call, client.calls[id]? = some call ∧ call.stage.waits = true := by
  simp only [inProgress, List.mem_filter, List.mem_range, Option.any_eq_true]
  constructor
  · rintro ⟨_, call, found, waits⟩
    exact ⟨call, found, waits⟩
  · rintro ⟨call, found, waits⟩
    exact ⟨(List.getElem?_eq_some_iff.mp found).1, call, found, waits⟩

theorem Kept.mem_inProgress (kept : Kept client) (isRegistered : id ∈ client.pending.keys) :
    id ∈ client.inProgress := by
  have isRegistered := registered_iff.mpr isRegistered
  have found := getElem?_eq_getElem (kept.known isRegistered)
  exact mem_inProgress_iff.mpr ⟨_, found, (kept.calls found).waits isRegistered⟩

theorem Kept.size_le (kept : Kept client) : client.pending.size ≤ client.inProgress.length := by
  rw [← client.pending.length_keys]
  have contained : client.pending.keys ⊆ client.inProgress := fun _ => kept.mem_inProgress
  exact (subperm_of_subset client.pending.keys_nodup contained).length_le

theorem full_of_refused (taken : client.step config (.act id .register) = some client')
    (refused : client'.calls[id]?.map RpcCall.stage = some (.raised .maxPending)) :
    config.maxPending ≤ client.pending.size := by
  obtain ⟨call, found, moved⟩ := bind_eq_some_iff.mp taken
  cases stage : call.stage with
  | registering =>
    rw [stage] at moved
    obtain ⟨_, done⟩ := ite_none_right_eq_some.mp moved
    cases done
    unfold register at refused
    split at refused
    · assumption
    · simp [move, found] at refused
  | _ =>
    rw [stage] at moved
    cases moved

/-- In runs without a leaking step a call that has ended is not registered, the registered calls
are in progress, a call in progress that is not registered was settled by `close`, a call is
refused only while `max_pending` calls are in progress, and a call returns its own reply. -/
theorem registry_exact {actions : List RpcAction}
    (run : RunWithin (step config) (Regular config) {} actions client) :
    RegistryExact config client := by
  have kept := kept_of_run run
  constructor
  · intro id call found ended isRegistered
    have waits := (kept.calls found).waits (registered_iff.mpr isRegistered)
    simp [waits_eq_false_of_ended ended] at waits
  · intro id isRegistered
    exact kept.mem_inProgress isRegistered
  · intro id inProgress
    obtain ⟨call, found, waits⟩ := mem_inProgress_iff.mp inProgress
    rw [← registered_iff]
    cases isRegistered : client.registered id with
    | true => exact .inl rfl
    | false =>
      obtain ⟨isClosed, settled⟩ := (kept.calls found).settled waits isRegistered
      refine .inr ⟨isClosed, fun other located => ?_⟩
      cases found.symm.trans located
      exact settled
  · intro id client' taken refused
    exact (full_of_refused taken refused).trans kept.size_le
  · intro id call reply found
    exact (kept.calls found).returned reply

/-- The first call starts the consumer and registers; the synchronous client records its
consumer in a section of its own. -/
def opening : List RpcAction :=
  .call :: [.check, .recheck, .ensure, .consumeOk, .record, .register, .send].map (.act 0)

def openingAsync : List RpcAction :=
  .call :: [.check, .recheck, .ensure, .consumeOk, .register, .send].map (.act 0)

def following : List RpcAction :=
  .call :: [.check, .recheck, .ensure, .register].map (.act 1)

theorem registry_exact_reply :
    ∃ client, RunWithin (step ⟨.blocking, 1, none⟩) (Regular ⟨.blocking, 1, none⟩) {}
        (opening ++ [.act 0 (.published false), .reply ⟨some 0, 8⟩, .act 0 .wake, .act 0 .finish])
        client ∧ RegistryExact ⟨.blocking, 1, none⟩ client := by
  exact exists_runWithin_of_check (fun _ => true) (by decide +kernel)
    fun client run _ => registry_exact run

/-- The call with number 0 has ended and is still registered, so that the next one is refused
though no call is in progress. -/
def stale (client : RpcClient) : Bool :=
  client.calls[0]?.any (·.stage.ended) && client.pending.keys.contains 0 &&
    client.inProgress.isEmpty && client.calls[1]?.any (·.stage = .raised .maxPending)

theorem ended_call_registered : (∃ client, Run (step ⟨.blocking, 1, none⟩) {}
      (opening ++ [.act 0 .publishRaises] ++ following) client ∧ stale client = true) ∧
    (∃ client, Run (step ⟨.blocking, 1, none⟩) {}
      (opening.dropLast ++ [.act 0 .envelopeRaises] ++ following) client ∧ stale client = true) ∧
    (∃ client, Run (step ⟨.blocking, 1, some 4⟩) {}
      (opening ++ [.act 0 (.published false), .reply ⟨some 0, 8⟩, .act 0 .wake] ++ following)
      client ∧ stale client = true) ∧ (∃ client, Run (step ⟨.async, 1, none⟩) {}
      (openingAsync ++ [.act 0 (.published false), .act 0 .cancel] ++ following) client ∧
      stale client = true) ∧ ∃ client, Run (step ⟨.pumping, 1, none⟩) {}
      (opening ++ [.act 0 (.published false), .reply ⟨some 0, 8⟩, .act 0 .pumpRaises] ++
        following) client ∧ stale client = true :=
  ⟨exists_runWithin_of_any _ _ _ _ _ (by decide +kernel),
    exists_runWithin_of_any _ _ _ _ _ (by decide +kernel),
    exists_runWithin_of_any _ _ _ _ _ (by decide +kernel),
    exists_runWithin_of_any _ _ _ _ _ (by decide +kernel),
    exists_runWithin_of_any _ _ _ _ _ (by decide +kernel)⟩

end RpcClient
end RabbitKit
