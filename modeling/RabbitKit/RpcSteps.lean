import RabbitKit.RpcClient

/-! # The steps of the remote procedure call clients

What every step of a call, of a reply and of a `close` needs and changes.  A call waits from the
registration of its waiter to its end; in between, a step keeps the waiter, removes it with the
end of the call, or leaves it behind.
-/

namespace RabbitKit

open CallStage Option Bool

namespace CallStage

def waits : CallStage → Bool
  | .sending | .publishing | .undelivered | .waiting | .expiring _ | .finishing => true
  | _ => false

def ended : CallStage → Bool
  | .returned _ | .raised _ => true
  | _ => false

def starts : CallStage → Bool
  | .consuming | .consumed _ | .consumeFailed => true
  | _ => false

def failing : CallStage → Bool
  | .consumeFailed | .undelivered | .expiring _ => true
  | _ => false

/-- The steps that a call on a closed client still takes when none of them fails. -/
def stepsLeft : CallStage → Nat
  | .arrived | .ensuring | .finishing => 1
  | .waiting => 2
  | .publishing => 3
  | .sending => 4
  | _ => 0

variable {stage : CallStage}

theorem waits_eq_false_of_ended (ended : stage.ended = true) : stage.waits = false := by
  cases stage <;> first | rfl | cases ended

theorem starts_eq_false_of_ended (ended : stage.ended = true) : stage.starts = false := by
  cases stage <;> first | rfl | cases ended

theorem starts_eq_false_of_waits (waits : stage.waits = true) : stage.starts = false := by
  cases stage <;> first | rfl | cases waits

end CallStage

/-- An operation of the call fails, its time is up or it is cancelled. -/
def RpcCallStep.fails : RpcCallStep → Bool
  | .consumeFails | .envelopeRaises | .published true | .publishRaises => true
  | .expire | .pumpRaises | .cancel => true
  | _ => false

namespace RpcClient

variable {config : RpcConfig} {client client' : RpcClient} {id : Nat} {call : RpcCall}

/-- The call ends and leaves its entry behind. -/
inductive Leaves (config : RpcConfig) (call : RpcCall) : RpcCallStep → RpcError → Prop
  | envelopeRaises (was : call.stage = .sending) :
      Leaves config call .envelopeRaises .invalidEnvelope
  | publishRaises (was : call.stage = .publishing) :
      Leaves config call .publishRaises .publishRaised
  | cancel (was : call.stage.waits = true) (isAsync : config.variant = .async) :
      Leaves config call .cancel .cancelled
  | wake {error : RpcError} (was : call.stage = .waiting) (notPumping : config.variant ≠ .pumping)
      (future : call.future ≠ .pending) (outcome : call.future.outcome = .raised error) :
      Leaves config call .wake error
  | pumpRaises (was : call.stage = .waiting) (pumping : config.variant = .pumping)
      (future : call.future ≠ .pending) : Leaves config call .pumpRaises .pumpRaised

theorem Leaves.waits {callStep : RpcCallStep} {error : RpcError}
    (leaves : Leaves config call callStep error) : call.stage.waits = true := by
  cases leaves with
  | cancel was => exact was
  | envelopeRaises was | publishRaises was | wake was | pumpRaises was => rw [was]; rfl

/-- How a call ends that removes its entry. -/
inductive Ends (config : RpcConfig) (call : RpcCall) : CallStage → Prop
  | publishError (was : call.stage = .undelivered) : Ends config call (.raised .publishError)
  | timeout (was : call.stage = .expiring .timeout)
      (future : config.variant = .async ∨ call.future = .pending) :
      Ends config call (.raised .timeout)
  | gaveUp {error : RpcError} (was : call.stage = .expiring error) (other : error ≠ .timeout) :
      Ends config call (.raised error)
  | outcome (was : call.stage = .finishing ∨ call.stage = .expiring .timeout) :
      Ends config call call.future.outcome

theorem Ends.ended {stage : CallStage} (ends : Ends config call stage) : stage.ended = true := by
  cases ends with
  | outcome => cases call.future <;> rfl
  | _ => rfl

/-- What a step of a call needs, and what it changes in the client and in the call. -/
inductive Advanced (config : RpcConfig) (client : RpcClient) (id : Nat) (call : RpcCall) :
    RpcCallStep → RpcClient → RpcCall → Prop
  | checks {callStep : RpcCallStep} {stage : CallStage} (opened : client.closed = false)
      (was : call.stage = .arrived ∧ stage = .ensuring ∨
        call.stage = .ensuring ∧ stage = .locking ∧ callStep = .recheck) :
      Advanced config client id call callStep client { call with stage := stage }
  | turnsBack {callStep : RpcCallStep} (isClosed : client.closed = true)
      (was : call.stage = .arrived ∨ call.stage = .ensuring) :
      Advanced config client id call callStep client { call with stage := .raised .closed }
  | skips (was : call.stage = .locking)
      (already : client.consuming = true ∨ config.variant ≠ .async ∧ client.starting = true) :
      Advanced config client id call .ensure client { call with stage := .registering }
  | starts {starting : Bool} {lock : Option Nat} (was : call.stage = .locking)
      (free : client.lock = none) (idle : client.consuming = false)
      (kind : config.variant ≠ .async ∧ client.starting = false ∧ starting = true ∧
          lock = client.lock ∨
        config.variant = .async ∧ starting = client.starting ∧ lock = some id) :
      Advanced config client id call .ensure
        { client with starting := starting, lock := lock } { call with stage := .consuming }
  | consumes (was : call.stage = .consuming) (notAsync : config.variant ≠ .async) :
      Advanced config client id call .consumeOk
        { client with
          consumers := client.consumers ++ [client.tags]
          tags := client.tags + 1
          consumed := true }
        { call with stage := .consumed client.tags }
  | consumesAsync (was : call.stage = .consuming) (isAsync : config.variant = .async) :
      Advanced config client id call .consumeOk
        { client with
          consumers := client.consumers ++ [client.tags]
          tags := client.tags + 1
          consumed := true
          lock := none
          consumerTag := some client.tags
          consuming := true }
        { call with stage := .registering }
  | consumeFails (was : call.stage = .consuming) (notAsync : config.variant ≠ .async) :
      Advanced config client id call .consumeFails client { call with stage := .consumeFailed }
  | breaksOff {callStep : RpcCallStep} {error : RpcError} (was : call.stage = .consuming)
      (isAsync : config.variant = .async) (fails : callStep.fails = true) :
      Advanced config client id call callStep
        { client with lock := none } { call with stage := .raised error }
  | records {tag : Nat} (was : call.stage = .consumed tag) :
      Advanced config client id call .record
        { client with consumerTag := some tag, consuming := true, starting := false }
        { call with stage := .registering }
  | clears (was : call.stage = .consumeFailed) :
      Advanced config client id call .clear
        { client with starting := false } { call with stage := .raised .consumeFailed }
  | refuses (was : call.stage = .registering) (full : config.maxPending ≤ client.pending.size) :
      Advanced config client id call .register client { call with stage := .raised .maxPending }
  | registers (was : call.stage = .registering) (free : client.lock = none) :
      Advanced config client id call .register
        { client with pending := client.pending.set id () } { call with stage := .sending }
  | sends (was : call.stage = .sending) :
      Advanced config client id call .send
        { client with handed := client.handed ++ [(id, client.consumed)] }
        { call with stage := .publishing }
  | goesOn {callStep : RpcCallStep} {stage : CallStage}
      (was : call.stage = .publishing ∨ call.stage = .waiting) (still : stage.waits = true)
      (lower : stage.stepsLeft < call.stage.stepsLeft)
      (fails : stage.failing = true → callStep.fails = true) :
      Advanced config client id call callStep client { call with stage := stage }
  | expires (was : call.stage = .waiting) (isAsync : config.variant = .async) :
      Advanced config client id call .expire client (call.cancel (.expiring .timeout))
  | pops {callStep : RpcCallStep} {stage : CallStage} (was : call.stage.waits = true)
      (free : client.lock = none) (ends : Ends config call stage) :
      Advanced config client id call callStep (client.pop id) { call with stage := stage }
  | leaves {callStep : RpcCallStep} {error : RpcError}
      (leaves : Leaves config call callStep error) :
      Advanced config client id call callStep client { call with stage := .raised error }
  | leavesWait {callStep : RpcCallStep} (leaves : Leaves config call callStep .cancelled) :
      Advanced config client id call callStep client (call.cancel (.raised .cancelled))
  | quits (was : call.stage = .locking ∨ call.stage = .registering)
      (isAsync : config.variant = .async) :
      Advanced config client id call .cancel client { call with stage := .raised .cancelled }

def registered (client : RpcClient) (id : Nat) : Bool := (client.pending.get? id).isSome

theorem registered_iff : client.registered id = true ↔ id ∈ client.pending.keys :=
  isSome_iff_exists.trans (client.pending.mem_keys_iff id).symm

theorem Advanced.frame {callStep : RpcCallStep} {shared : RpcClient} {call' : RpcCall}
    (advanced : Advanced config client id call callStep shared call') :
    shared.calls = client.calls ∧ shared.closed = client.closed ∧ shared.closes = client.closes ∧
      ∀ other, id ≠ other → shared.registered other = client.registered other := by
  cases advanced with
  | registers | pops =>
    refine ⟨rfl, rfl, rfl, fun other different => ?_⟩
    simp [registered, pop, different.symm]
  | _ => exact ⟨rfl, rfl, rfl, fun _ _ => rfl⟩

section Advanced

variable {callStep : RpcCallStep} {shared : RpcClient} {call' : RpcCall}
variable (advanced : Advanced config client id call callStep shared call')

include advanced

theorem Advanced.lasting : call.stage.ended = false := by
  cases advanced with
  | checks _ was => rcases was with ⟨was, _⟩ | ⟨was, _, _⟩ <;> rw [was] <;> rfl
  | turnsBack _ was | goesOn was | quits was => rcases was with was | was <;> rw [was] <;> rfl
  | pops waits =>
    exact eq_false_iff.mpr fun ended => by
      simp [waits_eq_false_of_ended ended] at waits
  | leaves leaves | leavesWait leaves =>
    have waits := leaves.waits
    exact eq_false_iff.mpr fun ended => by
      simp [waits_eq_false_of_ended ended] at waits
  | skips was | starts was | consumes was | consumesAsync was | consumeFails was | breaksOff was
  | records was | clears was | refuses was | registers was | sends was | expires was =>
    rw [was]
    rfl

theorem Advanced.waited
    (waited : call.stage.waits = true → client.registered id = true ∨ call.future ≠ .pending)
    (waits : call'.stage.waits = true) : shared.registered id = true ∨ call'.future ≠ .pending := by
  cases advanced with
  | registers => exact .inl (by simp [registered])
  | sends was => exact waited (by rw [was]; rfl)
  | goesOn was => rcases was with was | was <;> exact waited (by rw [was]; rfl)
  | expires was =>
    refine .inr ?_
    unfold RpcCall.cancel
    split
    · simp
    · assumption
  | checks _ was =>
    rcases was with ⟨_, rfl⟩ | ⟨_, rfl, _⟩ <;> cases waits
  | pops _ _ ends => simp [waits_eq_false_of_ended ends.ended] at waits
  | _ => cases waits

end Advanced

def put (client : RpcClient) (id : Nat) (call : RpcCall) : RpcClient :=
  { client with calls := client.calls.set id call }

/-- What an action needs and changes. -/
inductive Stepped (config : RpcConfig) (client : RpcClient) : RpcAction → RpcClient → Prop
  | called : Stepped config client .call { client with calls := client.calls ++ [{}] }
  | advanced {id : Nat} {call call' : RpcCall} {callStep : RpcCallStep} {shared : RpcClient}
      (found : client.calls[id]? = some call)
      (advanced : Advanced config client id call callStep shared call') :
      Stepped config client (.act id callStep) (shared.put id call')
  | discarded {reply : RpcReply} : Stepped config client (.reply reply) client
  | resolved {id : Nat} {call : RpcCall} {reply : RpcReply}
      (found : client.calls[id]? = some call) (addressed : reply.correlationId = some id)
      (registered : client.registered id = true) (opened : call.future = .pending) :
      Stepped config client (.reply reply)
        (client.put id
          { call with future := if config.tooLarge reply then .tooLarge else .result reply })
  | closing : Stepped config client .close { client with closes := client.closes ++ [.started] }
  | closeReads {index : Nat} (found : client.closes[index]? = some .started) :
      Stepped config client (.actClose index .read)
        (client.moveClose index (client.consumerTag.elim .locking .cancelling))
  | closeCancels {index tag : Nat} (found : client.closes[index]? = some (.cancelling tag)) :
      Stepped config client (.actClose index (.cancelled true))
        ({ client with consumers := client.consumers.erase tag }.moveClose index .locking)
  | closeCancelFails {index tag : Nat} (found : client.closes[index]? = some (.cancelling tag)) :
      Stepped config client (.actClose index (.cancelled false)) (client.moveClose index .locking)
  | closeFails {index : Nat} (found : client.closes[index]? = some .locking)
      (free : client.lock = none) :
      Stepped config client (.actClose index .closeAll)
        ({ client.failPending with closed := true }.moveClose index .resetting)
  | closeResets {index : Nat} (found : client.closes[index]? = some .resetting) :
      Stepped config client (.actClose index .reset)
        ({ client with consuming := false, consumerTag := none }.moveClose index .done)

theorem free_of_isFree (free : client.isFree = true) : client.lock = none :=
  isNone_iff_eq_none.mp free

section Calls

variable (found : client.calls[id]? = some call)

include found

theorem modify_calls (change : RpcCall → RpcCall) :
    client.calls.modify id change = client.calls.set id (change call) := by
  rw [List.modify_eq_set_getElem?, found]
  rfl

variable {callStep : RpcCallStep} {stage : CallStage}

theorem stepped_move {shared : RpcClient}
    (advanced : Advanced config client id call callStep shared { call with stage := stage })
    (same : shared.calls = client.calls) :
    Stepped config client (.act id callStep) (shared.move id stage) := by
  rw [move, same, modify_calls found, ← same]
  exact .advanced found advanced

theorem stepped_cancelWait
    (advanced : Advanced config client id call callStep client (call.cancel stage)) :
    Stepped config client (.act id callStep) (client.cancelWait id stage) := by
  rw [cancelWait, modify_calls found]
  exact .advanced found advanced

theorem stepped_ensure (was : call.stage = .locking) (free : client.lock = none) :
    Stepped config client (.act id .ensure) (client.ensure config id) := by
  unfold ensure
  cases variant : config.variant with
  | async =>
    dsimp only
    split
    next already =>
      exact stepped_move found (.skips was (.inl already)) rfl
    next idle =>
      have idle := eq_false_iff.mpr idle
      exact stepped_move found (.starts was free idle (.inr ⟨variant, rfl, rfl⟩)) rfl
  | pumping | blocking =>
    dsimp only
    split
    next already =>
      have already := (or_eq_true _ _).mp already
      have notAsync : config.variant ≠ .async := by simp [variant]
      exact stepped_move found (.skips was (already.imp_right fun starting =>
        ⟨notAsync, starting⟩)) rfl
    next idle =>
      obtain ⟨idle, notStarting⟩ := or_eq_false_iff.mp (eq_false_iff.mpr idle)
      have notAsync : config.variant ≠ .async := by simp [variant]
      exact stepped_move found
        (.starts was free idle (.inl ⟨notAsync, notStarting, rfl, rfl⟩)) rfl

theorem stepped_consumeOk (was : call.stage = .consuming) :
    Stepped config client (.act id .consumeOk) (client.consumeOk config id) := by
  unfold consumeOk
  cases variant : config.variant with
  | async => exact stepped_move found (.consumesAsync was variant) rfl
  | pumping | blocking => exact stepped_move found (.consumes was (by simp [variant])) rfl

theorem stepped_consumeFails (was : call.stage = .consuming) :
    Stepped config client (.act id .consumeFails) (client.consumeFails config id) := by
  unfold consumeFails
  cases variant : config.variant with
  | async => exact stepped_move found (.breaksOff was variant rfl) rfl
  | pumping | blocking => exact stepped_move found (.consumeFails was (by simp [variant])) rfl

theorem stepped_wake (was : call.stage = .waiting)
    (woken : client.wake config id call.future = some client') :
    Stepped config client (.act id .wake) client' := by
  unfold wake at woken
  split at woken
  · cases woken
  · cases woken
    exact stepped_move found (.goesOn (.inr was) rfl (by rw [was]; decide) nofun) rfl
  · cases woken
    exact stepped_move found (.goesOn (.inr was) rfl (by rw [was]; decide) nofun) rfl
  all_goals
    rename_i future notPumping
    cases woken
    have outcome := congrArg ReplyFuture.outcome future
    rw [outcome]
    exact stepped_move found (.leaves (.wake was notPumping (by simp [future]) outcome)) rfl

theorem stepped_expire (was : call.stage = .waiting) :
    Stepped config client (.act id .expire) (client.expire config id call.future) := by
  unfold expire
  split
  next isAsync =>
    exact stepped_cancelWait found (.expires was isAsync)
  · exact stepped_move found (.goesOn (.inr was) rfl (by rw [was]; decide) fun _ => rfl) rfl
  · exact stepped_move found (.goesOn (.inr was) rfl (by rw [was]; decide) fun _ => rfl) rfl

theorem stepped_pumpRaises (was : call.stage = .waiting) (pumping : config.variant = .pumping) :
    Stepped config client (.act id .pumpRaises) (client.pumpRaises id call.future) := by
  unfold pumpRaises
  split
  · exact stepped_move found (.goesOn (.inr was) rfl (by rw [was]; decide) fun _ => rfl) rfl
  next done =>
    exact stepped_move found (.leaves (.pumpRaises was pumping done)) rfl

theorem stepped_drop {error : RpcError} (was : call.stage = .expiring error)
    (free : client.lock = none) :
    Stepped config client (.act id .drop) (client.drop config id error call.future) := by
  have waits : call.stage.waits = true := by rw [was]; rfl
  unfold drop
  split
  next isAsync =>
    by_cases timeout : call.stage = .expiring .timeout
    · cases was.symm.trans timeout
      exact stepped_move found (.pops waits free (.timeout was (.inl isAsync))) rfl
    · exact stepped_move found (.pops waits free (.gaveUp was fun same => timeout (same ▸ was))) rfl
  next future _ =>
    exact stepped_move found (.pops waits free (.timeout was (.inr future))) rfl
  · exact stepped_move found (.pops waits free (.outcome (.inr was))) rfl
  next other _ _ =>
    exact stepped_move found (.pops waits free (.gaveUp was fun same => other same)) rfl

theorem stepped_advance
    (taken : client.advance config id call.future callStep call.stage = some client') :
    Stepped config client (.act id callStep) client' := by
  cases callStep with
  | check =>
    cases was : call.stage with
    | arrived =>
      rw [was] at taken
      cases taken
      split
      · exact stepped_move found (.turnsBack ‹_› (.inl was)) rfl
      · exact stepped_move found (.checks (eq_false_iff.mpr ‹_›) (.inl ⟨was, rfl⟩)) rfl
    | _ => cases was ▸ taken
  | recheck =>
    cases was : call.stage with
    | ensuring =>
      rw [was] at taken
      cases taken
      split
      · exact stepped_move found (.turnsBack ‹_› (.inr was)) rfl
      · exact stepped_move found (.checks (eq_false_iff.mpr ‹_›) (.inr ⟨was, rfl, rfl⟩)) rfl
    | _ => cases was ▸ taken
  | ensure =>
    cases was : call.stage with
    | locking =>
      obtain ⟨free, done⟩ := ite_none_right_eq_some.mp (was ▸ taken)
      cases done
      exact stepped_ensure found was (free_of_isFree free)
    | _ => cases was ▸ taken
  | consumeOk =>
    cases was : call.stage with
    | consuming =>
      cases was ▸ taken
      exact stepped_consumeOk found was
    | _ => cases was ▸ taken
  | consumeFails =>
    cases was : call.stage with
    | consuming =>
      cases was ▸ taken
      exact stepped_consumeFails found was
    | _ => cases was ▸ taken
  | record =>
    cases was : call.stage with
    | consumed tag =>
      cases was ▸ taken
      exact stepped_move found (.records was) rfl
    | _ => cases was ▸ taken
  | clear =>
    cases was : call.stage with
    | consumeFailed =>
      cases was ▸ taken
      exact stepped_move found (.clears was) rfl
    | _ => cases was ▸ taken
  | register =>
    cases was : call.stage with
    | registering =>
      obtain ⟨free, done⟩ := ite_none_right_eq_some.mp (was ▸ taken)
      cases done
      unfold register
      split
      · exact stepped_move found (.refuses was ‹_›) rfl
      · exact stepped_move found (.registers was (free_of_isFree free)) rfl
    | _ => cases was ▸ taken
  | envelopeRaises =>
    cases was : call.stage with
    | sending =>
      cases was ▸ taken
      exact stepped_move found (.leaves (.envelopeRaises was)) rfl
    | _ => cases was ▸ taken
  | send =>
    cases was : call.stage with
    | sending =>
      cases was ▸ taken
      exact stepped_move found (.sends was) rfl
    | _ => cases was ▸ taken
  | published undelivered =>
    cases was : call.stage with
    | publishing =>
      cases was ▸ taken
      cases undelivered with
      | false => exact stepped_move found (.goesOn (.inl was) rfl (by rw [was]; decide) nofun) rfl
      | true =>
        exact stepped_move found
          (.goesOn (.inl was) rfl (by rw [was]; decide) fun _ => rfl) rfl
    | _ => cases was ▸ taken
  | publishRaises =>
    cases was : call.stage with
    | publishing =>
      cases was ▸ taken
      exact stepped_move found (.leaves (.publishRaises was)) rfl
    | _ => cases was ▸ taken
  | wake =>
    cases was : call.stage with
    | waiting =>
      rw [was] at taken
      exact stepped_wake found was taken
    | _ => cases was ▸ taken
  | expire =>
    cases was : call.stage with
    | waiting =>
      cases was ▸ taken
      exact stepped_expire found was
    | _ => cases was ▸ taken
  | pumpRaises =>
    cases was : call.stage with
    | waiting =>
      obtain ⟨pumping, done⟩ := ite_none_right_eq_some.mp (was ▸ taken)
      cases done
      exact stepped_pumpRaises found was pumping
    | _ => cases was ▸ taken
  | drop =>
    cases was : call.stage with
    | undelivered =>
      obtain ⟨free, done⟩ := ite_none_right_eq_some.mp (was ▸ taken)
      cases done
      have waits : call.stage.waits = true := by rw [was]; rfl
      exact stepped_move found (.pops waits (free_of_isFree free) (.publishError was)) rfl
    | expiring error =>
      obtain ⟨free, done⟩ := ite_none_right_eq_some.mp (was ▸ taken)
      cases done
      exact stepped_drop found was (free_of_isFree free)
    | _ => cases was ▸ taken
  | finish =>
    cases was : call.stage with
    | finishing =>
      obtain ⟨free, done⟩ := ite_none_right_eq_some.mp (was ▸ taken)
      cases done
      have waits : call.stage.waits = true := by rw [was]; rfl
      exact stepped_move found (.pops waits (free_of_isFree free) (.outcome (.inl was))) rfl
    | _ => cases was ▸ taken
  | cancel =>
    cases was : call.stage with
    | consuming =>
      obtain ⟨isAsync, done⟩ := ite_none_right_eq_some.mp (was ▸ taken)
      cases done
      exact stepped_move found (.breaksOff was isAsync rfl) rfl
    | waiting =>
      obtain ⟨isAsync, done⟩ := ite_none_right_eq_some.mp (was ▸ taken)
      cases done
      exact stepped_cancelWait found (.leavesWait (.cancel (by rw [was]; rfl) isAsync))
    | locking =>
      obtain ⟨isAsync, done⟩ := ite_none_right_eq_some.mp (was ▸ taken)
      cases done
      exact stepped_move found (.quits (.inl was) isAsync) rfl
    | registering =>
      obtain ⟨isAsync, done⟩ := ite_none_right_eq_some.mp (was ▸ taken)
      cases done
      exact stepped_move found (.quits (.inr was) isAsync) rfl
    | publishing | undelivered | expiring | finishing =>
      obtain ⟨isAsync, done⟩ := ite_none_right_eq_some.mp (was ▸ taken)
      cases done
      exact stepped_move found (.leaves (.cancel (by rw [was]; rfl) isAsync)) rfl
    | _ => cases was ▸ taken

end Calls

theorem stepped_resolve (reply : RpcReply) :
    Stepped config client (.reply reply) (client.resolve config reply) := by
  unfold resolve
  split
  · exact .discarded
  next id addressed =>
    split
    next expected =>
      obtain ⟨registered, waiting⟩ := (and_eq_true _ _).mp expected
      obtain ⟨call, found, opened⟩ := (any_eq_true _ _).mp waiting
      rw [setFuture, modify_calls found]
      exact .resolved found addressed registered (of_decide_eq_true opened)
    · exact .discarded

theorem stepped_advanceClose {index : Nat} {closeStep : RpcCloseStep} {stage : RpcCloseStage}
    (found : client.closes[index]? = some stage)
    (taken : client.advanceClose index closeStep stage = some client') :
    Stepped config client (.actClose index closeStep) client' := by
  unfold advanceClose at taken
  split at taken
  · have reads : Stepped config client (.actClose index .read) _ := .closeReads found
    cases recorded : client.consumerTag with
    | none | some =>
      rw [recorded] at reads taken
      cases taken
      exact reads
  · split at taken
    next done =>
      cases taken
      subst done
      exact .closeCancels found
    next done =>
      cases taken
      rw [eq_false_iff.mpr done]
      exact .closeCancelFails found
  · obtain ⟨free, done⟩ := ite_none_right_eq_some.mp taken
    cases done
    exact .closeFails found (free_of_isFree free)
  · cases taken
    exact .closeResets found
  · cases taken

theorem stepped {action : RpcAction} (taken : client.step config action = some client') :
    Stepped config client action client' := by
  cases action with
  | call =>
    cases taken
    exact .called
  | act id callStep =>
    obtain ⟨call, found, moved⟩ := bind_eq_some_iff.mp taken
    exact stepped_advance found moved
  | reply reply =>
    obtain ⟨_, done⟩ := ite_none_right_eq_some.mp taken
    cases done
    exact stepped_resolve reply
  | close =>
    cases taken
    exact .closing
  | actClose index closeStep =>
    obtain ⟨stage, found, moved⟩ := bind_eq_some_iff.mp taken
    exact stepped_advanceClose found moved

end RpcClient
end RabbitKit
