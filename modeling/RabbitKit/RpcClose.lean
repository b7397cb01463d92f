import RabbitKit.RpcConsumer

/-! # Closing a client

`close` cancels the consumer whose tag it reads, then marks the client closed and fails its
waiters.  A call that has passed the checks of the mark registers afterwards all the same, and
its waiter stays; a consume that is under way when the tag is read leaves its consumer.  In runs
in which no call stands between its check and its registration at these two moments, nothing is
left once a `close` has finished, and a call that then has no reply ends with `RPCClientClosed`.
-/

namespace RabbitKit

open LabelledRun List Option

namespace RpcCloseStage

def hasRead : RpcCloseStage → Bool
  | .started => false
  | _ => true

def hasCancelled : RpcCloseStage → Bool
  | .started | .cancelling _ => false
  | _ => true

def hasClosed : RpcCloseStage → Bool
  | .resetting | .done => true
  | _ => false

end RpcCloseStage

namespace CallStage

/-- The call has made its second check of `_closed`, and its waiter is not registered. -/
def passes : CallStage → Bool
  | .locking | .consuming | .consumed _ | .registering => true
  | _ => false

theorem passes_eq_false_of_waits {stage : CallStage} (waits : stage.waits = true) :
    stage.passes = false := by
  cases stage <;> first | rfl | cases waits

theorem passes_eq_false_of_ended {stage : CallStage} (ended : stage.ended = true) :
    stage.passes = false := by
  cases stage <;> first | rfl | cases ended

end CallStage

/-- The action is a step of this call. -/
def RpcAction.isOf (id : Nat) : RpcAction → Bool
  | .act other _ => other = id
  | _ => false

namespace RpcClient

variable {config : RpcConfig} {client client' shared : RpcClient} {id : Nat}
variable {call call' : RpcCall} {callStep : RpcCallStep} {action : RpcAction}

/-- No call stands between its second check of `_closed` and its registration. -/
def Settled (client : RpcClient) : Prop :=
  ∀ call ∈ client.calls, call.stage.passes = false

instance (client : RpcClient) : Decidable (Settled client) := by
  unfold Settled
  infer_instance

/-- When a `close` marks the client, no call stands between its check of the mark and its
registration.  When it reads the tag, the consumer is recorded or no call stands there, and until
the mark is set none then comes there that finds no consumer.  `cancel_consumer` does not fail. -/
def Orderly (client : RpcClient) : RpcAction → Prop
  | .actClose _ .read => client.closed = false → client.consuming = true ∨ Settled client
  | .act _ .recheck => client.closed = false →
      client.consuming = true ∨ ∀ stage ∈ client.closes, stage.hasRead = false
  | .actClose _ .closeAll => client.closed = false → Settled client
  | .actClose _ (.cancelled done) => done = true
  | _ => True

instance (client : RpcClient) : DecidablePred (Orderly client) := fun action => by
  unfold Orderly
  split <;> infer_instance

structure Closing (config : RpcConfig) (client : RpcClient) : Prop where
  locked : ∀ id, client.lock = some id → config.variant = .async ∧
    ∃ call, client.calls[id]? = some call ∧ call.stage = .consuming
  emptied : client.closed = true → (∀ id, client.registered id = false) ∧ Settled client
  marked : ∀ stage ∈ client.closes, stage.hasClosed = true → client.closed = true
  guarded : client.closed = false → ∀ stage ∈ client.closes, stage.hasRead = true →
    client.consuming = true ∨ Settled client
  waited : ∀ {id : Nat} {call : RpcCall}, client.calls[id]? = some call →
    call.stage.waits = true → client.registered id = true ∨ call.future ≠ .pending
  cancelling : ∀ tag, .cancelling tag ∈ client.closes → ∀ other ∈ client.consumers, other = tag
  cancelled : ∀ stage ∈ client.closes, stage.hasCancelled = true → client.consumers = []

section Advanced

variable (advanced : Advanced config client id call callStep shared call')
include advanced

/-- Only its second check lets a call pass, on a client that is not closed. -/
theorem Advanced.passes (passes : call'.stage.passes = true) :
    call.stage.passes = true ∨ client.closed = false ∧ callStep = .recheck := by
  cases advanced with
  | checks opened was =>
    rcases was with ⟨_, rfl⟩ | ⟨_, rfl, rfl⟩
    · cases passes
    · exact .inr ⟨opened, rfl⟩
  | skips was | starts was | consumes was | consumesAsync was | records was =>
    exact .inl (by rw [was]; rfl)
  | goesOn _ still => simp [CallStage.passes_eq_false_of_waits still] at passes
  | pops _ _ ends => simp [CallStage.passes_eq_false_of_ended ends.ended] at passes
  | _ => cases passes

theorem Advanced.registers_passing (isRegistered : shared.registered id = true) :
    client.registered id = true ∨ call.stage.passes = true := by
  cases advanced with
  | registers was => exact .inr (by rw [was]; rfl)
  | pops => simp [registered, pop] at isRegistered
  | _ => exact .inl isRegistered

theorem Advanced.consuming (consuming : client.consuming = true) : shared.consuming = true := by
  cases advanced with
  | consumesAsync | records => rfl
  | _ => exact consuming

theorem Advanced.consumers_passing :
    shared.consumers = client.consumers ∨ call.stage = .consuming := by
  cases advanced with
  | consumes was | consumesAsync was => exact .inr was
  | _ => exact .inl rfl

theorem Advanced.locked
    (locked : ∀ other, client.lock = some other → config.variant = .async ∧
      ∃ call, client.calls[other]? = some call ∧ call.stage = .consuming)
    (found : client.calls[id]? = some call) (other : Nat) (held : shared.lock = some other) :
    config.variant = .async ∧
      ∃ call, (shared.put id call').calls[other]? = some call ∧ call.stage = .consuming := by
  have sameCalls := advanced.frame.1
  have inBounds := (List.getElem?_eq_some_iff.mp found).1
  have others (held : client.lock = some other)
      (moves : call.stage = .consuming → call'.stage = .consuming ∨ config.variant ≠ .async) :
      config.variant = .async ∧
        ∃ call, (shared.put id call').calls[other]? = some call ∧ call.stage = .consuming := by
    obtain ⟨isAsync, party, located, consuming⟩ := locked other held
    refine ⟨isAsync, ?_⟩
    rw [put, sameCalls]
    by_cases same : id = other
    · subst same
      cases found.symm.trans located
      exact ⟨call', by simp [inBounds], (moves consuming).resolve_right (not_not.mpr isAsync)⟩
    · exact ⟨party, (getElem?_set_ne same).trans located, consuming⟩
  cases advanced with
  | starts was free _ kind =>
    rcases kind with ⟨_, _, _, rfl⟩ | ⟨isAsync, _, rfl⟩
    · simp [free] at held
    · cases held
      exact ⟨isAsync, { call with stage := .consuming }, by simp [put, inBounds], rfl⟩
  | consumesAsync | breaksOff => cases held
  | consumes _ notAsync | consumeFails _ notAsync => exact others held fun _ => .inr notAsync
  | checks _ was | goesOn was =>
    exact others held fun consuming => by simp [consuming] at was
  | turnsBack _ was | quits was => exact others held fun consuming => by simp [consuming] at was
  | skips was | records was | clears was | refuses was | registers was | sends was
  | expires was =>
    exact others held fun consuming => by simp [consuming] at was
  | pops waits =>
    exact others held fun consuming => by simp [consuming, CallStage.waits] at waits
  | leaves leaves | leavesWait leaves =>
    have waits := leaves.waits
    exact others held fun consuming => by simp [consuming, CallStage.waits] at waits

end Advanced

theorem settled_put (settled : Settled client) (sameCalls : shared.calls = client.calls)
    (mine : call'.stage.passes = false) : Settled (shared.put id call') := by
  intro party member
  rw [put, sameCalls] at member
  rcases mem_or_eq_of_mem_set member with before | rfl
  · exact settled party before
  · exact mine

theorem Advanced.closing (advanced : Advanced config client id call callStep shared call')
    (starter : Starter config client) (closing : Closing config client)
    (orderly : Orderly client (.act id callStep)) (found : client.calls[id]? = some call) :
    Closing config (shared.put id call') := by
  obtain ⟨sameCalls, sameClosed, sameCloses, others⟩ := advanced.frame
  have member := mem_of_getElem? found
  -- a `close` has read the tag, so that no call starts a consumer
  have guarded {stage : RpcCloseStage} (present : stage ∈ client.closes)
      (read : stage.hasRead = true) (passes : call.stage.passes = true) :
      client.closed = false ∧ client.consuming = true := by
    cases isClosed : client.closed with
    | true => simp [(closing.emptied isClosed).2 call member] at passes
    | false =>
      refine ⟨rfl, (closing.guarded isClosed stage present read).resolve_right fun settled => ?_⟩
      simp [settled call member] at passes
  have unread {stage : RpcCloseStage} (present : stage ∈ client.closes)
      (read : stage.hasRead = true) : shared.consumers = client.consumers := by
    refine advanced.consumers_passing.resolve_right fun consuming => ?_
    have started := (guarded present read (by rw [consuming]; rfl)).2
    simp [(starter.holds found (by rw [consuming]; rfl)).1] at started
  constructor
  · exact advanced.locked closing.locked found
  · intro isClosed
    obtain ⟨emptied, settled⟩ := closing.emptied (sameClosed ▸ isClosed)
    have stays := settled call member
    refine ⟨fun other => ?_, settled_put settled sameCalls ?_⟩
    · by_cases same : id = other
      · subst same
        refine Bool.eq_false_iff.mpr fun isRegistered => ?_
        rcases advanced.registers_passing isRegistered with before | passes
        · simp [emptied] at before
        · simp [stays] at passes
      · exact (others other same).trans (emptied other)
    · refine Bool.eq_false_iff.mpr fun passes => ?_
      rcases advanced.passes passes with before | ⟨opened, _⟩
      · simp [stays] at before
      · cases opened.symm.trans (sameClosed ▸ isClosed)
  · intro stage present isPast
    exact sameClosed.trans (closing.marked stage (sameCloses ▸ present) isPast)
  · intro opened stage present read
    have present : stage ∈ client.closes := sameCloses ▸ present
    have wasOpen : client.closed = false := sameClosed ▸ opened
    rcases closing.guarded wasOpen stage present read with consuming | settled
    · exact .inl (advanced.consuming consuming)
    · by_cases passes : call'.stage.passes = true
      · rcases advanced.passes passes with before | ⟨_, rfl⟩
        · simp [settled call member] at before
        · refine (orderly wasOpen).imp advanced.consuming fun none => ?_
          simp [none stage present] at read
      · exact .inr (settled_put settled sameCalls (Bool.eq_false_iff.mpr passes))
  · intro other party located waits
    rw [put, sameCalls] at located
    rcases getElem?_of_moved found located with ⟨rfl, rfl⟩ | ⟨different, stood⟩
    · exact advanced.waited (closing.waited found) waits
    · exact (closing.waited stood waits).imp_left (others other different).trans
  · intro tag present
    have present : RpcCloseStage.cancelling tag ∈ client.closes := sameCloses ▸ present
    exact unread present rfl ▸ closing.cancelling tag present
  · intro stage present isPast
    have present : stage ∈ client.closes := sameCloses ▸ present
    have read : stage.hasRead = true := by
      cases stage <;> first | rfl | cases isPast
    exact (unread present read).trans (closing.cancelled stage present isPast)

section

variable (closing : Closing config client)
include closing

theorem closing_called : Closing config { client with calls := client.calls ++ [{}] } := by
  have settled (before : Settled client) :
      Settled { client with calls := client.calls ++ [{}] } := by
    intro call member
    rcases mem_append.mp member with earlier | last
    · exact before call earlier
    · cases mem_singleton.mp last
      rfl
  refine ⟨fun id held => ?_, fun isClosed => (closing.emptied isClosed).imp_right settled,
    closing.marked, fun opened stage member read =>
      (closing.guarded opened stage member read).imp_right settled, ?_, closing.cancelling,
    closing.cancelled⟩
  · obtain ⟨isAsync, call, found, consuming⟩ := closing.locked id held
    have inBounds := (List.getElem?_eq_some_iff.mp found).1
    exact ⟨isAsync, call, (List.getElem?_append_left inBounds).trans found, consuming⟩
  · intro id call located waits
    rcases getElem?_of_joined located with stood | ⟨_, rfl⟩
    · exact closing.waited stood waits
    · cases waits

theorem closing_resolved {future : ReplyFuture}
    (found : client.calls[id]? = some call) (done : future ≠ .pending) :
    Closing config (client.put id { call with future := future }) := by
  have settled (before : Settled client) :
      Settled (client.put id { call with future := future }) :=
    settled_put before rfl (before call (mem_of_getElem? found))
  refine ⟨fun other held => ?_, fun isClosed => (closing.emptied isClosed).imp_right settled,
    closing.marked, fun opened stage member read =>
      (closing.guarded opened stage member read).imp_right settled, ?_, closing.cancelling,
    closing.cancelled⟩
  · obtain ⟨isAsync, party, located, consuming⟩ := closing.locked other held
    refine ⟨isAsync, ?_⟩
    by_cases same : id = other
    · subst same
      cases found.symm.trans located
      have inBounds := (List.getElem?_eq_some_iff.mp found).1
      exact ⟨{ call with future := future }, by simp [put, inBounds], consuming⟩
    · exact ⟨party, (getElem?_set_ne same).trans located, consuming⟩
  · intro other party located waits
    rcases getElem?_of_moved found located with ⟨rfl, rfl⟩ | ⟨_, stood⟩
    · exact .inr done
    · exact closing.waited stood waits

theorem closing_moveClose {index : Nat} {stage : RpcCloseStage}
    (closed : stage.hasClosed = true → client.closed = true)
    (guarded : client.closed = false → stage.hasRead = true →
      client.consuming = true ∨ Settled client)
    (cancelling : ∀ tag, stage = .cancelling tag → ∀ other ∈ client.consumers, other = tag)
    (cancelled : stage.hasCancelled = true → client.consumers = []) :
    Closing config (client.moveClose index stage) := by
  refine ⟨closing.locked, closing.emptied, ?_, ?_, closing.waited, ?_, ?_⟩
  · intro other member isPast
    rcases mem_or_eq_of_mem_set member with before | rfl
    · exact closing.marked other before isPast
    · exact closed isPast
  · intro opened other member read
    rcases mem_or_eq_of_mem_set member with before | rfl
    · exact closing.guarded opened other before read
    · exact guarded opened read
  · intro tag member
    rcases mem_or_eq_of_mem_set member with before | same
    · exact closing.cancelling tag before
    · exact cancelling tag same.symm
  · intro other member isPast
    rcases mem_or_eq_of_mem_set member with before | rfl
    · exact closing.cancelled other before isPast
    · exact cancelled isPast

/-- What a `close` reads is the tag of the consumer that there is. -/
theorem recorded_of_orderly {index : Nat} (starter : Starter config client)
    (subscribed : Subscribed client) (orderly : Orderly client (.actClose index .read)) {tag : Nat}
    (member : tag ∈ client.consumers) : client.consumerTag = some tag := by
  rcases subscribed.recorded tag member with ⟨_, same⟩ | ⟨id, call, found, consumed⟩
  · exact same
  · have passes : call.stage.passes = true := by rw [consumed]; rfl
    have present := mem_of_getElem? found
    cases isClosed : client.closed with
    | true => simp [(closing.emptied isClosed).2 call present] at passes
    | false =>
      rcases orderly isClosed with consuming | settled
      · simp [(starter.holds found (by rw [consumed]; rfl)).1] at consuming
      · simp [settled call present] at passes

theorem closing_reads {index : Nat} (starter : Starter config client)
    (subscribed : Subscribed client) (orderly : Orderly client (.actClose index .read)) :
    Closing config (client.moveClose index (client.consumerTag.elim .locking .cancelling)) := by
  have recorded {tag : Nat} (member : tag ∈ client.consumers) : client.consumerTag = some tag :=
    recorded_of_orderly closing starter subscribed orderly member
  cases read : client.consumerTag with
  | none =>
    refine closing_moveClose closing nofun (fun opened _ => orderly opened) nofun fun _ => ?_
    refine eq_nil_iff_forall_not_mem.mpr fun other member => ?_
    simp [recorded member] at read
  | some tag =>
    refine closing_moveClose closing nofun (fun opened _ => orderly opened) ?_ nofun
    rintro _ ⟨rfl⟩ other member
    exact (some.inj (read.symm.trans (recorded member))).symm

theorem closing_cancels {index tag : Nat}
    (subscribed : Subscribed client) (found : client.closes[index]? = some (.cancelling tag)) :
    Closing config
      ({ client with consumers := client.consumers.erase tag }.moveClose index .locking) := by
  have member := mem_of_getElem? found
  have none : client.consumers.erase tag = [] := by
    have single := subscribed.single
    have same := closing.cancelling tag member
    cases consumers : client.consumers with
    | nil => rfl
    | cons other rest =>
      rw [consumers] at single same
      have last : rest = [] := by simpa using single
      simp [last, same other (by simp)]
  rw [none]
  refine closing_moveClose ?_ nofun (fun opened _ => closing.guarded opened _ member rfl) nofun
    (fun _ => rfl)
  exact ⟨closing.locked, closing.emptied, closing.marked, closing.guarded, closing.waited,
    by simp, fun _ _ _ => rfl⟩

theorem closing_fails {index : Nat} (orderly : Orderly client (.actClose index .closeAll))
    (found : client.closes[index]? = some .locking) (free : client.lock = none) :
    Closing config ({ client.failPending with closed := true }.moveClose index .resetting) := by
  have none : client.consumers = [] := closing.cancelled _ (mem_of_getElem? found) rfl
  have settled : Settled client := by
    cases isClosed : client.closed with
    | true => exact (closing.emptied isClosed).2
    | false => exact orderly isClosed
  refine closing_moveClose ?_ (fun _ => rfl) nofun nofun (fun _ => none)
  refine ⟨fun id held => ?_, fun _ => ⟨fun _ => rfl, ?_⟩, fun _ _ _ => rfl, nofun, ?_,
    closing.cancelling, closing.cancelled⟩
  · cases free.symm.trans held
  · intro call member
    obtain ⟨id, located⟩ := mem_iff_getElem?.mp member
    have same := stage_failPending client id
    rw [show client.failPending.calls[id]? = some call from located] at same
    obtain ⟨before, found, same⟩ := map_eq_some_iff.mp same.symm
    exact same ▸ settled before (mem_of_getElem? found)
  · intro id call located waits
    simp only [failPending, getElem?_mapIdx, map_eq_some_iff] at located
    obtain ⟨before, stood, rfl⟩ := located
    refine .inr ?_
    split
    · simp
    next notWaiting =>
      have waited := closing.waited stood (by simpa [notWaiting] using waits)
      intro opened
      simp_all [registered]

theorem closing_begun :
    Closing config { client with closes := client.closes ++ [.started] } := by
  have earlier {stage : RpcCloseStage} (member : stage ∈ client.closes ++ [.started])
      (read : stage.hasRead = true) : stage ∈ client.closes := by
    rcases mem_append.mp member with before | last
    · exact before
    · cases mem_singleton.mp last
      cases read
  refine ⟨closing.locked, closing.emptied, fun stage member isPast => ?_,
    fun opened stage member read => closing.guarded opened stage (earlier member read) read,
    closing.waited, fun tag member => closing.cancelling tag (earlier member rfl),
    fun stage member isPast => ?_⟩
  · have read : stage.hasRead = true := by cases stage <;> first | rfl | cases isPast
    exact closing.marked stage (earlier member read) isPast
  · have read : stage.hasRead = true := by cases stage <;> first | rfl | cases isPast
    exact closing.cancelled stage (earlier member read) isPast

theorem closing_step (starter : Starter config client) (subscribed : Subscribed client)
    (orderly : Orderly client action) (taken : client.step config action = some client') :
    Closing config client' := by
  cases stepped taken with
  | called => exact closing_called closing
  | advanced found advanced => exact advanced.closing starter closing orderly found
  | discarded => exact closing
  | resolved found => exact closing_resolved closing found (by split <;> simp)
  | closing => exact closing_begun closing
  | closeReads => exact closing_reads closing starter subscribed orderly
  | closeCancels found => exact closing_cancels closing subscribed found
  | closeCancelFails => cases orderly
  | closeFails found free => exact closing_fails closing orderly found free
  | closeResets found =>
    have member := mem_of_getElem? found
    have isClosed := closing.marked _ member rfl
    refine closing_moveClose ?_ (fun _ => isClosed) (fun opened => ?_) nofun
      (fun _ => closing.cancelled _ member rfl)
    · refine ⟨closing.locked, closing.emptied, closing.marked, fun opened => ?_, closing.waited,
        closing.cancelling, closing.cancelled⟩
      cases isClosed.symm.trans opened
    · cases isClosed.symm.trans opened

end

theorem closing_of_run {actions : List RpcAction}
    (run : RunWithin (step config) Orderly {} actions client) : Closing config client := by
  have kept : Starter config client ∧ Subscribed client ∧ Closing config client := by
    refine run.invariant (fun {before} _ _
      (held : Starter config before ∧ Subscribed before ∧ Closing config before) orderly taken =>
        ?_) ⟨starter_initial, subscribed_initial, ?_⟩
    · obtain ⟨starter, subscribed, closing⟩ := held
      refine ⟨starter_step starter taken, subscribed_step subscribed starter taken ?_,
        closing_step closing starter subscribed orderly taken⟩
      intro index found _
      exact closing.cancelled _ (mem_of_getElem? found) rfl
    · exact ⟨by simp, by simp [registered, Settled], by simp, by simp, by simp, by simp, by simp⟩
  exact kept.2.2

/-- No operation of this call fails, its time is not up and it is not cancelled. -/
def Spares (id : Nat) : RpcAction → Prop
  | .act other callStep => other = id → callStep.fails = false
  | _ => True

def Unanswered (call : RpcCall) : Prop :=
  call.stage.ended = false ∧ call.stage.failing = false ∧
    (call.future = .pending ∨ call.future = .closed)

/-- The call has ended with `RPCClientClosed`, or it has steps left and can only end so. -/
def Doomed (call : RpcCall) : Prop :=
  call.stage = .raised .closed ∨
    0 < call.stage.stepsLeft ∧ (call.stage.waits = true → call.future = .closed)

theorem Doomed.of_unanswered (unanswered : Unanswered call) (stays : call.stage.passes = false)
    (answered : call.stage.waits = true → call.future ≠ .pending) : Doomed call := by
  obtain ⟨lasting, sound, future⟩ := unanswered
  refine .inr ⟨?_, fun waits => future.resolve_left (answered waits)⟩
  cases stage : call.stage with
  | arrived | ensuring | sending | publishing | waiting | finishing => decide
  | locking | consuming | consumed | registering => simp [stage, CallStage.passes] at stays
  | consumeFailed | undelivered | expiring => simp [stage, CallStage.failing] at sound
  | returned | raised => simp [stage, CallStage.ended] at lasting

theorem Advanced.doomed (advanced : Advanced config client id call callStep shared call')
    (isClosed : client.closed = true) (spared : callStep.fails = false) (doomed : Doomed call) :
    Doomed call' ∧ call'.stage.stepsLeft < call.stage.stepsLeft := by
  rcases doomed with ended | ⟨left, answered⟩
  · have lasting := advanced.lasting
    rw [ended] at lasting
    cases lasting
  · cases advanced with
    | checks opened => cases isClosed.symm.trans opened
    | turnsBack => exact ⟨.inl rfl, left⟩
    | skips was | starts was | consumes was | consumesAsync was | consumeFails was
    | breaksOff was | records was | clears was | refuses was | registers was =>
      rw [was] at left
      cases left
    | quits | expires => cases spared
    | sends was =>
      exact ⟨.inr ⟨Nat.zero_lt_succ _, fun _ => answered (by rw [was]; rfl)⟩,
        by simp [was, CallStage.stepsLeft]⟩
    | @goesOn _ stage was still lower fails =>
      refine ⟨.inr ⟨?_, fun _ => ?_⟩, lower⟩
      · cases stage with
        | sending | publishing | waiting | finishing => exact Nat.zero_lt_succ _
        | undelivered | expiring => cases (fails rfl).symm.trans spared
        | _ => cases still
      · rcases was with was | was <;> exact answered (by rw [was]; rfl)
    | pops waits _ ends =>
      have closed := answered waits
      cases ends with
      | outcome => exact ⟨.inl (by rw [closed]; rfl), by rwa [closed]⟩
      | publishError was | timeout was | gaveUp was =>
        rw [was] at left
        cases left
    | leaves leaves =>
      cases leaves with
      | wake was _ _ outcome =>
        rw [answered (by rw [was]; rfl)] at outcome
        cases outcome
        exact ⟨.inl rfl, left⟩
      | envelopeRaises | publishRaises | cancel | pumpRaises => cases spared
    | leavesWait leaves =>
      cases leaves with
      | wake was _ _ outcome =>
        rw [answered (by rw [was]; rfl)] at outcome
        cases outcome
      | cancel => cases spared

theorem failPending_eq (emptied : ∀ other, client.registered other = false) :
    client.failPending.calls = client.calls := by
  refine ext_getElem? fun id => ?_
  have out : (client.pending.get? id).isSome = false := emptied id
  simp [failPending, out]

theorem doomed_step (closing : Closing config client) (isClosed : client.closed = true)
    (located : client.calls[id]? = some call) (doomed : Doomed call) (spares : Spares id action)
    (taken : client.step config action = some client') : client'.closed = true ∧
      ∃ call', client'.calls[id]? = some call' ∧ Doomed call' ∧
        [action].countP (·.isOf id) + call'.stage.stepsLeft ≤ call.stage.stepsLeft := by
  obtain ⟨emptied, -⟩ := closing.emptied isClosed
  cases stepped taken with
  | called =>
    have inBounds := (List.getElem?_eq_some_iff.mp located).1
    exact ⟨isClosed, call, (List.getElem?_append_left inBounds).trans located, doomed,
      by simp [RpcAction.isOf]⟩
  | @advanced mover before after callStep shared found advanced =>
    obtain ⟨sameCalls, sameClosed, _, _⟩ := advanced.frame
    refine ⟨sameClosed.trans isClosed, ?_⟩
    rw [put, sameCalls]
    by_cases same : mover = id
    · subst same
      cases found.symm.trans located
      have inBounds := (List.getElem?_eq_some_iff.mp found).1
      obtain ⟨stays, lower⟩ := advanced.doomed isClosed (spares rfl) doomed
      refine ⟨after, by simp [inBounds], stays, ?_⟩
      simp only [countP_singleton, RpcAction.isOf, decide_true, if_true]
      omega
    · exact ⟨call, (getElem?_set_ne same).trans located, doomed, by simp [RpcAction.isOf, same]⟩
  | resolved _ _ isRegistered => simp [emptied] at isRegistered
  | closeFails =>
    refine ⟨rfl, call, ?_, doomed, by simp [RpcAction.isOf]⟩
    show client.failPending.calls[id]? = some call
    rw [failPending_eq emptied, located]
  | discarded | closing | closeReads | closeCancels | closeCancelFails | closeResets =>
    exact ⟨isClosed, call, located, doomed, by simp [RpcAction.isOf]⟩

theorem wake_isSome (found : client.calls[id]? = some call) (was : call.stage = .waiting)
    (answered : call.future ≠ .pending) : (client.step config (.act id .wake)).isSome = true := by
  simp only [step, found, bind_some, advance, was, wake]
  split <;> simp_all

/-- Nothing that another call or the transport does holds a doomed call up. -/
theorem Doomed.enabled (closing : Closing config client) (isClosed : client.closed = true)
    (found : client.calls[id]? = some call) (doomed : Doomed call)
    (lasting : call.stage ≠ .raised .closed) : ∃ callStep, callStep.fails = false ∧
      (client.step config (.act id callStep)).isSome = true := by
  obtain ⟨left, answered⟩ := doomed.resolve_left lasting
  have free : client.lock = none := by
    cases held : client.lock with
    | none => rfl
    | some holder =>
      obtain ⟨_, party, located, consuming⟩ := closing.locked holder held
      have stays := (closing.emptied isClosed).2 party (mem_of_getElem? located)
      rw [consuming] at stays
      cases stays
  cases stage : call.stage with
  | arrived => exact ⟨.check, rfl, by simp [step, found, advance, stage]⟩
  | ensuring => exact ⟨.recheck, rfl, by simp [step, found, advance, stage]⟩
  | sending => exact ⟨.send, rfl, by simp [step, found, advance, stage]⟩
  | publishing => exact ⟨.published false, rfl, by simp [step, found, advance, stage]⟩
  | waiting =>
    have closed := answered (by rw [stage]; rfl)
    exact ⟨.wake, rfl, wake_isSome found stage (by simp [closed])⟩
  | finishing => exact ⟨.finish, rfl, by simp [step, found, advance, stage, isFree, free]⟩
  | _ => simp [stage, CallStage.stepsLeft] at left

/-- The call with this number ends with `RPCClientClosed` unless an operation of its own fails: it
takes at most four more steps, and one of them is possible until it has ended. -/
def EndsClosed (config : RpcConfig) (client : RpcClient) (id : Nat) : Prop :=
  ∀ later final,
    RunWithin (step config) (fun state action => Orderly state action ∧ Spares id action) client
      later final →
    later.countP (·.isOf id) ≤ 4 ∧ ∃ call, final.calls[id]? = some call ∧
      (call.stage = .raised .closed ∨ ∃ callStep, callStep.fails = false ∧
        (final.step config (.act id callStep)).isSome = true)

structure Shut (config : RpcConfig) (client : RpcClient) : Prop where
  closed : client.closed = true
  registry : client.pending.keys = []
  consumers : client.consumers = []
  ends : ∀ id call, client.calls[id]? = some call → Unanswered call → EndsClosed config client id

theorem endsClosed_of_doomed {actions : List RpcAction}
    (run : RunWithin (step config) Orderly {} actions client) (isClosed : client.closed = true)
    (found : client.calls[id]? = some call) (doomed : Doomed call) :
    EndsClosed config client id := by
  intro later final continued
  have orderly {later final} (continued : RunWithin (step config)
      (fun state action => Orderly state action ∧ Spares id action) client later final) :
      Closing config final :=
    closing_of_run (run.append (continued.mono And.left))
  have kept : final.closed = true ∧ ∃ call', final.calls[id]? = some call' ∧ Doomed call' ∧
      later.countP (·.isOf id) + call'.stage.stepsLeft ≤ call.stage.stepsLeft := by
    induction continued with
    | nil => exact ⟨isClosed, call, found, doomed, by simp⟩
    | snoc earlier admitted last ih =>
      obtain ⟨wasClosed, middle, stood, stays, spent⟩ := ih
      obtain ⟨remains, call', located, doomed, lower⟩ :=
        doomed_step (orderly earlier) wasClosed stood stays admitted.2 last
      refine ⟨remains, call', located, doomed, ?_⟩
      rw [countP_append]
      omega
  obtain ⟨remains, call', located, doomed, spent⟩ := kept
  have few : call.stage.stepsLeft ≤ 4 := by
    cases call.stage <;> simp [CallStage.stepsLeft]
  refine ⟨by omega, call', located, or_iff_not_imp_left.mpr fun lasting => ?_⟩
  exact doomed.enabled (orderly continued) remains located lasting

/-- Where no call stands between its check of `_closed` and its registration when a `close` reads
the tag and when it sets the mark, a finished `close` leaves no waiter and no consumer, and a call
that has no reply then ends with `RPCClientClosed`, unless an operation of its own fails. -/
theorem close_leaves_nothing {actions : List RpcAction}
    (run : RunWithin (step config) Orderly {} actions client) (finished : .done ∈ client.closes) :
    Shut config client := by
  have closing := closing_of_run run
  have isClosed := closing.marked _ finished rfl
  obtain ⟨emptied, settled⟩ := closing.emptied isClosed
  refine ⟨isClosed, ?_, closing.cancelled _ finished rfl, fun id call found unanswered => ?_⟩
  · refine eq_nil_iff_forall_not_mem.mpr fun id member => ?_
    have isRegistered := registered_iff.mpr member
    simp [emptied] at isRegistered
  · have answered (waits : call.stage.waits = true) : call.future ≠ .pending := by
      rcases closing.waited found waits with isRegistered | done
      · simp [emptied] at isRegistered
      · exact done
    exact endsClosed_of_doomed run isClosed found
      (.of_unanswered unanswered (settled call (mem_of_getElem? found)) answered)

def closeRecorded : List RpcAction :=
  .close :: [.read, .cancelled true, .closeAll, .reset].map (.actClose 0)

def closeUnrecorded : List RpcAction :=
  .close :: [.read, .closeAll, .reset].map (.actClose 0)

theorem close_leaves_nothing_waiting : ∃ client, RunWithin (step ⟨.blocking, 1, none⟩) Orderly {}
        (.call :: [.check, .recheck, .ensure, .consumeOk, .record, .register, .send,
          .published false].map (.act 0) ++ closeRecorded) client ∧
      .done ∈ client.closes ∧ Shut ⟨.blocking, 1, none⟩ client := by
  refine exists_runWithin_of_check (fun client => .done ∈ client.closes) (by decide +kernel)
    fun client run finished => ?_
  have finished := of_decide_eq_true finished
  exact ⟨finished, close_leaves_nothing run finished⟩

/-- After a finished `close` a waiter is registered and open. -/
def leftWaiting (client : RpcClient) : Bool :=
  client.closes.contains .done && client.pending.keys.contains 0 &&
    client.calls[0]?.any (fun call => call.stage = .waiting && call.future = .pending)

/-- A call registers after `close` and ends with a timeout, and a consumer comes after `close`.  The
asynchronous client has both in one run: `close` is the first to wait for the lock that the
starting call holds. -/
theorem close_leaves_waiter : (∃ client, Run (step ⟨.blocking, 1, none⟩) {}
      (.call :: [.check, .recheck, .ensure, .consumeOk, .record].map (.act 0) ++ closeRecorded ++
        [.register, .send, .published false].map (.act 0)) client ∧ leftWaiting client = true ∧
      ∃ final, Run (step ⟨.blocking, 1, none⟩) client [.act 0 .expire, .act 0 .drop] final ∧
        final.calls.map RpcCall.stage = [.raised .timeout]) ∧
    (∃ client, Run (step ⟨.blocking, 1, none⟩) {}
      (.call :: [.check, .recheck, .ensure].map (.act 0) ++ closeUnrecorded ++
        [.act 0 .consumeOk]) client ∧
      (client.closes.contains .done && client.consumers.contains 0) = true) ∧
    ∃ client, Run (step ⟨.async, 1, none⟩) {}
      (.call :: [.check, .recheck, .ensure].map (.act 0) ++ [.close, .actClose 0 .read,
        .act 0 .consumeOk, .actClose 0 .closeAll, .actClose 0 .reset] ++
        [.register, .send, .published false].map (.act 0)) client ∧
      (leftWaiting client && client.consumers.contains 0) = true := by
  refine ⟨?_, exists_runWithin_of_any _ _ _ _ _ (by decide +kernel),
    exists_runWithin_of_any _ _ _ _ _ (by decide +kernel)⟩
  exact ⟨_, run_of_execute rfl, by decide +kernel, _, run_of_execute rfl, by decide +kernel⟩

end RpcClient
end RabbitKit
