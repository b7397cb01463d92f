import RabbitKit.CallLedger
import RabbitKit.PublishHonesty

/-! # Publishes of the synchronous transport

Only the thread that owns the connection may use it.  `SyncTransport.publish` therefore calls
`basic_publish` on the calling thread, on a helper thread of its own where no consume loop has
ever run, or hands the call as a callback to the loop of the owner and waits for it for a bounded
time.  When the caller of a callback gives up, a lock decides whether the callback has begun: if
not, it never will, and the publish answers `NOT_SENT`.
-/

namespace RabbitKit

open LabelledRun CallLedger PublishVerdict Option

/-- What `basic_publish` raises, as far as the classification looks at it; the refusals are the
close codes of `_PUBLISH_REFUSALS`, and a `ValueError` may mean that the connection died. -/
inductive PikaFailure
  | unroutable
  | nacked
  | timeout
  | closedByBroker (refusal : Option PublishReason)
  | invalid
  | valueError (died : Bool)
  | channelClosed
  | connection
  | other
  deriving DecidableEq

/-- What the send step raises: `_PublishNotSentError`, `_IoLoopStalledError`, the `TimeoutError` of
a wait, or what the library raises. -/
inductive SyncFailure
  | notSent (reason : PublishReason)
  | stalled
  | timeout
  | pika (failure : PikaFailure)
  deriving DecidableEq

/-- `SyncTransport._classify_publish_failure`. -/
def classifySyncFailure : SyncFailure → PublishVerdict
  | .notSent reason => .notSent reason
  | .stalled => .notSent .admissionTimeout
  | .timeout | .pika .timeout => ⟨.timeout, some .confirmTimeout⟩
  | .pika .unroutable => ⟨.returned, some .returned⟩
  | .pika .nacked => ⟨.nacked, some .nacked⟩
  | .pika (.closedByBroker (some refusal)) => .error refusal
  | .pika (.closedByBroker none) | .pika .channelClosed => .unknown .channelClosed
  | .pika .invalid | .pika (.valueError false) => .error .invalidEnvelope
  | .pika (.valueError true) | .pika .connection => .unknown .connectionLost
  | .pika .other => .error .publishError

inductive SyncPublishStage
  | admitting
  | checking
  | reopening
  | connecting
  | building
  | confirming
  | choosing
  | sharing
  | submitting
  | inlining
  | helping
  | marshalled
  | returned (verdict : PublishVerdict)
  | raised
  deriving DecidableEq

/-- Where its `do_publish` stands: handed over, given up before it began, at its checks, past
them, in `basic_publish`, or done. -/
inductive JobStage
  | unstarted
  | queued
  | withdrawn
  | begun
  | checked
  | called
  | ended (failure : Option SyncFailure)
  deriving DecidableEq

structure SyncPublish where
  thread : Nat
  confirmed : Bool
  stage : SyncPublishStage := .admitting
  job : JobStage := .unstarted
  deriving DecidableEq

/-- The flags of the transport that decide which thread publishes; `log` lists the calls of
`basic_publish`. -/
structure SyncPublishing where
  connectionOpen : Bool := false
  owner : Option Nat := none
  consuming : Bool := false
  everConsumed : Bool := false
  everConsumedAny : Bool := false
  publishes : List SyncPublish := []
  log : List Nat := []

inductive SyncAdmission
  | admitted
  | exceeds
  | timeout
  | lost
  deriving DecidableEq

def SyncAdmission.refusal : SyncAdmission → Option PublishReason
  | .admitted => none
  | .exceeds => some .exceedsByteBudget
  | .timeout => some .admissionTimeout
  | .lost => some .notConnected

inductive SyncPublishStep
  | reserve (admission : SyncAdmission)
  | check (connected : Bool)
  | reopen (reopened : Bool)
  | connect (connected : Bool)
  | build (valid needsConfirms : Bool)
  | confirm (enabled : Bool)
  | choose
  | share (failure : Option PikaFailure)
  | submit (failure : Option PikaFailure)
  | receive
  | giveUp
  | interrupt
  deriving DecidableEq

/-- The channel that the publish has taken from the transport; it may have been dropped. -/
inductive PublisherChannel
  | missing
  | closed
  | opened
  deriving DecidableEq

inductive JobStep
  | start
  | check (channel : PublisherChannel)
  | call
  | finish (failure : Option PikaFailure)
  deriving DecidableEq

inductive SyncPublishAction
  | publish (thread : Nat) (confirmed : Bool)
  | act (id : Nat) (step : SyncPublishStep)
  | job (id : Nat) (step : JobStep)
  | connect (thread : Nat)
  | loseConnection
  | startConsuming (thread : Nat)
  | stopConsuming
  | disconnect
  deriving DecidableEq

/-- What `_publish_on_channel_unreported` returns once `do_publish` is done. -/
def SyncPublish.outcome (publish : SyncPublish) : Option SyncFailure → PublishVerdict
  | some failure => classifySyncFailure failure
  | none => ⟨if publish.confirmed then .confirmed else .sent, none⟩

namespace SyncPublishing

variable (state : SyncPublishing)

def put (id : Nat) (publish : SyncPublish) : SyncPublishing :=
  { state with publishes := state.publishes.set id publish }

def shared : Bool := state.everConsumed || state.everConsumedAny

def answer (id : Nat) (publish : SyncPublish) (verdict : PublishVerdict) : Option SyncPublishing :=
  some (state.put id { publish with stage := .returned verdict })

def goOn (id : Nat) (publish : SyncPublish) (stage : SyncPublishStage) : Option SyncPublishing :=
  some (state.put id { publish with stage := stage })

def goOnOr (id : Nat) (publish : SyncPublish) (ok : Bool) (stage : SyncPublishStage)
    (reason : PublishReason) : Option SyncPublishing :=
  if ok then state.goOn id publish stage else state.answer id publish (.notSent reason)

/-- `_run_on_io_thread` on the I/O thread itself. -/
def inline (id : Nat) (publish : SyncPublish) : Option SyncPublishing :=
  some (state.put id { publish with stage := .inlining, job := .begun })

/-- `do_publish` is handed to another thread, unless that fails. -/
def handOver (id : Nat) (publish : SyncPublish) (stage : SyncPublishStage) :
    Option PikaFailure → Option SyncPublishing
  | some failure => state.answer id publish (classifySyncFailure (.pika failure))
  | none => some (state.put id { publish with stage := stage, job := .queued })

/-- The thread on which `_run_on_io_thread` runs a job. -/
def choose (id : Nat) (publish : SyncPublish) : Option SyncPublishing :=
  if state.owner = some publish.thread ∧ state.everConsumed = true then state.inline id publish
  else state.goOn id publish .sharing

def share (id : Nat) (publish : SyncPublish) (failure : Option PikaFailure) :
    Option SyncPublishing :=
  if state.shared then state.goOn id publish .submitting
  else state.handOver id publish .helping failure

/-- `_run_on_io_thread`, as far as the callback is handed over. -/
def submit (id : Nat) (publish : SyncPublish) (failure : Option PikaFailure) :
    Option SyncPublishing :=
  if state.owner = some publish.thread ∨ state.shared = false then state.inline id publish
  else state.handOver id publish .marshalled failure

/-- The bounded wait is over.  A helper thread goes on with references of its own, so the
connection is dropped; a callback is withdrawn if it has not begun. -/
def giveUp (id : Nat) (publish : SyncPublish) : SyncPublishStage → Option SyncPublishing
  | .helping =>
    { state with
      connectionOpen := false
      owner := none
      everConsumed := false }.answer id publish (classifySyncFailure .timeout)
  | .marshalled =>
    if publish.job = .queued then
      state.answer id { publish with job := .withdrawn } (classifySyncFailure .stalled)
    else state.answer id publish (classifySyncFailure .timeout)
  | _ => none

def receive (id : Nat) (publish : SyncPublish) : JobStage → Option SyncPublishing
  | .ended failure => state.answer id publish (publish.outcome failure)
  | _ => none

/-- A step of the thread that publishes. -/
def advance (id : Nat) (publish : SyncPublish) : SyncPublishStep → SyncPublishStage →
    Option SyncPublishing
  | .reserve admission, .admitting =>
    match admission.refusal with
    | some reason => state.answer id publish (.notSent reason)
    | none => state.goOn id publish .checking
  | .check connected, .checking =>
    state.goOn id publish
      (if state.shared = true ∧ (state.owner ≠ some publish.thread ∨ state.consuming = true) ∧
        connected = false then .reopening else .connecting)
  | .reopen reopened, .reopening => state.goOnOr id publish reopened .connecting .notConnected
  | .connect connected, .connecting => state.goOnOr id publish connected .building .notConnected
  | .build valid needsConfirms, .building =>
    if valid then state.goOn id publish (if needsConfirms then .confirming else .choosing)
    else state.answer id publish (.error .invalidEnvelope)
  | .confirm enabled, .confirming =>
    state.goOnOr id publish enabled .choosing .channelUnavailable
  | .choose, .choosing => state.choose id publish
  | .share failure, .sharing => state.share id publish failure
  | .submit failure, .submitting => state.submit id publish failure
  | .receive, .inlining | .receive, .helping | .receive, .marshalled =>
    state.receive id publish publish.job
  | .giveUp, stage => state.giveUp id publish stage
  | .interrupt, .returned _ | .interrupt, .raised => none
  | .interrupt, _ => state.goOn id publish .raised
  | _, _ => none

/-- The checks of `do_publish` right before the call. -/
def checked (channel : PublisherChannel) : JobStage :=
  if state.connectionOpen = false then .ended (some (.notSent .notConnected))
  else
    match channel with
    | .missing => .ended (some (.pika .other))
    | .closed => .ended (some (.notSent .channelUnavailable))
    | .opened => .checked

/-- `do_publish`, on whichever thread runs it.  A withdrawn callback does nothing. -/
def advanceJob (id : Nat) (publish : SyncPublish) : JobStep → JobStage → Option SyncPublishing
  | .start, .queued => some (state.put id { publish with job := .begun })
  | .check channel, .begun => some (state.put id { publish with job := state.checked channel })
  | .call, .checked =>
    some ({ state with log := state.log ++ [id] }.put id { publish with job := .called })
  | .finish failure, .called =>
    some (state.put id { publish with job := .ended (failure.map .pika) })
  | _, _ => none

/-- `publish` and `_run_on_io_thread`, section by section. -/
def step : SyncPublishAction → Option SyncPublishing
  | .publish thread confirmed =>
    let joined : SyncPublish := { thread := thread, confirmed := confirmed }
    some { state with publishes := state.publishes ++ [joined] }
  | .act id publishStep =>
    state.publishes[id]?.bind fun publish => state.advance id publish publishStep publish.stage
  | .job id jobStep =>
    state.publishes[id]?.bind fun publish => state.advanceJob id publish jobStep publish.job
  | .connect thread => some { state with connectionOpen := true, owner := some thread }
  | .loseConnection => some { state with connectionOpen := false }
  | .startConsuming thread =>
    some { state with
      consuming := true
      everConsumed := true
      everConsumedAny := true
      owner := some thread }
  | .stopConsuming => some { state with consuming := false }
  | .disconnect =>
    some { state with connectionOpen := false, owner := none, everConsumed := false }

end SyncPublishing

theorem classifySyncFailure_pika (failure : PikaFailure) :
    (classifySyncFailure (.pika failure)).status ≠ .notSent := by
  cases failure with
  | closedByBroker refusal =>
    cases refusal <;> simp [classifySyncFailure, error, unknown]
  | valueError died =>
    cases died <;> simp [classifySyncFailure, error, unknown]
  | _ => simp [classifySyncFailure, error, unknown]

namespace JobStage

def unsent : JobStage → Bool
  | .unstarted | .queued | .withdrawn | .begun | .checked => true
  | .called | .ended none => false
  | .ended (some failure) => (classifySyncFailure failure).status = .notSent

def dead : JobStage → Bool
  | .unstarted | .withdrawn => true
  | .queued | .begun | .checked | .called | .ended none => false
  | .ended (some failure) => (classifySyncFailure failure).status = .notSent

theorem unsent_of_dead {job : JobStage} (dead : job.dead = true) : job.unsent = true := by
  cases job with
  | unstarted | withdrawn => rfl
  | ended failure =>
    cases failure with
    | none => cases dead
    | some => exact dead
  | _ => cases dead

end JobStage

namespace SyncPublishStage

/-- `do_publish` has not been handed to any thread. -/
def early : SyncPublishStage → Bool
  | .admitting | .checking | .reopening | .connecting | .building | .confirming | .choosing
  | .sharing | .submitting => true
  | _ => false

def verdict? : SyncPublishStage → Option PublishVerdict
  | .returned verdict => some verdict
  | _ => none

end SyncPublishStage

namespace SyncPublish

variable {publish publish' : SyncPublish} {stage : SyncPublishStage} {job : JobStage}

/-- An early publish has no job, and one that has answered `NOT_SENT` has none that could still
make the call. -/
structure Sound (publish : SyncPublish) : Prop where
  early : publish.stage.early = true → publish.job = .unstarted
  notSent : ∀ verdict, publish.stage = .returned verdict → verdict.status = .notSent →
    publish.job.dead = true

structure Moves (publish publish' : SyncPublish) : Prop where
  sound : publish.Sound → publish'.Sound
  unsent : publish.Sound → publish'.job.unsent = true → publish.job.unsent = true
  lasting : publish.stage.verdict? = none ∨ publish'.stage = publish.stage

theorem moves_goOn (lasting : publish.stage.verdict? = none)
    (early : stage.early = true → publish.stage.early = true) (open' : stage.verdict? = none) :
    Moves publish { publish with stage := stage } := by
  refine ⟨fun sound => ⟨fun now => sound.early (early now), ?_⟩, fun _ same => same, .inl lasting⟩
  rintro verdict rfl
  cases open'

theorem moves_answer {verdict : PublishVerdict} (lasting : publish.stage.verdict? = none)
    (honest : verdict.status = .notSent → publish.stage.early = true ∨ publish.job.dead = true) :
    Moves publish { publish with stage := .returned verdict } := by
  refine ⟨fun sound => ⟨by simp [SyncPublishStage.early], ?_⟩, fun _ same => same, .inl lasting⟩
  rintro _ ⟨rfl⟩ unsent
  rcases honest unsent with early | dead
  · rw [show ({ publish with stage := .returned verdict } : SyncPublish).job = .unstarted from
      sound.early early]
    rfl
  · exact dead

theorem moves_begun (early : publish.stage.early = true) (later : stage.early = false)
    (open' : stage.verdict? = none) :
    Moves publish { publish with stage := stage, job := job } := by
  refine ⟨fun _ => ⟨by simp [later], ?_⟩, fun sound _ => ?_, .inl ?_⟩
  · rintro verdict rfl
    cases open'
  · rw [sound.early early]
    rfl
  · generalize publish.stage = before at early
    cases before <;> first | rfl | cases early

theorem moves_job (alive : publish.job.dead = false)
    (unsent : job.unsent = true → publish.job.unsent = true) :
    Moves publish { publish with job := job } := by
  refine ⟨fun sound => ⟨fun early => ?_, fun verdict returned status => ?_⟩, fun _ => unsent,
    .inr rfl⟩
  · rw [sound.early early] at alive
    cases alive
  · rw [sound.notSent verdict returned status] at alive
    cases alive

end SyncPublish

namespace SyncPublishing

variable {state state' shared : SyncPublishing} {id : Nat} {publish publish' : SyncPublish}
variable {publishStep : SyncPublishStep} {jobStep : JobStep} {action : SyncPublishAction}

inductive Stepped (state : SyncPublishing) : SyncPublishing → Prop
  | joined (thread : Nat) (confirmed : Bool) :
      Stepped state { state with
        publishes := state.publishes ++ [{ thread := thread, confirmed := confirmed }] }
  | flagged {shared : SyncPublishing} (publishes : shared.publishes = state.publishes)
      (log : shared.log = state.log) : Stepped state shared
  | moved {shared : SyncPublishing} {id : Nat} {publish publish' : SyncPublish}
      (publishes : shared.publishes = state.publishes) (log : shared.log = state.log)
      (found : state.publishes[id]? = some publish) (moves : publish.Moves publish') :
      Stepped state (shared.put id publish')
  | called {id : Nat} {publish : SyncPublish} (found : state.publishes[id]? = some publish)
      (was : publish.job = .checked) :
      Stepped state
        ({ state with log := state.log ++ [id] }.put id { publish with job := .called })

section Caller

variable {before stage : SyncPublishStage} (found : state.publishes[id]? = some publish)
  (was : publish.stage = before)

include found was

theorem stepped_answer {verdict : PublishVerdict} (lasting : before.verdict? = none)
    (honest : verdict.status = .notSent → before.early = true ∨ publish.job.dead = true)
    (taken : state.answer id publish verdict = some state') : Stepped state state' := by
  subst was
  cases taken
  exact .moved rfl rfl found (SyncPublish.moves_answer lasting honest)

theorem stepped_goOn (lasting : before.verdict? = none)
    (early : stage.early = true → before.early = true) (open' : stage.verdict? = none)
    (taken : state.goOn id publish stage = some state') : Stepped state state' := by
  subst was
  cases taken
  exact .moved rfl rfl found (SyncPublish.moves_goOn lasting early open')

theorem stepped_goOnOr {ok : Bool} {reason : PublishReason} (early : before.early = true)
    (lasting : before.verdict? = none) (open' : stage.verdict? = none)
    (taken : state.goOnOr id publish ok stage reason = some state') : Stepped state state' := by
  unfold goOnOr at taken
  split at taken
  · exact stepped_goOn found was lasting (fun _ => early) open' taken
  · exact stepped_answer found was lasting (fun _ => .inl early) taken

theorem stepped_inline (early : before.early = true)
    (taken : state.inline id publish = some state') : Stepped state state' := by
  subst was
  cases taken
  exact .moved rfl rfl found (SyncPublish.moves_begun early rfl rfl)

theorem stepped_handOver {failure : Option PikaFailure} (early : before.early = true)
    (lasting : before.verdict? = none) (later : stage.early = false) (open' : stage.verdict? = none)
    (taken : state.handOver id publish stage failure = some state') : Stepped state state' := by
  cases failure with
  | some failure => exact stepped_answer found was lasting (fun _ => .inl early) taken
  | none =>
    subst was
    cases taken
    exact .moved rfl rfl found (SyncPublish.moves_begun early later open')

/-- The answer is that of the job, and `NOT_SENT` only if the job has not made the call. -/
theorem stepped_receive (lasting : before.verdict? = none)
    (taken : state.receive id publish publish.job = some state') : Stepped state state' := by
  unfold receive at taken
  split at taken
  next failure ended =>
    refine stepped_answer found was lasting (fun unsent => .inr ?_) taken
    rw [ended]
    cases failure with
    | none =>
      simp only [SyncPublish.outcome] at unsent
      split at unsent <;> cases unsent
    | some failure => exact decide_eq_true unsent
  · cases taken

theorem stepped_giveUp (taken : state.giveUp id publish before = some state') :
    Stepped state state' := by
  unfold giveUp at taken
  split at taken
  · cases taken
    refine .moved ?_ ?_ found (SyncPublish.moves_answer ?_ ?_)
    · rfl
    · rfl
    · rw [was]; rfl
    · intro unsent
      cases unsent
  · split at taken
    next queued =>
      cases taken
      refine .moved rfl rfl found ⟨fun _ => ⟨by simp [SyncPublishStage.early], fun _ _ _ => rfl⟩,
        fun _ _ => ?_, .inl ?_⟩
      · rw [queued]; rfl
      · rw [was]; rfl
    · refine stepped_answer found was rfl (fun unsent => ?_) taken
      cases unsent
  · cases taken

theorem stepped_advance (taken : state.advance id publish publishStep before = some state') :
    Stepped state state' := by
  cases publishStep with
  | reserve admission =>
    cases before with
    | admitting =>
      simp only [advance] at taken
      split at taken
      · exact stepped_answer found was rfl (fun _ => .inl rfl) taken
      · exact stepped_goOn found was rfl (fun _ => rfl) rfl taken
    | _ => cases taken
  | check connected =>
    cases before with
    | checking => exact stepped_goOn found was rfl (fun _ => rfl) (by split <;> rfl) taken
    | _ => cases taken
  | reopen reopened =>
    cases before with
    | reopening => exact stepped_goOnOr found was rfl rfl rfl taken
    | _ => cases taken
  | connect connected =>
    cases before with
    | connecting => exact stepped_goOnOr found was rfl rfl rfl taken
    | _ => cases taken
  | build valid needsConfirms =>
    cases before with
    | building =>
      cases valid with
      | true => exact stepped_goOn found was rfl (fun _ => rfl) (by split <;> rfl) taken
      | false => exact stepped_answer found was rfl (fun _ => .inl rfl) taken
    | _ => cases taken
  | confirm enabled =>
    cases before with
    | confirming => exact stepped_goOnOr found was rfl rfl rfl taken
    | _ => cases taken
  | choose =>
    cases before with
    | choosing =>
      simp only [advance, choose] at taken
      split at taken
      · exact stepped_inline found was rfl taken
      · exact stepped_goOn found was rfl (fun _ => rfl) rfl taken
    | _ => cases taken
  | share failure =>
    cases before with
    | sharing =>
      simp only [advance, share] at taken
      split at taken
      · exact stepped_goOn found was rfl (fun _ => rfl) rfl taken
      · exact stepped_handOver found was rfl rfl rfl rfl taken
    | _ => cases taken
  | submit failure =>
    cases before with
    | submitting =>
      simp only [advance, submit] at taken
      split at taken
      · exact stepped_inline found was rfl taken
      · exact stepped_handOver found was rfl rfl rfl rfl taken
    | _ => cases taken
  | receive =>
    cases before with
    | inlining | helping | marshalled => exact stepped_receive found was rfl taken
    | _ => cases taken
  | giveUp => exact stepped_giveUp found was taken
  | interrupt =>
    cases before with
    | returned | raised => cases taken
    | _ => exact stepped_goOn found was rfl (by simp [SyncPublishStage.early]) rfl taken

end Caller

theorem stepped_advanceJob (found : state.publishes[id]? = some publish)
    (taken : state.advanceJob id publish jobStep publish.job = some state') :
    Stepped state state' := by
  unfold advanceJob at taken
  split at taken
  next was =>
    cases taken
    refine .moved rfl rfl found (SyncPublish.moves_job ?_ fun _ => ?_) <;> rw [was] <;> rfl
  next was =>
    cases taken
    refine .moved rfl rfl found (SyncPublish.moves_job ?_ fun _ => ?_) <;> rw [was] <;> rfl
  next was =>
    cases taken
    exact .called found was
  next failure was =>
    cases taken
    refine .moved rfl rfl found (SyncPublish.moves_job ?_ fun unsent => ?_)
    · rw [was]; rfl
    · cases failure with
      | none => cases unsent
      | some failure => exact absurd (of_decide_eq_true unsent) (classifySyncFailure_pika failure)
  · cases taken

theorem stepped (taken : state.step action = some state') : Stepped state state' := by
  cases action with
  | publish thread confirmed =>
    cases taken
    exact .joined thread confirmed
  | act id publishStep =>
    obtain ⟨publish, found, moved⟩ := bind_eq_some_iff.mp taken
    exact stepped_advance found rfl moved
  | job id jobStep =>
    obtain ⟨publish, found, moved⟩ := bind_eq_some_iff.mp taken
    exact stepped_advanceJob found moved
  | connect | loseConnection | startConsuming | stopConsuming | disconnect =>
    cases taken
    exact .flagged rfl rfl

def Untouched (state : SyncPublishing) (id : Nat) : Prop :=
  ∀ publish, state.publishes[id]? = some publish → publish.job.unsent = true

structure Accounted (state : SyncPublishing) : Prop where
  clean : Clean state.log state.Untouched
  sound : ∀ {id : Nat} {publish : SyncPublish}, state.publishes[id]? = some publish →
    publish.Sound

theorem untouched_put (found : state.publishes[id]? = some publish)
    (publishes : shared.publishes = state.publishes)
    (unsent : publish'.job.unsent = true → publish.job.unsent = true) (party : Nat)
    (untouched : (shared.put id publish').Untouched party) : state.Untouched party := by
  intro other located
  rw [Untouched, put, publishes] at untouched
  rcases getElem?_moved publish' found located with ⟨rfl, now⟩ | stands
  · exact unsent (untouched publish' now)
  · exact untouched other stands

variable {answer : PublishVerdict} {other : Nat}

theorem sound_put (accounted : Accounted state) (found : state.publishes[id]? = some publish)
    (publishes : shared.publishes = state.publishes) (sound : publish'.Sound)
    {party : SyncPublish} (located : (shared.put id publish').publishes[other]? = some party) :
    party.Sound := by
  rw [put, publishes] at located
  rcases getElem?_of_moved found located with ⟨_, rfl⟩ | ⟨_, stood⟩
  · exact sound
  · exact accounted.sound stood

theorem accounted_step (accounted : Accounted state) (taken : state.step action = some state') :
    Accounted state' := by
  cases stepped taken with
  | joined thread confirmed =>
    constructor
    · refine accounted.clean.writes (.nothing fun party untouched publish located => ?_)
      have inBounds := (List.getElem?_eq_some_iff.mp located).1
      exact untouched publish ((List.getElem?_append_left inBounds).trans located)
    · intro id publish located
      rcases getElem?_of_joined located with stood | ⟨_, rfl⟩
      · exact accounted.sound stood
      · exact ⟨fun _ => rfl, by simp⟩
  | flagged publishes log =>
    constructor
    · rw [log]
      refine accounted.clean.writes (.nothing fun party untouched => ?_)
      rwa [Untouched, publishes] at untouched
    · rw [publishes]
      exact accounted.sound
  | @moved shared id publish publish' publishes log found moves =>
    have sound := accounted.sound found
    constructor
    · rw [show (shared.put id publish').log = state.log from log]
      exact accounted.clean.writes (.nothing (untouched_put found publishes (moves.unsent sound)))
    · exact sound_put accounted found publishes (moves.sound sound)
  | @called id publish found was =>
    have alive : publish.job.dead = false := by rw [was]; rfl
    have unsent : publish.job.unsent = true := by rw [was]; rfl
    have inBounds := (List.getElem?_eq_some_iff.mp found).1
    constructor
    · refine accounted.clean.writes (.entry ?_ ?_ (untouched_put found ?_ fun _ => unsent))
      · intro other located
        cases found.symm.trans located
        exact unsent
      · intro untouched
        have still := untouched { publish with job := .called } (by simp [put, inBounds])
        cases still
      · rfl
    · refine sound_put accounted found ?_ ((SyncPublish.moves_job alive ?_).sound
        (accounted.sound found))
      · rfl
      · exact fun _ => unsent

def verdict (state : SyncPublishing) (id : Nat) : Option PublishVerdict :=
  state.publishes[id]?.bind fun publish => publish.stage.verdict?

theorem verdict_put (found : state.publishes[id]? = some publish)
    (publishes : shared.publishes = state.publishes)
    (lasting : publish.stage.verdict? = none ∨ publish'.stage = publish.stage)
    (answered : state.verdict other = some answer) :
    (shared.put id publish').verdict other = some answer := by
  obtain ⟨party, located, same⟩ := bind_eq_some_iff.mp answered
  rw [verdict, put, publishes]
  rcases getElem?_moved publish' found located with ⟨rfl, now⟩ | stands
  · rcases lasting with unanswered | kept
    · cases unanswered.symm.trans same
    · simpa [now, kept] using same
  · simpa [stands] using same

theorem verdict_step (taken : state.step action = some state')
    (answered : state.verdict id = some answer) : state'.verdict id = some answer := by
  cases stepped taken with
  | joined =>
    obtain ⟨publish, found, same⟩ := Option.bind_eq_some_iff.mp answered
    have inBounds := (List.getElem?_eq_some_iff.mp found).1
    simp [verdict, List.getElem?_append_left inBounds, found, same]
  | flagged publishes =>
    rw [verdict, publishes]
    exact answered
  | moved publishes _ found moves => exact verdict_put found publishes moves.lasting answered
  | called found =>
    refine verdict_put found ?_ (.inr ?_) answered
    · rfl
    · rfl

/-- The synchronous transport is honest. -/
theorem syncPublish_honest : HonestPublisher step {} log verdict := by
  refine honestPublisher_of_invariant Accounted ?_ accounted_step (fun held => held.clean.nodup)
    ?_ fun _ => verdict_step
  · exact ⟨clean_nil _, by simp⟩
  · intro state id answer accounted answered unsent
    obtain ⟨publish, found, same⟩ := bind_eq_some_iff.mp answered
    have returned : publish.stage = .returned answer := by
      generalize publish.stage = stage at same
      cases stage with
      | returned verdict =>
        cases same
        rfl
      | _ => cases same
    have dead := (accounted.sound found).notSent answer returned unsent
    refine accounted.clean.absent id fun other located => ?_
    cases found.symm.trans located
    exact JobStage.unsent_of_dead dead

/-- A worker thread gives up while its callback is still queued; the loop runs the callback later,
and it does not begin. -/
example :
    (execute step {} [.connect 0, .startConsuming 0, .publish 1 true, .act 0 (.reserve .admitted),
      .act 0 (.check true), .act 0 (.connect true), .act 0 (.build true false), .act 0 .choose,
      .act 0 (.share none), .act 0 (.submit none), .act 0 .giveUp]).map
        (fun state => (state.verdict 0, state.log, (state.step (.job 0 .start)).isSome)) =
      some (some (.notSent .admissionTimeout), [], false) := by
  decide +kernel

end SyncPublishing
end RabbitKit
