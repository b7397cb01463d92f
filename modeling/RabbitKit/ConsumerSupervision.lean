import RabbitKit.LabelledRun

/-! # Supervision of a consumer

The server may cancel a consumer.  The client library then drops its tag from the channel and, in
versions that can, calls back.  `ConsumerSupervisor` marks the record of the consumer, by that
callback or by two passes that miss the tag, and a later pass subscribes again.  The client library
re-subscribes by itself as well, and restores the consumer after a reconnect.
-/

namespace RabbitKit

open LabelledRun Option

/-- Where the pass over a record stands: it waits for the channel below, for the probe of the
queue, for its own `consume`, or it has been answered and has not resumed. -/
inductive SupervisionPass
  | idle
  | fetching
  | probing (underlay : Nat)
  | subscribing
  | subscribed
  deriving DecidableEq

/-- A record with its channel: `underlay` is the number of the channel below, `present` says that
the tag is in its table, `cancelled` that it is not because the server has cancelled it. -/
structure ConsumerSupervision where
  stopped : Bool := false
  brokerCancelled : Bool := false
  watched : Option Nat := none
  confirmed : Bool := false
  missed : Nat := 0
  pass : SupervisionPass := .idle
  underlay : Nat := 0
  channelOpen : Bool := true
  present : Bool := true
  cancelled : Bool := false
  deriving DecidableEq

inductive SupervisionAction
  | serverCancel
  | restore
  | lose
  | reconnect
  | stop
  | attach
  | begin
  | unavailable
  | observe (due : Bool)
  | probed (found stale : Bool)
  | consumeOk
  | duplicate
  | consumeFails
  | resume
  deriving DecidableEq

namespace ConsumerSupervision

variable (callbacks : Bool) (state : ConsumerSupervision)

/-- `ConsumerSupervisor._mark_cancelled`. -/
def markCancelled : ConsumerSupervision := { state with brokerCancelled := true, missed := 0 }

/-- `ConsumerSupervisor._mark_resumed`. -/
def markResumed : ConsumerSupervision := { state with brokerCancelled := false, missed := 0 }

def finishPass : ConsumerSupervision := { state with pass := .idle }

/-- `_watch`; `callbacks` says whether the client library has cancel callbacks. -/
def watch : ConsumerSupervision :=
  if state.watched = some state.underlay ∨ callbacks = false then state
  else { state with watched := some state.underlay, confirmed := false }

def confirm : ConsumerSupervision :=
  if state.present = true ∧ state.watched = some state.underlay then
    { state with confirmed := true }
  else state

/-- `_on_cancel_frame`, if it is attached to the channel. -/
def onCancelFrame : ConsumerSupervision :=
  if state.watched = some state.underlay ∧ state.stopped = false ∧
      state.brokerCancelled = false then state.markCancelled
  else state

/-- The rest of `_check` for a marked record, up to the probe of `_try_resubscribe`. -/
def recover (due : Bool) : ConsumerSupervision :=
  if state.present then state.markResumed.finishPass
  else if due then { state with pass := .probing state.underlay }
  else state.finishPass

/-- `_check` from the channel below on. -/
def check (due : Bool) : ConsumerSupervision :=
  if state.brokerCancelled then state.recover due
  else if state.present = true ∨ state.confirmed = true then
    { state with missed := 0 }.finishPass
  else if state.missed + 1 < 2 then { state with missed := state.missed + 1 }.finishPass
  else state.markCancelled.recover due

def listed (underlay : Nat) (stale : Bool) : Bool :=
  if underlay = state.underlay then state.present else stale

/-- `_try_resubscribe` after the probe. -/
def probed (underlay : Nat) (found stale : Bool) : ConsumerSupervision :=
  if found = false ∨ state.stopped = true then state.finishPass
  else if state.listed underlay stale then state.markResumed.finishPass
  else { state with pass := .subscribing }

/-- After `consume`; a consumer stopped meanwhile is cancelled again. -/
def resume : ConsumerSupervision :=
  if state.stopped then { state with present := false }.finishPass
  else state.markResumed.finishPass

def step : SupervisionAction → Option ConsumerSupervision
  | .serverCancel =>
    if state.channelOpen ∧ state.present then
      some { state with present := false, cancelled := true }.onCancelFrame
    else none
  | .restore =>
    if state.channelOpen ∧ state.present = false then
      some { state with present := true, cancelled := false }
    else none
  | .lose => some { state with channelOpen := false, present := false, cancelled := false }
  | .reconnect =>
    if state.channelOpen then none
    else some { state with channelOpen := true, underlay := state.underlay + 1 }
  | .stop => some { state with stopped := true }
  -- `register`, whose wait for the channel is over before the first probe is due
  | .attach =>
    if state.channelOpen ∧ (state.pass = .idle ∨ state.pass = .fetching) then
      some (state.watch callbacks).confirm
    else none
  | .begin =>
    if state.pass = .idle ∧ state.stopped = false then
      some (if state.channelOpen then { state with pass := .fetching }
        else { state with missed := 0 })
    else none
  | .unavailable => if state.pass = .fetching then some state.finishPass else none
  | .observe due =>
    if state.pass = .fetching ∧ state.channelOpen then
      some ((state.watch callbacks).confirm.check due)
    else none
  | .probed found stale =>
    match state.pass with
    | .probing underlay => some (state.probed underlay found stale)
    | _ => none
  | .consumeOk =>
    if state.pass = .subscribing ∧ state.channelOpen ∧ state.present = false then
      some { state with pass := .subscribed, present := true, cancelled := false }
    else none
  | .duplicate =>
    if state.pass = .subscribing ∧ state.present then some state.resume else none
  | .consumeFails => if state.pass = .subscribing then some state.finishPass else none
  | .resume => if state.pass = .subscribed then some state.resume else none

/-- A pass with nothing else in between, up to its first wait after the channel below. -/
def passOnce (due : Bool) : Option ConsumerSupervision :=
  if state.pass = .fetching then step callbacks state (.observe due)
  else execute (step callbacks) state [.begin, .observe due]

def Seen : Prop := state.confirmed = true ∧ state.watched = some state.underlay

instance : Decidable state.Seen := by
  unfold Seen
  infer_instance

/-- The server does not cancel the consumer between the answer to the supervisor's own `consume`
and the moment its pass resumes, if the tag has been seen on the channel. -/
def Spared : SupervisionAction → Prop
  | .serverCancel => state.pass = .subscribed → ¬ state.Seen
  | _ => True

instance : DecidablePred (Spared state) := fun action => by
  unfold Spared
  split <;> infer_instance

/-- A cancel on a channel where the tag was seen is noticed, and no pass is about to forget it. -/
structure Noticed : Prop where
  bounded : ∀ watched ∈ state.watched, watched ≤ state.underlay
  mode : callbacks = false → state.watched = none
  unwatched : state.watched = none → state.confirmed = false
  absent : state.cancelled = true → state.present = false ∧ state.channelOpen = true
  marked : state.cancelled = true → state.stopped = false → state.Seen →
    state.brokerCancelled = true ∧ state.pass ≠ .subscribed
  trying : state.pass ≠ .idle → state.pass ≠ .fetching → state.brokerCancelled = true
  stale : ∀ underlay, state.pass = .probing underlay → underlay ≠ state.underlay →
    state.watched ≠ some state.underlay

section Steps

variable {callbacks state} {state' : ConsumerSupervision} {action : SupervisionAction}

section

variable (held : Noticed callbacks state)
include held

theorem noticed_watch (early : state.pass = .idle ∨ state.pass = .fetching) :
    Noticed callbacks (state.watch callbacks) := by
  unfold watch
  split
  · exact held
  next unwatched =>
    refine ⟨by simp, fun poll => ?_, by simp, held.absent, ?_, held.trying, ?_⟩
    · exact absurd (.inr poll) unwatched
    · rintro _ _ ⟨confirmed, _⟩
      cases confirmed
    · intro underlay probing
      rcases early with idle | fetching
      · cases idle.symm.trans probing
      · cases fetching.symm.trans probing

theorem noticed_confirm : Noticed callbacks state.confirm := by
  unfold confirm
  split
  next seen =>
    refine ⟨held.bounded, held.mode, fun unwatched => ?_, held.absent, fun lost => ?_,
      held.trying, held.stale⟩
    · cases unwatched.symm.trans seen.2
    · cases (held.absent lost).1.symm.trans seen.1
  · exact held

theorem noticed_finishPass : Noticed callbacks state.finishPass :=
  ⟨held.bounded, held.mode, held.unwatched, held.absent,
    fun lost kept seen => ⟨(held.marked lost kept seen).1, by simp [finishPass]⟩,
    fun busy => absurd rfl busy, by simp [finishPass]⟩

theorem noticed_markCancelled : Noticed callbacks state.markCancelled :=
  ⟨held.bounded, held.mode, held.unwatched, held.absent,
    fun lost kept seen => ⟨rfl, (held.marked lost kept seen).2⟩, fun _ _ => rfl, held.stale⟩

theorem noticed_markResumed
    (unseen : state.cancelled = true → state.stopped = false → ¬ state.Seen) :
    Noticed callbacks state.markResumed.finishPass :=
  ⟨held.bounded, held.mode, held.unwatched, held.absent,
    fun lost kept seen => absurd seen (unseen lost kept), fun busy => absurd rfl busy,
    by simp [finishPass]⟩

theorem noticed_fetching : Noticed callbacks { state with pass := .fetching } :=
  ⟨held.bounded, held.mode, held.unwatched, held.absent,
    fun lost kept seen => ⟨(held.marked lost kept seen).1, by simp⟩,
    fun _ busy => absurd rfl busy, by simp⟩

theorem noticed_missed (missed : Nat) : Noticed callbacks { state with missed := missed } :=
  ⟨held.bounded, held.mode, held.unwatched, held.absent, held.marked, held.trying, held.stale⟩

theorem not_cancelled_of_present (present : state.present = true)
    (lost : state.cancelled = true) : False := by
  cases (held.absent lost).1.symm.trans present

theorem noticed_recover (marked : state.brokerCancelled = true)
    (due : Bool) : Noticed callbacks (state.recover due) := by
  unfold recover
  split
  next present =>
    exact noticed_markResumed held fun lost => (not_cancelled_of_present held present lost).elim
  · split
    · exact ⟨held.bounded, held.mode, held.unwatched, held.absent,
        fun _ _ _ => ⟨marked, by simp⟩, fun _ _ => marked, by simp⟩
    · exact noticed_finishPass held

theorem noticed_check (due : Bool) : Noticed callbacks (state.check due) := by
  unfold check
  split
  next marked =>
    exact noticed_recover held marked due
  · split
    · exact noticed_finishPass (noticed_missed held 0)
    · split
      · exact noticed_finishPass (noticed_missed held _)
      · exact noticed_recover (noticed_markCancelled held) rfl due

theorem noticed_probed {underlay : Nat} {found stale : Bool}
    (probing : state.pass = .probing underlay) :
    Noticed callbacks (state.probed underlay found stale) := by
  unfold probed
  split
  · exact noticed_finishPass held
  · split
    next listed =>
      refine noticed_markResumed held fun lost _ seen => ?_
      unfold ConsumerSupervision.listed at listed
      split at listed
      · exact not_cancelled_of_present held listed lost
      next old =>
        exact held.stale underlay probing old seen.2
    · exact ⟨held.bounded, held.mode, held.unwatched, held.absent,
        fun lost kept seen => ⟨(held.marked lost kept seen).1, by simp⟩,
        fun _ _ => held.trying (by simp [probing]) (by simp [probing]), by simp⟩

theorem noticed_resume (unseen : state.cancelled = true → state.stopped = false → ¬ state.Seen) :
    Noticed callbacks state.resume := by
  unfold resume
  split
  next stopped =>
    refine ⟨held.bounded, held.mode, held.unwatched, fun lost => ⟨rfl, (held.absent lost).2⟩,
      fun _ kept => ?_, fun busy => absurd rfl busy, by simp [finishPass]⟩
    cases stopped.symm.trans kept
  · exact noticed_markResumed held unseen

theorem noticed_serverCancel
    (spared : state.pass = .subscribed → ¬ state.Seen) (opened : state.channelOpen = true) :
    Noticed callbacks { state with present := false, cancelled := true }.onCancelFrame := by
  unfold onCancelFrame
  split
  · exact ⟨held.bounded, held.mode, held.unwatched, fun _ => ⟨rfl, opened⟩,
      fun _ _ seen => ⟨rfl, fun subscribed => spared subscribed seen⟩, fun _ _ => rfl, held.stale⟩
  next ignored =>
    refine ⟨held.bounded, held.mode, held.unwatched, fun _ => ⟨rfl, opened⟩, ?_, held.trying,
      held.stale⟩
    intro _ kept seen
    refine ⟨?_, fun subscribed => spared subscribed seen⟩
    by_contra unmarked
    exact ignored ⟨seen.2, kept, Bool.eq_false_iff.mpr unmarked⟩

theorem noticed_step (spared : Spared state action)
    (taken : step callbacks state action = some state') : Noticed callbacks state' := by
  cases action with
  | serverCancel =>
    obtain ⟨enabled, moved⟩ := ite_none_right_eq_some.mp taken
    cases moved
    exact noticed_serverCancel held spared enabled.1
  | restore =>
    obtain ⟨_, moved⟩ := ite_none_right_eq_some.mp taken
    cases moved
    exact ⟨held.bounded, held.mode, held.unwatched, by simp, by simp, held.trying, held.stale⟩
  | lose =>
    cases taken
    exact ⟨held.bounded, held.mode, held.unwatched, by simp, by simp, held.trying, held.stale⟩
  | reconnect =>
    obtain ⟨closed, moved⟩ := ite_none_left_eq_some.mp taken
    cases moved
    have fresh : state.watched ≠ some (state.underlay + 1) := fun watched => by
      have bound := held.bounded _ watched
      omega
    refine ⟨fun watched watching => ?_, held.mode, held.unwatched, fun lost => ?_, fun lost => ?_,
      held.trying, fun _ _ _ => fresh⟩
    · exact (held.bounded watched watching).trans (Nat.le_succ _)
    · exact absurd (held.absent lost).2 closed
    · exact absurd (held.absent lost).2 closed
  | stop =>
    cases taken
    exact ⟨held.bounded, held.mode, held.unwatched, held.absent, by simp, held.trying, held.stale⟩
  | attach =>
    obtain ⟨enabled, moved⟩ := ite_none_right_eq_some.mp taken
    cases moved
    exact noticed_confirm (noticed_watch held enabled.2)
  | begin =>
    obtain ⟨_, moved⟩ := ite_none_right_eq_some.mp taken
    cases moved
    split
    · exact noticed_fetching held
    · exact noticed_missed held 0
  | unavailable | consumeFails =>
    obtain ⟨_, moved⟩ := ite_none_right_eq_some.mp taken
    cases moved
    exact noticed_finishPass held
  | observe due =>
    obtain ⟨enabled, moved⟩ := ite_none_right_eq_some.mp taken
    cases moved
    exact noticed_check (noticed_confirm (noticed_watch held (.inr enabled.1))) due
  | probed found stale =>
    simp only [step] at taken
    split at taken
    next underlay probing =>
      cases taken
      exact noticed_probed held probing
    · cases taken
  | consumeOk =>
    obtain ⟨enabled, moved⟩ := ite_none_right_eq_some.mp taken
    cases moved
    exact ⟨held.bounded, held.mode, held.unwatched, by simp, by simp,
      fun _ _ => held.trying (by simp [enabled.1]) (by simp [enabled.1]), by simp⟩
  | duplicate =>
    obtain ⟨enabled, moved⟩ := ite_none_right_eq_some.mp taken
    cases moved
    exact noticed_resume held fun lost => (not_cancelled_of_present held enabled.2 lost).elim
  | resume =>
    obtain ⟨subscribed, moved⟩ := ite_none_right_eq_some.mp taken
    cases moved
    exact noticed_resume held fun lost kept seen =>
      (held.marked lost kept seen).2 subscribed

end

structure Unnoticed (callbacks : Bool) (state : ConsumerSupervision) : Prop where
  held : Noticed callbacks state
  lost : state.cancelled = true
  kept : state.stopped = false
  unmarked : state.brokerCancelled = false

theorem passOnce_eq (due : Bool) (opened : state.channelOpen = true) (kept : state.stopped = false)
    (early : state.pass = .idle ∨ state.pass = .fetching) : passOnce callbacks state due =
      some (({ state with pass := .fetching }.watch callbacks).confirm.check due) := by
  rcases early with idle | fetching
  · simp [passOnce, idle, execute, executeWithin, step, kept, opened]
  · have same : { state with pass := .fetching } = state := by rw [← fetching]
    rw [passOnce, if_pos fetching, same]
    exact if_pos ⟨fetching, opened⟩

theorem watch_unnoticed (unnoticed : Unnoticed callbacks state) :
    (state.watch callbacks).confirmed = false := by
  unfold watch
  split
  next watched =>
    by_contra confirmed
    have confirmed : state.confirmed = true := Bool.of_not_eq_false confirmed
    rcases watched with here | poll
    · have marked := (unnoticed.held.marked unnoticed.lost unnoticed.kept ⟨confirmed, here⟩).1
      cases unnoticed.unmarked.symm.trans marked
    · have unwatched := unnoticed.held.unwatched (unnoticed.held.mode poll)
      cases unwatched.symm.trans confirmed
  · rfl

theorem unnoticed_watch (unnoticed : Unnoticed callbacks state)
    (early : state.pass = .idle ∨ state.pass = .fetching) :
    Unnoticed callbacks (state.watch callbacks) ∧
      (state.watch callbacks).missed = state.missed := by
  have held := noticed_watch unnoticed.held early
  unfold watch at held ⊢
  split at held <;> rename_i choice
  · rw [if_pos choice]
    exact ⟨unnoticed, rfl⟩
  · rw [if_neg choice]
    exact ⟨⟨held, unnoticed.lost, unnoticed.kept, unnoticed.unmarked⟩, rfl⟩

/-- A check that does not see the tag marks the record or counts its first miss. -/
theorem check_unnoticed (due : Bool) (unnoticed : Unnoticed callbacks state)
    (unconfirmed : state.confirmed = false) : (state.confirm.check due).brokerCancelled = true ∨
      state.missed = 0 ∧ (state.confirm.check due).missed = 1 ∧
        Unnoticed callbacks (state.confirm.check due) := by
  have absent := (unnoticed.held.absent unnoticed.lost).1
  have same : state.confirm = state := if_neg (by simp [absent])
  rw [same, check, if_neg (by simp [unnoticed.unmarked]), if_neg (by simp [absent, unconfirmed])]
  split
  next first =>
    refine .inr ⟨by omega, by simp only [finishPass]; omega, ?_⟩
    exact ⟨noticed_finishPass (noticed_missed unnoticed.held _), unnoticed.lost, unnoticed.kept,
      unnoticed.unmarked⟩
  · refine .inl ?_
    rw [recover, if_neg (by simp [markCancelled, absent])]
    split <;> rfl

theorem passOnce_unnoticed (due : Bool) (unnoticed : Unnoticed callbacks state) :
    ∃ next, passOnce callbacks state due = some next ∧ (next.brokerCancelled = true ∨
      state.missed = 0 ∧ next.missed = 1 ∧ Unnoticed callbacks next) := by
  have held := unnoticed.held
  have early : state.pass = .idle ∨ state.pass = .fetching := by
    by_contra busy
    have busy := not_or.mp busy
    cases unnoticed.unmarked.symm.trans (held.trying busy.1 busy.2)
  have fetching : Unnoticed callbacks { state with pass := .fetching } :=
    ⟨noticed_fetching held, unnoticed.lost, unnoticed.kept, unnoticed.unmarked⟩
  obtain ⟨watching, missed⟩ := unnoticed_watch fetching (.inr rfl)
  refine ⟨_, passOnce_eq due (held.absent unnoticed.lost).2 unnoticed.kept early, ?_⟩
  have checked := check_unnoticed due watching (watch_unnoticed fetching)
  rwa [missed] at checked

end Steps

/-- A consumer that the server has cancelled is marked, or becomes so within two further passes. -/
theorem cancel_noticed {callbacks : Bool} {state : ConsumerSupervision}
    {actions : List SupervisionAction}
    (run : RunWithin (step callbacks) Spared {} actions state) (lost : state.cancelled = true)
    (kept : state.stopped = false) :
    state.brokerCancelled = true ∨ ∀ due due', ∃ next, passOnce callbacks state due = some next ∧
      (next.brokerCancelled = true ∨
        ∃ last, passOnce callbacks next due' = some last ∧ last.brokerCancelled = true) := by
  have held : Noticed callbacks state :=
    run.invariant (fun held spared taken => noticed_step held spared taken)
      ⟨by simp, by simp, by simp, by simp, by simp, by simp, by simp⟩
  by_cases marked : state.brokerCancelled = true
  · exact .inl marked
  · refine .inr fun due due' => ?_
    have unnoticed : Unnoticed callbacks state := ⟨held, lost, kept, Bool.eq_false_iff.mpr marked⟩
    obtain ⟨next, first, done | ⟨_, once, still⟩⟩ := passOnce_unnoticed due unnoticed
    · exact ⟨next, first, .inl done⟩
    · obtain ⟨last, second, done | ⟨never, _, _⟩⟩ := passOnce_unnoticed due' still
      · exact ⟨next, first, .inr ⟨last, second, done⟩⟩
      · omega

def resubscription : List SupervisionAction :=
  [.attach, .serverCancel, .begin, .observe true, .probed true false, .consumeOk]

/-- The channel is replaced while the pass waits, and the server cancels the consumer on the new
one, which is not watched yet: two further passes mark it. -/
theorem cancel_noticed_unwatched : ∃ state, RunWithin (step true) Spared {} (resubscription ++
        [.lose, .reconnect, .restore, .serverCancel, .resume]) state ∧
      state.cancelled = true ∧ state.brokerCancelled = false ∧
      (state.brokerCancelled = true ∨ ∀ due due', ∃ next,
        passOnce true state due = some next ∧ (next.brokerCancelled = true ∨
          ∃ last, passOnce true next due' = some last ∧ last.brokerCancelled = true)) := by
  refine exists_runWithin_of_check
    (fun state => state.cancelled ∧ state.brokerCancelled = false ∧ state.stopped = false)
    (by decide +kernel)
    fun state run ended => ?_
  obtain ⟨lost, unmarked, kept⟩ := of_decide_eq_true ended
  exact ⟨lost, unmarked, cancel_noticed run lost kept⟩

/-- The server cancels the new consumer before the pass resumes.  The pass takes the mark off, and
no later pass sets it again. -/
theorem cancel_forgotten :
    ∃ state, Run (step true) {} (resubscription ++ [.serverCancel, .resume]) state ∧
      state.cancelled = true ∧ state.present = false ∧ state.channelOpen = true ∧
      state.pass = .idle ∧ state.brokerCancelled = false ∧
      ∀ due, passOnce true state due = some state :=
  exists_runWithin_of_decide (by decide +kernel)

end ConsumerSupervision
end RabbitKit
