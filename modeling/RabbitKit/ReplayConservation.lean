import RabbitKit.DeadLetterReplay
import RabbitKit.InterruptibleState

/-! # No message is lost or settled twice by a replay

Whatever the predicate, the publishes and the checks do, a replay accounts for every
message it fetched: it is acked after an ok republish, or released.  The invariant of the
fetch loop counts, for each message, how often it is held and how often it was acked.
-/

namespace RabbitKit

open InterruptibleState ReplayState ReplayEvent List

def ReplayEvent.isRelease : ReplayEvent → Bool
  | .released _ _ => true
  | _ => false

def ReplayEvent.isReleaseOf (index : Nat) : ReplayEvent → Bool
  | .released other _ => decide (other = index)
  | _ => false

namespace ReplayState

def acks (state : ReplayState) (index : Nat) : Nat := state.log.count (.acked index true)

def releases (state : ReplayState) (index : Nat) : Nat :=
  state.log.countP (ReplayEvent.isReleaseOf index)

def report (state : ReplayState) : ReplayResult :=
  ⟨state.replayed, state.failed, state.requeued, state.skipped, state.refused⟩

def counted (state : ReplayState) : Nat :=
  state.replayed + state.failed + state.requeued + state.skipped + state.refused

def books (state : ReplayState) : ReplayState :=
  { state with vetted := none, knownQuorum := false, wholeQueue := false }

end ReplayState

def ReplayResult.total (report : ReplayResult) : Nat :=
  report.replayed + report.failed + report.requeued + report.skipped + report.refused

def Justified (log : List ReplayEvent) : Prop :=
  ∀ before index returned after, log = before ++ .acked index returned :: after →
    .published index true ∈ before

structure Kept (state : ReplayState) : Prop where
  once : ∀ index, state.held.count index + state.acks index =
    if index < state.fetched then 1 else 0
  unreleased : ∀ index, state.releases index = 0
  justified : Justified state.log
  ackRaised : ∀ index, .acked index false ∈ state.log → index ∈ state.held

structure LoopHead (state : ReplayState) : Prop extends Kept state where
  counted : state.counted = state.fetched
  noAckRaised : ∀ index, .acked index false ∉ state.log

structure InHand (state : ReplayState) (index : Nat) : Prop extends Kept state where
  held : ∃ earlier, state.held = earlier ++ [index]
  fetched : state.fetched = index + 1
  uncounted : state.counted = index
  noAckRaised : ∀ index, .acked index false ∉ state.log

variable {state state' : ReplayState} {index : Nat} {log : List ReplayEvent} {event : ReplayEvent}

theorem Justified.snoc (justified : Justified log)
    (last : ∀ index returned, event = .acked index returned → .published index true ∈ log) :
    Justified (log ++ [event]) := by
  intro before index returned after split
  rcases eq_nil_or_concat after with rfl | ⟨earlier, final, rfl⟩
  · obtain ⟨rfl, same⟩ := append_inj' split rfl
    exact last index returned (cons.inj same).1
  · rw [concat_eq_append, ← cons_append, ← append_assoc] at split
    obtain ⟨rfl, _⟩ := append_inj' split rfl
    exact justified before index returned earlier rfl

theorem Justified.append (justified : Justified log) {more : List ReplayEvent}
    (noAck : ∀ event ∈ more, ∀ index returned, event ≠ .acked index returned) :
    Justified (log ++ more) := by
  induction more generalizing log with
  | nil => simpa using justified
  | cons event rest ih =>
    have first : Justified (log ++ [event]) := justified.snoc fun index returned same =>
      absurd same (noAck event mem_cons_self index returned)
    have rest := ih first fun other member => noAck other (mem_cons_of_mem _ member)
    simpa using rest

@[simp]
theorem acks_snoc (state : ReplayState) (event : ReplayEvent) (index : Nat) :
    ({ state with log := state.log ++ [event] } : ReplayState).acks index =
      state.acks index + if event = .acked index true then 1 else 0 := by
  simp [acks, count_append, count_singleton]

@[simp]
theorem releases_snoc (state : ReplayState) (event : ReplayEvent) (index : Nat) :
    ({ state with log := state.log ++ [event] } : ReplayState).releases index =
      state.releases index + if event.isReleaseOf index then 1 else 0 := by
  simp [releases, countP_append, countP_cons]

section

variable (inHand : InHand state index)
include inHand

theorem InHand.unsettled (style : SettlementStyle) : state.isSettled style index = false := by
  have held := inHand.once index
  obtain ⟨earlier, last⟩ := inHand.held
  rw [last, count_append, count_singleton_self, if_pos (by simp [inHand.fetched])] at held
  have notAcked : state.acks index = 0 := by omega
  have notReleased := inHand.unreleased index
  rw [acks, count_eq_zero] at notAcked
  rw [releases, countP_eq_zero] at notReleased
  unfold isSettled
  rw [any_eq_false]
  intro event member
  cases event with
  | fetched | published => simp
  | acked other returned =>
    by_cases same : other = index
    · subst same
      cases returned with
      | true => exact absurd member notAcked
      | false => exact absurd member (inHand.noAckRaised other)
    · simp [same]
  | released other returned =>
    have other_ne : ¬ other = index := by
      simpa [isReleaseOf] using notReleased _ member
    simp [other_ne]

theorem InHand.publish (ok : Bool) :
    InHand { state with log := state.log ++ [.published index ok] } index where
  once other := by simpa using inHand.once other
  unreleased other := by simpa [isReleaseOf] using inHand.unreleased other
  justified := inHand.justified.snoc nofun
  ackRaised other member := absurd member (by simpa using inHand.noAckRaised other)
  held := inHand.held
  fetched := inHand.fetched
  uncounted := inHand.uncounted
  noAckRaised other := by simpa using inHand.noAckRaised other

theorem InHand.failedAck (published : .published index true ∈ state.log) :
    Kept { state with log := state.log ++ [.acked index false] } where
  once other := by simpa using inHand.once other
  unreleased other := by simpa [isReleaseOf] using inHand.unreleased other
  justified := inHand.justified.snoc fun other returned same => by
    cases same
    exact published
  ackRaised other member := by
    obtain ⟨earlier, last⟩ := inHand.held
    rcases mem_append.mp member with old | new
    · exact absurd old (inHand.noAckRaised other)
    · cases mem_singleton.mp new
      simp [last]

theorem InHand.returnedAck (published : .published index true ∈ state.log) :
    LoopHead { state with
      log := state.log ++ [.acked index true]
      held := state.held.dropLast
      replayed := state.replayed + 1 } where
  once other := by
    obtain ⟨earlier, last⟩ := inHand.held
    have once := inHand.once other
    have acks : acks { state with
        log := state.log ++ [.acked index true]
        held := state.held.dropLast
        replayed := state.replayed + 1 } other =
          state.acks other + if index = other then 1 else 0 := by
      simp [acks, count_append, count_singleton]
    rw [acks]
    simp only [last, dropLast_concat]
    rw [last, count_append, count_singleton] at once
    rw [← once]
    simp only [beq_iff_eq]
    omega
  unreleased other := by
    simpa [releases, isReleaseOf] using inHand.unreleased other
  justified := inHand.justified.snoc fun other returned same => by
    cases same
    exact published
  ackRaised other member := absurd member (by simpa using inHand.noAckRaised other)
  counted := by
    have uncounted := inHand.uncounted
    simp only [counted] at uncounted ⊢
    rw [inHand.fetched]
    omega
  noAckRaised other := by simpa using inHand.noAckRaised other

end

theorem LoopHead.fetch (loopHead : LoopHead state) :
    InHand { state with
      fetched := state.fetched + 1
      held := state.held ++ [state.fetched]
      log := state.log ++ [.fetched state.fetched] } state.fetched where
  once other := by
    have once := loopHead.once other
    have acks : acks { state with
        fetched := state.fetched + 1
        held := state.held ++ [state.fetched]
        log := state.log ++ [.fetched state.fetched] } other = state.acks other := by
      simp [acks, count_append]
    rw [acks, count_append, count_singleton]
    simp only [beq_iff_eq]
    split at once <;> split <;> split <;> omega
  unreleased other := by
    simpa [releases, isReleaseOf] using loopHead.unreleased other
  justified := loopHead.justified.snoc nofun
  ackRaised other member := absurd member (by simpa using loopHead.noAckRaised other)
  held := ⟨state.held, rfl⟩
  fetched := rfl
  uncounted := loopHead.counted
  noAckRaised other := by simpa using loopHead.noAckRaised other

theorem Kept.held_nodup (kept : Kept state) : state.held.Nodup := by
  refine nodup_iff_count_le_one.mpr fun index => ?_
  have once := kept.once index
  split at once <;> omega

theorem Kept.of_books (kept : Kept state) (same : state'.books = state.books) : Kept state' := by
  have before : Kept state.books := ⟨kept.once, kept.unreleased, kept.justified, kept.ackRaised⟩
  have moved : Kept state'.books := same ▸ before
  exact ⟨moved.once, moved.unreleased, moved.justified, moved.ackRaised⟩

theorem InHand.of_books (inHand : InHand state index) (same : state'.books = state.books) :
    InHand state' index := by
  have kept : Kept state.books := inHand.toKept.of_books rfl
  have before : InHand state.books index := { inHand with toKept := kept }
  have moved : InHand state'.books index := same ▸ before
  exact { moved with toKept := inHand.toKept.of_books same }

theorem LoopHead.of_books (loopHead : LoopHead state) (same : state'.books = state.books) :
    LoopHead state' := by
  have kept : Kept state.books := loopHead.toKept.of_books rfl
  have before : LoopHead state.books := { loopHead with toKept := kept }
  have moved : LoopHead state'.books := same ▸ before
  exact { moved with toKept := loopHead.toKept.of_books same }

namespace ReplayRequest

variable (request : ReplayRequest) (outside : ReplaySurroundings) (style : SettlementStyle)

@[simp]
theorem ensures_orRaise {α : Type} (answer : Except Interrupt α)
    {post : Except Interrupt α → ReplayState → Prop} :
    Ensures (orRaise answer) post state ↔ post answer state := by
  cases answer <;> exact .rfl

theorem ensureBrowsable_books :
    Ensures (ensureBrowsable outside) (fun _ final => final.books = state.books) state := by
  unfold ensureBrowsable
  split
  · simp
  · simp only [ensures_bind, ensures_get, afterValue_ok]
    split
    · simp
    · split <;> simp [books]

section

variable (message : ReplayCandidate)

theorem tripwire_books (vetted : Bool) :
    Ensures (tripwire message vetted) (fun _ final => final.books = state.books) state := by
  unfold tripwire
  split <;> simp [books]

theorem checkFetched_books :
    Ensures (checkFetched message) (fun _ final => final.books = state.books) state := by
  simp only [checkFetched, ensures_bind, ensures_get, afterValue_ok]
  split
  · exact tripwire_books message _
  · simp

theorem vetRequeue_books :
    Ensures (vetRequeue outside message) (fun _ final => final.books = state.books) state := by
  have vets (vetted : Bool) {middle : ReplayState} (same : middle.books = state.books) :
      Ensures (do tripwire message vetted; modify fun state => { state with vetted := some vetted })
        (fun _ final => final.books = state.books) middle := by
    rw [ensures_bind]
    refine (tripwire_books message vetted).mono fun result final kept => ?_
    cases result with
    | error | ok => exact kept.trans same
  unfold vetRequeue
  simp only [ensures_bind, ensures_get, afterValue_ok]
  split
  · exact vets _ rfl
  · refine (ensureBrowsable_books outside).mono fun result final kept => ?_
    cases result with
    | error => exact kept
    | ok vetted => exact vets vetted kept

end

def Handled (result : Except Interrupt Unit) (final : ReplayState) : Prop :=
  Kept final ∧ (result = .ok () → LoopHead final)

theorem handled_of_error (interrupt : Interrupt) (kept : Kept state) :
    Handled (.error interrupt) state :=
  ⟨kept, nofun⟩

theorem loopHead_of_counted (inHand : InHand state index) (count : ReplayState → ReplayState)
    (held : (count state).held = state.held) (fetched : (count state).fetched = state.fetched)
    (log : (count state).log = state.log) (more : (count state).counted = state.counted + 1) :
    LoopHead (count state) where
  once other := by simpa [held, fetched, acks, log] using inHand.once other
  unreleased other := by simpa [releases, log] using inHand.unreleased other
  justified := log ▸ inHand.justified
  ackRaised other member := absurd member (log ▸ inHand.noAckRaised other)
  counted := by rw [more, inHand.uncounted, fetched, inHand.fetched]
  noAckRaised := log ▸ inHand.noAckRaised

theorem vetRequeue_handled (message : ReplayCandidate) (inHand : InHand state index)
    (count : ReplayState → ReplayState)
    (held : (count state).held = state.held) (fetched : (count state).fetched = state.fetched)
    (log : (count state).log = state.log) (more : (count state).counted = state.counted + 1) :
    Ensures (do modify count; vetRequeue outside message) Handled state := by
  have loopHead := loopHead_of_counted inHand count held fetched log more
  refine (vetRequeue_books outside message).mono fun result final same => ?_
  exact ⟨loopHead.toKept.of_books same, fun _ => loopHead.of_books same⟩

theorem ack_handled (inHand : InHand state index) (published : .published index true ∈ state.log) :
    Ensures (do
      ack outside style index
      modify fun state => { state with
        held := state.held.dropLast, replayed := state.replayed + 1 }) Handled state := by
  simp only [ack, ensures_bind, ensures_get, afterValue_ok, inHand.unsettled style,
    Bool.false_eq_true, if_false, ensures_modify]
  cases raises : outside.ackRaises index with
  | some interrupt =>
    exact handled_of_error interrupt (inHand.failedAck published)
  | none =>
    have loopHead := inHand.returnedAck published
    exact ⟨loopHead.toKept, fun _ => loopHead⟩

theorem republish_handled (message : ReplayCandidate) (envelope : ReplayEnvelope)
    (inHand : InHand state index) :
    Ensures (republish outside style index message envelope) Handled state := by
  unfold republish publish
  rw [ensures_bind, ensures_bind, ensures_orRaise]
  cases outside.publish index envelope with
  | error interrupt => exact handled_of_error interrupt inHand.toKept
  | ok outcome =>
    rw [afterValue_ok, ensures_bind, ensures_modify, afterValue_ok, ensures_pure, afterValue_ok]
    have inHand := inHand.publish (outcome == some true)
    split
    · exact vetRequeue_handled outside message inHand _ rfl rfl rfl (by simp only [counted]; omega)
    next ok =>
      have ok : (outcome == some true) = true := by simpa using ok
      rw [ok] at inHand ⊢
      exact ack_handled outside style inHand (by simp)

theorem handleMessage_handled (message : ReplayCandidate) (inHand : InHand state index) :
    Ensures (request.handleMessage outside style index message) Handled state := by
  unfold handleMessage
  rw [ensures_bind]
  refine (checkFetched_books message).mono fun result checked same => ?_
  have inHand : InHand checked index := inHand.of_books same
  cases result with
  | error interrupt => exact handled_of_error interrupt inHand.toKept
  | ok =>
    rw [afterValue_ok, ensures_bind, ensures_orRaise]
    cases selects outside index message with
    | error interrupt => exact handled_of_error interrupt inHand.toKept
    | ok selected =>
      rw [afterValue_ok]
      split
      · have loopHead := loopHead_of_counted inHand
          (fun state => { state with requeued := state.requeued + 1 }) rfl rfl rfl
          (by simp only [counted]; omega)
        exact ⟨loopHead.toKept, fun _ => loopHead⟩
      · rw [ensures_bind, ensures_orRaise]
        cases request.overReplayLimit outside message with
        | error interrupt => exact handled_of_error interrupt inHand.toKept
        | ok beyond =>
          rw [afterValue_ok]
          split
          · exact vetRequeue_handled outside message inHand _ rfl rfl rfl
              (by simp only [counted]; omega)
          · rw [ensures_bind, ensures_orRaise]
            cases request.buildReplayEnvelope outside index message with
            | error interrupt => exact handled_of_error interrupt inHand.toKept
            | ok envelope =>
              rw [afterValue_ok]
              split
              · exact vetRequeue_handled outside message inHand _ rfl rfl rfl
                  (by simp only [counted]; omega)
              · exact republish_handled outside style message envelope inHand

theorem drain_handled (answers : List (Except Interrupt ReplayCandidate))
    (loopHead : LoopHead state) : Ensures (request.drain outside style answers) Handled state := by
  induction answers generalizing state with
  | nil => exact ⟨loopHead.toKept, fun _ => loopHead⟩
  | cons answer rest ih =>
    unfold drain
    rw [ensures_bind, ensures_get, afterValue_ok]
    dsimp only
    split
    · exact ⟨loopHead.toKept, fun _ => loopHead⟩
    · rw [ensures_bind, ensures_orRaise]
      cases answer with
      | error interrupt => exact handled_of_error interrupt loopHead.toKept
      | ok message =>
        rw [afterValue_ok, ensures_bind, fetch, ensures_modify, afterValue_ok, ensures_bind]
        refine (request.handleMessage_handled outside style message loopHead.fetch).mono ?_
        intro result final handled
        cases result with
        | error interrupt => exact handled_of_error interrupt handled.1
        | ok => exact ih (handled.2 rfl)

def releaseEvents (pending : List Nat) (state : ReplayState) : List ReplayEvent :=
  (pending.filter fun index => !state.isSettled style index).map fun index =>
    .released index (!outside.nackRaises index)

theorem isSettled_release {other : Nat} (different : index ≠ other) (returned : Bool) :
    ({ state with log := state.log ++ [.released index returned] } : ReplayState).isSettled
      style other = state.isSettled style other := by
  simp [isSettled, different]

theorem release_ensures (pending : List Nat) (distinct : pending.Nodup) :
    Ensures (release outside style pending) (fun result final => result = .ok () ∧
      final = { state with log := state.log ++ releaseEvents outside style pending state }) state :=
        by
  induction pending generalizing state with
  | nil => simp [release, releaseEvents]
  | cons index rest ih =>
    obtain ⟨fresh, distinct⟩ := nodup_cons.mp distinct
    simp only [release, ensures_bind, ensures_get, afterValue_ok]
    split
    next settled =>
      refine (ih distinct).mono fun result final released => ?_
      simpa [releaseEvents, settled] using released
    next unsettled =>
      rw [ensures_bind, ensures_modify, afterValue_ok]
      refine (ih distinct).mono fun result final released => ⟨released.1, ?_⟩
      have others : releaseEvents outside style rest { state with
          log := state.log ++ [.released index (!outside.nackRaises index)] } =
            releaseEvents outside style rest state := by
        refine congrArg (map _) (filter_congr fun other member => ?_)
        have different : index ≠ other := fun same => fresh (same ▸ member)
        rw [isSettled_release style different]
      rw [released.2, others]
      simp [releaseEvents, unsettled]

/-- Every message is acked once, or released once, or (async) its ack raised and keeps
the claim; and it is acked only behind its ok republish. -/
structure Conserved (style : SettlementStyle) (final : ReplayState) : Prop where
  ackedAfterOk : Justified final.log
  settledOnce : ∀ index < final.fetched, final.acks index + final.releases index =
    if style = .async ∧ .acked index false ∈ final.log then 0 else 1
  unfetched : ∀ index, final.fetched ≤ index → final.acks index + final.releases index = 0

theorem acks_release (pending : List Nat) (index : Nat) :
    ({ state with log := state.log ++ releaseEvents outside style pending state } :
      ReplayState).acks index = state.acks index := by
  have none : (releaseEvents outside style pending state).count (.acked index true) = 0 := by
    simp [count_eq_zero, releaseEvents]
  simp [acks, count_append, none]

theorem releases_release (pending : List Nat) (index : Nat) :
    ({ state with log := state.log ++ releaseEvents outside style pending state } :
      ReplayState).releases index =
        state.releases index + if state.isSettled style index then 0 else pending.count index := by
  have added : (releaseEvents outside style pending state).countP (isReleaseOf index) =
      if state.isSettled style index then 0 else pending.count index := by
    unfold releaseEvents
    induction pending with
    | nil => simp
    | cons first rest ih =>
      by_cases same : first = index
      · cases settled : state.isSettled style first <;> simp_all [isReleaseOf]
      · cases settled : state.isSettled style first <;> simp [settled, same, isReleaseOf, ih]
  simp [releases, countP_append, added]

theorem raised_mem_release (pending : List Nat) (index : Nat) :
    .acked index false ∈ state.log ++ releaseEvents outside style pending state ↔
      .acked index false ∈ state.log := by
  simp [releaseEvents]

/-- A held message counts as settled only when it is async and its ack raised. -/
theorem isSettled_of_held (kept : Kept state) (held : index ∈ state.held) :
    state.isSettled style index = true ↔ style = .async ∧ .acked index false ∈ state.log := by
  have once := kept.once index
  have positive := count_pos_iff.mpr held
  have notAcked : state.acks index = 0 := by split at once <;> omega
  have notReleased := kept.unreleased index
  rw [acks, count_eq_zero] at notAcked
  rw [releases, countP_eq_zero] at notReleased
  unfold isSettled
  rw [any_eq_true]
  constructor
  · rintro ⟨event, member, settles⟩
    cases event with
    | fetched | published => cases settles
    | acked other returned =>
      simp only [Bool.and_eq_true, decide_eq_true_eq, Bool.or_eq_true, beq_iff_eq] at settles
      obtain ⟨rfl, returned' | async⟩ := settles
      · exact absurd (returned' ▸ member) notAcked
      · cases returned with
        | true => exact absurd member notAcked
        | false => exact ⟨async, member⟩
    | released other returned =>
      simp only [Bool.and_eq_true, decide_eq_true_eq] at settles
      exact absurd (by simp [isReleaseOf, settles.1]) (notReleased _ member)
  · rintro ⟨rfl, member⟩
    exact ⟨_, member, by simp⟩

theorem conserved_of_kept (kept : Kept state) : Conserved style { state with
    log := state.log ++ releaseEvents outside style state.held state } where
  ackedAfterOk := kept.justified.append fun event member index returned same => by
    simp [releaseEvents, same] at member
  settledOnce index fetched := by
    rw [acks_release, releases_release, kept.unreleased]
    simp only [raised_mem_release]
    have once := kept.once index
    rw [if_pos fetched] at once
    by_cases held : index ∈ state.held
    · have positive := count_pos_iff.mpr held
      simp only [isSettled_of_held style kept held]
      split <;> omega
    · have absent := count_eq_zero.mpr held
      have returned : ¬ .acked index false ∈ state.log := fun raised =>
        held (kept.ackRaised index raised)
      simp only [absent, returned, and_false, if_false, ite_self]
      omega
  unfetched index unfetched := by
    rw [acks_release, releases_release, kept.unreleased]
    have once := kept.once index
    rw [if_neg (Nat.not_lt.mpr unfetched)] at once
    split <;> omega

theorem ack_style (other : SettlementStyle) (inHand : InHand state index) :
    (ack outside style index).run.run state = (ack outside other index).run.run state := by
  refine run_bind_congr ?_
  rintro _ ⟨⟩
  simp only [inHand.unsettled]

theorem publish_inHand (envelope : ReplayEnvelope) (inHand : InHand state index) :
    Ensures (publish outside index envelope) (fun _ final => InHand final index) state := by
  unfold publish
  cases outside.publish index envelope with
  | error interrupt => exact inHand
  | ok outcome => exact inHand.publish _

section

variable (other : SettlementStyle)

theorem republish_style (message : ReplayCandidate) (envelope : ReplayEnvelope)
    (inHand : InHand state index) : (republish outside style index message envelope).run.run state =
      (republish outside other index message envelope).run.run state := by
  refine run_bind_congr ((publish_inHand outside envelope inHand).mono ?_)
  rintro result final inHand ok rfl
  cases ok with
  | false => rfl
  | true => exact run_bind_congr_left _ (ack_style outside style other inHand)

theorem handleMessage_style (message : ReplayCandidate) (inHand : InHand state index) :
    (request.handleMessage outside style index message).run.run state =
      (request.handleMessage outside other index message).run.run state := by
  refine run_bind_congr ((checkFetched_books message).mono ?_)
  rintro result checked same _ rfl
  have inHand := inHand.of_books same
  refine run_bind_congr ((ensures_orRaise _).mpr ?_)
  rintro selected -
  split
  · rfl
  · refine run_bind_congr ((ensures_orRaise _).mpr ?_)
    rintro beyond -
    split
    · rfl
    · refine run_bind_congr ((ensures_orRaise _).mpr ?_)
      rintro envelope -
      split
      · rfl
      · exact republish_style outside style other message envelope inHand

theorem drain_style (answers : List (Except Interrupt ReplayCandidate))
    (loopHead : LoopHead state) : (request.drain outside style answers).run.run state =
      (request.drain outside other answers).run.run state := by
  induction answers generalizing state with
  | nil => rfl
  | cons answer rest ih =>
    refine run_bind_congr ?_
    rintro _ ⟨⟩
    dsimp only
    split
    · rfl
    · refine run_bind_congr ((ensures_orRaise _).mpr ?_)
      rintro message -
      refine run_bind_congr ?_
      rintro _ -
      have inHand := loopHead.fetch
      refine (run_bind_congr_left _
        (request.handleMessage_style outside style other message inHand)).trans ?_
      refine run_bind_congr ((request.handleMessage_handled outside other message inHand).mono ?_)
      rintro result final handled _ rfl
      exact ih (handled.2 rfl)

end

/-- The loop with its `finally` clause: what is held when the loop has ended is released. -/
theorem drainAndRelease_run (loopHead : LoopHead state) {result : Except Interrupt Unit}
    {ended : ReplayState}
    (drained : (request.drain outside style outside.deliveries).run.run state = (result, ended)) :
    (request.drainAndRelease outside style).run.run state =
      (result, { ended with log := ended.log ++ releaseEvents outside style ended.held ended }) :=
        by
  have handled : Handled result ended :=
    (ensures_iff_of_run drained).mp (request.drain_handled outside style outside.deliveries
    loopHead)
  have releases (interrupt : Option Interrupt) (answer : Except Interrupt Unit)
      (ends : raiseAgain interrupt = orRaise answer) :
      Ensures (do release outside style (← get).held; raiseAgain interrupt)
        (fun result final => result = answer ∧ final = { ended with
          log := ended.log ++ releaseEvents outside style ended.held ended }) ended := by
    rw [ensures_bind, ensures_get, afterValue_ok, ensures_bind]
    refine (release_ensures outside style ended.held handled.1.held_nodup).mono ?_
    rintro _ final ⟨rfl, rfl⟩
    rw [afterValue_ok, ends, ensures_orRaise]
    exact ⟨rfl, rfl⟩
  refine run_eq_of_ensures ?_
  unfold drainAndRelease
  rw [ensures_bind, ensures_tryCatch, ensures_bind, ensures_iff_of_run drained]
  cases result with
  | error interrupt => exact releases (some interrupt) (.error interrupt) rfl
  | ok => exact releases none (.ok ()) rfl

theorem vetUpFront_books :
    Ensures (vetUpFront outside) (fun _ final => final.books = state.books) state := by
  unfold vetUpFront
  split
  · rw [ensures_bind]
    refine (ensureBrowsable_books outside).mono fun result final same => ?_
    cases result with
    | error | ok => exact same
  · simp

theorem prepare_books :
    Ensures (request.prepare outside) (fun _ final => final.books = state.books) state := by
  unfold prepare
  rw [ensures_bind, ensures_orRaise]
  cases outside.authorizer with
  | error => rfl
  | ok =>
    rw [afterValue_ok, ensures_bind]
    refine (vetUpFront_books outside).mono fun result vetted same => ?_
    cases result with
    | error => exact same
    | ok =>
      simp only [checkPartialReplay, afterValue_ok, ensures_bind, ensures_get]
      split <;> simp [same]

theorem loopHead_of_books (same : state.books = {}) : LoopHead state := by
  have start : LoopHead ({} : ReplayState) :=
    ⟨⟨by simp [acks], by simp [releases], by simp [Justified], by simp⟩, rfl, by simp⟩
  exact start.of_books same

/-- Both replays end alike up to the release: in one state, which accounts for every
message fetched, and with one result. -/
theorem replayWith_run (start : state.books = {}) :
    ∃ result ended, Kept ended ∧ (∀ report, result = .ok report → report.total = ended.fetched) ∧
      ∀ style, (request.replayWith outside style).run.run state =
        (result, { ended with
          log := ended.log ++ releaseEvents outside style ended.held ended }) := by
  obtain ⟨⟨prepared, ready⟩, ran⟩ : ∃ run, (request.prepare outside).run.run state = run := ⟨_, rfl⟩
  have same : ready.books = state.books :=
    (ensures_iff_of_run ran).mp (request.prepare_books outside)
  have loopHead := loopHead_of_books (same.trans start)
  cases prepared with
  | error interrupt =>
    have unread : ready.held = [] := congrArg held (same.trans start)
    refine ⟨.error interrupt, ready, loopHead.toKept, nofun, fun style => ?_⟩
    have nothing : releaseEvents outside style ready.held ready = [] := by
      rw [unread]
      rfl
    rw [nothing, append_nil]
    refine run_eq_of_ensures ?_
    rw [replayWith, ensures_bind, ensures_iff_of_run ran]
    exact ⟨rfl, rfl⟩
  | ok =>
    obtain ⟨⟨result, ended⟩, drained⟩ :
      ∃ run, (request.drain outside .sync outside.deliveries).run.run ready = run := ⟨_, rfl⟩
    have handled : Handled result ended := (ensures_iff_of_run drained).mp
      (request.drain_handled outside .sync outside.deliveries loopHead)
    refine ⟨result.map fun _ => ended.report, ended, handled.1, ?_, fun style => ?_⟩
    · intro report returned
      cases result with
      | error => cases returned
      | ok =>
        cases returned
        exact (handled.2 rfl).counted
    · have released := request.drainAndRelease_run outside style loopHead
        ((request.drain_style outside style .sync outside.deliveries loopHead).trans drained)
      refine run_eq_of_ensures ?_
      rw [replayWith, ensures_bind, ensures_iff_of_run ran, afterValue_ok, ensures_bind,
        ensures_iff_of_run released]
      cases result with
      | error | ok => exact ⟨rfl, rfl⟩

/-- The two replays give one result and one set of counters, decide alike about every
message, and release alike unless an ack raised. -/
structure Agree (sync async : Except Interrupt ReplayResult × ReplayState) : Prop where
  result : sync.1 = async.1
  counters : { sync.2 with log := [] } = { async.2 with log := [] }
  decisions : (sync.2.log.filter fun event => !event.isRelease) =
    async.2.log.filter fun event => !event.isRelease
  releases : (∀ index, .acked index false ∉ sync.2.log) → sync.2.log = async.2.log

theorem decisions_release (pending : List Nat) :
    ((state.log ++ releaseEvents outside style pending state).filter fun event =>
      !event.isRelease) = state.log.filter fun event => !event.isRelease := by
  have none : ((releaseEvents outside style pending state).filter fun event =>
      !event.isRelease) = [] := by
    simp [releaseEvents, filter_map, Function.comp_def, isRelease]
  rw [filter_append, none, append_nil]

theorem releaseEvents_style (kept : Kept state) (noAckRaised : ∀ index,
    .acked index false ∉ state.log)
    (other : SettlementStyle) : releaseEvents outside style state.held state =
      releaseEvents outside other state.held state := by
  have unsettled (style : SettlementStyle) {index : Nat} (held : index ∈ state.held) :
      state.isSettled style index = false := by
    rw [← Bool.not_eq_true, isSettled_of_held style kept held]
    exact fun raised => noAckRaised index raised.2
  refine congrArg (map _) (filter_congr fun index held => ?_)
  rw [unsettled style held, unsettled other held]

/-- A replay, sync or async, acks a message only behind its ok republish and releases
every other message it fetched once; its counters add up to the messages fetched; and
the two variants agree. -/
theorem replay_conserves : Conserved .sync (outside.runReplay (request.replay outside)).2 ∧
      Conserved .async (outside.runReplay (request.replayAsync outside)).2 ∧
      (∀ report, (outside.runReplay (request.replay outside)).1 = .ok report →
        report.total = (outside.runReplay (request.replay outside)).2.fetched) ∧
      (∀ report, (outside.runReplay (request.replayAsync outside)).1 = .ok report →
        report.total = (outside.runReplay (request.replayAsync outside)).2.fetched) ∧
      Agree (outside.runReplay (request.replay outside))
        (outside.runReplay (request.replayAsync outside)) := by
  have start : ({ knownQuorum := outside.knownQuorum, wholeQueue := outside.wholeQueue } :
      ReplayState).books = {} := rfl
  obtain ⟨result, ended, kept, counted, ran⟩ := request.replayWith_run outside start
  have ranSync : outside.runReplay (request.replay outside) = _ := ran .sync
  have ranAsync : outside.runReplay (request.replayAsync outside) = _ := ran .async
  rw [ranSync, ranAsync]
  refine ⟨conserved_of_kept outside .sync kept, conserved_of_kept outside .async kept, counted,
    counted, rfl, rfl, ?_, fun noAckRaised => ?_⟩
  · exact (decisions_release outside .sync _).trans (decisions_release outside .async _).symm
  · have noAckRaised (index : Nat) : .acked index false ∉ ended.log := fun raised =>
      noAckRaised index (mem_append_left _ raised)
    exact congrArg (ended.log ++ ·) (releaseEvents_style outside .sync kept noAckRaised .async)

end ReplayRequest
end RabbitKit
