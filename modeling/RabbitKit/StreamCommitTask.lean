import RabbitKit.StreamWatermark

/-! # The commit task of an asynchronous stream consumer

With a store that blocks, the event loop leaves committing to a thread: a
settlement that makes a commit due starts a task unless one is running, and the
thread repeats its commit while the progress made meanwhile is due again.  The
loop and the thread interleave at the sections under the tracker's lock, and the
task counts as running until the loop has taken note of its end.
-/

namespace RabbitKit

open LabelledRun OrderedDict List

/-- Where the commit thread stands in `_commit_while_due`. -/
inductive CommitTask
  | done
  | starting
  | committing (before : Option Nat)
  | checking (before : Option Nat)
  | returned
  deriving DecidableEq

/-- A consumer whose store saves every offset it is given.  `due` says that the
loop stands between a settlement and the request for the commit it made due. -/
structure CommitTaskWorld where
  stream : StreamWorld
  task : CommitTask := .done
  due : Bool := false
  passed : List Nat := []

inductive CommitTaskAction
  | arrive (action : StreamAction)
  | settle (delivery : HookedDelivery) (failed : Bool) (now : ℚ)
  | commitSoon
  | readCommitted
  | commitBegin
  | saveReturned
  | commitEnd (now : ℚ)
  | commitAgain (now : ℚ)
  | taskDone
  deriving DecidableEq

/-- What the loop does to a tracker besides settling. -/
def StreamAction.arrives : StreamAction → Bool
  | .consume | .subscribed _ | .deliver _ _ | .beginShutdown => true
  | _ => false

namespace CommitTaskWorld

def init (config : StreamConsumerConfig) (stored : Option Nat) (now : ℚ) : CommitTaskWorld where
  stream := .init config stored now

def removed (before after : OrderedDict Nat Bool) : List Nat :=
  before.keys.filter (· ∉ after.keys)

def afterSettle (w : CommitTaskWorld) (config : StreamConsumerConfig) (delivery : HookedDelivery)
    (failed : Bool) (now : ℚ) : CommitTaskWorld :=
  let stream := w.stream.afterSettle config delivery failed now
  { w with
    stream := stream
    due := (w.stream.tracker.settled config now delivery.offset delivery.generation failed).2
    passed := w.passed ++ removed w.stream.tracker.pending stream.tracker.pending }

def step (config : StreamConsumerConfig) (w : CommitTaskWorld) :
    CommitTaskAction → Option CommitTaskWorld
  | .arrive action =>
    if w.due = false ∧ action.arrives then
      (w.stream.step config action).map fun stream => { w with stream := stream }
    else none
  | .settle delivery failed now =>
    if w.due = false ∧ delivery ∈ w.stream.hooked then
      some (w.afterSettle config delivery failed now)
    else none
  | .commitSoon =>
    if w.due then
      some { w with due := false, task := if w.task = .done then .starting else w.task }
    else none
  | .readCommitted =>
    match w.task with
    | .starting => some { w with task := .committing w.stream.tracker.committed }
    | _ => none
  | .commitBegin =>
    match w.task, w.stream.commit, w.stream.tracker.commitTarget with
    | .committing _, .idle, some (target, covered) =>
      some { w with stream := { w.stream with commit := .saving target covered } }
    | .committing before, .idle, none => some { w with task := .checking before }
    | _, _, _ => none
  | .saveReturned =>
    match w.task, w.stream.commit with
    | .committing _, .saving target covered =>
      some { w with
        stream := { w.stream with
          commit := .saved target covered
          store := some target
          saves := w.stream.saves ++ [target] } }
    | _, _ => none
  | .commitEnd now =>
    match w.task, w.stream.commit with
    | .committing before, .saved target covered =>
      some { w with
        stream := { w.stream with
          commit := .idle
          tracker := w.stream.tracker.commitSaved target covered now }
        task := .checking before }
    | _, _ => none
  | .commitAgain now =>
    match w.task with
    | .checking before =>
      some { w with
        task :=
          if w.stream.tracker.committed = before ∨ ¬ w.stream.tracker.commitDue config now then
            .returned
          else .starting }
    | _ => none
  | .taskDone =>
    match w.task with
    | .returned => if w.due then none else some { w with task := .done }
    | _ => none

def Quiescent (w : CommitTaskWorld) : Prop := w.due = false ∧ w.task = .done

instance (w : CommitTaskWorld) : Decidable w.Quiescent := by
  unfold Quiescent
  infer_instance

/-- A settlement that makes a commit due does not come between the decision of
the thread to stop and the end of its task. -/
def noticed (config : StreamConsumerConfig) (w : CommitTaskWorld) : CommitTaskAction → Bool
  | .settle delivery failed now =>
    w.task ≠ .returned ||
      !(w.stream.tracker.settled config now delivery.offset delivery.generation failed).2
  | _ => true

end CommitTaskWorld

namespace StreamOffsetTracker

variable {t : StreamOffsetTracker} {config : StreamConsumerConfig} {now : ℚ}
  {offset generation : Nat} {failed : Bool}

theorem commitDue_iff (unset : config.commitInterval = none) :
    t.commitDue config now = true ↔ config.commitEvery ≤ t.sinceCommit := by
  simp [commitDue, unset]

theorem settled_due (unset : config.commitInterval = none) :
    (t.settled config now offset generation failed).2 =
      decide (t.sinceCommit < (t.settled config now offset generation failed).1.sinceCommit ∧
        config.commitEvery ≤ (t.settled config now offset generation failed).1.sinceCommit) := by
  unfold settled
  split
  · simp
  · split
    · simp
    · simp [commitDue, unset]

/-- An effective settlement and the offsets the watermark passes by it. -/
structure EffectiveSettlement (t t' : StreamOffsetTracker) (offset : Nat) (left : List Nat) :
    Prop where
  generation : t'.generation = t.generation
  keys : t.pending.keys = left ++ t'.pending.keys
  sinceCommit : t'.sinceCommit = t.sinceCommit + left.length
  processed : t'.processed = left.getLast?.or t.processed
  marks : ∀ other, (t.pending.set offset true).get? other = some true ↔
    other ∈ left ∨ t'.pending.get? other = some true
  stops : ∀ entry, t'.pending.entries.head? = some entry → entry.2 = false

theorem settled_effective (current : generation = t.generation)
    (held : t.pending.get? offset ≠ none) (counts : ¬ (failed = true ∧ t.closing = true)) :
    ∃ left, EffectiveSettlement t (t.settled config now offset generation failed).1 offset left :=
      by
  obtain ⟨front, pending, split, allSettled, stops, after⟩ := settled_eq current held counts
  rw [after]
  refine ⟨front.map Prod.fst, rfl, keys_eq_of_split held split, by simp,
    by simp [getLast?_map], fun other => ⟨fun marked => ?_, fun found => ?_⟩, stops⟩
  · have listed := mem_entries_of_get? marked
    rw [split] at listed
    rcases mem_append.mp listed with removed | remains
    · exact .inl (mem_map_of_mem removed)
    · exact .inr (get?_of_mem_entries remains)
  · have listed : (other, true) ∈ (t.pending.set offset true).entries := by
      rw [split]
      rcases found with removed | remains
      · obtain ⟨entry, member, rfl⟩ := mem_map.mp removed
        have settled := allSettled entry member
        exact mem_append_left _ (settled ▸ member)
      · exact mem_append_right _ (mem_entries_of_get? remains)
    exact get?_of_mem_entries listed

theorem settled_cases (t : StreamOffsetTracker) (config : StreamConsumerConfig) (now : ℚ)
    (offset generation : Nat) (failed : Bool) :
    ((t.settled config now offset generation failed).1 = t ∧
      (generation ≠ t.generation ∨ t.pending.get? offset = none ∨
        (failed = true ∧ t.closing = true))) ∨
    (generation = t.generation ∧ ¬ (failed = true ∧ t.closing = true) ∧ ∃ left,
        EffectiveSettlement t (t.settled config now offset generation failed).1 offset left) := by
  by_cases enters : generation ≠ t.generation ∨ t.pending.get? offset = none
  · refine .inl ⟨by rw [settled, if_pos enters], ?_⟩
    exact enters.imp_right .inl
  by_cases handedBack : failed = true ∧ t.closing = true
  · refine .inl ⟨by rw [settled, if_neg enters, if_pos handedBack], ?_⟩
    exact .inr (.inr handedBack)
  obtain ⟨current, held⟩ : generation = t.generation ∧ t.pending.get? offset ≠ none := by
    simpa using enters
  exact .inr ⟨current, handedBack, settled_effective current held handedBack⟩

structure ArrivalStep (t t' : StreamOffsetTracker) : Prop where
  processed : t'.processed = t.processed
  committed : t'.committed = t.committed
  sinceCommit : t'.sinceCommit = t.sinceCommit
  generation : t.generation ≤ t'.generation
  marks : ∀ other, t'.pending.get? other = some true → t.pending.get? other = some true
  kept : t'.generation = t.generation → ∀ other settled,
    t.pending.get? other = some settled → t'.pending.get? other = some settled
  stops : (∀ entry, t.pending.entries.head? = some entry → entry.2 = false) →
    ∀ entry, t'.pending.entries.head? = some entry → entry.2 = false

theorem arrivalStep_refl (t : StreamOffsetTracker) : ArrivalStep t t :=
  ⟨rfl, rfl, rfl, le_refl _, fun _ => id, fun _ _ _ => id, id⟩

theorem ArrivalStep.trans {t t' t'' : StreamOffsetTracker} (first : ArrivalStep t t')
    (second : ArrivalStep t' t'') : ArrivalStep t t'' where
  processed := second.processed.trans first.processed
  committed := second.committed.trans first.committed
  sinceCommit := second.sinceCommit.trans first.sinceCommit
  generation := le_trans first.generation second.generation
  marks other marked := first.marks other (second.marks other marked)
  kept same other settled held := by
    have between : t'.generation = t.generation :=
      le_antisymm (same ▸ second.generation) first.generation
    exact second.kept (same.trans between.symm) other settled
      (first.kept between other settled held)
  stops front := second.stops (first.stops front)

theorem noted_arrival (t : StreamOffsetTracker) (tag : Option Nat) (offset : Nat) :
    ArrivalStep t (t.noted tag offset) := by
  unfold noted renewed
  split
  · refine ⟨rfl, rfl, rfl, Nat.le_succ _, ?_, ?_, ?_⟩
    · intro other marked
      simp at marked
    · intro same
      exact absurd same (Nat.succ_ne_self _)
    · intro _ entry first
      simp [empty] at first
  · exact ⟨rfl, rfl, rfl, le_refl _, fun _ => id, fun _ _ _ => id, id⟩

theorem push_arrival (fresh : offset ∉ t.pending.keys) :
    ArrivalStep t { t with pending := t.pending.set offset false } := by
  refine ⟨rfl, rfl, rfl, le_refl _, ?_, ?_, ?_⟩
  · intro other marked
    by_cases same : other = offset
    · simp [same] at marked
    · simpa [same] using marked
  · intro _ other settled held
    have different : other ≠ offset := by
      rintro rfl
      exact fresh ((mem_keys_iff _ _).mpr ⟨settled, held⟩)
    simpa [different] using held
  · intro front entry first
    rw [entries_set_of_not_mem fresh, head?_append] at first
    cases before : t.pending.entries.head? with
    | none =>
      have last : (offset, false) = entry := by simpa [before] using first
      exact last ▸ rfl
    | some head =>
      have same : head = entry := by simpa [before] using first
      exact same ▸ front head before

theorem track_arrival (ordered : t.Ordered) (tag : Option Nat) (offset : Nat) :
    ArrivalStep t (t.track tag (some offset)).1 := by
  have noted := noted_arrival t tag offset
  have below := (noted_ordered ordered tag offset).2
  unfold track
  dsimp only
  split
  · exact noted
  · exact noted.trans (push_arrival fun member => lt_irrefl offset (below offset member))

end StreamOffsetTracker

end RabbitKit
