import RabbitKit.LabelledRun
import RabbitKit.StreamOffsetTracker

/-! # The watermark never passes an unsettled delivery

A stream consumer with its offset store: deliveries arrive in the order of their offsets,
settlements come in any order and from any earlier subscription, commits are cut at the calls of the
store, and the process may crash and start again from what the store holds. The pending map is
ascending and lies above the watermark.
-/

namespace RabbitKit

open LabelledRun StreamOffsetTracker OrderedDict List

namespace StreamOffsetTracker

/-- The loop removes a settled front and puts the watermark on its last offset. -/
theorem advance_spec (entries : List (Nat × Bool)) (nodup : (entries.map Prod.fst).Nodup)
    (processed : Option Nat) (advanced : Nat) :
    ∃ front, entries = front ++ (advance entries nodup processed advanced).1.entries ∧
      (∀ entry ∈ front, entry.2 = true) ∧ (advance entries nodup processed advanced).2.1 =
        (front.getLast?.map Prod.fst).or processed ∧
      (advance entries nodup processed advanced).2.2 = advanced + front.length ∧
      ∀ entry, (advance entries nodup processed advanced).1.entries.head? = some entry →
        entry.2 = false := by
  induction entries generalizing processed advanced with
  | nil => exact ⟨[], by simp [advance]⟩
  | cons entry rest ih =>
    obtain ⟨first, settled⟩ := entry
    cases settled with
    | false => exact ⟨[], by simp [advance]⟩
    | true =>
      obtain ⟨front, split, allSettled, moved, counted, stops⟩ :=
        ih (nodup_cons.mp nodup).2 (some first) (advanced + 1)
      refine ⟨(first, true) :: front, ?_, ?_, ?_, ?_, stops⟩
      · simpa [advance] using split
      · simpa using allSettled
      · rw [advance, moved]
        cases last : front.getLast? <;> simp [getLast?_cons, last]
      · rw [advance, counted, length_cons]
        omega

structure Ordered (t : StreamOffsetTracker) : Prop where
  ascending : t.pending.keys.Pairwise (· < ·)
  above : ∀ watermark, t.processed = some watermark → ∀ offset ∈ t.pending.keys,
    watermark < offset
  delivered : ∀ offset ∈ t.pending.keys, ∃ last, t.lastOffset = some last ∧ offset ≤ last
  resumes : ∀ watermark, t.processed = some watermark →
    t.argument = .offset (watermark + 1)

def AtMost (first second : Option Nat) : Prop :=
  ∀ watermark, first = some watermark → ∃ later, second = some later ∧ watermark ≤ later

theorem AtMost.refl (watermark : Option Nat) : AtMost watermark watermark :=
  fun value same => ⟨value, same, le_refl value⟩

theorem AtMost.trans {first second third : Option Nat} (before : AtMost first second)
    (after : AtMost second third) : AtMost first third := by
  intro watermark same
  obtain ⟨middle, found, below⟩ := before watermark same
  obtain ⟨last, found', below'⟩ := after middle found
  exact ⟨last, found', le_trans below below'⟩

variable {t : StreamOffsetTracker} {config : StreamConsumerConfig} {now : ℚ}
  {offset generation : Nat} {failed : Bool}

structure SettledStep (t t' : StreamOffsetTracker) (offset : Nat) : Prop where
  generation : t'.generation = t.generation
  lastTag : t'.lastTag = t.lastTag
  lastOffset : t'.lastOffset = t.lastOffset
  committed : t'.committed = t.committed
  rises : AtMost t.processed t'.processed
  ordered : t'.Ordered
  others : ∀ other, other ≠ offset → t.pending.get? other = some false →
    t'.pending.get? other = some false

theorem settledStep_refl (ordered : t.Ordered) (offset : Nat) : SettledStep t t offset :=
  ⟨rfl, rfl, rfl, rfl, .refl _, ordered, fun _ _ held => held⟩

theorem settled_eq (current : generation = t.generation)
    (held : t.pending.get? offset ≠ none) (counts : ¬ (failed = true ∧ t.closing = true)) :
    ∃ front pending, (t.pending.set offset true).entries = front ++ pending.entries ∧
      (∀ entry ∈ front, entry.2 = true) ∧
      (∀ entry, pending.entries.head? = some entry → entry.2 = false) ∧
      (t.settled config now offset generation failed).1 =
        { t with
          pending := pending
          processed := (front.getLast?.map Prod.fst).or t.processed
          failed := if failed then t.failed + 1 else t.failed
          argument := (front.getLast?.map fun entry => .offset (entry.1 + 1)).getD t.argument
          sinceCommit := t.sinceCommit + front.length } := by
  obtain ⟨front, split, allSettled, moved, counted, stops⟩ :=
    advance_spec (t.pending.set offset true).entries (t.pending.set offset true).nodupKeys
      t.processed 0
  refine ⟨front, _, split, allSettled, stops, ?_⟩
  have enters : ¬ (generation ≠ t.generation ∨ t.pending.get? offset = none) := by
    simp [current, held]
  rw [settled, if_neg enters, if_neg counts]
  simp only [moved, counted, Nat.zero_add]
  congr 1
  rcases eq_nil_or_concat front with rfl | ⟨earlier, last, rfl⟩
  · rfl
  · simp

theorem keys_eq_of_split {front : List (Nat × Bool)} {pending : OrderedDict Nat Bool}
    (held : t.pending.get? offset ≠ none)
    (split : (t.pending.set offset true).entries = front ++ pending.entries) :
    t.pending.keys = front.map Prod.fst ++ pending.keys := by
  have present : offset ∈ t.pending.keys := by
    rw [mem_keys_iff]
    exact Option.ne_none_iff_exists'.mp held
  have keys := keys_set t.pending offset true
  rw [if_pos present] at keys
  rw [← keys, OrderedDict.keys, split, map_append]
  rfl

/-- A settlement of an earlier generation and one handed back change nothing. -/
theorem settled_ineffective
    (ignored : generation ≠ t.generation ∨ (failed = true ∧ t.closing = true)) :
    (t.settled config now offset generation failed).1 = t := by
  unfold settled
  split
  · rfl
  next enters =>
    rw [if_pos (ignored.resolve_left fun stale => enters (.inl stale))]

theorem settled_spec (ordered : t.Ordered) :
    SettledStep t (t.settled config now offset generation failed).1 offset := by
  by_cases enters : generation ≠ t.generation ∨ t.pending.get? offset = none
  · rw [settled, if_pos enters]
    exact settledStep_refl ordered offset
  by_cases handedBack : failed = true ∧ t.closing = true
  · rw [settled, if_neg enters, if_pos handedBack]
    exact settledStep_refl ordered offset
  obtain ⟨current, held⟩ : generation = t.generation ∧ t.pending.get? offset ≠ none := by
    simpa using enters
  obtain ⟨front, pending, split, allSettled, _, after⟩ := settled_eq current held handedBack
  rw [after]
  have sameKeys := keys_eq_of_split held split
  have ascending := ordered.ascending
  rw [sameKeys] at ascending
  obtain ⟨_, pendingAscending, separated⟩ := pairwise_append.mp ascending
  have inPending : ∀ other ∈ pending.keys, other ∈ t.pending.keys := by
    intro other member
    rw [sameKeys]
    exact mem_append_right _ member
  have delivered : ∀ other ∈ pending.keys, ∃ last, t.lastOffset = some last ∧ other ≤ last :=
    fun other member => ordered.delivered other (inPending other member)
  have others : ∀ other, other ≠ offset → t.pending.get? other = some false →
      pending.get? other = some false := by
    intro other different unsettled
    have kept : (t.pending.set offset true).get? other = some false := by
      simpa [different] using unsettled
    have listed := mem_entries_of_get? kept
    rw [split] at listed
    rcases mem_append.mp listed with removed | remains
    · cases allSettled _ removed
    · exact get?_of_mem_entries remains
  rcases eq_nil_or_concat front with rfl | ⟨earlier, last, rfl⟩
  · exact ⟨rfl, rfl, rfl, rfl, .refl _, ⟨pendingAscending, fun watermark here other member =>
        ordered.above watermark here other (inPending other member), delivered,
        ordered.resumes⟩, others⟩
  · have lastKey : last.1 ∈ t.pending.keys := by simp [sameKeys]
    refine ⟨rfl, rfl, rfl, rfl, ?_, ⟨pendingAscending, ?_, delivered, ?_⟩, others⟩
    · intro watermark here
      exact ⟨last.1, by simp, le_of_lt (ordered.above watermark here last.1 lastKey)⟩
    · intro watermark here other member
      obtain rfl : last.1 = watermark := by simpa using here
      exact separated last.1 (by simp) other member
    · intro watermark here
      obtain rfl : last.1 = watermark := by simpa using here
      simp

structure TrackStep (t t' : StreamOffsetTracker) (tag : Option Nat) (offset : Nat)
    (hooked : Option Nat) : Prop where
  processed : t'.processed = t.processed
  committed : t'.committed = t.committed
  lastTag : t'.lastTag = tag
  lastOffset : t'.lastOffset = some offset
  ordered : t'.Ordered
  renewed : t.restarted tag offset = true → t'.generation = t.generation + 1
  continued : t.restarted tag offset = false → t'.generation = t.generation ∧
    ∀ other, t.pending.get? other = some false → t'.pending.get? other = some false
  hooks : ∀ generation, hooked = some generation →
    generation = t'.generation ∧ t'.pending.get? offset = some false

theorem lastOffset_lt_of_not_restarted {tag : Option Nat}
    (continues : t.restarted tag offset = false) :
    ∀ last, t.lastOffset = some last → last < offset := by
  intro last here
  simp only [restarted, here, Option.any_some, Bool.or_eq_false_iff, decide_eq_false_iff_not,
    not_le] at continues
  exact continues.2

theorem noted_ordered (ordered : t.Ordered) (tag : Option Nat) (offset : Nat) :
    (t.noted tag offset).Ordered ∧ ∀ other ∈ (t.noted tag offset).pending.keys, other < offset := by
  unfold noted renewed
  cases restart : t.restarted tag offset with
  | true => refine ⟨⟨?_, ?_, ?_, ordered.resumes⟩, ?_⟩ <;> simp
  | false =>
    have below : ∀ other ∈ t.pending.keys, other < offset := by
      intro other member
      obtain ⟨last, here, bound⟩ := ordered.delivered other member
      exact lt_of_le_of_lt bound (lastOffset_lt_of_not_restarted restart last here)
    exact ⟨⟨ordered.ascending, ordered.above,
      fun other member => ⟨offset, rfl, le_of_lt (below other member)⟩, ordered.resumes⟩, below⟩

theorem Ordered.push (ordered : t.Ordered) (below : ∀ other ∈ t.pending.keys, other < offset)
    (last : t.lastOffset = some offset) (above : t.processed.any (offset ≤ ·) = false) :
    { t with pending := t.pending.set offset false }.Ordered := by
  have keys : (t.pending.set offset false).keys = t.pending.keys ++ [offset] := by
    rw [keys_set, if_neg fun member => lt_irrefl offset (below offset member)]
  refine ⟨?_, ?_, ?_, ordered.resumes⟩
  · rw [keys]
    exact pairwise_append.mpr ⟨ordered.ascending, by simp, by simpa using below⟩
  · intro watermark here other member
    rw [keys] at member
    rcases mem_append.mp member with old | fresh
    · exact ordered.above watermark here other old
    · obtain rfl : other = offset := by simpa using fresh
      have here : t.processed = some watermark := here
      simpa [here] using above
  · intro other member
    rw [keys] at member
    refine ⟨offset, last, ?_⟩
    rcases mem_append.mp member with old | fresh
    · exact le_of_lt (below other old)
    · exact le_of_eq (by simpa using fresh)

theorem track_spec (ordered : t.Ordered) (tag : Option Nat) (offset : Nat) :
    TrackStep t (t.track tag (some offset)).1 tag offset (t.track tag (some offset)).2 := by
  obtain ⟨notedOrdered, below⟩ := noted_ordered ordered tag offset
  have processed : (t.noted tag offset).processed = t.processed := by
    unfold noted renewed
    split <;> rfl
  have committed : (t.noted tag offset).committed = t.committed := by
    unfold noted renewed
    split <;> rfl
  have renews : t.restarted tag offset = true →
      (t.noted tag offset).generation = t.generation + 1 := by
    intro restart
    simp [noted, renewed, restart]
  have continues : t.restarted tag offset = false → (t.noted tag offset).generation = t.generation ∧
        (t.noted tag offset).pending = t.pending := by
    intro restart
    simp [noted, renewed, restart]
  unfold track
  dsimp only
  split
  · exact ⟨processed, committed, rfl, rfl, notedOrdered, renews,
      fun restart => ⟨(continues restart).1, fun other held => by rwa [(continues restart).2]⟩,
      by simp⟩
  next above =>
    refine ⟨processed, committed, rfl, rfl,
      notedOrdered.push below rfl (by simpa using above), renews, ?_, ?_⟩
    · refine fun restart => ⟨(continues restart).1, fun other held => ?_⟩
      have different : other ≠ offset := by
        rintro rfl
        have member : other ∈ (t.noted tag other).pending.keys := by
          rw [(continues restart).2, mem_keys_iff]
          exact ⟨false, held⟩
        exact lt_irrefl other (below other member)
      simpa [(continues restart).2, different] using held
    · intro generation hooked
      cases hooked
      exact ⟨rfl, by simp⟩

end StreamOffsetTracker

/-- A delivery whose settlement functions were wrapped by the tracker. -/
structure HookedDelivery where
  subscription : Nat
  offset : Nat
  generation : Nat
  deriving DecidableEq

/-- How far the one commit that may be running has come. -/
inductive CommitPhase
  | idle
  | saving (target covered : Nat)
  | saved (target covered : Nat)
  deriving DecidableEq

/-- A consumer with its store.  The last five fields are bookkeeping: the number
of the current subscription, the tag and offset it delivered last, the hooked
deliveries of this process, those of them settled, and the offsets of the
successful saves in their order. -/
structure StreamWorld where
  tracker : StreamOffsetTracker
  store : Option Nat
  commit : CommitPhase := .idle
  subscription : Nat := 0
  cursor : Option (Nat × Nat) := none
  hooked : List HookedDelivery := []
  settled : List HookedDelivery := []
  saves : List Nat := []

inductive StreamAction
  | consume
  | subscribed (wallClock : ℚ)
  | deliver (tag offset : Nat)
  | settle (delivery : HookedDelivery) (failed : Bool) (now : ℚ)
  | beginShutdown
  | commitBegin
  | saveReturned
  | saveRaised (stored : Bool)
  | commitEnd (now : ℚ)
  | restart (now : ℚ)
  deriving DecidableEq

namespace StreamWorld

def init (config : StreamConsumerConfig) (stored : Option Nat) (now : ℚ) : StreamWorld where
  tracker := .init config stored now
  store := stored

def afterDeliver (w : StreamWorld) (tag offset : Nat) : StreamWorld :=
  { w with
    tracker := (w.tracker.track (some tag) (some offset)).1
    cursor := some (tag, offset)
    hooked :=
      (w.tracker.track (some tag) (some offset)).2.toList.map
        (⟨w.subscription, offset, ·⟩) ++ w.hooked }

/-- A nack or reject during shutdown hands the delivery back and settles nothing. -/
def afterSettle (w : StreamWorld) (config : StreamConsumerConfig) (delivery : HookedDelivery)
    (failed : Bool) (now : ℚ) : StreamWorld :=
  { w with
    tracker :=
      (w.tracker.settled config now delivery.offset delivery.generation failed).1
    settled := if failed && w.tracker.closing then w.settled else delivery :: w.settled }

def afterRestart (w : StreamWorld) (config : StreamConsumerConfig) (now : ℚ) : StreamWorld :=
  { w with
    tracker := .init config w.store now
    commit := .idle
    subscription := w.subscription + 1
    cursor := none
    hooked := []
    settled := [] }

def step (config : StreamConsumerConfig) (w : StreamWorld) : StreamAction → Option StreamWorld
  | .consume => some { w with subscription := w.subscription + 1, cursor := none }
  | .subscribed wallClock => some { w with tracker := w.tracker.subscribed config wallClock }
  | .deliver tag offset =>
    if w.cursor.all fun last => last.1 < tag ∧ last.2 < offset then
      some (w.afterDeliver tag offset)
    else none
  | .settle delivery failed now =>
    if delivery ∈ w.hooked then some (w.afterSettle config delivery failed now) else none
  | .beginShutdown => some { w with tracker := w.tracker.beginShutdown }
  | .commitBegin =>
    match w.commit, w.tracker.commitTarget with
    | .idle, some (target, covered) => some { w with commit := .saving target covered }
    | .idle, none => some w
    | _, _ => none
  | .saveReturned =>
    match w.commit with
    | .saving target covered =>
      some { w with
        commit := .saved target covered
        store := some target
        saves := w.saves ++ [target] }
    | _ => none
  | .saveRaised stored =>
    match w.commit with
    | .saving target _ =>
      some { w with
        commit := .idle
        tracker := w.tracker.commitFailed
        store := if stored then some target else w.store }
    | _ => none
  | .commitEnd now =>
    match w.commit with
    | .saved target covered =>
      some { w with
        commit := .idle
        tracker := w.tracker.commitSaved target covered now }
    | _ => none
  | .restart now => some (w.afterRestart config now)

open StreamOffsetTracker (AtMost)

/-- The store, the committed offset and the saves in relation to the watermark. -/
structure CommitInvariant (processed committed store : Option Nat) (phase : CommitPhase)
    (saves : List Nat) : Prop where
  committed_le : AtMost committed processed
  stored_le : AtMost store processed
  savesStored : ∀ offset ∈ saves, AtMost (some offset) store
  increasing : saves.Pairwise (· < ·)
  running : match phase with
    | .idle => ∀ offset ∈ saves, AtMost (some offset) committed
    | .saving target _ =>
      AtMost (some target) processed ∧ (∀ offset ∈ saves, offset < target) ∧
        ∀ offset ∈ saves, AtMost (some offset) committed
    | .saved target _ => AtMost (some target) processed ∧ ∀ offset ∈ saves, offset ≤ target

section Commits

variable {processed committed store : Option Nat} {phase : CommitPhase} {saves : List Nat}
  {target covered : Nat}

theorem CommitInvariant.raise (inv : CommitInvariant processed committed store phase saves)
    {processed' : Option Nat} (rises : AtMost processed processed') :
    CommitInvariant processed' committed store phase saves := by
  refine ⟨inv.committed_le.trans rises, inv.stored_le.trans rises, inv.savesStored,
    inv.increasing, ?_⟩
  have running := inv.running
  cases phase with
  | idle => exact running
  | saving | saved => exact ⟨running.1.trans rises, running.2⟩

theorem commitTarget_eq_some {t : StreamOffsetTracker}
    (due : t.commitTarget = some (target, covered)) :
    t.processed = some target ∧ covered = t.sinceCommit ∧
      ∀ last, t.committed = some last → last < target := by
  unfold commitTarget at due
  split at due
  · cases due
  next watermark here =>
    split at due
    · cases due
    next ahead =>
      cases due
      refine ⟨here, rfl, fun last known => ?_⟩
      simpa [known] using ahead

theorem CommitInvariant.begin {t : StreamOffsetTracker}
    (inv : CommitInvariant t.processed t.committed store .idle saves)
    (due : t.commitTarget = some (target, covered)) :
    CommitInvariant t.processed t.committed store (.saving target covered) saves := by
  obtain ⟨here, -, ahead⟩ := commitTarget_eq_some due
  have saved : ∀ offset ∈ saves, AtMost (some offset) t.committed := inv.running
  refine ⟨inv.committed_le, inv.stored_le, inv.savesStored, inv.increasing, here ▸ .refl _,
    fun offset member => ?_, saved⟩
  obtain ⟨last, known, below⟩ := saved offset member offset rfl
  exact lt_of_le_of_lt below (ahead last known)

section

variable (inv : CommitInvariant processed committed store (.saving target covered) saves)
include inv

theorem CommitInvariant.stores :
    AtMost (some target) processed ∧ ∀ offset ∈ saves, AtMost (some offset) (some target) := by
  obtain ⟨reached, ahead, _⟩ := inv.running
  refine ⟨reached, fun offset member watermark same => ⟨target, rfl, ?_⟩⟩
  cases same
  exact le_of_lt (ahead _ member)

theorem CommitInvariant.save :
    CommitInvariant processed committed (some target) (.saved target covered)
      (saves ++ [target]) := by
  obtain ⟨reached, ahead, _⟩ := inv.running
  have all : ∀ offset ∈ saves ++ [target], offset ≤ target := by
    intro offset member
    rcases mem_append.mp member with old | new
    · exact le_of_lt (ahead offset old)
    · exact le_of_eq (by simpa using new)
  refine ⟨inv.committed_le, reached, ?_, ?_, reached, all⟩
  · intro offset member watermark same
    cases same
    exact ⟨target, rfl, all _ member⟩
  · exact pairwise_append.mpr ⟨inv.increasing, by simp, by simpa using ahead⟩

theorem CommitInvariant.fail (stored : Bool) :
    CommitInvariant processed committed (if stored then some target else store) .idle saves := by
  obtain ⟨reached, taken⟩ := inv.stores
  cases stored with
  | true => exact ⟨inv.committed_le, reached, taken, inv.increasing, inv.running.2.2⟩
  | false =>
    exact ⟨inv.committed_le, inv.stored_le, inv.savesStored, inv.increasing, inv.running.2.2⟩

end

theorem CommitInvariant.finish
    (inv : CommitInvariant processed committed store (.saved target covered) saves) :
    CommitInvariant processed (some target) store .idle saves := by
  obtain ⟨reached, all⟩ := inv.running
  refine ⟨reached, inv.stored_le, inv.savesStored, inv.increasing, ?_⟩
  intro offset member watermark same
  cases same
  exact ⟨target, rfl, all _ member⟩

theorem CommitInvariant.restart (inv : CommitInvariant processed committed store phase saves) :
    CommitInvariant store store store .idle saves :=
  ⟨.refl _, .refl _, inv.savesStored, inv.increasing, inv.savesStored⟩

end Commits

/-- Generation and offset name a hooked delivery, and those of the current
subscription wait in the pending map until they are settled. -/
structure HookInvariant (w : StreamWorld) : Prop where
  ordered : w.tracker.Ordered
  synced : ∀ tag offset, w.cursor = some (tag, offset) →
    w.tracker.lastTag = some tag ∧ w.tracker.lastOffset = some offset
  fresh : w.cursor = none → ∀ d ∈ w.hooked, d.subscription < w.subscription
  subscriptions : ∀ d ∈ w.hooked, d.subscription ≤ w.subscription
  generations : ∀ d ∈ w.hooked, d.generation ≤ w.tracker.generation
  delivered : ∀ d ∈ w.hooked, d.generation = w.tracker.generation →
    ∃ last, w.tracker.lastOffset = some last ∧ d.offset ≤ last
  distinct : ∀ d ∈ w.hooked, ∀ d' ∈ w.hooked, d.generation = d'.generation →
    d.offset = d'.offset → d = d'
  current : ∀ d ∈ w.hooked, d.subscription = w.subscription →
    d.generation = w.tracker.generation
  waiting : ∀ d ∈ w.hooked, d.subscription = w.subscription → d ∉ w.settled →
    w.tracker.pending.get? d.offset = some false

variable {config : StreamConsumerConfig} {w w' : StreamWorld} {action : StreamAction}

section

variable (inv : HookInvariant w)
include inv

/-- Only the last delivery of the subscription can make the next one look like a
restart, and it does not. -/
theorem HookInvariant.not_restarted {tag offset : Nat}
    {last : Nat × Nat} (here : w.cursor = some last) (increasing : last.1 < tag ∧ last.2 < offset) :
    w.tracker.restarted (some tag) offset = false := by
  obtain ⟨lastTag, lastOffset⟩ := inv.synced last.1 last.2 here
  simp [restarted, lastTag, lastOffset, increasing.1, increasing.2]

theorem HookInvariant.deliver {tag offset : Nat}
    (increasing : ∀ last, w.cursor = some last → last.1 < tag ∧ last.2 < offset) :
    HookInvariant (w.afterDeliver tag offset) := by
  let after := w.afterDeliver tag offset
  have tracked := track_spec inv.ordered (some tag) offset
  have later : w.tracker.generation ≤ after.tracker.generation := by
    cases restart : w.tracker.restarted (some tag) offset with
    | true => exact le_of_lt (tracked.renewed restart ▸ Nat.lt_succ_self _)
    | false => exact le_of_eq (tracked.continued restart).1.symm
  have continues : ∀ d ∈ w.hooked, d.subscription = w.subscription →
      w.tracker.restarted (some tag) offset = false := by
    intro d member here
    cases started : w.cursor with
    | none => exact absurd here (ne_of_lt (inv.fresh started d member))
    | some last => exact inv.not_restarted started (increasing last started)
  have below : ∀ d ∈ w.hooked, d.generation = after.tracker.generation → d.offset < offset := by
    intro d member same
    cases restart : w.tracker.restarted (some tag) offset with
    | true =>
      have bound := inv.generations d member
      have renewed : after.tracker.generation = _ := tracked.renewed restart
      omega
    | false =>
      obtain ⟨last, here, bound⟩ :=
        inv.delivered d member (same.trans (tracked.continued restart).1)
      exact lt_of_le_of_lt bound (lastOffset_lt_of_not_restarted restart last here)
  have hooks : ∀ d ∈ after.hooked, (d = ⟨w.subscription, offset, after.tracker.generation⟩ ∧
      after.tracker.pending.get? offset = some false) ∨ d ∈ w.hooked := by
    intro d member
    rcases mem_append.mp member with new | old
    · left
      obtain ⟨generation, hooked, rfl⟩ := mem_map.mp new
      obtain ⟨rfl, waits⟩ := tracked.hooks generation (by simpa using hooked)
      exact ⟨rfl, waits⟩
    · exact .inr old
  refine ⟨tracked.ordered, ?_, by simp [afterDeliver], ?_, ?_, ?_, ?_, ?_, ?_⟩
  · intro lastTag lastOffset here
    cases here
    exact ⟨tracked.lastTag, tracked.lastOffset⟩
  · intro d member
    rcases hooks d member with ⟨rfl, _⟩ | old
    · exact le_refl _
    · exact inv.subscriptions d old
  · intro d member
    rcases hooks d member with ⟨rfl, _⟩ | old
    · exact le_refl _
    · exact le_trans (inv.generations d old) later
  · intro d member same
    refine ⟨offset, tracked.lastOffset, ?_⟩
    rcases hooks d member with ⟨rfl, _⟩ | old
    · exact le_refl _
    · exact le_of_lt (below d old same)
  · intro d member d' member' generations offsets
    rcases hooks d member with ⟨rfl, _⟩ | old <;> rcases hooks d' member' with ⟨rfl, _⟩ | old'
    · rfl
    · exact absurd offsets (ne_of_gt (below d' old' generations.symm))
    · exact absurd offsets (ne_of_lt (below d old generations))
    · exact inv.distinct d old d' old' generations offsets
  · intro d member here
    rcases hooks d member with ⟨rfl, _⟩ | old
    · rfl
    · exact (inv.current d old here).trans (tracked.continued (continues d old here)).1.symm
  · intro d member here unsettled
    rcases hooks d member with ⟨rfl, waits⟩ | old
    · exact waits
    · exact (tracked.continued (continues d old here)).2 d.offset (inv.waiting d old here unsettled)

theorem HookInvariant.settle {delivery : HookedDelivery}
    (hooked : delivery ∈ w.hooked) (failed : Bool) (now : ℚ) :
    HookInvariant (w.afterSettle config delivery failed now) := by
  have done : StreamOffsetTracker.SettledStep w.tracker
      (w.afterSettle config delivery failed now).tracker delivery.offset :=
    settled_spec inv.ordered
  refine ⟨done.ordered, ?_, inv.fresh, inv.subscriptions, ?_, ?_, inv.distinct, ?_, ?_⟩
  · rw [done.lastTag, done.lastOffset]
    exact inv.synced
  · rw [done.generation]
    exact inv.generations
  · rw [done.generation, done.lastOffset]
    exact inv.delivered
  · rw [done.generation]
    exact inv.current
  · intro d member here unsettled
    by_cases handedBack : failed = true ∧ w.tracker.closing = true
    · have same : (w.afterSettle config delivery failed now).tracker = w.tracker :=
        settled_ineffective (.inr handedBack)
      have logged : d ∉ w.settled := by simpa [afterSettle, handedBack] using unsettled
      rw [same]
      exact inv.waiting d member here logged
    · obtain ⟨different, logged⟩ : d ≠ delivery ∧ d ∉ w.settled := by
        have counted : ¬ (failed && w.tracker.closing) = true := by simpa using handedBack
        simpa [afterSettle, counted] using unsettled
      have waits := inv.waiting d member here logged
      by_cases sameOffset : d.offset = delivery.offset
      · have stale : delivery.generation ≠ w.tracker.generation := fun current =>
          different (inv.distinct d member delivery hooked
            ((inv.current d member here).trans current.symm) sameOffset)
        have same : (w.afterSettle config delivery failed now).tracker = w.tracker :=
          settled_ineffective (.inl stale)
        rw [same]
        exact waits
      · exact done.others d.offset sameOffset waits

theorem HookInvariant.congr (ordered : w'.tracker.Ordered)
    (pending : w'.tracker.pending = w.tracker.pending)
    (generation : w'.tracker.generation = w.tracker.generation)
    (lastTag : w'.tracker.lastTag = w.tracker.lastTag)
    (lastOffset : w'.tracker.lastOffset = w.tracker.lastOffset)
    (cursor : w'.cursor = w.cursor) (subscription : w'.subscription = w.subscription)
    (hooked : w'.hooked = w.hooked) (settled : w'.settled = w.settled) : HookInvariant w' := by
  obtain ⟨_, synced, fresh, subscriptions, generations, delivered, distinct, current, waiting⟩ :=
    inv
  refine ⟨ordered, ?_, ?_, ?_, ?_, ?_, ?_, ?_, ?_⟩ <;>
    simp only [pending, generation, lastTag, lastOffset, cursor, subscription, hooked, settled] <;>
    assumption

theorem HookInvariant.consume :
    HookInvariant { w with subscription := w.subscription + 1, cursor := none } := by
  have past : ∀ d ∈ w.hooked, d.subscription < w.subscription + 1 := fun d member =>
    Nat.lt_succ_of_le (inv.subscriptions d member)
  exact ⟨inv.ordered, by simp, fun _ => past, fun d member => le_of_lt (past d member),
    inv.generations, inv.delivered, inv.distinct,
    fun d member here => absurd here (ne_of_lt (past d member)),
    fun d member here => absurd here (ne_of_lt (past d member))⟩

end

theorem hookInvariant_init (config : StreamConsumerConfig) {w : StreamWorld} {now : ℚ}
    {stored : Option Nat} (tracker : w.tracker = .init config stored now)
    (cursor : w.cursor = none) (hooked : w.hooked = []) : HookInvariant w := by
  have ordered : w.tracker.Ordered := by
    rw [tracker]
    refine ⟨by simp [StreamOffsetTracker.init], by simp [StreamOffsetTracker.init],
      by simp [StreamOffsetTracker.init], ?_⟩
    intro watermark here
    have here : stored = some watermark := here
    simp [StreamOffsetTracker.init, here]
  constructor <;> simp [cursor, hooked, ordered]

structure WatermarkInvariant (w : StreamWorld) : Prop where
  hooks : HookInvariant w
  commits : CommitInvariant w.tracker.processed w.tracker.committed w.store w.commit w.saves

theorem watermarkInvariant_init (config : StreamConsumerConfig) (stored : Option Nat) (now : ℚ) :
    WatermarkInvariant (init config stored now) :=
  ⟨hookInvariant_init config rfl rfl rfl,
    ⟨.refl _, .refl _, by simp [init], by simp [init], by simp [init]⟩⟩

theorem WatermarkInvariant.step (inv : WatermarkInvariant w)
    (taken : step config w action = some w') : WatermarkInvariant w' := by
  have ordered := inv.hooks.ordered
  cases action <;> simp only [step] at taken
  case consume =>
    cases taken
    exact ⟨inv.hooks.consume, inv.commits⟩
  case subscribed wallClock =>
    cases taken
    refine ⟨inv.hooks.congr ⟨ordered.ascending, ordered.above, ordered.delivered, ?_⟩
      rfl rfl rfl rfl rfl rfl rfl rfl, inv.commits⟩
    intro watermark here
    have known : w.tracker.processed = some watermark := here
    simpa [subscribed, known] using ordered.resumes watermark known
  case deliver tag offset =>
    split at taken
    next increasing =>
      cases taken
      have tracked := track_spec ordered (some tag) offset
      refine ⟨inv.hooks.deliver fun last here => ?_, ?_⟩
      · simpa [here] using increasing
      · have same := inv.commits
        rw [← tracked.processed, ← tracked.committed] at same
        exact same
    · cases taken
  case settle delivery failed now =>
    split at taken
    next hooked =>
      cases taken
      have done : StreamOffsetTracker.SettledStep w.tracker
          (w.afterSettle config delivery failed now).tracker delivery.offset :=
        settled_spec ordered
      refine ⟨inv.hooks.settle hooked failed now, ?_⟩
      have raised := inv.commits.raise done.rises
      rw [← done.committed] at raised
      exact raised
    · cases taken
  case beginShutdown =>
    cases taken
    exact ⟨inv.hooks.congr ⟨ordered.ascending, ordered.above, ordered.delivered,
      ordered.resumes⟩ rfl rfl rfl rfl rfl rfl rfl rfl, inv.commits⟩
  case commitBegin =>
    split at taken
    next target covered idle due =>
      cases taken
      have commits := inv.commits
      rw [idle] at commits
      exact ⟨inv.hooks.congr ordered rfl rfl rfl rfl rfl rfl rfl rfl, commits.begin due⟩
    · cases taken
      exact inv
    · cases taken
  case saveReturned =>
    split at taken
    next target covered saving =>
      cases taken
      have commits := inv.commits
      rw [saving] at commits
      exact ⟨inv.hooks.congr ordered rfl rfl rfl rfl rfl rfl rfl rfl, commits.save⟩
    · cases taken
  case saveRaised stored =>
    split at taken
    next target covered saving =>
      cases taken
      have commits := inv.commits
      rw [saving] at commits
      exact ⟨inv.hooks.congr ⟨ordered.ascending, ordered.above, ordered.delivered,
        ordered.resumes⟩ rfl rfl rfl rfl rfl rfl rfl rfl, commits.fail stored⟩
    · cases taken
  case commitEnd now =>
    split at taken
    next target covered saved =>
      cases taken
      have commits := inv.commits
      rw [saved] at commits
      exact ⟨inv.hooks.congr ⟨ordered.ascending, ordered.above, ordered.delivered,
        ordered.resumes⟩ rfl rfl rfl rfl rfl rfl rfl rfl, commits.finish⟩
    · cases taken
  case restart now =>
    cases taken
    exact ⟨hookInvariant_init config rfl rfl rfl, inv.commits.restart⟩

/-- What holds of the watermark in every state of a consumer. -/
structure WatermarkSafe (w : StreamWorld) : Prop where
  unsettled_above : ∀ d ∈ w.hooked, d.subscription = w.subscription → d ∉ w.settled →
    ∀ watermark, w.tracker.processed = some watermark → watermark < d.offset
  committed_le : AtMost w.tracker.committed w.tracker.processed
  stored_le : AtMost w.store w.tracker.processed
  saves_increasing : w.saves.Pairwise (· < ·)
  resumes_next : ∀ watermark, w.tracker.processed = some watermark →
    w.tracker.argument = .offset (watermark + 1)

theorem WatermarkInvariant.safe (inv : WatermarkInvariant w) : WatermarkSafe w where
  unsettled_above d member here unsettled watermark known := by
    have waits := inv.hooks.waiting d member here unsettled
    exact inv.hooks.ordered.above watermark known d.offset ((mem_keys_iff _ _).mpr ⟨false, waits⟩)
  committed_le := inv.commits.committed_le
  stored_le := inv.commits.stored_le
  saves_increasing := inv.commits.increasing
  resumes_next := inv.hooks.ordered.resumes

theorem WatermarkInvariant.rises (inv : WatermarkInvariant w)
    (taken : StreamWorld.step config w action = some w') :
    AtMost w.tracker.processed w'.tracker.processed ∨
      ∃ now, action = .restart now ∧ w'.tracker.processed = w.store := by
  have ordered := inv.hooks.ordered
  cases action <;> simp only [StreamWorld.step] at taken
  case restart now =>
    cases taken
    exact .inr ⟨now, rfl, rfl⟩
  case consume | subscribed | beginShutdown =>
    cases taken
    exact .inl (.refl _)
  case deliver tag offset =>
    split at taken
    · cases taken
      left
      have same := (track_spec ordered (some tag) offset).processed
      change AtMost _ (w.tracker.track (some tag) (some offset)).1.processed
      rw [same]
      exact .refl _
    · cases taken
  case settle delivery failed now =>
    split at taken
    · cases taken
      exact .inl (settled_spec ordered).rises
    · cases taken
  case commitBegin =>
    split at taken <;> cases taken <;> exact .inl (.refl _)
  case saveReturned | saveRaised | commitEnd =>
    split at taken <;> cases taken
    exact .inl (.refl _)

theorem hooked_of_above {tag offset : Nat}
    (above : ∀ watermark, w.tracker.processed = some watermark → watermark < offset)
    (taken : step config w (.deliver tag offset) = some w') :
    ∃ generation, ⟨w.subscription, offset, generation⟩ ∈ w'.hooked := by
  simp only [step] at taken
  split at taken
  · cases taken
    have processed : (w.tracker.noted (some tag) offset).processed = w.tracker.processed := by
      unfold noted renewed
      split <;> rfl
    have passes : (w.tracker.noted (some tag) offset).processed.any (offset ≤ ·) = false := by
      rw [processed]
      cases known : w.tracker.processed with
      | none => rfl
      | some watermark => simpa using above watermark known
    refine ⟨(w.tracker.noted (some tag) offset).generation, mem_append_left _ ?_⟩
    simp [track, passes]
  · cases taken

/-- In every run the watermark stays below each unsettled delivery of the current
subscription that was above it when it arrived; it never falls within a process
and falls back to the stored offset when a process starts. -/
theorem watermark_safe {stored : Option Nat} {now : ℚ} {actions : List StreamAction}
    (run : Run (step config) (init config stored now) actions w) : WatermarkSafe w ∧
    (∀ action w', step config w action = some w' → AtMost w.tracker.processed w'.tracker.processed ∨
        ∃ now, action = .restart now ∧ w'.tracker.processed = w.store) ∧
    ∀ tag offset w', step config w (.deliver tag offset) = some w' →
      (∀ watermark, w.tracker.processed = some watermark → watermark < offset) →
      ∃ generation, ⟨w.subscription, offset, generation⟩ ∈ w'.hooked := by
  have inv : WatermarkInvariant w := run.invariant (fun held _ => held.step)
    (watermarkInvariant_init config stored now)
  exact ⟨inv.safe, fun _ _ => inv.rises, fun _ _ _ taken above => hooked_of_above above taken⟩

/-- Offset 11 settled before offset 10, with a commit that fails and one that
succeeds. -/
theorem watermark_safe_out_of_order : ∃ w, Run (step {}) (init {} (some 9) 0)
        [.consume, .subscribed 0, .deliver 1 10, .deliver 2 11, .deliver 3 12,
          .settle ⟨1, 11, 0⟩ false 0, .settle ⟨1, 10, 0⟩ true 0, .commitBegin,
          .saveRaised false, .commitBegin, .saveReturned, .commitEnd 0] w ∧
      WatermarkSafe w ∧ w.tracker.processed = some 11 ∧ w.saves = [11] ∧ ⟨1, 12, 0⟩ ∈ w.hooked := by
  refine exists_runWithin_of_check
    (fun w => decide (w.tracker.processed = some 11 ∧ w.saves = [11] ∧ ⟨1, 12, 0⟩ ∈ w.hooked))
    (by decide)
    fun w run checked => ?_
  simp only [decide_eq_true_eq] at checked
  exact ⟨(watermark_safe run).1, checked⟩

/-- A restart before the first commit loses the watermark, and an offset at or
below the watermark may be delivered again and wait for its settlement. -/
theorem watermark_falls_on_restart : (∃ w w', Run (step {}) (init {} none 0)
        [.consume, .deliver 1 10, .settle ⟨1, 10, 0⟩ false 0] w ∧
      w.tracker.processed = some 10 ∧ step {} w (.restart 0) = some w' ∧
      w'.tracker.processed = none) ∧
    ∃ w, Run (step {}) (init {} (some 10) 0) [.consume, .deliver 1 9] w ∧
      w.cursor = some (1, 9) ∧ w.settled = [] ∧ w.tracker.processed = some 10 := by
  simp only [exists_and_left]
  constructor
  · refine exists_runWithin_of_check
      (fun w => decide (w.tracker.processed = some 10 ∧ w.store = none)) (by decide)
      fun w run checked => ?_
    obtain ⟨processed, stored⟩ := of_decide_eq_true checked
    exact ⟨processed, w.afterRestart {} 0, rfl, stored⟩
  · exact exists_runWithin_of_decide (by decide)

end StreamWorld
end RabbitKit
