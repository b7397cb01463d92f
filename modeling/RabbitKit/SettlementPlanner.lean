import RabbitKit.SettlementCoordinator
import Mathlib.Data.List.Induction
import Mathlib.Data.List.Pairwise

/-! # What the planning walk produces

The walk visits the ledger in ascending order with a pending run of successful tags, the commands
planned so far and a flag that a blocking delivery was passed. `PlanInvariant` says what these
accumulators mean for the tags already visited.
-/

namespace RabbitKit.SettlementCoordinator

open List

/-- A tag whose acknowledgement may be planned. -/
def AckReady (c : SettlementCoordinator) (tag : Nat) : Prop :=
  c.ledger.get? tag = some .success ∧ c.reserved.get? tag = none

/-- The three shapes of a planned command, with what the ledger said about it. -/
inductive Planned (c : SettlementCoordinator) (forceIndividual : Bool) :
    SettlementCommand → Prop
  | cumulative (safe : List Nat) (coalescing : c.coalesce = true)
      (merging : forceIndividual = false) (several : 2 ≤ safe.length)
      (ready : ∀ tag ∈ safe, c.AckReady tag)
      (belowGap : c.gapFloor ≠ 0 → ∀ tag ∈ safe, tag < c.gapFloor) :
      Planned c forceIndividual (c.cumulativeAck safe)
  | individual (tag : Nat) (ready : c.AckReady tag) :
      Planned c forceIndividual (c.individualAck tag)
  | negative (tag : Nat) (state : DeliveryState)
      (recorded : c.ledger.get? tag = some state)
      (refuses : state = .nack ∨ state = .reject)
      (free : c.reserved.get? tag = none) :
      Planned c forceIndividual (c.negativeCommand tag state)

def Blocking (c : SettlementCoordinator) (tag : Nat) : Prop :=
  (c.reserved.get? tag).isSome ∨
    ∀ state, c.ledger.get? tag = some state →
      state ≠ .success ∧ state ≠ .nack ∧ state ≠ .reject

/-- Every tag of concern that a cumulative command reaches is covered by that
command or by one before it. -/
def ReachCovered (concern : Nat → Prop) : List Nat → List SettlementCommand → Prop
  | _, [] => True
  | earlier, command :: rest =>
    (command.multiple = true → ∀ tag, concern tag → tag ≤ command.deliveryTag →
      tag ∈ earlier ∨ tag ∈ command.covers) ∧
    ReachCovered concern (earlier ++ command.covers) rest

variable {c : SettlementCoordinator} {forceIndividual : Bool}

theorem reachCovered_append {concern : Nat → Prop} (earlier : List Nat)
    (first second : List SettlementCommand) : ReachCovered concern earlier (first ++ second) ↔
      ReachCovered concern earlier first ∧
        ReachCovered concern (earlier ++ first.flatMap SettlementCommand.covers) second := by
  induction first generalizing earlier with
  | nil => simp [ReachCovered]
  | cons command rest ih => simp [ReachCovered, ih, and_assoc]

theorem ReachCovered.mono {concern concern' : Nat → Prop} {earlier earlier' : List Nat}
    {commands : List SettlementCommand} (reach : ReachCovered concern earlier commands)
    (narrower : ∀ command ∈ commands, command.multiple = true →
      ∀ tag, concern' tag → tag ≤ command.deliveryTag → concern tag)
    (accounted : ∀ tag ∈ earlier, concern' tag → tag ∈ earlier') :
    ReachCovered concern' earlier' commands := by
  induction commands generalizing earlier earlier' with
  | nil => trivial
  | cons command rest ih =>
    refine ⟨fun multiple tag concerned below => ?_, ih reach.2 ?_ ?_⟩
    · rcases reach.1 multiple tag
        (narrower command (by simp) multiple tag concerned below) below with before | here
      · exact .inl (accounted tag before concerned)
      · exact .inr here
    · exact fun later member => narrower later (mem_cons_of_mem _ member)
    · intro tag member concerned
      rcases mem_append.mp member with before | here
      · exact mem_append_left _ (accounted tag before concerned)
      · exact mem_append_right _ here

theorem sortedTags_ascending (c : SettlementCoordinator) : c.sortedTags.Pairwise (· < ·) := by
  have sorted : c.sortedTags.Pairwise (· ≤ ·) := pairwise_insertionSort _ _
  have distinct : c.sortedTags.Pairwise (· ≠ ·) :=
    (perm_insertionSort _ c.ledger.keys).nodup_iff.mpr c.ledger.keys_nodup
  exact (sorted.and distinct).imp fun both => lt_of_le_of_ne both.1 both.2

theorem mem_sortedTags (c : SettlementCoordinator) (tag : Nat) :
    tag ∈ c.sortedTags ↔ ∃ state, c.ledger.get? tag = some state := by
  rw [sortedTags, mem_insertionSort, OrderedDict.mem_keys_iff]

theorem flatMap_covers_individualAck (c : SettlementCoordinator) (tags : List Nat) :
    (tags.map c.individualAck).flatMap SettlementCommand.covers = tags := by
  induction tags with
  | nil => rfl
  | cons tag rest ih => simp [individualAck] at ih ⊢; exact ih

variable {run : List Nat}

theorem safePart_append_drop (ascending : run.Pairwise (· < ·)) :
    c.safePart run ++ run.drop (c.safePart run).length = run := by
  unfold safePart
  split
  · induction run with
    | nil => rfl
    | cons tag rest ih =>
      obtain ⟨below, restAscending⟩ := pairwise_cons.mp ascending
      by_cases safe : tag < c.gapFloor
      · simp [safe, ih restAscending]
      · have none : rest.filter (· < c.gapFloor) = [] := by
          apply filter_eq_nil_iff.mpr
          intro later member
          have := below later member
          simp only [decide_eq_true_eq]
          omega
        simp [safe, none]
  · simp

variable {tag : Nat}

theorem mem_of_mem_safePart (member : tag ∈ c.safePart run) : tag ∈ run := by
  unfold safePart at member
  split at member
  · exact mem_of_mem_filter member
  · exact member

theorem lt_gapFloor_of_mem_safePart
    (gap : c.gapFloor ≠ 0) (member : tag ∈ c.safePart run) : tag < c.gapFloor := by
  rw [safePart, if_pos gap, mem_filter] at member
  simpa using member.2

theorem mem_safePart_of_le {first last : Nat}
    (member : first ∈ run) (lastSafe : last ∈ c.safePart run) (below : first ≤ last) :
    first ∈ c.safePart run := by
  by_cases gap : c.gapFloor = 0
  · simpa [safePart, gap] using member
  · have bound := lt_gapFloor_of_mem_safePart gap lastSafe
    rw [safePart, if_pos gap, mem_filter]
    exact ⟨member, by simp; omega⟩

variable {tags : List Nat}

theorem getLastD_mem (several : 2 ≤ tags.length) : tags.getLastD 0 ∈ tags := by
  have nonempty : tags ≠ [] := by
    intro empty
    simp [empty] at several
  rw [getLastD_eq_getLast?, getLast?_eq_some_getLast nonempty]
  exact getLast_mem nonempty

theorem runCommands_cases (c : SettlementCoordinator) (forceIndividual : Bool) (run : List Nat) :
    (c.coalesce = true ∧ forceIndividual = false ∧ 2 ≤ (c.safePart run).length ∧
      c.runCommands forceIndividual run = c.cumulativeAck (c.safePart run) ::
          (run.drop (c.safePart run).length).map c.individualAck) ∨
    c.runCommands forceIndividual run = run.map c.individualAck := by
  by_cases merges : c.coalesce ∧ ¬ forceIndividual ∧ 2 ≤ (c.safePart run).length
  · left
    exact ⟨merges.1, by simpa using merges.2.1, merges.2.2, if_pos merges⟩
  · right
    exact if_neg merges

@[simp]
theorem runCommands_nil : c.runCommands forceIndividual [] = [] := by
  have empty : c.safePart [] = [] := by simp [safePart]
  simp [runCommands, empty]

theorem runCommands_covers (ascending : run.Pairwise (· < ·)) :
    (c.runCommands forceIndividual run).flatMap SettlementCommand.covers = run := by
  rcases runCommands_cases c forceIndividual run with ⟨_, _, _, merged⟩ | single
  · rw [merged, flatMap_cons, flatMap_covers_individualAck]
    exact safePart_append_drop ascending
  · rw [single, flatMap_covers_individualAck]

theorem runCommands_planned (ready : ∀ tag ∈ run, c.AckReady tag) :
    ∀ command ∈ c.runCommands forceIndividual run, Planned c forceIndividual command := by
  intro command member
  rcases runCommands_cases c forceIndividual run with
    ⟨coalescing, merging, several, merged⟩ | single
  · rw [merged] at member
    rcases mem_cons.mp member with rfl | rest
    · exact .cumulative _ coalescing merging several
        (fun tag safe => ready tag (mem_of_mem_safePart safe))
        (fun gap tag safe => lt_gapFloor_of_mem_safePart gap safe)
    · obtain ⟨tag, inRest, rfl⟩ := mem_map.mp rest
      exact .individual tag (ready tag (mem_of_mem_drop inRest))
  · rw [single] at member
    obtain ⟨tag, inRun, rfl⟩ := mem_map.mp member
    exact .individual tag (ready tag inRun)

theorem runCommands_reach {run earlier : List Nat} {concern : Nat → Prop}
    (visited : ∀ tag, concern tag → tag ∈ earlier ∨ tag ∈ run) :
    ReachCovered concern earlier (c.runCommands forceIndividual run) := by
  have single : ∀ (tags earlier : List Nat),
      ReachCovered concern earlier (tags.map c.individualAck) := by
    intro tags
    induction tags with
    | nil => exact fun _ => trivial
    | cons tag rest ih => exact fun earlier => ⟨by simp [individualAck], ih _⟩
  rcases runCommands_cases c forceIndividual run with ⟨_, _, several, merged⟩ | unmerged
  · rw [merged]
    refine ⟨fun _ tag concerned below => ?_, single _ _⟩
    rcases visited tag concerned with before | inRun
    · exact .inl before
    · exact .inr (mem_safePart_of_le inRun (getLastD_mem several) below)
  · rw [unmerged]
    exact single run earlier

variable {command : SettlementCommand}

theorem Planned.generation_eq
    (planned : Planned c forceIndividual command) : command.generation = c.generation := by
  cases planned <;> rfl

theorem Planned.deliveryTag_mem (planned : Planned c forceIndividual command) :
    command.deliveryTag ∈ command.covers := by
  cases planned with
  | cumulative safe _ _ several => exact getLastD_mem several
  | individual tag _ => simp [individualAck]
  | negative tag state _ _ _ => simp [negativeCommand]

theorem le_getLastD_of_ascending (ascending : tags.Pairwise (· < ·)) (member : tag ∈ tags) : tag ≤
    tags.getLastD 0 := by
  have nonempty : tags ≠ [] := ne_nil_of_mem member
  rw [← dropLast_append_getLast nonempty] at ascending member
  have last : tags.getLastD 0 = tags.getLast nonempty := by
    rw [getLastD_eq_getLast?, getLast?_eq_some_getLast nonempty, Option.getD_some]
  rw [last]
  rcases mem_append.mp member with earlier | here
  · exact le_of_lt ((pairwise_append.mp ascending).2.2 tag earlier _ (by simp))
  · exact le_of_eq (by simpa using here)

section

variable (planned : Planned c forceIndividual command)
include planned

theorem Planned.le_deliveryTag (ascending : command.covers.Pairwise (· < ·)) :
    ∀ tag ∈ command.covers, tag ≤ command.deliveryTag := by
  intro tag member
  cases planned with
  | cumulative safe => exact le_getLastD_of_ascending ascending member
  | individual single => exact le_of_eq (by simpa [individualAck] using member)
  | negative single => exact le_of_eq (by simpa [negativeCommand] using member)

theorem Planned.waiting : ∀ tag ∈ command.covers,
    (∃ state, c.ledger.get? tag = some state) ∧ c.reserved.get? tag = none := by
  intro tag member
  cases planned with
  | cumulative safe _ _ _ ready => exact ⟨⟨_, (ready tag member).1⟩, (ready tag member).2⟩
  | individual single ready =>
    obtain rfl : tag = single := by simpa [individualAck] using member
    exact ⟨⟨_, ready.1⟩, ready.2⟩
  | negative single state recorded _ free =>
    obtain rfl : tag = single := by simpa [negativeCommand] using member
    exact ⟨⟨_, recorded⟩, free⟩

end

def Held (c : SettlementCoordinator) (forceIndividual : Bool)
    (hold : OrderedDict Nat Nat) (tag : Nat) : Prop :=
  c.coalesce = true ∧ forceIndividual = false ∧ c.hold.getD tag 0 < c.maxHold ∧
    hold.get? tag = some (c.hold.getD tag 0 + 1)

/-- What the accumulators mean once the listed tags were visited. -/
structure PlanInvariant (c : SettlementCoordinator) (forceIndividual : Bool)
    (visited : List Nat) (s : PlanState) : Prop where
  planned : ∀ command ∈ s.commands, Planned c forceIndividual command
  covered : s.covered = s.commands.flatMap SettlementCommand.covers
  runReady : ∀ tag ∈ s.run, c.AckReady tag
  sublist : (s.covered ++ s.run).Sublist visited
  unblocked : s.blocked = false → s.covered ++ s.run = visited
  blockedRun : s.blocked = true → s.run = []
  reach : ReachCovered (· ∈ visited) [] s.commands
  complete : ∀ tag ∈ visited, tag ∈ s.covered ++ s.run ∨ c.Blocking tag ∨
    c.Held forceIndividual s.hold tag
  unvisited : ∀ tag ∉ visited, s.hold.get? tag = c.hold.get? tag

theorem planInvariant_initial (c : SettlementCoordinator) (forceIndividual : Bool) :
    PlanInvariant c forceIndividual [] { hold := c.hold } where
  planned := by simp
  covered := by simp
  runReady := by simp
  sublist := by simp
  unblocked := by simp
  blockedRun := by simp
  reach := trivial
  complete := by simp
  unvisited := by simp

variable {visited : List Nat} {s : PlanState}

section

variable (inv : PlanInvariant c forceIndividual visited s)
include inv

theorem PlanInvariant.flush (ascending : visited.Pairwise (· < ·)) :
    PlanInvariant c forceIndividual visited (c.flushRun forceIndividual s) := by
  have runAscending : s.run.Pairwise (· < ·) :=
    ascending.sublist ((sublist_append_right s.covered s.run).trans inv.sublist)
  refine ⟨?_, ?_, by simp [flushRun], ?_, ?_, by simp [flushRun], ?_, ?_, inv.unvisited⟩
  · intro command member
    rcases mem_append.mp member with earlier | fresh
    · exact inv.planned command earlier
    · exact runCommands_planned inv.runReady command fresh
  · simp [flushRun, inv.covered, runCommands_covers runAscending]
  · simpa [flushRun] using inv.sublist
  · intro free
    simpa [flushRun] using inv.unblocked free
  · refine (reachCovered_append _ _ _).mpr ⟨inv.reach, ?_⟩
    cases blocked : s.blocked with
    | true => simp [inv.blockedRun blocked, ReachCovered]
    | false =>
      apply runCommands_reach
      intro tag member
      rw [← inv.unblocked blocked, inv.covered] at member
      simpa using member
  · simpa [flushRun] using inv.complete

theorem PlanInvariant.reach_snoc (larger : ∀ earlier ∈ visited, earlier < tag) :
    ReachCovered (· ∈ visited ++ [tag]) [] s.commands := by
  apply inv.reach.mono
  · intro command member _ other visitedOther below
    rcases mem_append.mp visitedOther with earlier | last
    · exact earlier
    · have inCovered : command.deliveryTag ∈ s.covered ++ s.run := by
        rw [inv.covered]
        apply mem_append_left
        exact mem_flatMap.mpr ⟨command, member, (inv.planned command member).deliveryTag_mem⟩
      have := larger _ (inv.sublist.subset inCovered)
      obtain rfl : other = tag := by simpa using last
      omega
  · simp

theorem PlanInvariant.unvisited_snoc {tag other : Nat} (fresh : other ∉ visited ++ [tag]) :
    s.hold.get? other = c.hold.get? other :=
  inv.unvisited other fun member => fresh (mem_append_left _ member)

theorem PlanInvariant.block (ascending : visited.Pairwise (· < ·))
    (larger : ∀ earlier ∈ visited, earlier < tag) (blocking : c.Blocking tag) :
    PlanInvariant c forceIndividual (visited ++ [tag])
      { c.flushRun forceIndividual s with blocked := true } := by
  have flushed := inv.flush ascending
  refine ⟨flushed.planned, flushed.covered, flushed.runReady, ?_, by simp, by simp [flushRun],
    flushed.reach_snoc larger, ?_, fun other => flushed.unvisited_snoc⟩
  · exact flushed.sublist.trans (sublist_append_left _ _)
  · intro other member
    rcases mem_append.mp member with earlier | last
    · exact flushed.complete other earlier
    · obtain rfl : other = tag := by simpa using last
      exact .inr (.inl blocking)

section

variable (larger : ∀ earlier ∈ visited, earlier < tag)
include larger

theorem PlanInvariant.extendRun (free : s.blocked = false) (ready : c.AckReady tag) :
    PlanInvariant c forceIndividual (visited ++ [tag]) { s with run := s.run ++ [tag] } := by
  have all : s.covered ++ (s.run ++ [tag]) = visited ++ [tag] := by
    rw [← append_assoc, inv.unblocked free]
  refine ⟨inv.planned, inv.covered, ?_, ?_, fun _ => all, by simp [free],
    inv.reach_snoc larger, ?_, fun other => inv.unvisited_snoc⟩
  · intro other member
    rcases mem_append.mp member with earlier | last
    · exact inv.runReady other earlier
    · obtain rfl : other = tag := by simpa using last
      exact ready
  · exact all ▸ .refl _
  · intro other member
    exact .inl (all ▸ member)

theorem PlanInvariant.holdBack (stranded : s.blocked = true)
    (coalescing : c.coalesce = true) (merging : forceIndividual = false)
    (patient : s.hold.getD tag 0 < c.maxHold) : PlanInvariant c forceIndividual (visited ++ [tag])
      { s with hold := s.hold.set tag (s.hold.getD tag 0 + 1) } := by
  have fresh : tag ∉ visited := fun member => lt_irrefl _ (larger tag member)
  have unchanged : s.hold.getD tag 0 = c.hold.getD tag 0 := by
    simp only [OrderedDict.getD, inv.unvisited tag fresh]
  refine ⟨inv.planned, inv.covered, inv.runReady, ?_, by simp [stranded], inv.blockedRun,
    inv.reach_snoc larger, ?_, ?_⟩
  · exact inv.sublist.trans (sublist_append_left _ _)
  · intro other member
    by_cases same : other = tag
    · subst same
      exact .inr (.inr ⟨coalescing, merging, unchanged ▸ patient, by simp [unchanged]⟩)
    · have earlier : other ∈ visited := by simpa [same] using member
      rcases inv.complete other earlier with planned | blocking | held
      · exact .inl planned
      · exact .inr (.inl blocking)
      · refine .inr (.inr ⟨held.1, held.2.1, held.2.2.1, ?_⟩)
        simpa [same] using held.2.2.2
  · intro other absent
    have different : other ≠ tag := fun same => absent (by simp [same])
    simpa [different] using inv.unvisited_snoc absent

theorem PlanInvariant.emit (noRun : s.run = [])
    (planned : Planned c forceIndividual command) (covers : command.covers = [tag])
    (single : command.multiple = false) :
    PlanInvariant c forceIndividual (visited ++ [tag])
      { s with
        commands := s.commands ++ [command]
        covered := s.covered ++ [tag] } := by
  have noRunSublist : s.covered.Sublist visited := by simpa [noRun] using inv.sublist
  refine ⟨?_, by simp [inv.covered, covers], inv.runReady, ?_, ?_, inv.blockedRun, ?_, ?_,
    fun other => inv.unvisited_snoc⟩
  · intro other member
    rcases mem_append.mp member with earlier | last
    · exact inv.planned other earlier
    · obtain rfl : other = command := by simpa using last
      exact planned
  · simpa [noRun] using noRunSublist.append (.refl [tag])
  · intro free
    have all := inv.unblocked free
    simpa [noRun] using congrArg (· ++ [tag]) all
  · refine (reachCovered_append _ _ _).mpr ⟨inv.reach_snoc larger, ?_⟩
    simp [ReachCovered, single]
  · intro other member
    by_cases same : other = tag
    · simp [same]
    · have earlier : other ∈ visited := by simpa [same] using member
      rcases inv.complete other earlier with done | waiting
      · left
        have : other ∈ s.covered := by simpa [noRun] using done
        simp [this]
      · exact .inr waiting

end

theorem PlanInvariant.planStep (ascending : (visited ++ [tag]).Pairwise (· < ·)) :
    PlanInvariant c forceIndividual (visited ++ [tag]) (c.planStep forceIndividual s tag) := by
  obtain ⟨visitedAscending, _, separated⟩ := pairwise_append.mp ascending
  have larger : ∀ earlier ∈ visited, earlier < tag :=
    fun earlier member => separated earlier member tag (by simp)
  have negative : ∀ state, c.ledger.get? tag = some state →
      (state = .nack ∨ state = .reject) → c.reserved.get? tag = none →
      PlanInvariant c forceIndividual (visited ++ [tag])
        (planStep.appendNegative c forceIndividual s tag state) := by
    intro state recorded refuses free
    exact (inv.flush visitedAscending).emit larger rfl (.negative tag state recorded refuses free)
      rfl rfl
  unfold SettlementCoordinator.planStep
  cases reservation : c.reserved.get? tag with
  | some batch =>
    exact inv.block visitedAscending larger (.inl (by simp [reservation]))
  | none =>
    simp only [Option.isSome_none, Bool.false_eq_true, if_false]
    cases recorded : c.ledger.get? tag with
    | none => exact inv.block visitedAscending larger (.inr (by simp [recorded]))
    | some state =>
      cases state with
      | nack => exact negative .nack recorded (by simp) reservation
      | reject => exact negative .reject recorded (by simp) reservation
      | outstanding | retryPending | failed | cancelled =>
        exact inv.block visitedAscending larger (.inr (by simp [recorded]))
      | success =>
        have ready : c.AckReady tag := ⟨recorded, reservation⟩
        simp only [DeliveryState.isAckSafe, decide_true, if_true]
        by_cases blocked : s.blocked = true
        · rw [if_neg (by simpa using blocked)]
          by_cases waits : c.coalesce ∧ ¬ forceIndividual ∧ s.hold.getD tag 0 < c.maxHold
          · rw [if_pos waits]
            exact inv.holdBack larger blocked waits.1 (by simpa using waits.2.1) waits.2.2
          · rw [if_neg waits]
            exact inv.emit larger (inv.blockedRun blocked) (.individual tag ready) rfl rfl
        · rw [if_pos blocked]
          exact inv.extendRun larger (by simpa using blocked) ready

end

theorem foldl_planStep_invariant (ascending : tags.Pairwise (· < ·)) :
    PlanInvariant c forceIndividual tags
      (tags.foldl (c.planStep forceIndividual) { hold := c.hold }) := by
  induction tags using reverseRecOn with
  | nil => exact planInvariant_initial c forceIndividual
  | append_singleton visited tag ih =>
    rw [foldl_append]
    exact (ih (pairwise_append.mp ascending).1).planStep ascending

theorem planWalk_invariant (c : SettlementCoordinator) (forceIndividual : Bool) :
    PlanInvariant c forceIndividual c.sortedTags (c.planWalk forceIndividual) :=
  (foldl_planStep_invariant c.sortedTags_ascending).flush c.sortedTags_ascending

@[simp]
theorem planWalk_run (c : SettlementCoordinator) (forceIndividual : Bool) :
    (c.planWalk forceIndividual).run = [] := rfl

section

variable (c : SettlementCoordinator)

theorem planWalk_covers_ascending (forceIndividual : Bool) :
    ((c.planWalk forceIndividual).commands.flatMap SettlementCommand.covers).Pairwise (· < ·) := by
  have inv := planWalk_invariant c forceIndividual
  have sublist := inv.sublist
  rw [planWalk_run, append_nil, inv.covered] at sublist
  exact c.sortedTags_ascending.sublist sublist

theorem planWalk_tags_ascending (forceIndividual : Bool) :
    (c.planWalk forceIndividual).commands.Pairwise
      fun first second => first.deliveryTag < second.deliveryTag := by
  have inv := planWalk_invariant c forceIndividual
  have separated := (pairwise_flatMap.mp (planWalk_covers_ascending c forceIndividual)).2
  refine separated.imp_of_mem fun first second between => ?_
  exact between _ (inv.planned _ first).deliveryTag_mem _ (inv.planned _ second).deliveryTag_mem

/-- The walk already produces its commands in emission order. -/
theorem planCommands_eq (forceIndividual : Bool) :
    c.planCommands forceIndividual = (c.planWalk forceIndividual).commands :=
  ((planWalk_tags_ascending c forceIndividual).imp fun below => le_of_lt below).insertionSort_eq

end

theorem planWalk_of_empty (empty : c.ledger.size = 0) :
    c.planWalk forceIndividual = { hold := c.hold } := by
  have noKeys : c.ledger.keys = [] := eq_nil_of_length_eq_zero (by simp [empty])
  simp [planWalk, sortedTags, noKeys, flushRun]

section

variable (c : SettlementCoordinator)

section

variable (forceIndividual : Bool)

theorem prepare_commands :
    (c.prepare forceIndividual).2.commands = (c.planWalk forceIndividual).commands := by
  unfold prepare
  split
  next empty =>
    rw [planWalk_of_empty empty]
  · exact planCommands_eq c forceIndividual

@[simp]
theorem prepare_hold : (c.prepare forceIndividual).1.hold = (c.planWalk forceIndividual).hold := by
  unfold prepare
  split
  next empty =>
    rw [planWalk_of_empty empty]
  · rfl

@[simp]
theorem prepare_kept : (c.prepare forceIndividual).1.ledger = c.ledger ∧
    (c.prepare forceIndividual).1.requeue = c.requeue ∧
    (c.prepare forceIndividual).1.lastRegistered = c.lastRegistered ∧
    (c.prepare forceIndividual).1.gapFloor = c.gapFloor ∧
    (c.prepare forceIndividual).1.maxHold = c.maxHold := by
  unfold prepare
  split <;> exact ⟨rfl, rfl, rfl, rfl, rfl⟩

@[simp]
theorem prepare_generation : (c.prepare forceIndividual).1.generation = c.generation := by
  unfold prepare
  split <;> rfl

@[simp]
theorem prepare_batch_generation : (c.prepare forceIndividual).2.generation = c.generation := by
  unfold prepare
  split <;> rfl

theorem prepare_planned : ∀ command ∈ (c.prepare forceIndividual).2.commands,
      Planned c forceIndividual command := by
  rw [prepare_commands]
  exact (planWalk_invariant c forceIndividual).planned

theorem prepare_covers_ascending :
    ((c.prepare forceIndividual).2.commands.flatMap SettlementCommand.covers).Pairwise (· < ·) := by
  rw [prepare_commands]
  exact planWalk_covers_ascending c forceIndividual

theorem prepare_reach : ReachCovered (fun tag => ∃ state, c.ledger.get? tag = some state) []
      (c.prepare forceIndividual).2.commands := by
  rw [prepare_commands]
  refine (planWalk_invariant c forceIndividual).reach.mono ?_ (by simp)
  intro _ _ _ tag inLedger _
  exact (mem_sortedTags c tag).mpr inLedger

/-- Every ledger tag is planned, blocked, or held for another round. -/
theorem prepare_complete {state : DeliveryState} (inLedger : c.ledger.get? tag = some state) :
    tag ∈ (c.prepare forceIndividual).2.commands.flatMap SettlementCommand.covers ∨
      c.Blocking tag ∨ c.Held forceIndividual (c.prepare forceIndividual).1.hold tag := by
  have inv := planWalk_invariant c forceIndividual
  have complete := inv.complete tag ((mem_sortedTags c tag).mpr ⟨state, inLedger⟩)
  rw [planWalk_run, append_nil, inv.covered] at complete
  rwa [prepare_commands, prepare_hold]

theorem prepare_reserved (tag : Nat) : (c.prepare forceIndividual).1.reserved.get? tag =
      if tag ∈ (c.prepare forceIndividual).2.commands.flatMap SettlementCommand.covers then
        some (c.prepare forceIndividual).2.batchId else c.reserved.get? tag := by
  rw [prepare_commands, ← (planWalk_invariant c forceIndividual).covered]
  unfold prepare
  split
  next empty =>
    rw [planWalk_of_empty empty]
    simp
  · simp

end

end

end RabbitKit.SettlementCoordinator
