import RabbitKit.SettlementLedgerInvariant

/-! # Coalescing changes the frames, not the settlements

A broker keeps the unacknowledged tags of a channel and settles them as frames
arrive; a frame for a tag it does not know closes the channel.  The plan with
cumulative acknowledgements and the one with individual frames only are related
by replacing each cumulative acknowledgement by one frame for each tag it
covers, and a broker that knows of no delivery the ledger once held and has
dropped cannot tell the two apart.
-/

namespace RabbitKit

open SettlementCoordinator LabelledRun SettlementCommand List

inductive SettlementOutcome
  | acked
  | nacked (requeue : Bool)
  | rejected (requeue : Bool)
  deriving DecidableEq

def SettlementCommand.outcome (command : SettlementCommand) : SettlementOutcome :=
  match command.kind with
  | .ack => .acked
  | .nack => .nacked command.requeue
  | .reject => .rejected command.requeue

/-- The unacknowledged tags of a channel and what happened to the others. -/
@[ext]
structure BrokerChannel where
  unacked : Finset Nat
  outcome : Nat → Option SettlementOutcome := fun _ => none

namespace BrokerChannel

def settle (channel : BrokerChannel) (command : SettlementCommand) :
    Option BrokerChannel :=
  if command.deliveryTag ∈ channel.unacked then
    some {
      unacked := command.settle channel.unacked
      outcome := fun tag =>
        if tag ∈ channel.unacked ∧ tag ∉ command.settle channel.unacked then
          some command.outcome
        else channel.outcome tag }
  else none

def settleAll (channel : BrokerChannel) (commands : List SettlementCommand) :
    Option BrokerChannel :=
  commands.foldlM settle channel

def acknowledged (channel : BrokerChannel) (tags : List Nat) : BrokerChannel where
  unacked := channel.unacked \ tags.toFinset
  outcome := fun tag => if tag ∈ tags then some .acked else channel.outcome tag

theorem settleAll_append (channel : BrokerChannel) (first second : List SettlementCommand) :
    channel.settleAll (first ++ second) =
      (channel.settleAll first).bind fun middle => middle.settleAll second := by
  simp [settleAll, foldlM_append]

variable {channel : BrokerChannel}

section

variable (c : SettlementCoordinator)

theorem settle_individualAck {tag : Nat} (here : tag ∈ channel.unacked) :
    channel.settle (c.individualAck tag) = some (channel.acknowledged [tag]) := by
  have named : (c.individualAck tag).deliveryTag = tag := rfl
  have single : (c.individualAck tag).settle channel.unacked = channel.unacked.erase tag := rfl
  rw [settle, if_pos (named ▸ here), single]
  congr 1
  ext other
  · simp [acknowledged, Finset.mem_erase, and_comm]
  · by_cases same : other = tag
    · subst same
      simp [acknowledged, here, SettlementCommand.outcome, individualAck]
    · simp [acknowledged, same]

theorem settleAll_individualAck {tags : List Nat}
    (distinct : tags.Nodup) (here : ∀ tag ∈ tags, tag ∈ channel.unacked) :
    channel.settleAll (tags.map c.individualAck) = some (channel.acknowledged tags) := by
  induction tags generalizing channel with
  | nil => simp [settleAll, acknowledged]
  | cons tag rest ih =>
    obtain ⟨fresh, restDistinct⟩ := nodup_cons.mp distinct
    have restHere : ∀ other ∈ rest, other ∈ (channel.acknowledged [tag]).unacked := by
      intro other member
      have different : other ≠ tag := fun same => fresh (same ▸ member)
      simp [acknowledged, here other (mem_cons_of_mem _ member), different]
    have split : channel.settleAll ((tag :: rest).map c.individualAck) =
        (channel.acknowledged [tag]).settleAll (rest.map c.individualAck) := by
      simp [settleAll, settle_individualAck c (here tag (by simp))]
    rw [split, ih restDistinct restHere]
    congr 1
    ext other
    · simp [acknowledged, and_assoc]
    · by_cases inRest : other ∈ rest
      · simp [acknowledged, inRest]
      · simp [acknowledged, inRest]

theorem settle_cumulativeAck {safe : List Nat} (named : safe.getLastD 0 ∈ channel.unacked)
    (exact : ∀ tag ∈ channel.unacked, tag ≤ safe.getLastD 0 ↔ tag ∈ safe)
    (here : ∀ tag ∈ safe, tag ∈ channel.unacked) :
    channel.settle (c.cumulativeAck safe) = some (channel.acknowledged safe) := by
  have last : (c.cumulativeAck safe).deliveryTag = safe.getLastD 0 := rfl
  have reach : (c.cumulativeAck safe).settle channel.unacked =
      channel.unacked.filter (safe.getLastD 0 < ·) := rfl
  rw [settle, if_pos (last ▸ named), reach]
  congr 1
  ext tag
  · by_cases unacked : tag ∈ channel.unacked
    · simp [acknowledged, unacked, ← exact tag unacked]
    · simp [acknowledged, unacked]
  · by_cases unacked : tag ∈ channel.unacked
    · simp [acknowledged, unacked, ← exact tag unacked, SettlementCommand.outcome, cumulativeAck]
    · have absent : tag ∉ safe := fun member => unacked (here tag member)
      simp [acknowledged, unacked, absent]

end

end BrokerChannel

namespace SettlementCoordinator

variable {c : SettlementCoordinator}

def expand (c : SettlementCoordinator) (command : SettlementCommand) :
    List SettlementCommand :=
  if command.multiple then command.covers.map c.individualAck else [command]

theorem flatMap_expand_individualAck (c : SettlementCoordinator) (tags : List Nat) :
    (tags.map c.individualAck).flatMap c.expand = tags.map c.individualAck := by
  induction tags with
  | nil => rfl
  | cons tag rest ih => simpa [expand, individualAck] using ih

theorem runCommands_expand {run : List Nat} (ascending : run.Pairwise (· < ·)) :
    (c.runCommands false run).flatMap c.expand = c.runCommands true run := by
  have individually : c.runCommands true run = run.map c.individualAck := by
    simp [runCommands]
  rw [individually]
  rcases runCommands_cases c false run with ⟨_, _, _, merged⟩ | single
  · have whole : c.expand (c.cumulativeAck (c.safePart run)) =
        (c.safePart run).map c.individualAck := rfl
    rw [merged, flatMap_cons, whole, flatMap_expand_individualAck, ← map_append,
      safePart_append_drop ascending]
  · rw [single, flatMap_expand_individualAck]

/-- The two walks agree but for the expansion of what was planned. -/
structure Expanded (c : SettlementCoordinator) (s t : PlanState) : Prop where
  commands : t.commands = s.commands.flatMap c.expand
  run : t.run = s.run
  blocked : t.blocked = s.blocked

variable {s t : PlanState}

theorem Expanded.flush (agree : Expanded c s t) (ascending : s.run.Pairwise (· < ·)) :
    Expanded c (c.flushRun false s) (c.flushRun true t) where
  commands := by
    simp [flushRun, agree.commands, agree.run, runCommands_expand ascending]
  run := rfl
  blocked := agree.blocked

theorem Expanded.emit (agree : Expanded c s t) {tag : Nat}
    {command : SettlementCommand} (single : command.multiple = false) :
    Expanded c { s with commands := s.commands ++ [command], covered := s.covered ++ [tag] }
      { t with commands := t.commands ++ [command], covered := t.covered ++ [tag] } where
  commands := by simp [agree.commands, expand, single]
  run := agree.run
  blocked := agree.blocked

theorem Expanded.planStep (agree : Expanded c s t) (noHold : c.maxHold = 0)
    (ascending : s.run.Pairwise (· < ·)) (tag : Nat) :
    Expanded c (c.planStep false s tag) (c.planStep true t tag) := by
  have flushed := agree.flush ascending
  have block : Expanded c { c.flushRun false s with blocked := true }
      { c.flushRun true t with blocked := true } := ⟨flushed.commands, rfl, rfl⟩
  have negative : ∀ state, Expanded c (planStep.appendNegative c false s tag state)
      (planStep.appendNegative c true t tag state) := fun state => flushed.emit rfl
  unfold SettlementCoordinator.planStep
  cases reservation : c.reserved.get? tag with
  | some batch => exact block
  | none =>
    simp only [Option.isSome_none, Bool.false_eq_true, if_false]
    cases c.ledger.get? tag with
    | none => exact block
    | some state =>
      cases state with
      | nack => exact negative .nack
      | reject => exact negative .reject
      | outstanding | retryPending | failed | cancelled => exact block
      | success =>
        simp only [DeliveryState.isAckSafe, decide_true, if_true]
        by_cases blocked : s.blocked = true
        · rw [if_neg (by simpa using blocked), if_neg (by simp [noHold]),
            if_neg (by simpa [agree.blocked] using blocked), if_neg (by simp)]
          exact agree.emit rfl
        · rw [if_pos blocked, if_pos (by simpa [agree.blocked] using blocked)]
          exact ⟨agree.commands, by rw [agree.run], agree.blocked⟩

theorem planWalk_expand (noHold : c.maxHold = 0) :
    (c.planWalk true).commands = (c.planWalk false).commands.flatMap c.expand := by
  have ascendingRun : ∀ {tags : List Nat}, tags.Pairwise (· < ·) →
      (tags.foldl (c.planStep false) { hold := c.hold }).run.Pairwise (· < ·) := by
    intro tags ascending
    have inv : PlanInvariant c false tags _ := foldl_planStep_invariant ascending
    exact ascending.sublist ((sublist_append_right _ _).trans inv.sublist)
  have walks : ∀ tags : List Nat, tags.Pairwise (· < ·) →
      Expanded c (tags.foldl (c.planStep false) { hold := c.hold })
        (tags.foldl (c.planStep true) { hold := c.hold }) := by
    intro tags
    induction tags using reverseRecOn with
    | nil => exact fun _ => ⟨rfl, rfl, rfl⟩
    | append_singleton visited tag ih =>
      intro ascending
      have earlier := (pairwise_append.mp ascending).1
      rw [foldl_append, foldl_append]
      exact (ih earlier).planStep noHold (ascendingRun earlier) tag
  exact ((walks _ c.sortedTags_ascending).flush (ascendingRun c.sortedTags_ascending)).commands

end SettlementCoordinator

/-- The unacknowledged tags are those of the ledger and some that were never
registered on this channel. -/
structure KnownTo (c : SettlementCoordinator)
    (records : Nat → Nat → Option DeliveryRecord) (unacked : Finset Nat) : Prop where
  ledger : ∀ tag state, c.ledger.get? tag = some state → tag ∈ unacked
  unregistered : ∀ tag ∈ unacked, c.ledger.get? tag = none →
    0 < tag ∧ records c.generation tag = none

variable {c : SettlementCoordinator} {records : Nat → Nat → Option DeliveryRecord}

variable {command : SettlementCommand}

theorem Planned.unregistered_above (inv : LedgerInvariant c records) {forceIndividual : Bool}
    (planned : Planned c forceIndividual command)
    (multiple : command.multiple = true) {tag : Nat} (positive : 0 < tag)
    (unrecorded : records c.generation tag = none) : command.deliveryTag < tag := by
  obtain ⟨⟨state, inLedger⟩, _⟩ := planned.waiting _ planned.deliveryTag_mem
  obtain ⟨record, recorded, _⟩ := inv.recorded _ _ inLedger
  have registered := ((inv.bounded _ _ _ recorded).2 rfl).2
  cases planned with
  | individual | negative => cases multiple
  | cumulative safe _ _ several ready belowGap =>
    by_contra reached
    have below : tag ≤ safe.getLastD 0 := not_lt.mp reached
    have inGap : c.gapFloor = 0 ∨ tag < c.gapFloor := by
      by_cases gap : c.gapFloor = 0
      · exact .inl gap
      · exact .inr (lt_of_le_of_lt below (belowGap gap _ (getLastD_mem several)))
    obtain ⟨_, noted⟩ := inv.belowGap tag positive (le_trans below registered) inGap
    simp [unrecorded] at noted

variable {channel : BrokerChannel}

theorem BrokerChannel.settle_planned (planned : Planned c false command)
    (ascending : command.covers.Pairwise (· < ·))
    (here : ∀ tag ∈ command.covers, tag ∈ channel.unacked)
    (reached : command.multiple = true → ∀ tag ∈ channel.unacked,
      tag ≤ command.deliveryTag → tag ∈ command.covers) :
    ∃ next, channel.settle command = some next ∧ channel.settleAll (c.expand command) = some next ∧
      next.unacked = channel.unacked \ command.covers.toFinset := by
  have named : command.deliveryTag ∈ channel.unacked := here _ planned.deliveryTag_mem
  have alone : command.multiple = false → command.covers = [command.deliveryTag] →
      ∃ next, channel.settle command = some next ∧
        channel.settleAll (c.expand command) = some next ∧
        next.unacked = channel.unacked \ command.covers.toFinset := by
    intro single covers
    refine ⟨_, if_pos named, ?_, ?_⟩
    · simp [expand, single, settleAll, settle, named]
    · simp [SettlementCommand.settle, single, covers, Finset.sdiff_singleton_eq_erase]
  cases planned with
  | individual | negative => exact alone rfl rfl
  | cumulative safe _ _ several _ _ =>
    refine ⟨channel.acknowledged safe, settle_cumulativeAck c named ?_ here, ?_, rfl⟩
    · intro tag unacked
      exact ⟨reached rfl tag unacked, le_getLastD_of_ascending ascending⟩
    · exact settleAll_individualAck c (ascending.imp fun below => ne_of_lt below) here

/-- Expanding the rest of a plan makes no difference to the broker, whatever
part of the plan it has already processed. -/
theorem BrokerChannel.settleAll_expand {unacked : Finset Nat}
    (inv : LedgerInvariant c records) (known : KnownTo c records unacked)
    {commands : List SettlementCommand} {earlier : List Nat}
    (planned : ∀ command ∈ commands, Planned c false command)
    (ascending : (earlier ++ commands.flatMap covers).Pairwise (· < ·))
    (reach : ReachCovered (fun tag => ∃ state, c.ledger.get? tag = some state) earlier commands)
    (processed : channel.unacked = unacked \ earlier.toFinset) :
    ∃ final, channel.settleAll commands = some final ∧
      channel.settleAll (commands.flatMap c.expand) = some final := by
  induction commands generalizing earlier channel with
  | nil => exact ⟨channel, rfl, rfl⟩
  | cons command rest ih =>
    have current : Planned c false command := planned command (by simp)
    have whole : (earlier ++ (command.covers ++ rest.flatMap covers)).Pairwise (· < ·) := by
      simpa using ascending
    have coversAscending : command.covers.Pairwise (· < ·) :=
      (pairwise_append.mp (pairwise_append.mp whole).2.1).1
    have here : ∀ tag ∈ command.covers, tag ∈ channel.unacked := by
      intro tag member
      obtain ⟨⟨state, inLedger⟩, _⟩ := current.waiting tag member
      have fresh : tag ∉ earlier := fun before =>
        lt_irrefl tag ((pairwise_append.mp whole).2.2 tag before tag (mem_append_left _ member))
      simp [processed, known.ledger tag state inLedger, fresh]
    have reached : command.multiple = true → ∀ tag ∈ channel.unacked,
        tag ≤ command.deliveryTag → tag ∈ command.covers := by
      intro multiple tag unsettled below
      have present : tag ∈ unacked ∧ tag ∉ earlier := by simpa [processed] using unsettled
      cases inLedger : c.ledger.get? tag with
      | none =>
        obtain ⟨positive, unrecorded⟩ := known.unregistered tag present.1 inLedger
        have above := Planned.unregistered_above inv current multiple positive unrecorded
        omega
      | some state =>
        exact (reach.1 multiple tag ⟨state, inLedger⟩ below).resolve_left present.2
    obtain ⟨next, settled, expanded, remaining⟩ :=
      settle_planned current coversAscending here reached
    have afterwards : next.unacked = unacked \ (earlier ++ command.covers).toFinset := by
      ext tag
      simp [remaining, processed, and_assoc]
    obtain ⟨final, rest, restExpanded⟩ := ih
      (fun later member => planned later (mem_cons_of_mem _ member))
      (by simpa using whole) reach.2 afterwards
    refine ⟨final, ?_, ?_⟩
    · simpa [settleAll, settled] using rest
    · rw [flatMap_cons, settleAll_append, expanded]
      exact restExpanded

theorem LedgerInvariant.settleAll_prepareDrain (inv : LedgerInvariant c records)
    (noHold : c.maxHold = 0) (known : KnownTo c records channel.unacked) :
    ∃ final, channel.settleAll (c.prepare false).2.commands = some final ∧
      channel.settleAll c.prepareDrain.2.commands = some final := by
  rw [prepareDrain, prepare_commands c true, planWalk_expand noHold, ← prepare_commands]
  exact BrokerChannel.settleAll_expand inv known (prepare_planned c false)
    (prepare_covers_ascending c false) (prepare_reach c false) (by simp)

/-- Without a hold budget the coalesced plan and the drain plan of any reachable
ledger, whichever of its tags are reserved, are accepted by the broker and leave
it in the same state. -/
theorem prepare_settles_as_prepareDrain {w : ChannelWorld} {generation : Nat} {coalesce : Bool}
    {maxHold maxPending : Int} {actions : List ChannelAction} {channel : BrokerChannel}
    (reserved : OrderedDict Nat Nat)
    (run : Run ChannelWorld.step (ChannelWorld.init generation coalesce maxHold maxPending)
      actions w) (noHold : w.coordinator.maxHold = 0)
    (known : KnownTo w.coordinator w.records channel.unacked) : ∃ final,
      channel.settleAll ({ w.coordinator with reserved := reserved }.prepare false).2.commands =
        some final ∧
      channel.settleAll { w.coordinator with reserved := reserved }.prepareDrain.2.commands =
        some final := by
  obtain ⟨recorded, bounded, gapBound, belowGap⟩ := ledgerInvariant_of_run run
  have inv : LedgerInvariant { w.coordinator with reserved := reserved } w.records :=
    ⟨recorded, bounded, gapBound, belowGap⟩
  exact inv.settleAll_prepareDrain noHold ⟨known.ledger, known.unregistered⟩

/-- Two successes below a blocking delivery and a nack above it, with the tags 3
and 6 never registered. -/
theorem prepare_settles_as_prepareDrain_gap :
    ∃ w final, Run ChannelWorld.step (ChannelWorld.init 0 true 0 0)
        [.register 1, .register 2, .register 4, .register 5, .mark 0 1 .success,
          .mark 0 2 .success, .mark 0 5 (.nack true)] w ∧
      KnownTo w.coordinator w.records {1, 2, 3, 4, 5, 6} ∧
      (w.coordinator.prepare false).2.commands ≠ w.coordinator.prepareDrain.2.commands ∧
      BrokerChannel.settleAll { unacked := {1, 2, 3, 4, 5, 6} }
        (w.coordinator.prepare false).2.commands = some final ∧
      BrokerChannel.settleAll { unacked := {1, 2, 3, 4, 5, 6} }
        w.coordinator.prepareDrain.2.commands = some final := by
  simp only [exists_and_left]
  refine exists_runWithin_of_check
    (fun w => decide (w.coordinator.maxHold = 0 ∧ w.coordinator.ledger.keys = [1, 2, 4, 5] ∧
      w.coordinator.generation = 0 ∧ w.records 0 3 = none ∧ w.records 0 6 = none ∧
      (w.coordinator.prepare false).2.commands ≠ w.coordinator.prepareDrain.2.commands))
    (by decide) fun w run checked => ?_
  simp only [decide_eq_true_eq] at checked
  obtain ⟨noHold, keys, generation, third, sixth, different⟩ := checked
  have known : KnownTo w.coordinator w.records {1, 2, 3, 4, 5, 6} := by
    constructor
    · intro tag state inLedger
      have member := (OrderedDict.mem_keys_iff _ tag).mpr ⟨state, inLedger⟩
      simp only [keys, mem_cons, not_mem_nil, or_false] at member
      simp only [Finset.mem_insert, Finset.mem_singleton]
      omega
    · intro tag unacked absent
      have unlisted := (OrderedDict.get?_eq_none_iff _ tag).mp absent
      simp only [keys, mem_cons, not_mem_nil, or_false] at unlisted
      simp only [Finset.mem_insert, Finset.mem_singleton] at unacked
      obtain rfl | rfl : tag = 3 ∨ tag = 6 := by omega
      · exact ⟨by decide, generation ▸ third⟩
      · exact ⟨by decide, generation ▸ sixth⟩
  obtain ⟨final, settled⟩ := @prepare_settles_as_prepareDrain w _ _ _ _ _
    { unacked := {1, 2, 3, 4, 5, 6} } w.coordinator.reserved run noHold known
  exact ⟨known, different, final, settled⟩

end RabbitKit
