import RabbitKit.SettlementLedgerInvariant

/-! # A cumulative acknowledgement never reaches an unsuccessful delivery

Three things make a plan safe: each tag below the first gap is in the ledger, settled or successful;
a planned cumulative command covers every ledger tag it reaches, alone or with the commands before
it; and an emission stops at the first frame that failed.

The one exception is the moment between the two critical sections of a failed nack or reject: the
tag has left the ledger, the generation is not yet invalidated, and a batch planned there
acknowledges it.
-/

namespace RabbitKit

open SettlementCoordinator LabelledRun Emission EmissionPhase List

def EmissionPhase.isInvalidating : EmissionPhase → Bool
  | .invalidating _ => true
  | _ => false

def Emission.queue (e : Emission) : List SettlementCommand :=
  match e.phase with
  | .idle => e.remaining
  | .awaiting command => command :: e.remaining
  | _ => []

namespace ChannelWorld

variable {w w' : ChannelWorld} {action : ChannelAction}

/-- Some `mark_success` was recorded for the tag on this channel. -/
def Successful (w : ChannelWorld) (tag : Nat) : Prop :=
  ∃ generation, w.records generation tag = some (.decided .success)

/-- A failed nack or reject of the current generation has left the ledger and
its `invalidate()` has yet to run. -/
def InvalidationPending (w : ChannelWorld) : Prop :=
  ∃ e ∈ w.emissions,
    e.phase.isInvalidating = true ∧ e.batch.generation = w.coordinator.generation

/-- How one channel is used: a delivery is registered at most once and after it
arrived, only settled deliveries are released, and batches stay on the channel
they were planned for. -/
def ChannelDiscipline (w : ChannelWorld) : ChannelAction → Prop
  | .register tag => tag ≤ w.delivered ∧ tag ∉ w.registered
  | .release _ tag => tag ∉ w.unacked
  | .reconnect => False
  | _ => True

/-- No batch is planned between the two critical sections of a failed nack or
reject. -/
def PlansOutsideFailure (w : ChannelWorld) : ChannelAction → Prop
  | .prepare _ => ¬ w.InvalidationPending
  | _ => True

instance : DecidablePred w.ChannelDiscipline := fun action => by
  unfold ChannelDiscipline
  split <;> infer_instance

instance : Decidable w.InvalidationPending := by
  unfold InvalidationPending
  infer_instance

instance : DecidablePred w.PlansOutsideFailure := fun action => by
  unfold PlansOutsideFailure
  split <;> infer_instance

def OrderlyUse (w : ChannelWorld) (action : ChannelAction) : Prop :=
  w.ChannelDiscipline action ∧ w.PlansOutsideFailure action

instance : DecidablePred w.OrderlyUse := fun action => by
  unfold OrderlyUse
  infer_instance

/-- What a queued command promises about the tags it covers. -/
structure SoundCommand (w : ChannelWorld) (command : SettlementCommand) : Prop where
  single : command.multiple = false → command.covers = [command.deliveryTag]
  reaches : ∀ tag ∈ command.covers, tag ≤ command.deliveryTag
  delivered : command.deliveryTag ≤ w.delivered
  successful : command.kind = .ack → ∀ tag ∈ command.covers, w.Successful tag
  cumulativeAck : command.multiple = true → command.kind = .ack

/-- A tag that no cumulative acknowledgement may settle. -/
def Exposed (w : ChannelWorld) (tag : Nat) : Prop :=
  tag ∈ w.unacked ∧ ¬ w.Successful tag

structure QueueSafe (w : ChannelWorld) (queue : List SettlementCommand) : Prop where
  sound : ∀ command ∈ queue, w.SoundCommand command
  reach : ReachCovered w.Exposed [] queue

def Accounted (w : ChannelWorld) : Prop :=
  ∀ tag, 0 < tag → tag ≤ w.coordinator.lastRegistered →
    (w.coordinator.gapFloor = 0 ∨ tag < w.coordinator.gapFloor) →
    (∃ state, w.coordinator.ledger.get? tag = some state) ∨ tag ∉ w.unacked ∨
      w.Successful tag ∨ w.InvalidationPending

structure AckSafety (w : ChannelWorld) : Prop where
  ledger : LedgerInvariant w.coordinator w.records
  lastDelivered : w.coordinator.lastRegistered ≤ w.delivered
  positive : ∀ tag ∈ w.unacked, 0 < tag
  recordedHere : ∀ generation tag record, w.records generation tag = some record →
    tag ∈ w.registered
  recordedOnce : ∀ first second tag record record',
    w.records first tag = some record → w.records second tag = some record' → first = second
  accounted : w.Accounted
  queues : ∀ e ∈ w.emissions, w.QueueSafe e.queue

theorem final_success : (DeliveryRecord.decided .success).Final := rfl

variable {tag : Nat}

theorem Successful.step (successful : w.Successful tag)
    (ledger : LedgerInvariant w.coordinator w.records) (stepped : LedgerStep w w') :
    w'.Successful tag := by
  obtain ⟨generation, recorded⟩ := successful
  exact ⟨generation, stepped.final_persists ledger recorded final_success⟩

variable {command : SettlementCommand}

theorem SoundCommand.transfer (sound : w.SoundCommand command)
    (persists : ∀ tag, w.Successful tag → w'.Successful tag)
    (later : w.delivered ≤ w'.delivered) : w'.SoundCommand command where
  single := sound.single
  reaches := sound.reaches
  delivered := sound.delivered.trans later
  successful := fun ack tag member => persists tag (sound.successful ack tag member)
  cumulativeAck := sound.cumulativeAck

theorem QueueSafe.transfer {queue : List SettlementCommand} (safe : w.QueueSafe queue)
    (persists : ∀ tag, w.Successful tag → w'.Successful tag) (later : w.delivered ≤ w'.delivered)
    (arrivals : ∀ tag ∈ w'.unacked, tag ≤ w.delivered → tag ∈ w.unacked) : w'.QueueSafe queue where
  sound := fun command member => (safe.sound command member).transfer persists later
  reach := by
    refine safe.reach.mono ?_ (by simp)
    intro command member _ tag exposed below
    have within := below.trans (safe.sound command member).delivered
    exact ⟨arrivals tag exposed.1 within, fun successful => exposed.2 (persists tag successful)⟩

theorem queueSafe_nil (w : ChannelWorld) : w.QueueSafe [] := ⟨by simp, trivial⟩

theorem settle_subset (command : SettlementCommand) (unacked : Finset Nat) :
    command.settle unacked ⊆ unacked := by
  unfold SettlementCommand.settle
  split
  · exact Finset.filter_subset _ _
  · exact Finset.erase_subset _ _

/-- A frame the broker processed leaves none of its covered tags unacknowledged. -/
theorem SoundCommand.not_mem_settle (sound : w.SoundCommand command) (member : tag ∈ command.covers)
    (unacked : Finset Nat) : tag ∉ command.settle unacked := by
  unfold SettlementCommand.settle
  cases cumulative : command.multiple with
  | true =>
    have below := sound.reaches tag member
    simp only [if_true, Finset.mem_filter, not_and]
    omega
  | false =>
    rw [sound.single cumulative] at member
    obtain rfl : tag = command.deliveryTag := by simpa using member
    simp

theorem QueueSafe.confirmed {rest : List SettlementCommand} (safe : w.QueueSafe (command :: rest)) :
    ({ w with unacked := command.settle w.unacked }).QueueSafe rest where
  sound := fun other member =>
    (safe.sound other (mem_cons_of_mem _ member)).transfer (fun _ => id) le_rfl
  reach := by
    refine safe.reach.2.mono ?_ ?_
    · intro _ _ _ tag exposed _
      exact ⟨settle_subset command w.unacked exposed.1, exposed.2⟩
    · intro tag member exposed
      have covered : tag ∈ command.covers := by simpa using member
      exact absurd exposed.1 ((safe.sound command (by simp)).not_mem_settle covered _)

theorem AckSafety.planned_sound (safe : w.AckSafety) {forceIndividual : Bool}
    (planned : Planned w.coordinator forceIndividual command)
    (ascending : command.covers.Pairwise (· < ·)) : w.SoundCommand command := by
  have reaches := planned.le_deliveryTag ascending
  have delivered : command.deliveryTag ≤ w.delivered := by
    obtain ⟨⟨state, inLedger⟩, _⟩ := planned.waiting _ planned.deliveryTag_mem
    obtain ⟨record, recorded, _⟩ := safe.ledger.recorded _ _ inLedger
    exact ((safe.ledger.bounded _ _ _ recorded).2 rfl).2.trans safe.lastDelivered
  have ready : ∀ tag, w.coordinator.AckReady tag → w.Successful tag := fun tag ackReady =>
    ⟨w.coordinator.generation, safe.ledger.success_recorded ackReady.1⟩
  cases planned with
  | cumulative tags coalescing merging several allReady =>
    exact ⟨by simp [cumulativeAck], reaches, delivered,
      fun _ tag member => ready tag (allReady tag member), fun _ => rfl⟩
  | individual tag tagReady =>
    refine ⟨fun _ => rfl, reaches, delivered, fun _ other member => ?_, fun _ => rfl⟩
    obtain rfl : other = tag := by simpa [individualAck] using member
    exact ready other tagReady
  | negative tag state recorded refuses =>
    refine ⟨fun _ => rfl, reaches, delivered, ?_, by simp [negativeCommand]⟩
    rcases refuses with rfl | rfl <;> simp [negativeCommand]

theorem AckSafety.plan (safe : w.AckSafety) (outside : ¬ w.InvalidationPending)
    (forceIndividual : Bool) : w.QueueSafe (w.coordinator.prepare forceIndividual).2.commands := by
  have planned := prepare_planned w.coordinator forceIndividual
  have ascending := pairwise_flatMap.mp (prepare_covers_ascending w.coordinator forceIndividual)
  have sound : ∀ command ∈ (w.coordinator.prepare forceIndividual).2.commands,
      w.SoundCommand command := fun command member =>
    safe.planned_sound (planned command member) (ascending.1 command member)
  refine ⟨sound, (prepare_reach w.coordinator forceIndividual).mono ?_ (by simp)⟩
  intro command member multiple tag exposed below
  obtain ⟨⟨state, inLedger⟩, _⟩ := (planned command member).waiting _
    (planned command member).deliveryTag_mem
  obtain ⟨record, recorded, _⟩ := safe.ledger.recorded _ _ inLedger
  have lastBound := ((safe.ledger.bounded _ _ _ recorded).2 rfl).2
  have gapBound : w.coordinator.gapFloor = 0 ∨ tag < w.coordinator.gapFloor := by
    by_cases gap : w.coordinator.gapFloor = 0
    · exact .inl gap
    · cases planned command member with
      | cumulative tags _ _ several _ belowGap =>
        exact .inr (lt_of_le_of_lt below (belowGap gap _ (getLastD_mem several)))
      | individual single => simp [individualAck] at multiple
      | negative single => simp [negativeCommand] at multiple
  rcases safe.accounted tag (safe.positive tag exposed.1) (below.trans lastBound) gapBound with
    here | settled | successful | pending
  · exact here
  · exact absurd exposed.1 settled
  · exact absurd successful exposed.2
  · exact absurd pending outside

theorem unackedAfter_subset (e : Emission) (unacked : Finset Nat) (action : EmissionAction) :
    unackedAfter e unacked action ⊆ unacked := by
  cases action with
  | commit =>
    simp only [unackedAfter]
    split
    · exact settle_subset _ _
    · exact Finset.Subset.refl _
  | _ => exact Finset.Subset.refl _

variable {c : SettlementCoordinator} {emissionAction : EmissionAction} {e next : Emission}

theorem QueueSafe.emissionStep (safe : w.QueueSafe e.queue)
    (stepped : EmissionStep w.coordinator e emissionAction c next) :
    ({ w with unacked := unackedAfter e w.unacked emissionAction }).QueueSafe next.queue := by
  cases stepped with
  | handOver command rest idle first =>
    have same : e.queue = command :: rest := by simp [queue, idle, first]
    rw [same] at safe
    exact safe.transfer (fun _ => id) le_rfl fun _ member _ => member
  | commit command awaiting =>
    have same : e.queue = command :: e.remaining := by simp [queue, awaiting]
    rw [same] at safe
    simpa [queue, unackedAfter, awaiting] using safe.confirmed
  | failNegative | failHarmless | invalidate | withhold | interrupt => exact queueSafe_nil _

variable {index : Nat}

theorem InvalidationPending.of_set (pending : w.InvalidationPending)
    (found : w.emissions[index]? = some e) (other : e.phase.isInvalidating = false) :
    ∃ e' ∈ w.emissions.set index next, e'.phase.isInvalidating = true ∧
        e'.batch.generation = w.coordinator.generation := by
  obtain ⟨e', member, phase, current⟩ := pending
  obtain ⟨position, located⟩ := mem_iff_getElem?.mp member
  rcases getElem?_moved next found located with ⟨rfl, _⟩ | located'
  · simp [other] at phase
  · exact ⟨e', mem_of_getElem? located', phase, current⟩

theorem Accounted.transfer (accounted : w.Accounted)
    (last : w'.coordinator.lastRegistered = w.coordinator.lastRegistered)
    (gap : w'.coordinator.gapFloor = w.coordinator.gapFloor)
    (arrivals : ∀ tag ∈ w'.unacked, tag ≤ w.coordinator.lastRegistered → tag ∈ w.unacked)
    (persists : ∀ tag, w.Successful tag → w'.Successful tag)
    (dropped : ∀ tag state, w.coordinator.ledger.get? tag = some state →
      (∃ state, w'.coordinator.ledger.get? tag = some state) ∨ tag ∉ w'.unacked ∨
        w'.Successful tag ∨ w'.InvalidationPending)
    (pending : w.InvalidationPending → w'.InvalidationPending) : w'.Accounted := by
  intro tag positive within below
  rw [last] at within
  rw [gap] at below
  rcases accounted tag positive within below with ⟨state, here⟩ | settled | successful | waiting
  · exact dropped tag state here
  · exact .inr (.inl fun member => settled (arrivals tag member within))
  · exact .inr (.inr (.inl (persists tag successful)))
  · exact .inr (.inr (.inr (pending waiting)))

theorem AckSafety.accounted_emission (safe : w.AckSafety) (found : w.emissions[index]? = some e)
    (stepped : EmissionStep w.coordinator e emissionAction c next) :
    (w.afterEmission index e emissionAction c next).Accounted := by
  have arrivals : ∀ tag ∈ unackedAfter e w.unacked emissionAction,
      tag ≤ w.coordinator.lastRegistered → tag ∈ w.unacked :=
    fun tag member _ => unackedAfter_subset e w.unacked emissionAction member
  have queue := safe.queues e (mem_of_getElem? found)
  have shrunk (shrinks : Shrinks w.coordinator c) (working : e.phase.isInvalidating = false)
      (dropped : ∀ tag state, w.coordinator.ledger.get? tag = some state →
        (∃ state, c.ledger.get? tag = some state) ∨
          tag ∉ unackedAfter e w.unacked emissionAction ∨ w.Successful tag) :
      (w.afterEmission index e emissionAction c next).Accounted := by
    refine safe.accounted.transfer shrinks.lastRegistered shrinks.gapFloor arrivals
      (fun _ => id) (fun tag state here => ?_) fun pending => ?_
    · exact (dropped tag state here).imp_right (.imp_right .inl)
    · obtain ⟨e', member, phase, current⟩ := pending.of_set found working
      exact ⟨e', member, phase, current.trans shrinks.generation.symm⟩
  cases stepped with
  | handOver command rest idle =>
    exact shrunk (.refl _) (by simp [idle, isInvalidating]) fun tag state here => .inl ⟨state, here⟩
  | commit command awaiting =>
    refine shrunk (commitCommand_shrinks w.coordinator e.batch command)
      (by simp [awaiting, isInvalidating]) fun tag state here => ?_
    have sound := queue.sound command (by simp [Emission.queue, awaiting])
    by_cases covered : e.batch.generation = w.coordinator.generation ∧ tag ∈ command.covers
    · refine .inr (.inl ?_)
      simpa [unackedAfter, awaiting] using sound.not_mem_settle covered.2 w.unacked
    · exact .inl ⟨state, by rw [commitCommand_ledger, if_neg covered, here]⟩
  | failNegative command awaiting current =>
    intro _ _ _ _
    refine .inr (.inr (.inr ⟨{ e with phase := .invalidating command }, ?_, rfl, ?_⟩))
    · exact List.mem_set (List.getElem?_eq_some_iff.mp found).1 _
    · exact current.trans (recordFailure_shrinks w.coordinator e.batch command).generation.symm
  | failHarmless command awaiting harmless =>
    refine shrunk (recordFailure_shrinks w.coordinator e.batch command)
      (by simp [awaiting, isInvalidating]) fun tag state here => ?_
    have sound := queue.sound command (by simp [Emission.queue, awaiting])
    by_cases covered : e.batch.generation = w.coordinator.generation ∧ tag ∈ command.covers
    · exact .inr (.inr (sound.successful (harmless covered.1) tag covered.2))
    · exact .inl ⟨state, by rw [recordFailure_ledger, if_neg covered, here]⟩
  | invalidate command invalidating =>
    intro tag positive within
    simp only [afterEmission, invalidated] at within
    omega
  | withhold command releasing =>
    refine shrunk (releaseCommands_shrinks w.coordinator e.batch e.remaining)
      (by simp [releasing, isInvalidating]) fun tag state here => ?_
    exact .inl ⟨state, by rw [releaseCommands_ledger, here]⟩
  | interrupt command awaiting =>
    exact shrunk (.refl _) (by simp [awaiting, isInvalidating])
      fun tag state here => .inl ⟨state, here⟩

section

variable (safe : w.AckSafety)
include safe

theorem AckSafety.shrinkUnacked {unacked : Finset Nat}
    (ledger : LedgerInvariant w.coordinator w.records) (subset : unacked ⊆ w.unacked) :
    ({ w with unacked := unacked }).AckSafety :=
  ⟨ledger, safe.lastDelivered, fun tag member => safe.positive tag (subset member),
    safe.recordedHere, safe.recordedOnce,
    safe.accounted.transfer rfl rfl (fun _ member _ => subset member) (fun _ => id)
      (fun _ state here => .inl ⟨state, here⟩) id,
    fun e member => (safe.queues e member).transfer (fun _ => id) le_rfl
      fun _ member _ => subset member⟩

theorem AckSafety.register (accepted : w.coordinator.register tag = .ok c)
    (discipline : tag ≤ w.delivered ∧ tag ∉ w.registered)
    (ledger : LedgerInvariant c (w.afterRegister tag c).records)
    (persists : ∀ other, w.Successful other → (w.afterRegister tag c).Successful other) :
    (w.afterRegister tag c).AckSafety := by
  have registers := register_ok accepted
  have unrecorded : ∀ generation record, w.records generation tag ≠ some record :=
    fun generation record recorded =>
      discipline.2 (safe.recordedHere generation tag record recorded)
  refine ⟨ledger, registers.lastRegistered.trans_le discipline.1, safe.positive, ?_, ?_, ?_,
    fun e member => (safe.queues e member).transfer persists le_rfl fun _ member _ => member⟩
  · intro generation other record recorded
    simp only [afterRegister, setRecord_apply] at recorded
    split at recorded
    next same =>
      exact Finset.mem_insert.mpr (.inl same.2)
    · exact Finset.mem_insert_of_mem (safe.recordedHere generation other record recorded)
  · intro first second other record record' recorded recorded'
    simp only [afterRegister, setRecord_apply] at recorded recorded'
    split at recorded <;> split at recorded'
    next here here' =>
      exact here.1.trans here'.1.symm
    next here _ =>
      exact absurd (here.2 ▸ recorded') (unrecorded second record')
    next _ here =>
      exact absurd (here.2 ▸ recorded) (unrecorded first record)
    · exact safe.recordedOnce first second other record record' recorded recorded'
  · intro other positive within below
    by_cases same : other = tag
    · exact .inl ⟨.outstanding, by simp [afterRegister, registers.ledger, same]⟩
    · have bound := safe.ledger.gapBound
      simp only [afterRegister, registers.lastRegistered] at within
      simp only [afterRegister, registers.gapFloor] at below
      have old : other ≤ w.coordinator.lastRegistered ∧
          (w.coordinator.gapFloor = 0 ∨ other < w.coordinator.gapFloor) := by
        split at below <;> omega
      rcases safe.accounted other positive old.1 old.2 with
        ⟨state, here⟩ | settled | successful | ⟨e, member, phase, current⟩
      · exact .inl ⟨state, by simpa [afterRegister, registers.ledger, same] using here⟩
      · exact .inr (.inl settled)
      · exact .inr (.inr (.inl (persists other successful)))
      · exact .inr (.inr (.inr ⟨e, member, phase, current.trans registers.generation.symm⟩))

theorem AckSafety.mark {origin tag : Nat} {decision : Decision}
    (accepted : w.coordinator.mark tag decision = .ok c)
    (ledger : LedgerInvariant c (w.afterMark origin tag decision c).records)
    (persists : ∀ other, w.Successful other →
      (w.afterMark origin tag decision c).Successful other) :
    (w.afterMark origin tag decision c).AckSafety := by
  obtain ⟨current, inLedger, outcome⟩ := mark_ok accepted
  obtain ⟨old, oldRecord, _⟩ := safe.ledger.recorded _ _ inLedger
  have same : c.generation = w.coordinator.generation ∧
      c.lastRegistered = w.coordinator.lastRegistered ∧
      c.gapFloor = w.coordinator.gapFloor ∧
      ∀ other state, w.coordinator.ledger.get? other = some state →
        ∃ state, c.ledger.get? other = some state := by
    rcases outcome with ⟨_, rfl, _⟩ | ⟨_, rfl⟩
    · exact ⟨rfl, rfl, rfl, fun _ state here => ⟨state, here⟩⟩
    · refine ⟨rfl, rfl, rfl, fun other state here => ?_⟩
      by_cases decided : other = tag
      · exact ⟨decision.state, by simp [decided]⟩
      · exact ⟨state, by simpa [decided] using here⟩
  obtain ⟨generation, last, gap, kept⟩ := same
  refine ⟨ledger, last.trans_le safe.lastDelivered, safe.positive, ?_, ?_, ?_,
    fun e member => (safe.queues e member).transfer persists le_rfl fun _ member _ => member⟩
  · intro otherGeneration other record recorded
    simp only [afterMark, setRecord_apply] at recorded
    split at recorded
    next here =>
      rw [here.2]
      exact safe.recordedHere _ _ _ oldRecord
    · exact safe.recordedHere otherGeneration other record recorded
  · have earlier : ∀ generation' other record,
        (w.afterMark origin tag decision c).records generation' other = some record →
          ∃ record', w.records generation' other = some record' := by
      intro generation' other record recorded
      simp only [afterMark, setRecord_apply] at recorded
      split at recorded
      next here =>
        exact ⟨old, by rw [here.1, here.2, oldRecord]⟩
      · exact ⟨record, recorded⟩
    intro first second other record record' recorded recorded'
    obtain ⟨before, recordedBefore⟩ := earlier first other record recorded
    obtain ⟨before', recordedBefore'⟩ := earlier second other record' recorded'
    exact safe.recordedOnce first second other before before' recordedBefore recordedBefore'
  · refine safe.accounted.transfer last gap (fun _ member _ => member) persists
      (fun other state here => .inl (kept other state here)) ?_
    rintro ⟨e, member, phase, current⟩
    exact ⟨e, member, phase, current.trans generation.symm⟩

theorem AckSafety.emission (found : w.emissions[index]? = some e)
    (stepped : EmissionStep w.coordinator e emissionAction c next)
    (ledger : LedgerInvariant c w.records) (persists : ∀ tag, w.Successful tag →
      (w.afterEmission index e emissionAction c next).Successful tag) :
    (w.afterEmission index e emissionAction c next).AckSafety := by
  have subset := unackedAfter_subset e w.unacked emissionAction
  have lastDelivered : c.lastRegistered ≤ w.delivered := by
    rcases stepped.ledger with shrinks | ⟨_, rfl⟩
    · exact shrinks.lastRegistered.trans_le safe.lastDelivered
    · exact Nat.zero_le _
  refine ⟨ledger, lastDelivered, fun tag member => safe.positive tag (subset member),
    safe.recordedHere, safe.recordedOnce, safe.accounted_emission found stepped,
    fun e' member => ?_⟩
  rcases mem_or_eq_of_mem_set member with old | rfl
  · exact (safe.queues e' old).transfer persists le_rfl fun _ member _ => subset member
  · have moved := (safe.queues e (mem_of_getElem? found)).emissionStep stepped
    exact moved.transfer persists le_rfl fun _ member _ => member

theorem AckSafety.step (admitted : w.OrderlyUse action)
    (taken : w.step action = some w') : w'.AckSafety := by
  have ledgerStep := step_ledgerStep taken
  have ledger := safe.ledger.step ledgerStep
  have persists : ∀ tag, w.Successful tag → w'.Successful tag :=
    fun tag successful => successful.step safe.ledger ledgerStep
  cases action with
  | deliver =>
    cases taken
    refine ⟨ledger, safe.lastDelivered.trans (Nat.le_succ _), ?_, safe.recordedHere,
      safe.recordedOnce, ?_, fun e member => ?_⟩
    · intro tag member
      rcases Finset.mem_insert.mp member with rfl | old
      · omega
      · exact safe.positive tag old
    · refine safe.accounted.transfer rfl rfl (fun tag member within => ?_) persists
        (fun tag state here => .inl ⟨state, here⟩) id
      have := safe.lastDelivered
      rcases Finset.mem_insert.mp member with rfl | old
      · omega
      · exact old
    · refine (safe.queues e member).transfer persists (Nat.le_succ _) fun tag member within => ?_
      rcases Finset.mem_insert.mp member with rfl | old
      · omega
      · exact old
  | settleElsewhere tag =>
    cases taken
    exact safe.shrinkUnacked ledger (Finset.erase_subset _ _)
  | land command =>
    obtain rfl := step_land taken
    exact safe.shrinkUnacked ledger (settle_subset _ _)
  | register tag =>
    rcases step_register taken with rfl | ⟨c, accepted, rfl⟩
    · exact safe
    · exact safe.register accepted admitted.1 ledger persists
  | mark origin tag decision =>
    rcases step_mark taken with rfl | ⟨c, accepted, rfl⟩
    · exact safe
    · exact safe.mark accepted ledger persists
  | release origin tag =>
    cases taken
    refine ⟨ledger, safe.lastDelivered, safe.positive, safe.recordedHere, safe.recordedOnce,
      ?_, fun e member => (safe.queues e member).transfer persists le_rfl
        fun _ member _ => member⟩
    refine safe.accounted.transfer rfl rfl (fun _ member _ => member) persists
      (fun other state here => ?_) id
    by_cases same : other = tag
    · exact .inr (.inl (same ▸ admitted.1))
    · exact .inl ⟨state, by simpa [release, same] using here⟩
  | prepare forceIndividual =>
    obtain rfl := step_prepare taken
    have shrinks := prepare_shrinks w.coordinator forceIndividual
    refine ⟨ledger, shrinks.lastRegistered.trans_le safe.lastDelivered, safe.positive,
      safe.recordedHere, safe.recordedOnce, ?_, fun e member => ?_⟩
    · refine safe.accounted.transfer shrinks.lastRegistered shrinks.gapFloor
        (fun _ member _ => member) persists
        (fun tag state here => .inl ⟨state, by simpa [afterPrepare] using here⟩) ?_
      rintro ⟨e, member, phase, current⟩
      exact ⟨e, mem_append_left _ member, phase, current.trans shrinks.generation.symm⟩
    · rcases mem_append.mp member with old | fresh
      · exact (safe.queues e old).transfer persists le_rfl fun _ member _ => member
      · obtain rfl : e = start (w.coordinator.prepare forceIndividual).2 := by
          simpa using fresh
        exact (safe.plan admitted.2 forceIndividual).transfer persists le_rfl
          fun _ member _ => member
  | emission index emissionAction =>
    obtain ⟨e, c, next, found, stepped, rfl⟩ := step_emission taken
    exact safe.emission found (step_cases stepped) ledger persists
  | reconnect => exact admitted.1.elim

end

theorem ackSafety_init (generation : Nat) (coalesce : Bool) (maxHold maxPending : Int) :
    (init generation coalesce maxHold maxPending).AckSafety where
  ledger := ledgerInvariant_init generation coalesce maxHold maxPending
  lastDelivered := Nat.zero_le _
  positive := by simp [init]
  recordedHere := by simp [init]
  recordedOnce := by simp [init]
  accounted := by
    intro tag positive within
    simp only [init, SettlementCoordinator.init] at within
    omega
  queues := by simp [init]

/-- Whenever a cumulative acknowledgement is handed to the channel, every tag it
settles at the broker was marked successful, and nothing else was ever recorded
for that tag. -/
theorem cumulativeAck_reaches_only_successes {generation : Nat} {coalesce : Bool}
    {maxHold maxPending : Int} {actions : List ChannelAction}
    (run : RunWithin ChannelWorld.step OrderlyUse
      (init generation coalesce maxHold maxPending) actions w)
    {index : Nat} (taken : w.step (.emission index .handOver) = some w')
    {command : SettlementCommand} (frame : w'.handed = w.handed ++ [command])
    (cumulative : command.multiple = true) : ∀ tag ∈ w.unacked, tag ≤ command.deliveryTag →
      ∃ registeredIn, w.records registeredIn tag = some (.decided .success) ∧
        ∀ other record, w.records other tag = some record → other = registeredIn := by
  have safe : w.AckSafety :=
    run.invariant .step (ackSafety_init generation coalesce maxHold maxPending)
  obtain ⟨e, head, rest, found, idle, first, handed⟩ := step_handOver taken
  obtain rfl : head = command := by simpa [handed] using frame
  have queue := safe.queues e (mem_of_getElem? found)
  have queued : e.queue = head :: rest := by simp [Emission.queue, idle, first]
  rw [queued] at queue
  intro tag unacked below
  have successful : w.Successful tag := by
    by_contra unsuccessful
    rcases queue.reach.1 cumulative tag ⟨unacked, unsuccessful⟩ below with none | covered
    · simp at none
    · have sound := queue.sound head (by simp)
      exact unsuccessful (sound.successful (sound.cumulativeAck cumulative) tag covered)
  obtain ⟨registeredIn, recorded⟩ := successful
  exact ⟨registeredIn, recorded,
    fun other record found => safe.recordedOnce _ _ tag _ _ found recorded⟩

theorem cumulativeAck_reaches_only_successes_two :
    ∃ w w' command, RunWithin ChannelWorld.step OrderlyUse (init 0 true 0 0)
        [.deliver, .deliver, .register 1, .register 2, .mark 0 2 .success,
          .mark 0 1 .success, .prepare false] w ∧
      w.step (.emission 0 .handOver) = some w' ∧ w'.handed = w.handed ++ [command] ∧
      command.multiple = true ∧ 1 ∈ w.unacked ∧ ∀ tag ∈ w.unacked, tag ≤ command.deliveryTag →
        ∃ registeredIn, w.records registeredIn tag = some (.decided .success) ∧
          ∀ other record, w.records other tag = some record → other = registeredIn := by
  simp only [exists_and_left]
  refine exists_runWithin_of_check (fun w => decide (1 ∈ w.unacked) &&
    (w.step (.emission 0 .handOver)).any fun w' =>
      w'.handed == w.handed ++ [cumulativeAck w.coordinator [1, 2]]) (by decide)
    fun w run checked => ?_
  simp only [Bool.and_eq_true, decide_eq_true_eq, Option.any_eq_true, beq_iff_eq] at checked
  obtain ⟨unacked, w', taken, frame⟩ := checked
  exact ⟨w', taken, _, frame, rfl, unacked,
    cumulativeAck_reaches_only_successes run taken frame rfl⟩

/-- Planned between the two critical sections of a failed nack, a cumulative
acknowledgement settles the nacked delivery. -/
theorem cumulativeAck_reaches_failed_nack :
    ∃ w w' command, RunWithin ChannelWorld.step ChannelDiscipline (init 0 true 0 0)
        [.deliver, .deliver, .deliver, .register 1, .register 2, .register 3,
          .mark 0 1 (.nack true), .prepare false, .emission 0 .handOver,
          .mark 0 2 .success, .mark 0 3 .success, .emission 0 .fail, .prepare false,
          .emission 0 .invalidate] w ∧
      w.step (.emission 1 .handOver) = some w' ∧ w'.handed = w.handed ++ [command] ∧
      command.multiple = true ∧ 1 ∈ w.unacked ∧ 1 ≤ command.deliveryTag ∧
      w.records 0 1 = some (.decided (.nack true)) ∧ ¬ w.Successful 1 := by
  simp only [exists_and_left]
  refine exists_runWithin_of_check (fun w =>
      decide (1 ∈ w.unacked ∧ w.coordinator.generation = 1 ∧
        w.records 0 1 = some (.decided (.nack true)) ∧ w.records 1 1 = none) &&
      (w.step (.emission 1 .handOver)).any fun w' =>
        w'.handed == w.handed ++ [cumulativeAck (init 0 true 0 0).coordinator [2, 3]])
    (by decide) fun w run checked => ?_
  simp only [Bool.and_eq_true, decide_eq_true_eq, Option.any_eq_true, beq_iff_eq] at checked
  obtain ⟨⟨unacked, current, nacked, unregistered⟩, w', taken, frame⟩ := checked
  refine ⟨w', taken, _, frame, rfl, unacked, by decide, nacked, ?_⟩
  rintro ⟨generation, recorded⟩
  have older := ((ledgerInvariant_of_run run).bounded _ _ _ recorded).1
  obtain rfl | rfl : generation = 0 ∨ generation = 1 := by omega
  · simp [nacked] at recorded
  · simp [unregistered] at recorded

end ChannelWorld
end RabbitKit
