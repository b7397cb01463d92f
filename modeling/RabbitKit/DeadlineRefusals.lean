import RabbitKit.SyncDeadlines
import RabbitKit.HandlerPipelines

/-! # Settlements that a processing deadline turns away

While the deadline holds the claim of a delivery, a settlement call of its handler raises
`LateSettlementError`, which ends the handler run. On a channel that stays open the deadline path
then settles the delivery itself, within three steps of the owner thread, whenever the failure
policy decides a settlement. A route with `AckPolicy.MANUAL` and `manual_settle_on_error=False`
decides none: its claim is handed back, and a call that was turned away in between is lost.
-/

namespace RabbitKit

open LabelledRun

/-- What `settle_expired_sync` sends for a delivery; `none` leaves it to the handler. -/
def PipelineDelivery.expirySettlement (d : PipelineDelivery) : Option Settlement :=
  (d.failureDecision .handlerTimeout).map fun decision =>
    decision.kind.settlement decision.requeue

def PipelineDelivery.leftToHandler (d : PipelineDelivery) : Prop :=
  d.route.ackPolicy = .manual ∧ d.pipeline.manualSettleOnError = false

theorem PipelineDelivery.expirySettlement_eq_none_iff (d : PipelineDelivery) :
    d.expirySettlement = none ↔ d.leftToHandler := by
  simp only [expirySettlement, leftToHandler, Option.map_eq_none_iff, failureDecision]
  split
  next left =>
    simp [left]
  next settles =>
    refine iff_of_false ?_ settles
    repeat' split
    all_goals simp

def DeadlineAction.ofOwner : DeadlineAction → Bool
  | .check _ | .claimDue | .channelGone | .expire _ | .ownerGuards | .ownerSends _
  | .handBack => true
  | _ => false

def OwnerPhase.expiringDelivery : OwnerPhase → Option Nat
  | .expiring delivery _ => some delivery
  | _ => none

namespace SyncDeadlines

/-- The steps of a broker whose channel stays open and whose deadline path follows the
failure policy of each delivery. -/
def OnOpenChannel (deliveries : Nat → PipelineDelivery) (world : SyncDeadlines) :
    DeadlineAction → Prop
  | .channelGone => False
  | .expire decision =>
    ∀ delivery ∈ world.owner.expiringDelivery, decision = (deliveries delivery).expirySettlement
  | _ => True

instance (deliveries : Nat → PipelineDelivery) (world : SyncDeadlines) :
    DecidablePred (OnOpenChannel deliveries world) := fun action => by
  unfold OnOpenChannel
  split <;> infer_instance

/-- A call of the handler stands before the guard, which raises `LateSettlementError`. -/
def Refuses (world : SyncDeadlines) (delivery call : Nat) : Prop :=
  ∃ claim settlement, world.claims[delivery]? = some claim ∧
    claim.calls[call]? = some (.entered settlement) ∧ claim.guard false = none

def SettledByDeadline (world : SyncDeadlines) (delivery : Nat) : Prop :=
  ∃ claim settlement, world.claims[delivery]? = some claim ∧ .deadlineCall settlement ∈ claim.log

/-- The owner reaches the transport for this delivery within so many of its own steps. -/
def OnTheWay (world : SyncDeadlines) (delivery steps : Nat) : Prop :=
  match world.owner with
  | .expiring target _ => target = delivery ∧ 3 ≤ steps
  | .guarding target _ _ => target = delivery ∧ 2 ≤ steps
  | .sending target _ _ => target = delivery ∧ 1 ≤ steps
  | _ => False

def SettledWithin (world : SyncDeadlines) (delivery steps : Nat) : Prop :=
  world.SettledByDeadline delivery ∨ world.OnTheWay delivery steps

variable {world world' : SyncDeadlines} {action : DeadlineAction} {delivery target steps more : Nat}
  {claim moved : DeliveryClaim} {deliveries : Nat → PipelineDelivery}

def Untouched (claim : DeliveryClaim) : Prop :=
  claim.disposition ≠ .pending → ∃ settlement,
    .handlerCall settlement ∈ claim.log ∨ .deadlineCall settlement ∈ claim.log

theorem Untouched.mono (untouched : Untouched claim)
    (disposition : moved.disposition = claim.disposition)
    (log : ∀ event ∈ claim.log, event ∈ moved.log) : Untouched moved := by
  intro settled
  obtain ⟨settlement, called | called⟩ := untouched (disposition ▸ settled)
  · exact ⟨settlement, .inl (log _ called)⟩
  · exact ⟨settlement, .inr (log _ called)⟩

theorem untouched_move (untouched : ∀ claim ∈ world.claims, Untouched claim)
    (delivery : Nat) (after : Untouched moved) :
    ∀ claim ∈ (world.move delivery moved).claims, Untouched claim := by
  intro present member
  rcases List.mem_or_eq_of_mem_set member with old | rfl
  · exact untouched present old
  · exact after

theorem guard_fields {onOwner : Bool} {passed : DeliveryClaim}
    (guarded : claim.guard onOwner = some passed) :
    passed.disposition = claim.disposition ∧ passed.log = claim.log ∧
      (passed.state = .deadline → claim.state = .deadline) := by
  unfold DeliveryClaim.guard at guarded
  split at guarded
  · cases guarded
    exact ⟨rfl, rfl, nofun⟩
  · split at guarded <;> cases guarded
    exact ⟨rfl, rfl, id⟩
  · cases guarded
    exact ⟨rfl, rfl, id⟩

theorem untouched_step (untouched : ∀ claim ∈ world.claims, Untouched claim)
    (taken : world.step action = some world') : ∀ claim ∈ world'.claims, Untouched claim := by
  have here {delivery claim} (found : world.claims[delivery]? = some claim) : Untouched claim :=
    untouched claim (List.mem_of_getElem? found)
  cases transition_of_step taken with
  | begin =>
    intro claim member
    rcases List.mem_append.mp member with old | new
    · exact untouched claim old
    · cases List.mem_singleton.mp new
      intro settled
      exact absurd rfl settled
  | handlerReturns | check | scanned | skipDue | channelGone | expireSettles | expireLeaves
  | expireSettled | ownerRefused => exact untouched
  | handlerEnters found | handlerRefused found | finish found =>
    exact untouched_move untouched _ ((here found).mono rfl fun _ => id)
  | handlerGuards found entered guarded =>
    obtain ⟨disposition, log, _⟩ := guard_fields guarded
    refine untouched_move untouched _ ((here found).mono disposition ?_)
    exact fun event member => log ▸ member
  | @handlerSends delivery call returned settlement claim found =>
    exact untouched_move untouched _ fun _ => ⟨settlement, .inl (by simp [DeliveryClaim.sent])⟩
  | claimDue _ found =>
    exact untouched_move untouched _ ((here found).mono rfl fun _ => List.mem_append_left _)
  | ownerGuards _ found guarded =>
    obtain ⟨disposition, log, _⟩ := guard_fields guarded
    refine untouched_move untouched _ ((here found).mono disposition ?_)
    exact fun event member => log ▸ member
  | @ownerSends delivery due settlement returned claim _ found =>
    exact untouched_move untouched _ fun _ => ⟨settlement, .inr (by simp [DeliveryClaim.sent])⟩
  | handBack _ found =>
    exact untouched_move untouched _ ((here found).mono rfl fun _ => List.mem_append_left _)

theorem SettledWithin.mono (soon : world.SettledWithin delivery steps) (le : steps ≤ more) :
    world.SettledWithin delivery more := by
  rcases soon with settled | way
  · exact .inl settled
  · refine .inr ?_
    unfold OnTheWay at way ⊢
    split at way
    case h_4 => exact way.elim
    all_goals exact ⟨way.1, by omega⟩

theorem SettledByDeadline.move (settled : world.SettledByDeadline delivery)
    (found : world.claims[target]? = some claim) (log : ∀ event ∈ claim.log, event ∈ moved.log) :
    (world.move target moved).SettledByDeadline delivery := by
  obtain ⟨present, settlement, located, called⟩ := settled
  rcases getElem?_moved moved found located with ⟨rfl, after⟩ | after
  · exact ⟨moved, settlement, after, log _ called⟩
  · exact ⟨present, settlement, after, called⟩

theorem SettledByDeadline.step (settled : world.SettledByDeadline delivery)
    (taken : world.step action = some world') : world'.SettledByDeadline delivery := by
  cases transition_of_step taken with
  | begin =>
    obtain ⟨claim, settlement, located, called⟩ := settled
    have inBounds := (getElem?_eq_some_iff.mp located).1
    exact ⟨claim, settlement, (List.getElem?_append_left inBounds).trans located, called⟩
  | handlerReturns | check | scanned | skipDue | channelGone | expireSettles | expireLeaves
  | expireSettled | ownerRefused => exact settled
  | handlerEnters found | handlerRefused found | finish found =>
    exact settled.move found fun _ => id
  | handlerGuards found entered guarded =>
    exact settled.move found fun event member => (guard_fields guarded).2.1 ▸ member
  | handlerSends found => exact settled.move found fun _ => List.mem_append_left _
  | claimDue _ found => exact settled.move found fun _ => List.mem_append_left _
  | ownerGuards _ found guarded =>
    exact settled.move found fun event member => (guard_fields guarded).2.1 ▸ member
  | ownerSends _ found | handBack _ found =>
    exact settled.move found fun _ => List.mem_append_left _

/-- While the owner settles a delivery its message is unsettled: the claim let no call of
the handler through. -/
theorem Held.unsettled (held : world.Held delivery)
    (untouched : ∀ claim ∈ world.claims, Untouched claim)
    (found : world.claims[delivery]? = some claim) : claim.disposition = .pending := by
  obtain ⟨_, log⟩ := held.of_found found
  by_contra settled
  obtain ⟨settlement, called⟩ := untouched claim (List.mem_of_getElem? found) settled
  simp [log] at called

/-- Each step of the owner brings the delivery closer to its settlement, and no step of
a handler takes the owner off its way. -/
theorem SettledWithin.step (inv : world.Exclusive)
    (untouched : ∀ claim ∈ world.claims, Untouched claim)
    (settles : ¬ (deliveries delivery).leftToHandler)
    (soon : world.SettledWithin delivery steps) (admitted : OnOpenChannel deliveries world action)
    (taken : world.step action = some world') :
    world'.SettledWithin delivery (if action.ofOwner then steps - 1 else steps) := by
  rcases soon with settled | way
  · exact .inl (settled.step taken)
  have settling := inv.settling
  unfold Settling at settling
  cases transition_of_step taken with
  | begin | handlerEnters | handlerReturns | handlerGuards | handlerRefused | handlerSends
  | finish =>
    exact .inr way
  | check phase | scanned phase | claimDue phase | skipDue phase | handBack phase =>
    simp [OnTheWay, phase] at way
  | channelGone => exact admitted.elim
  | expireSettles expiring =>
    simp only [OnTheWay, expiring] at way
    refine .inr ⟨way.1, ?_⟩
    simp only [DeadlineAction.ofOwner, if_true]
    omega
  | expireLeaves expiring =>
    simp only [OnTheWay, expiring] at way
    have follows := admitted delivery (by simp [expiring, OwnerPhase.expiringDelivery, way.1])
    exact absurd ((deliveries delivery).expirySettlement_eq_none_iff.mp follows.symm) settles
  | expireSettled expiring found settled =>
    rw [expiring] at settling
    exact absurd (Held.unsettled settling untouched found) settled
  | ownerGuards guarding =>
    simp only [OnTheWay, guarding] at way
    refine .inr ⟨way.1, ?_⟩
    simp only [DeadlineAction.ofOwner, if_true]
    omega
  | ownerRefused guarding refused =>
    rw [guarding] at settling
    obtain ⟨claim, found, state, _⟩ := settling
    simp [found, DeliveryClaim.guard, state] at refused
  | @ownerSends target due settlement returned claim sending found =>
    simp only [OnTheWay, sending] at way
    have inBounds := (getElem?_eq_some_iff.mp found).1
    refine .inl ⟨claim.sent (.deadlineCall settlement) settlement returned, settlement, ?_, ?_⟩
    · simp [move, way.1 ▸ inBounds, way.1]
    · simp [DeliveryClaim.sent]

/-- A claim the deadline holds was held before, or the owner has just taken it. -/
theorem deadline_of_step (taken : world.step action = some world')
    (located : world'.claims[delivery]? = some moved) (state : moved.state = .deadline) :
    (∃ claim, world.claims[delivery]? = some claim ∧ claim.state = .deadline) ∨
      ∃ due, world'.owner = .expiring delivery due := by
  have same {target claim after} (found : world.claims[target]? = some claim)
      (located : (world.move target after).claims[delivery]? = some moved)
      (kept : after.state = .deadline → claim.state = .deadline) :
      ∃ claim, world.claims[delivery]? = some claim ∧ claim.state = .deadline := by
    rcases getElem?_of_moved found located with ⟨rfl, rfl⟩ | ⟨_, old⟩
    · exact ⟨claim, found, kept state⟩
    · exact ⟨moved, old, state⟩
  cases transition_of_step taken with
  | begin =>
    rw [List.getElem?_append] at located
    split at located
    · exact .inl ⟨moved, located, state⟩
    · have fresh : moved ∈ [({} : DeliveryClaim)] := List.mem_of_getElem? located
      cases List.mem_singleton.mp fresh
      cases state
  | handlerReturns | check | scanned | skipDue | channelGone | expireSettles | expireLeaves
  | expireSettled | ownerRefused => exact .inl ⟨moved, located, state⟩
  | handlerEnters found | handlerRefused found | finish found => exact .inl (same found located id)
  | handlerGuards found entered guarded =>
    exact .inl (same found located (guard_fields guarded).2.2)
  | handlerSends found => exact .inl (same found located id)
  | claimDue _ found =>
    rcases getElem?_of_moved found located with ⟨rfl, _⟩ | ⟨_, old⟩
    · exact .inr ⟨_, rfl⟩
    · exact .inl ⟨moved, old, state⟩
  | ownerGuards _ found guarded => exact .inl (same found located (guard_fields guarded).2.2)
  | ownerSends _ found => exact .inl (same found located id)
  | handBack _ found => exact .inl (same found located nofun)

structure Answering (deliveries : Nat → PipelineDelivery) (world : SyncDeadlines) : Prop where
  exclusive : world.Exclusive
  untouched : ∀ claim ∈ world.claims, Untouched claim
  answered : ∀ delivery claim, ¬ (deliveries delivery).leftToHandler →
    world.claims[delivery]? = some claim → claim.state = .deadline →
    world.SettledWithin delivery 3

theorem Answering.step (inv : Answering deliveries world)
    (admitted : OnOpenChannel deliveries world action) (taken : world.step action = some world') :
    Answering deliveries world' := by
  refine ⟨inv.exclusive.step taken, untouched_step inv.untouched taken, ?_⟩
  intro delivery moved settles located state
  rcases deadline_of_step taken located state with ⟨claim, found, held⟩ | ⟨due, expiring⟩
  · have soon := inv.answered delivery claim settles found held
    refine (soon.step inv.exclusive inv.untouched settles admitted taken).mono ?_
    split <;> omega
  · refine .inr ?_
    simp [OnTheWay, expiring]

theorem answering_of_run {actions : List DeadlineAction}
    (run : RunWithin step (OnOpenChannel deliveries) {} actions world) :
    Answering deliveries world := by
  refine run.invariant (fun inv admitted taken => inv.step admitted taken) ?_
  exact ⟨⟨by simp, trivial⟩, by simp, by simp⟩

theorem Answering.owner_enabled (inv : Answering deliveries world) :
    ∃ action, action.ofOwner = true ∧ OnOpenChannel deliveries world action ∧
      (world.step action).isSome = true := by
  have settling := inv.exclusive.settling
  unfold Settling at settling
  cases phase : world.owner with
  | idle => exact ⟨.check [], rfl, trivial, by simp [SyncDeadlines.step, phase]⟩
  | scanning due =>
    refine ⟨.claimDue, rfl, trivial, ?_⟩
    cases due with
    | nil => simp [SyncDeadlines.step, phase]
    | cons delivery due =>
      simp only [SyncDeadlines.step, phase]
      split <;> rfl
  | expiring delivery due =>
    rw [phase] at settling
    obtain ⟨claim, found, _⟩ := settling
    have follows : OnOpenChannel deliveries world
        (.expire (deliveries delivery).expirySettlement) := by
      simp [OnOpenChannel, phase, OwnerPhase.expiringDelivery]
    refine ⟨.expire (deliveries delivery).expirySettlement, rfl, follows, ?_⟩
    cases (deliveries delivery).expirySettlement <;>
      simp only [SyncDeadlines.step, phase, found] <;> split <;> rfl
  | guarding delivery settlement due =>
    refine ⟨.ownerGuards, rfl, trivial, ?_⟩
    simp only [SyncDeadlines.step, phase]
    split <;> rfl
  | sending delivery settlement due =>
    rw [phase] at settling
    obtain ⟨claim, found, _⟩ := settling
    exact ⟨.ownerSends true, rfl, trivial, by simp [SyncDeadlines.step, phase, found]⟩
  | handingBack delivery due =>
    rw [phase] at settling
    obtain ⟨claim, found, _⟩ := settling
    exact ⟨.handBack, rfl, trivial, by simp [SyncDeadlines.step, phase, found]⟩

theorem SettledWithin.run {actions : List DeadlineAction} {final : SyncDeadlines}
    (inv : Answering deliveries world) (settles : ¬ (deliveries delivery).leftToHandler)
    (soon : world.SettledWithin delivery steps)
    (run : RunWithin SyncDeadlines.step (OnOpenChannel deliveries) world actions final) :
    Answering deliveries final ∧
      final.SettledWithin delivery (steps - actions.countP (·.ofOwner)) := by
  induction run with
  | nil => exact ⟨inv, by simpa using soon⟩
  | @snoc middle final actions action earlier admitted last ih =>
    obtain ⟨held, closer⟩ := ih
    refine ⟨held.step admitted last, ?_⟩
    refine (closer.step held.exclusive held.untouched settles admitted last).mono ?_
    split <;> rename_i owned <;> simp [owned]
    omega

/-- On an open channel a settlement of the handler is turned away only in favour of the
deadline's: the owner, which can always go on, hands one to the transport within its next
three steps, whatever the handlers do meanwhile. -/
theorem refused_settlement_answered {actions : List DeadlineAction} {call : Nat}
    (run : RunWithin SyncDeadlines.step (OnOpenChannel deliveries) {} actions world)
    (settles : ¬ (deliveries delivery).leftToHandler) (refused : world.Refuses delivery call) :
    ∀ following final,
      RunWithin SyncDeadlines.step (OnOpenChannel deliveries) world following final →
      (3 ≤ following.countP (·.ofOwner) → final.SettledByDeadline delivery) ∧
      ∃ action, action.ofOwner = true ∧ OnOpenChannel deliveries final action ∧
        (final.step action).isSome = true := by
  intro following final continued
  have inv := answering_of_run run
  obtain ⟨claim, settlement, found, _, late⟩ := refused
  have held : claim.state = .deadline := by
    cases state : claim.state <;> simp [DeliveryClaim.guard, state] at late ⊢
  have soon := inv.answered delivery claim settles found held
  obtain ⟨after, closer⟩ := soon.run inv settles continued
  refine ⟨fun enough => ?_, after.owner_enabled⟩
  rcases closer with settled | way
  · exact settled
  · have impossible : False := by
      unfold OnTheWay at way
      split at way
      case h_4 => exact way
      all_goals omega
    exact impossible.elim

def deliveryUnder (policy : AckPolicy) : PipelineDelivery where
  pipeline := { manualSettleOnError := false }
  route :=
    { ackPolicy := policy
      handler := fun _ => MessageScript.settle .ack >>= fun _ => pure .nothing }

def comingTooLate : SyncDeadlines where
  claims := [{ state := .deadline, calls := [.entered .ack], log := [.deadlineClaim] }]
  owner := .expiring 0 []

theorem comingTooLate_refuses : comingTooLate.Refuses 0 0 := ⟨_, .ack, rfl, rfl, rfl⟩

theorem comingTooLate_reached (deliveries : Nat → PipelineDelivery) :
    RunWithin step (OnOpenChannel deliveries) {}
      [.begin, .handlerEnters 0 .ack, .check [0], .claimDue] comingTooLate :=
  runWithin_of_executeWithin rfl

theorem refused_settlement_answered_nackOnError :
    ∃ final, RunWithin SyncDeadlines.step (OnOpenChannel fun _ => deliveryUnder .nackOnError) {}
        [.begin, .handlerEnters 0 .ack, .check [0], .claimDue] comingTooLate ∧
      comingTooLate.Refuses 0 0 ∧
      RunWithin SyncDeadlines.step (OnOpenChannel fun _ => deliveryUnder .nackOnError) comingTooLate
        [.expire (some (.nack false)), .handlerGuards 0 0, .ownerGuards, .ownerSends true] final ∧
      final.SettledByDeadline 0 := by
  have run := comingTooLate_reached fun _ => deliveryUnder .nackOnError
  obtain ⟨final, continued, _⟩ := exists_runWithin_of_any step
    (OnOpenChannel fun _ => deliveryUnder .nackOnError) comingTooLate
    [.expire (some (.nack false)), .handlerGuards 0 0, .ownerGuards, .ownerSends true]
    (fun _ => true) (by decide)
  have answered := refused_settlement_answered run
    (by simp [PipelineDelivery.leftToHandler, deliveryUnder]) comingTooLate_refuses
  exact ⟨final, run, comingTooLate_refuses, continued, (answered _ _ continued).1 (by decide)⟩

/-- Under `AckPolicy.MANUAL` without `manual_settle_on_error` the ack is turned away
between the claim and the hand-back; the handler run ends, and nobody settles. -/
theorem refused_settlement_lost :
    ∃ final, RunWithin SyncDeadlines.step (OnOpenChannel fun _ => deliveryUnder .manual) {}
        [.begin, .handlerEnters 0 .ack, .check [0], .claimDue] comingTooLate ∧
      comingTooLate.Refuses 0 0 ∧
      RunWithin SyncDeadlines.step (OnOpenChannel fun _ => deliveryUnder .manual) comingTooLate
        [.expire none, .handlerGuards 0 0, .handBack, .finish 0, .claimDue] final ∧
      ¬ final.SettledByDeadline 0 ∧
      final = { claims := [{
        state := .handler, running := false, log := [.deadlineClaim, .handBack] }] } := by
  have run := comingTooLate_reached fun _ => deliveryUnder .manual
  obtain ⟨final, continued, checked⟩ := exists_runWithin_of_any step
    (OnOpenChannel fun _ => deliveryUnder .manual) comingTooLate
    [.expire none, .handlerGuards 0 0, .handBack, .finish 0, .claimDue]
    (fun final => decide (final =
      { claims := [{ state := .handler, running := false, log := [.deadlineClaim, .handBack] }] }))
    (by decide)
  have reached := of_decide_eq_true checked
  refine ⟨final, run, comingTooLate_refuses, continued, ?_, reached⟩
  rintro ⟨claim, settlement, found, called⟩
  rw [reached] at found
  cases found
  simp at called

end SyncDeadlines
end RabbitKit
