import RabbitKit.AsyncSettlement
import RabbitKit.InterruptibleState

/-! # What accounts for the settlement of a delivery

A delivery whose handler did not complete may be acknowledged only for a copy the
broker confirmed, or because somebody accepted the failure while no dead-letter
copy was left unconfirmed, and it may be dead-lettered only after the guard
allowed it.  Settling under the failure policy of the pipeline keeps this rule.
-/

namespace RabbitKit

open InterruptibleState Pipeline PublishAnswer List

def NoneUnconfirmed (trace : List DeliveryEvent) : Prop :=
  ∀ name, DeliveryEvent.copied (.deadLetterQueue name) false ∉ trace

def Confirmed (trace : List DeliveryEvent) : Prop :=
  ∃ target, DeliveryEvent.copied target true ∈ trace

def GuardAllowed (trace : List DeliveryEvent) : Prop :=
  ∃ verdict, DeliveryEvent.guardAnswered verdict ∈ trace ∧ verdict.allows = true

def Ackable (trace : List DeliveryEvent) : Prop :=
  .completed ∈ trace ∨ Confirmed trace ∨ .accepted ∈ trace ∧ NoneUnconfirmed trace

/-- What has to precede a settlement frame.  A delivery turned away by the filter of
its route did not fail. -/
def Accountable (earlier : List DeliveryEvent) : Settlement → Prop
  | .ack => Ackable earlier
  | .nack false | .reject false => GuardAllowed earlier ∨ .filtered ∈ earlier
  | .nack true | .reject true => True

/-- Every settlement frame is accounted for by what preceded it, and the delivery is
settled only by such a frame or by its handler. -/
structure NoLoss (w : DeliveryWorld) : Prop where
  accountable : ∀ earlier settlement later,
    w.trace = earlier ++ .settled settlement :: later → Accountable earlier settlement
  disposed : w.disposition = .pending ∨
    ∃ settlement, w.disposition = settlement.disposition ∧
      (.settled settlement ∈ w.trace ∨ .settledByHandler settlement ∈ w.trace)

namespace DeliveryWorld

def recorded (w : DeliveryWorld) (event : DeliveryEvent) : DeliveryWorld :=
  { w with trace := w.trace ++ [event] }

@[simp]
theorem recorded_trace (w : DeliveryWorld) (event : DeliveryEvent) :
    (w.recorded event).trace = w.trace ++ [event] :=
  rfl

@[simp]
theorem recorded_isSettled (w : DeliveryWorld) (event : DeliveryEvent) :
    (w.recorded event).isSettled = w.isSettled :=
  rfl

end DeliveryWorld

section Combinators

variable {α : Type} {post : Except Interrupt α → DeliveryWorld → Prop} {w : DeliveryWorld}
variable {done : Except Interrupt Unit → DeliveryWorld → Prop}

@[simp]
theorem ensures_record (event : DeliveryEvent) :
    Ensures (record event) done w ↔ done (.ok ()) (w.recorded event) :=
  .rfl

@[simp]
theorem ensures_isSettled {post : Except Interrupt Bool → DeliveryWorld → Prop} :
    Ensures isSettled post w ↔ post (.ok w.isSettled) w :=
  .rfl

@[simp]
theorem ensures_raise (failure : Failure) :
    Ensures (raise failure) post w ↔ post (.error (.raised failure)) w :=
  .rfl

@[simp]
theorem ensures_answer (reply : Except Interrupt α) :
    Ensures (answer reply) post w ↔ post reply w := by
  cases reply <;> rfl

@[simp]
theorem ensures_publishCopy (target : CopyTarget) (published : PublishAnswer)
    {post : Except Interrupt (Option PublishStatus) → DeliveryWorld → Prop} :
    Ensures (Delivery.publishCopy target published) post w ↔
      post published.outcome? (w.recorded (.copied target published.isConfirmed)) := by
  simp [Delivery.publishCopy]

theorem ensures_raiseAny (raises : Option Failure) : Ensures (raiseAny raises) done w ↔
      (raises = none → done (.ok ()) w) ∧
        ∀ failure, raises = some failure → done (.error (.raised failure)) w := by
  cases raises <;> simp [raiseAny]

theorem ensures_unlessSettled (action : Pipeline Unit) : Ensures (unlessSettled action) done w ↔
      (w.isSettled = true → done (.ok ()) w) ∧ (w.isSettled = false → Ensures action done w) := by
  cases settled : w.isSettled <;> simp [unlessSettled, settled]

def afterException (post : Except Interrupt α → DeliveryWorld → Prop)
    (handler : Failure → Pipeline α) : Except Interrupt α → DeliveryWorld → Prop
  | .error (.raised failure), w => Ensures (handler failure) post w
  | result, w => post result w

theorem ensures_exceptException (body : Pipeline α) (handler : Failure → Pipeline α) :
    Ensures (exceptException body handler) post w ↔
      Ensures body (afterException post handler) w := by
  unfold exceptException
  rw [ensures_tryCatch]
  unfold Ensures
  rcases body.run.run w with ⟨result | result, final⟩
  · cases result <;> rfl
  · rfl

end Combinators

theorem settlement_before_last {trace earlier later : List DeliveryEvent}
    {settlement : Settlement} {last : DeliveryEvent}
    (same : trace ++ [last] = earlier ++ .settled settlement :: later) :
    trace = earlier ∧ last = .settled settlement ∨
      ∃ rest, trace = earlier ++ .settled settlement :: rest := by
  rcases eq_nil_or_concat later with rfl | ⟨rest, final, rfl⟩
  · left
    simpa using same
  · right
    refine ⟨rest, ?_⟩
    have shifted : trace ++ [last] = (earlier ++ .settled settlement :: rest) ++ [final] := by
      simpa using same
    exact (append_inj' shifted rfl).1

namespace NoLoss

variable {w w' : DeliveryWorld}

theorem congr (noLoss : NoLoss w) (sameTrace : w'.trace = w.trace)
    (sameDisposition : w'.disposition = w.disposition) : NoLoss w' := by
  constructor
  · rw [sameTrace]
    exact noLoss.accountable
  · rw [sameTrace, sameDisposition]
    exact noLoss.disposed

theorem recorded (noLoss : NoLoss w) {event : DeliveryEvent}
    (notSettled : ∀ settlement, event ≠ .settled settlement) : NoLoss (w.recorded event) := by
  constructor
  · intro earlier settlement later same
    rcases settlement_before_last same with ⟨_, last⟩ | ⟨rest, before⟩
    · exact absurd last (notSettled settlement)
    · exact noLoss.accountable earlier settlement rest before
  · rcases noLoss.disposed with pending | ⟨settlement, disposed, found⟩
    · exact .inl pending
    · refine .inr ⟨settlement, disposed, ?_⟩
      rcases found with found | found
      · exact .inl (by simp [found])
      · exact .inr (by simp [found])

theorem settled (noLoss : NoLoss w) {settlement : Settlement}
    (due : Accountable w.trace settlement) :
    NoLoss { w with
      disposition := settlement.disposition
      trace := w.trace ++ [.settled settlement] } := by
  constructor
  · intro earlier other later same
    rcases settlement_before_last same with ⟨before, last⟩ | ⟨rest, before⟩
    · cases last
      exact before ▸ due
    · exact noLoss.accountable earlier other rest before
  · exact .inr ⟨settlement, rfl, .inl (by simp)⟩

theorem settledByHandler (noLoss : NoLoss w) (settlement : Settlement) :
    NoLoss { w with
      disposition := settlement.disposition
      trace := w.trace ++ [.settledByHandler settlement] } := by
  have kept : NoLoss (w.recorded (.settledByHandler settlement)) := noLoss.recorded (by simp)
  constructor
  · exact kept.accountable
  · exact .inr ⟨settlement, rfl, .inr (by simp)⟩

end NoLoss

theorem noneUnconfirmed_append {trace : List DeliveryEvent} {event : DeliveryEvent}
    (none : NoneUnconfirmed trace)
    (notLeft : ∀ name, event ≠ .copied (.deadLetterQueue name) false) :
    NoneUnconfirmed (trace ++ [event]) := by
  intro name found
  rcases mem_append.mp found with found | found
  · exact none name found
  · exact notLeft name (mem_singleton.mp found).symm

namespace Delivery

variable {d : Delivery} {w : DeliveryWorld}

theorem isSettled_of_settlement (w : DeliveryWorld) (settlement : Settlement)
    (trace : List DeliveryEvent) :
    DeliveryWorld.isSettled { w with disposition := settlement.disposition, trace := trace } =
      true := by
  cases settlement <;> rfl

theorem settleAsync_ensures (noLoss : NoLoss w) (settlement : Settlement)
    (due : w.isSettled = false → Accountable w.trace settlement) :
    Ensures (d.settleAsync settlement) (fun _ w' => NoLoss w' ∧ w'.isSettled = true) w := by
  rw [settleAsync, ensures_unlessSettled]
  refine ⟨fun settled => ⟨noLoss, settled⟩, fun unsettled => ?_⟩
  have done := noLoss.settled (due unsettled)
  have claimed := isSettled_of_settlement w settlement (w.trace ++ [.settled settlement])
  cases frame : d.surroundings.settleFrame with
  | none => simpa using ⟨done, claimed⟩
  | some interrupt => simpa using ⟨done.congr rfl rfl, claimed⟩

theorem settleAsync_noLoss (noLoss : NoLoss w) (settlement : Settlement)
    (due : Accountable w.trace settlement) :
    Ensures (d.settleAsync settlement) (fun _ w' => NoLoss w') w :=
  (settleAsync_ensures noLoss settlement fun _ => due).mono fun _ _ ended => ended.1

theorem queueExists_ensures : Ensures d.queueExists (fun _ w' => w' = w) w := by
  unfold queueExists
  cases d.surroundings.probe <;> simp

theorem check_ensures :
    Ensures d.check (fun _ w' => w'.trace = w.trace ∧ w'.disposition = w.disposition) w := by
  simp only [check, ensures_bind, ensures_get, afterValue_ok]
  cases w.guard.targetFor d.route.queue with
  | none => simp
  | some target =>
    by_cases retained : d.route.queue.brokerRetainsDeadLetters = true
    · simp [retained]
    · simp only [retained, Bool.false_eq_true, if_false, checkTarget, ensures_bind, ensures_get,
        afterValue_ok]
      split
      · simp
      · rw [ensures_bind]
        refine queueExists_ensures.mono fun result w' same => ?_
        subst same
        rcases result with interrupt | present
        · simp
        · cases present <;> simp

theorem deadLetterCheck_ensures (noLoss : NoLoss w) : Ensures d.deadLetterCheck
      (fun result w' => NoLoss w' ∧ (result = .ok true → GuardAllowed w'.trace)) w := by
  rw [deadLetterCheck, ensures_bind]
  refine check_ensures.mono ?_
  rintro result w' ⟨sameTrace, sameDisposition⟩
  have noLoss' : NoLoss w' := noLoss.congr sameTrace sameDisposition
  rcases result with interrupt | verdict
  · simpa using noLoss'
  · simp only [afterValue_ok, ensures_bind, ensures_record, ensures_pure]
    refine ⟨noLoss'.recorded (by simp), fun allows => ⟨verdict, by simp, ?_⟩⟩
    simpa using allows

theorem deadLetterCopy_ensures (noLoss : NoLoss w) : Ensures d.deadLetterCopy
      (fun result w' => NoLoss w' ∧ (result = .ok true → Confirmed w'.trace)) w := by
  simp only [deadLetterCopy, ensures_bind, ensures_get, afterValue_ok]
  cases w.guard.targetFor d.route.queue with
  | none => simpa using noLoss
  | some dlq =>
    simp only [ensures_bind, ensures_raiseAny]
    refine ⟨fun _ => ?_, fun failure _ => by simpa using noLoss⟩
    have copied : ∀ confirmed, NoLoss (w.recorded (.copied (.deadLetterQueue dlq) confirmed)) :=
      fun confirmed => noLoss.recorded (by simp)
    rw [afterValue_ok, ensures_bind, ensures_publishCopy]
    cases published : d.surroundings.copierPublish with
    | outcome status =>
      simp only [outcome?, afterValue_ok, ensures_pure]
      refine ⟨copied _, fun ok => ⟨.deadLetterQueue dlq, ?_⟩⟩
      have confirmed : status = .confirmed := by simpa using ok
      simp [confirmed, isConfirmed]
    | nothing | raised | cancelled => simpa [outcome?] using copied _

theorem settleGuarded_ensures (noLoss : NoLoss w) (decision : FailureDecision) :
    Ensures (d.settleGuarded decision) (fun _ w' => NoLoss w') w := by
  rw [settleGuarded]
  cases requeue : decision.requeue with
  | true =>
    have due : Accountable w.trace (decision.kind.settlement true) := by
      cases decision.kind <;> trivial
    simpa using settleAsync_noLoss noLoss _ due
  | false =>
    simp only [Bool.false_eq_true, if_false, ensures_bind, ensures_map]
    refine (deadLetterCheck_ensures noLoss).mono ?_
    rintro result w' ⟨noLoss', allowed⟩
    rcases result with interrupt | allows
    · exact noLoss'
    · cases allows with
      | true =>
        have due : Accountable w'.trace (decision.kind.settlement false) := by
          cases decision.kind <;> exact .inl (allowed rfl)
        simpa using settleAsync_noLoss noLoss' _ due
      | false =>
        cases cancelled : d.surroundings.dlqMissingSleepCancelled with
        | true => simpa [cancelled] using noLoss'
        | false =>
          simpa [cancelled, nackAsync] using settleAsync_noLoss noLoss' (.nack true) trivial

theorem settleFailureAsync_ensures (noLoss : NoLoss w) (decision : FailureDecision)
    (failure : Option Failure) :
    Ensures (d.settleFailureAsync decision failure) (fun _ w' => NoLoss w') w := by
  rw [settleFailureAsync]
  by_cases first : copiesFirst decision failure = true
  · simp only [first, if_true, ensures_bind]
    refine (deadLetterCopy_ensures noLoss).mono ?_
    rintro result w' ⟨noLoss', confirmed⟩
    rcases result with interrupt | copied
    · exact noLoss'
    · cases copied with
      | true =>
        have due : Accountable w'.trace .ack := .inr (.inl (confirmed rfl))
        simpa [ackAsync] using settleAsync_noLoss noLoss' .ack due
      | false => simpa using settleGuarded_ensures noLoss' decision
  · simpa [first] using settleGuarded_ensures noLoss decision

theorem swallowChannelGone_ensures {body : Pipeline Unit}
    (ensures : Ensures body (fun _ w' => NoLoss w') w) :
    Ensures (swallowChannelGone body) (fun _ w' => NoLoss w') w := by
  rw [swallowChannelGone, ensures_exceptException]
  refine ensures.mono fun result w' noLoss => ?_
  rcases result with (failure | _) | _
  · cases gone : failure.channelGone <;> simpa [afterException, gone] using noLoss
  · exact noLoss
  · exact noLoss

theorem handleAsyncException_ensures (noLoss : NoLoss w) (failure : Failure) :
    Ensures (d.handleAsyncException failure) (fun _ w' => NoLoss w') w := by
  refine swallowChannelGone_ensures ?_
  rw [handleAsyncExceptionInner, ensures_unlessSettled]
  refine ⟨fun _ => noLoss, fun _ => ?_⟩
  cases d.failureDecision failure with
  | none => simpa using noLoss
  | some decision => exact settleFailureAsync_ensures noLoss decision (some failure)

end Delivery

end RabbitKit
