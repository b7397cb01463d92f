import RabbitKit.HandlerPipelines

/-! # One settlement per delivery in the sync pipeline

A sync settlement call that raises leaves its message pending although the frame may
have been sent, and nothing keeps the code inside of the inner `try` of `process_sync`, or the
pipeline after it, from settling again.  Once a settlement call has returned, the message hands
no further frame to the transport.
-/

namespace RabbitKit

open InteractionScripts MessageScript Script Transport
open Transport (syncWorld)

variable {transport : Transport} {w : MessageWorld} {α : Type} {settlement : Settlement}

theorem Settlement.disposition_ne_pending (settlement : Settlement) :
    settlement.disposition ≠ .pending := by
  cases settlement <;> simp [disposition]

namespace Transport

theorem settleSync_of_settled (settled : w.disposition ≠ .pending) :
    transport.settleSync settlement w = (none, w) :=
  if_neg settled

section

variable (pending : w.disposition = .pending)
include pending

theorem settleSync_returned (answer : transport.settle w.frames.length = none) :
    transport.settleSync settlement w =
      (none, { w with
        disposition := settlement.disposition
        frames := w.frames ++ [settlement] }) := by
  simp [settleSync, pending, answer]

theorem settleSync_raised {interrupt : Interrupt}
    (answer : transport.settle w.frames.length = some interrupt) :
    transport.settleSync settlement w =
      (some interrupt, { w with frames := w.frames ++ [settlement] }) := by
  simp [settleSync, pending, answer]

theorem settleSync_frames :
    (transport.settleSync settlement w).2.frames = w.frames ++ [settlement] := by
  cases answer : transport.settle w.frames.length with
  | none => rw [settleSync_returned pending answer]
  | some interrupt => rw [settleSync_raised pending answer]

end

theorem settleSync_frames_le (settlement : Settlement) (w : MessageWorld) :
    w.frames.length ≤ (transport.settleSync settlement w).2.frames.length := by
  by_cases pending : w.disposition = .pending
  · simp [settleSync_frames pending]
  · rw [settleSync_of_settled pending]

end Transport

/-- No frame has been sent, or the only one was sent by a call that returned. -/
structure SettledOnce (w : MessageWorld) : Prop where
  unsent : w.disposition = .pending → w.frames = []
  once : w.frames.length ≤ 1

theorem SettledOnce.settle (settles : transport.settle 0 = none) (once : SettledOnce w) :
    SettledOnce (transport.settleSync settlement w).2 := by
  by_cases pending : w.disposition = .pending
  · have unsent : w.frames = [] := once.unsent pending
    have answer : transport.settle w.frames.length = none := by rw [unsent]; exact settles
    rw [settleSync_returned pending answer]
    exact ⟨fun again => absurd again settlement.disposition_ne_pending, by simp [unsent]⟩
  · rw [settleSync_of_settled pending]
    exact once

namespace MessageScript

theorem run_frames_le (script : MessageScript α) (w : MessageWorld) :
    w.frames.length ≤ (script.run transport.syncWorld w).2.frames.length := by
  refine run_invariant (fun final : MessageWorld => w.frames.length ≤ final.frames.length) ?_ le_rfl
  intro call final kept
  cases call with
  | disposition | publish => exact kept
  | settle settlement => exact kept.trans (settleSync_frames_le settlement final)

theorem run_frames_andThen_le {β : Type} (script : MessageScript α)
    (next : Except Interrupt α → MessageScript β) (w : MessageWorld) :
    (script.run transport.syncWorld w).2.frames.length ≤
      ((script.andThen next).run transport.syncWorld w).2.frames.length := by
  rw [run_andThen]
  exact run_frames_le _ _

/-- Whatever the code does, the first settlement call that returns is the last frame. -/
theorem run_settledOnce (script : MessageScript α) (settles : transport.settle 0 = none)
    (once : SettledOnce w) : SettledOnce (script.run transport.syncWorld w).2 := by
  refine run_invariant SettledOnce ?_ once
  intro call final kept
  cases call with
  | disposition => exact kept
  | settle settlement => exact kept.settle settles
  | publish publication => exact ⟨kept.unsent, kept.once⟩

theorem run_settle_raised (pending : w.disposition = .pending) {interrupt : Interrupt}
    (answer : transport.settle w.frames.length = some interrupt) :
    (settle settlement).run transport.syncWorld w =
      (.error interrupt, { w with frames := w.frames ++ [settlement] }) := by
  simp only [settle, run_calls, syncWorld, settleSync_raised pending answer]
  rfl

theorem run_settle_frames (pending : w.disposition = .pending) :
    ((settle settlement).run transport.syncWorld w).2.frames = w.frames ++ [settlement] := by
  cases answer : transport.settle w.frames.length with
  | none =>
    simp only [settle, run_calls, syncWorld, settleSync_returned pending answer]
    rfl
  | some interrupt => rw [run_settle_raised pending answer]

theorem run_unlessSettled (script : MessageScript Unit) (pending : w.disposition = .pending) :
    (unlessSettled script).run transport.syncWorld w = script.run transport.syncWorld w := by
  simp [unlessSettled, syncWorld, pending]

end MessageScript

namespace PipelineDelivery

variable (d : PipelineDelivery)

theorem swallowChannelGone_frames (body : MessageScript Unit) :
    ((swallowChannelGone body).run transport.syncWorld w).2 =
      (body.run transport.syncWorld w).2 := by
  rw [swallowChannelGone, exceptException, catching, run_andThen]
  cases (body.run transport.syncWorld w).1 with
  | ok value => rfl
  | error interrupt =>
    cases interrupt with
    | cancelled => rfl
    | raised failure =>
      simp only [onError]
      split <;> rfl

section

variable (sized : d.oversized = false)
include sized

theorem processSync_of_accepted (accepted : d.route.filter = .ok true)
    (policy : d.route.ackPolicy ≠ .ackFirst) :
    d.processSync = exceptException d.consumeSync d.handleFailureSync := by
  simp only [processSync, sized, accepted, policy, if_false, Bool.false_eq_true]
  rfl

theorem processSync_of_ackFirst (accepted : d.route.filter = .ok true)
    (policy : d.route.ackPolicy = .ackFirst) :
    d.processSync = (settle .ack).andThen (onValue fun _ =>
      exceptException d.consumeSync d.handleFailureSync) := by
  simp only [processSync, sized, accepted, policy, if_true, if_false, Bool.false_eq_true]
  rfl

theorem processSync_of_filterRaised {interrupt : Interrupt}
    (raised : d.route.filter = .error interrupt) : d.processSync = .raise interrupt := by
  simp only [processSync, sized, raised, if_false, Bool.false_eq_true]
  rfl

theorem processSync_of_filtered
    (refused : d.route.filter = .ok false) : d.processSync = filtered := by
  simp only [processSync, sized, refused, if_false, Bool.false_eq_true]
  rfl

end

/-- When the early ack raises nothing else runs. -/
theorem ackFirst_frames {interrupt : Interrupt} (rest : MessageScript Unit)
    (answer : transport.settle 0 = some interrupt) :
    (((settle .ack).andThen (onValue fun _ => rest)).run transport.syncWorld {}).2.frames =
      [.ack] := by
  rw [run_andThen, run_settle_raised rfl answer]
  rfl

/-- The delivery is settled outside of the inner `try` of `process_sync`, or not at all. -/
def SettledOutside : Prop :=
  d.oversized = true ∨ d.route.filter ≠ .ok true ∨ d.route.ackPolicy = .ackFirst

theorem frames_le_one_of_settledOutside (outside : d.SettledOutside) {interrupt : Interrupt}
    (answer : transport.settle 0 = some interrupt) :
    (d.processedSync transport).frames.length ≤ 1 := by
  unfold processedSync
  cases sized : d.oversized with
  | true =>
    rw [processSync, if_pos sized, deadLetterOversizedSync, swallowChannelGone_frames,
      run_unlessSettled _ rfl, run_settle_frames rfl]
    exact le_rfl
  | false =>
    cases filter : d.route.filter with
    | error interrupt =>
      rw [d.processSync_of_filterRaised sized filter]
      exact Nat.zero_le 1
    | ok accepted =>
      cases accepted with
      | false =>
        rw [d.processSync_of_filtered sized filter, filtered, run_unlessSettled _ rfl,
          run_settle_frames rfl]
        exact le_rfl
      | true =>
        have policy : d.route.ackPolicy = .ackFirst := by
          simpa [SettledOutside, sized, filter] using outside
        rw [d.processSync_of_ackFirst sized filter policy, ackFirst_frames _ answer]
        exact le_rfl

/-- The same delivery with other code of the application around it. -/
def withCode (middlewares : List ConsumeMiddleware)
    (handler : List Argument → MessageScript ConsumeResult) : PipelineDelivery :=
  { d with route := { d.route with middlewares := middlewares, handler := handler } }

/-- A middleware that acks, swallows whatever that raises, and rejects. -/
def settlesTwice : ConsumeMiddleware where
  onReceive := do
    (settle .ack).catching fun _ => pure ()
    settle (.reject false)

theorem settlesTwice_frames {interrupt : Interrupt}
    (answer : transport.settle 0 = some interrupt) :
    (settlesTwice.onReceive.run transport.syncWorld {}).2.frames = [.ack, .reject false] := by
  change ((((settle .ack).andThen _).andThen (onValue fun _ => settle (.reject false))).run
    transport.syncWorld {}).2.frames = _
  rw [run_andThen, run_andThen, run_settle_raised rfl answer]
  exact run_settle_frames rfl

/-- The hooks of the middlewares run first inside of the inner `try`. -/
theorem settlesTwice_frames_le (accepted : ¬ d.SettledOutside)
    (handler : List Argument → MessageScript ConsumeResult) :
    (settlesTwice.onReceive.run transport.syncWorld {}).2.frames.length ≤
      ((d.withCode [settlesTwice] handler).processedSync transport).frames.length := by
  simp only [SettledOutside, not_or, not_not, Bool.not_eq_true] at accepted
  obtain ⟨sized, filter, policy⟩ := accepted
  rw [processedSync,
    processSync_of_accepted (d.withCode [settlesTwice] handler) sized filter policy]
  refine le_trans ?_ (run_frames_andThen_le _ _ _)
  refine le_trans ?_ (run_frames_andThen_le _ _ _)
  refine le_trans ?_ (run_frames_andThen_le _ _ _)
  refine le_trans ?_ (run_frames_andThen_le _ _ _)
  exact run_frames_andThen_le _ _ _

/-- A handler that fails with a timeout on a route with retries. -/
def retriedDelivery : PipelineDelivery where
  route :=
    { middlewares := [RetryScope.middleware { message := { sourceQueue := "orders" } }]
      handler := fun _ => raiseFailure { classes := [.timeoutError, .osError, .exception] } }

/-- The first settlement function raises `TimeoutError` because the I/O loop did not
report back in time; publishes are confirmed. -/
def stalledTransport : Transport where
  settle index :=
    if index = 0 then some (.raised { classes := [.timeoutError, .osError, .exception] })
    else none
  publish _ := .outcome .confirmed

end PipelineDelivery
end RabbitKit
