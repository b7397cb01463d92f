import RabbitKit.AsyncSettlement
import RabbitKit.LabelledRun

/-! # Settling one message from several tasks

`ack_async`, `nack_async` and `reject_async` claim the message before they wait for the transport,
so that of any number of calls on the event loop one sends its frame.  The blocking calls hand
theirs over first and set the disposition when that has not raised.
-/

namespace RabbitKit

open LabelledRun

def Settlement.verb : Settlement → String
  | .ack => "ack"
  | .nack _ => "nack"
  | .reject _ => "reject"

/-- Which of `_ack_fn`, `_nack_fn`, `_reject_fn` and of their async counterparts the transport has
set. -/
structure SettlementFunctions where
  blocking : Disposition → Bool
  awaiting : Disposition → Bool

inductive TransportEnd
  | returned
  | raised
  | cancelled
  deriving DecidableEq

/-- A settlement handed to the transport, with how that ended unless it is waited for. -/
structure HandedSettlement where
  settlement : Settlement
  ending : Option TransportEnd
  deriving DecidableEq

/-- `undone` are the settlements whose blocking call raised. -/
structure MessageSettlement where
  disposition : Disposition := .pending
  settleUnknown : Bool := false
  handed : List HandedSettlement := []
  undone : List Settlement := []
  deriving DecidableEq

/-- How a call ends, or that it waits. -/
inductive SettleAnswer
  | returned
  | settlementError (text : String)
  | raised
  | waits
  deriving DecidableEq

inductive MessageAction
  | settle (settlement : Settlement) (raises : Bool)
  | settleAsync (settlement : Settlement) (raises : Bool)
  | resume (index : Nat) (ending : TransportEnd)
  deriving DecidableEq

namespace MessageSettlement

variable (functions : SettlementFunctions) (state : MessageSettlement)

def hand (settlement : Settlement) (ending : Option TransportEnd) : MessageSettlement :=
  { state with
    disposition := settlement.disposition
    handed := state.handed ++ [⟨settlement, ending⟩] }

/-- `ack`, `nack` and `reject`. -/
def settle (settlement : Settlement) (raises : Bool) : SettleAnswer × MessageSettlement :=
  if state.disposition ≠ .pending then (.returned, state)
  else if functions.blocking settlement.disposition = false then
    (.settlementError (s!"Cannot sync-{settlement.verb} an async transport message. " ++
      s!"Use await msg.{settlement.verb}_async()."), state)
  else if raises then (.raised, { state with undone := state.undone ++ [settlement] })
  else (.returned, state.hand settlement (some .returned))

/-- `_settle_async` until it waits; without an async function the blocking one is called. -/
def settleAsync (settlement : Settlement) (raises : Bool) : SettleAnswer × MessageSettlement :=
  if state.disposition ≠ .pending then (.returned, state)
  else if functions.awaiting settlement.disposition then (.waits, state.hand settlement none)
  else if functions.blocking settlement.disposition = false then
    (.settlementError (s!"Cannot async-{settlement.verb}: no settlement fn set. " ++
      s!"Use msg.{settlement.verb}() on a sync transport."), state)
  else if raises then
    (.raised, { state.hand settlement (some .raised) with settleUnknown := true })
  else (.returned, state.hand settlement (some .returned))

/-- `_settle_async` after the await. -/
def resume (index : Nat) (ending : TransportEnd) (call : HandedSettlement) :
    Option MessageSettlement :=
  if call.ending = none then
    some { state with
      handed := state.handed.set index { call with ending := some ending }
      settleUnknown := state.settleUnknown || ending ≠ .returned }
  else none

def step : MessageAction → Option MessageSettlement
  | .settle settlement raises => some (state.settle functions settlement raises).2
  | .settleAsync settlement raises => some (state.settleAsync functions settlement raises).2
  | .resume index ending => state.handed[index]?.bind (state.resume index ending)

end MessageSettlement

def HandedSettlement.failed (call : HandedSettlement) : Bool :=
  call.ending = some .raised ∨ call.ending = some .cancelled

namespace MessageSettlement

variable {functions : SettlementFunctions} {state state' : MessageSettlement}
variable {settlement : Settlement} {raises : Bool}

/-- Nothing has been handed over but what blocking calls tried that raised, or one settlement has:
it is the disposition, and the outcome is unknown if and only if it failed. -/
inductive Standing : MessageSettlement → Prop
  | pending (undone : List Settlement) : Standing ⟨.pending, false, [], undone⟩
  | settled (call : HandedSettlement) (undone : List Settlement) :
      Standing ⟨call.settlement.disposition, call.failed, [call], undone⟩

theorem disposition_ne_pending (settlement : Settlement) : settlement.disposition ≠ .pending := by
  cases settlement <;> simp [Settlement.disposition]

theorem settle_of_settled (settled : state.disposition ≠ .pending) :
    (state.settle functions settlement raises).2 = state := by
  rw [settle, if_pos settled]

theorem settleAsync_of_settled (settled : state.disposition ≠ .pending) :
    (state.settleAsync functions settlement raises).2 = state := by
  rw [settleAsync, if_pos settled]

theorem standing_settle (undone : List Settlement) :
    Standing (settle functions ⟨.pending, false, [], undone⟩ settlement raises).2 := by
  unfold settle
  rw [if_neg (by simp)]
  split
  · exact .pending undone
  · split
    · exact .pending _
    · exact .settled ⟨settlement, some .returned⟩ undone

theorem standing_settleAsync (undone : List Settlement) :
    Standing (settleAsync functions ⟨.pending, false, [], undone⟩ settlement raises).2 := by
  unfold settleAsync
  rw [if_neg (by simp)]
  split
  · exact .settled ⟨settlement, none⟩ undone
  · split
    · exact .pending undone
    · split
      · exact .settled ⟨settlement, some .raised⟩ undone
      · exact .settled ⟨settlement, some .returned⟩ undone

theorem standing_step {action : MessageAction} (standing : Standing state)
    (taken : step functions state action = some state') :
    Standing state' ∧ (state.disposition ≠ .pending → state'.disposition = state.disposition) := by
  cases standing with
  | pending undone =>
    refine ⟨?_, fun settled => absurd rfl settled⟩
    cases action with
    | settle settlement raises =>
      cases taken
      exact standing_settle undone
    | settleAsync settlement raises =>
      cases taken
      exact standing_settleAsync undone
    | resume index ending => simp [step] at taken
  | settled call undone =>
    have settled := disposition_ne_pending call.settlement
    cases action with
    | settle settlement raises =>
      rw [step, settle_of_settled settled] at taken
      cases taken
      exact ⟨.settled call undone, fun _ => rfl⟩
    | settleAsync settlement raises =>
      rw [step, settleAsync_of_settled settled] at taken
      cases taken
      exact ⟨.settled call undone, fun _ => rfl⟩
    | resume index ending =>
      obtain ⟨waiting, found, resumed⟩ := Option.bind_eq_some_iff.mp taken
      rw [List.getElem?_singleton] at found
      split at found <;> cases found
      rename_i first
      subst first
      unfold resume at resumed
      split at resumed <;> cases resumed
      rename_i waits
      refine ⟨?_, fun _ => rfl⟩
      have failed : (call.failed || decide (ending ≠ .returned)) =
          ({ call with ending := some ending } : HandedSettlement).failed := by
        cases ending <;> simp [HandedSettlement.failed, waits]
      rw [failed]
      exact .settled { call with ending := some ending } undone

/-- However the calls on a message interleave, one settlement is handed over apart from those of
blocking calls that raised, and a disposition that is set stays. -/
theorem settled_once {actions : List MessageAction} (run : Run (step functions) {} actions state) :
    Standing state ∧ ∀ more later, Run (step functions) state more later →
      state.disposition ≠ .pending → later.disposition = state.disposition := by
  have stands : Standing state :=
    run.invariant (fun held _ taken => (standing_step held taken).1) (.pending [])
  refine ⟨stands, fun more later continued settled => ?_⟩
  have kept := continued.invariant (fun {before} _ _
      (held : Standing before ∧ before.disposition = state.disposition) _ taken =>
      (standing_step held.1 taken).imp_right fun same => (same (held.2 ▸ settled)).trans held.2)
    ⟨stands, rfl⟩
  exact kept.2

/-- A cancelled `ack_async`, with a `nack_async` and a `reject` while it waits. -/
theorem settled_once_cancelled : ∃ state, Run (step ⟨fun _ => true, fun _ => true⟩) {}
        [.settleAsync .ack false, .settleAsync (.nack true) false, .settle (.reject false) false,
          .resume 0 .cancelled] state ∧
      state = ⟨.acked, true, [⟨.ack, some .cancelled⟩], []⟩ ∧ Standing state := by
  refine exists_runWithin_of_check
    (fun state => state = ⟨.acked, true, [⟨.ack, some .cancelled⟩], []⟩) (by decide)
    fun state run checked => ⟨of_decide_eq_true checked, (settled_once run).1⟩

/-- A blocking `ack` raises, and a `nack_async` after it hands over a second settlement. -/
theorem settled_after_raising : ∃ state, Run (step ⟨fun _ => true, fun _ => true⟩) {}
        [.settle .ack true, .settleAsync (.nack true) false, .resume 0 .returned] state ∧
      state = ⟨.nacked, false, [⟨.nack true, some .returned⟩], [.ack]⟩ :=
  exists_runWithin_of_decide (by decide)

end MessageSettlement
end RabbitKit
