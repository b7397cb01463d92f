import RabbitKit.ChannelSends

/-! # What `NOT_SENT` promises

A publisher is honest if a publish makes the publish call of the client library at most once, and
if a publish that has answered `NOT_SENT` has not made it and never makes it later.
-/

namespace RabbitKit

open LabelledRun

/-- `log` lists the publishes that have made the call, `verdict` is what a publish has returned. -/
structure HonestPublisher {State Action : Type} (step : State → Action → Option State)
    (initial : State) (log : State → List Nat) (verdict : State → Nat → Option PublishVerdict) :
    Prop where
  atMostOnce : ∀ actions state, Run step initial actions state →
    ∀ id, (log state).count id ≤ 1
  notSent : ∀ actions state, Run step initial actions state →
    ∀ id answer, verdict state id = some answer → answer.status = .notSent →
    ∀ later final, Run step state later final → id ∉ log final

/-- What one step has to keep. -/
theorem honestPublisher_of_invariant {State Action : Type} {step : State → Action → Option State}
    {initial : State} {log : State → List Nat} {verdict : State → Nat → Option PublishVerdict}
    (holds : State → Prop) (start : holds initial)
    (preserved : ∀ {before action after}, holds before → step before action = some after →
      holds after) (nodup : ∀ {state}, holds state → (log state).Nodup)
    (absent : ∀ {state id answer}, holds state → verdict state id = some answer →
      answer.status = .notSent → id ∉ log state)
    (stable : ∀ {before action after id answer}, holds before → step before action = some after →
      verdict before id = some answer → verdict after id = some answer) :
    HonestPublisher step initial log verdict where
  atMostOnce actions state run id := by
    have held : holds state := run.invariant (fun held _ taken => preserved held taken) start
    exact List.nodup_iff_count_le_one.mp (nodup held) id
  notSent actions state run id answer answered unsent later final continued := by
    have held : holds state := run.invariant (fun held _ taken => preserved held taken) start
    have kept : holds final ∧ verdict final id = some answer := continued.invariant
        (fun {before} _ _ (both : holds before ∧ verdict before id = some answer) _ taken =>
          ⟨preserved both.1 taken, stable both.1 taken both.2⟩) ⟨held, answered⟩
    exact absent kept.1 kept.2 unsent

end RabbitKit
