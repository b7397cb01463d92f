import RabbitKit.DeduplicationMiddleware

/-! # Replays of stored results

A duplicate of a message whose result is stored with its key is answered with that result, which
the pipeline publishes again before it acknowledges the delivery.  The cache of a process holds
keys only: a duplicate that is found there is acknowledged, and nothing is published.
-/

namespace RabbitKit

open LabelledRun

variable {ρ : Type}

/-- The same middleware with a cache of size zero. -/
def DeduplicationConfig.withoutCache (config : DeduplicationConfig ρ) : DeduplicationConfig ρ :=
  { config with hasLocalCache := false }

/-- A delivery looks its key up, in the cache of its process and then in Redis, as long as
neither has answered. -/
def DedupView.lookUp (config : DeduplicationConfig ρ) (self : Nat) (view : DedupView ρ) :
    DedupView ρ :=
  [DedupStep.begin, .query, .read].foldl
    (fun view step => (DedupView.advance config self view step).getD view) view

/-- A delivery that was answered with a stored result. -/
def replaying (process writer : Nat) (value : ρ) : DedupDelivery ρ where
  process := process
  phase := .returned false
  replayOf := some (writer, value)

section

variable (config : DeduplicationConfig ρ) {self process writer : Nat} {value : ρ}

theorem lookUp_of_stored (claims : config.markPolicy = .claim)
    (stores : config.storeResults = true) :
    DedupView.lookUp config self ⟨{ process }, some (.result writer value), none⟩ =
      ⟨replaying process writer value, some (.result writer value), none⟩ := by
  simp [DedupView.lookUp, DedupView.advance, DedupView.begin, DedupView.query, DedupView.read,
    claims, stores, replaying]

/-- A cached key answers before Redis is asked. -/
theorem lookUp_of_cached (key : Option (RedisValue ρ)) (first : Nat) :
    DedupView.lookUp config self ⟨{ process }, key, some first⟩ =
      ⟨DedupDelivery.skip { process } first, key, some first⟩ := by
  simp [DedupView.lookUp, DedupView.advance, DedupView.begin, DedupDelivery.skip]

end

/-- A delivery whose key has a stored result is treated as it is without any cache exactly when
its process does not have the key in its cache: without one it is answered with the result, the
key stays, and the delivery is acknowledged or requeued as the publication of the result ends. -/
theorem replay_agrees (config : DeduplicationConfig ρ) (claims : config.markPolicy = .claim)
    (stores : config.storeResults = true) (world : DedupWorld ρ) (self process writer : Nat)
    (value : ρ) (stored : world.key = some (.result writer value)) :
    (((world.view { process }).lookUp config self).delivery =
        (({ world with caches := .empty }.view { process }).lookUp config.withoutCache
          self).delivery ↔ world.caches.get? process = none) ∧
      ({ world with caches := .empty }.view { process }).lookUp config.withoutCache self =
        ⟨replaying process writer value, world.key, none⟩ ∧
      ∀ pipelineEnd, DedupView.advance config self
          ⟨replaying process writer value, world.key, none⟩ (.finish pipelineEnd) =
        some ⟨(replaying process writer value).settleAfter config false pipelineEnd, world.key,
          none⟩ := by
  have unseen : { world with caches := .empty }.view { process } =
      ⟨{ process }, some (.result writer value), none⟩ := by
    rw [DedupWorld.view, stored]
    rfl
  rw [unseen, stored, lookUp_of_stored config.withoutCache claims stores]
  refine ⟨?_, rfl, fun _ => rfl⟩
  cases cached : world.caches.get? process with
  | none =>
    have seen : world.view { process } = ⟨{ process }, some (.result writer value), none⟩ := by
      rw [DedupWorld.view, cached, stored]
    rw [seen, lookUp_of_stored config claims stores]
    exact iff_of_true rfl rfl
  | some first =>
    have seen : world.view { process } = ⟨{ process }, world.key, some first⟩ := by
      rw [DedupWorld.view, cached]
    rw [seen, lookUp_of_cached]
    refine iff_of_false (fun same => ?_) (Option.some_ne_none first)
    cases congrArg DedupDelivery.settled same

def storingConfig : DeduplicationConfig Nat where
  markPolicy := .claim
  hasLocalCache := true
  storeResults := true
  claim_of_storeResults _ := rfl

theorem replay_agrees_evicted :
    ((DedupWorld.view { key := some (.result 0 7) } { process := 0 }).lookUp storingConfig
        1).delivery = replaying 0 0 7 := by
  have agrees := replay_agrees storingConfig rfl rfl { key := some (.result 0 7) } 1 0 0 7 rfl
  exact (agrees.1.mpr rfl).trans (congrArg DedupView.delivery agrees.2.1)

/-- A message is processed, the publication of its result fails, and it is delivered again. -/
def failedReply : List (DedupAction Nat) :=
  [.deliver 0, .act 0 .begin, .act 0 .query, .act 0 (.endChain none (.returned (some 7))),
    .act 0 .mark, .act 0 .cache, .act 0 (.finish .publishFailed), .deliver 0, .act 1 .begin]

/-- The cache has the key, so that the result is never published. -/
theorem cached_duplicate_skipped :
    (execute (DedupWorld.step storingConfig) {} failedReply).map (·.deliveries[1]?) =
        some (some (DedupDelivery.skip { process := 0 } 0)) ∧
      (execute (DedupWorld.step storingConfig.withoutCache) {}
          (failedReply ++ [.act 1 .query, .act 1 .read])).map (·.deliveries[1]?) =
        some (some (replaying 0 0 7)) := by
  decide

end RabbitKit
