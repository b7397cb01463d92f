import RabbitKit.LabelledRun
import RabbitKit.MessageSigning
import Mathlib.Tactic.Linarith
import Mathlib.Tactic.NormNum

/-! # Replays of signed messages

A verifier receives deliveries at non-decreasing times, its wall and monotonic
clocks a constant apart.  A copy of a signed message passes the skew check in a
closed window around the signing time, and its nonce is remembered for a
half-open interval as long as that window, counted from the first receipt.  The
two meet in one point: a nonce first seen at the very start of the window is
forgotten at its very end.
-/

namespace RabbitKit

open LabelledRun SigningPrimitives NonceCache List Option

namespace NonceCache

variable {cache : NonceCache} {now ttl expiry : ℚ} {nonce other : String}

theorem reclaim_live (held : cache.entries.get? other = some expiry) (live : now < expiry) :
    (cache.reclaim now).entries.get? other = some expiry := by
  have kept : other ∉ (cache.entries.entries.filter fun entry => entry.2 ≤ now).map Prod.fst := by
    intro member
    obtain ⟨entry, inExpired, rfl⟩ := mem_map.mp member
    obtain ⟨inEntries, expired⟩ := mem_filter.mp inExpired
    have found := OrderedDict.get?_of_mem_entries inEntries
    rw [held] at found
    cases found
    exact absurd live (not_lt.mpr (by simpa using expired))
  simp only [reclaim, OrderedDict.get?_eraseAll, kept, if_false, held]

theorem seen_of_live (held : cache.entries.get? nonce = some expiry) (live : now < expiry) :
    cache.seen now nonce ttl = (cache, false) := by
  simp [seen, held, live]

theorem seen_of_expired
    (expired : ∀ expiry, cache.entries.get? nonce = some expiry → expiry ≤ now) :
    cache.seen now nonce ttl =
      if cache.entries.size < cache.maxEntries then cache.record nonce (now + ttl)
      else if (cache.reclaim now).entries.size < cache.maxEntries then
        (cache.reclaim now).record nonce (now + ttl) else (cache.reclaim now, false) := by
  have notLive : (cache.entries.get? nonce).any (now < ·) = false := by
    cases held : cache.entries.get? nonce with
    | none => rfl
    | some expiry => simpa using expired expiry held
  simp only [seen, notLive, Bool.false_eq_true, if_false]
  rfl

/-- The cache is kept or reclaimed.  A nonce is refused if it is live or the reclaimed cache is
full, and recorded otherwise. -/
theorem seen_spec (cache : NonceCache) (now : ℚ) (nonce : String) (ttl : ℚ) :
    ∃ base, (base = cache ∨ base = cache.reclaim now) ∧ (cache.seen now nonce ttl = (base, false) ∧
          ((∃ expiry, cache.entries.get? nonce = some expiry ∧ now < expiry) ∨
            cache.maxEntries ≤ (cache.reclaim now).entries.size) ∨
        cache.seen now nonce ttl = base.record nonce (now + ttl) ∧
          base.entries.size < cache.maxEntries ∧
          ∀ expiry, cache.entries.get? nonce = some expiry → expiry ≤ now) := by
  by_cases live : ∃ expiry, cache.entries.get? nonce = some expiry ∧ now < expiry
  · obtain ⟨expiry, held, later⟩ := live
    exact ⟨cache, .inl rfl, .inl ⟨seen_of_live held later, .inl ⟨expiry, held, later⟩⟩⟩
  have expired : ∀ expiry, cache.entries.get? nonce = some expiry → expiry ≤ now := by
    simpa using live
  rw [seen_of_expired expired]
  split
  next room =>
    exact ⟨cache, .inl rfl, .inr ⟨rfl, room, expired⟩⟩
  · refine ⟨cache.reclaim now, .inr rfl, ?_⟩
    split
    next room =>
      exact .inr ⟨rfl, room, expired⟩
    next full =>
      exact .inl ⟨rfl, .inr (not_lt.mp full)⟩

theorem seen_keeps_live (held : cache.entries.get? other = some expiry) (live : now < expiry) :
    (cache.seen now nonce ttl).1.entries.get? other = some expiry := by
  obtain ⟨base, origin, answer⟩ := cache.seen_spec now nonce ttl
  have kept : base.entries.get? other = some expiry := by
    rcases origin with rfl | rfl
    · exact held
    · exact reclaim_live held live
  rcases answer with ⟨refused, _⟩ | ⟨recorded, _, expired⟩
  · rw [refused, kept]
  · have different : other ≠ nonce := by
      rintro rfl
      exact absurd live (not_lt.mpr (expired expiry held))
    rw [recorded]
    simpa [record, different] using kept

theorem seen_records (first : (cache.seen now nonce ttl).2 = true) :
    (cache.seen now nonce ttl).1.entries.get? nonce = some (now + ttl) := by
  obtain ⟨base, _, ⟨refused, _⟩ | ⟨recorded, _⟩⟩ := cache.seen_spec now nonce ttl
  · simp [refused] at first
  · simp [recorded, record]

end NonceCache

namespace SigningPrimitives

variable {τ : Type} (p : SigningPrimitives τ) (config : SigningConfig)

def signedAs (message : SignableMessage) : Option (τ × String) := do
  let header ← message.headers.get? config.headerName
  let signature ← header.signatureBytes
  let rawTimestamp ← message.headers.get? timestampHeader
  let nonce ← message.headers.get? nonceHeader
  match p.float rawTimestamp with
  | .finite timestamp =>
    if p.verifyFreshSignature config (message.fields timestamp (p.str nonce)) signature then
      some (timestamp, p.str nonce)
    else none
  | _ => none

def nonceVerdict (message : SignableMessage) (first : Bool) :
    Except InvalidSignature Admission :=
  if first then .ok .verified
  else if message.redelivered then .ok .redelivery
  else .error .replay

variable {p config} {now monotonic : ℚ} {cache : NonceCache} {message : SignableMessage}

/-- An authentic message is refused outside the skew window; inside it the cache
decides. -/
theorem onReceive_of_signedAs {timestamp : τ} {nonce : String}
    (signed : p.signedAs config message = some (timestamp, nonce)) :
    p.onReceive config now monotonic cache message =
      if config.maxSkew < |now - p.value timestamp| then
        (cache, .error (.skewed |now - p.value timestamp| config.maxSkew)) else
        ((cache.seen monotonic nonce (config.maxSkew * 2)).1,
          nonceVerdict message (cache.seen monotonic nonce (config.maxSkew * 2)).2) := by
  simp only [signedAs, bind_eq_bind, bind_eq_some_iff] at signed
  obtain ⟨header, hasHeader, signature, isText, rawTimestamp, hasTimestamp, rawNonce, hasNonce,
    verified⟩ := signed
  split at verified
  next parsed float =>
    split at verified
    next verifies =>
      cases verified
      simp only [onReceive, receiveFresh, hasHeader, isText, hasTimestamp, hasNonce, float,
        verifies, if_true, nonceVerdict]
    · cases verified
  · cases verified

/-- Not accepted as verified, and under an enforcing configuration refused. -/
def Declined (config : SigningConfig) (answer : Except InvalidSignature Admission) : Prop :=
  answer ≠ .ok .verified ∧
    (config.rejectUnsigned = true → config.rejectInvalid = true →
      config.requireFreshness = true → ∃ refusal, answer = .error refusal)

theorem declined_error (refusal : InvalidSignature) : Declined config (.error refusal) :=
  ⟨by simp, fun _ _ _ => ⟨refusal, rfl⟩⟩

theorem declined_unless {enforced : Bool} {refusal : InvalidSignature} {admission : Admission}
    (unverified : admission ≠ .verified)
    (enforcing : config.rejectUnsigned = true → config.rejectInvalid = true → enforced = true) :
    Declined config (if enforced then .error refusal else .ok admission) := by
  cases enforced with
  | true => exact declined_error refusal
  | false =>
    refine ⟨by simpa using unverified, fun unsigned invalid _ => ?_⟩
    cases enforcing unsigned invalid

theorem declined_receiveLegacy (signature : List UInt8) :
    Declined config (p.receiveLegacy config message signature) := by
  unfold receiveLegacy
  cases fresh : config.requireFreshness with
  | true => exact declined_unless (by decide) fun _ invalid => invalid
  | false =>
    refine ⟨?_, fun _ _ required => absurd required (by simp [fresh])⟩
    split
    · contradiction
    · split <;> simp

/-- Without an authentic signature the message is declined and the cache is left
alone. -/
theorem onReceive_of_unsigned (unsigned : p.signedAs config message = none) :
    (p.onReceive config now monotonic cache message).1 = cache ∧
      Declined config (p.onReceive config now monotonic cache message).2 := by
  cases hasHeader : message.headers.get? config.headerName with
  | none =>
    simp only [onReceive, hasHeader]
    exact ⟨trivial, declined_unless (by decide) fun unsigned _ => unsigned⟩
  | some header =>
    cases isText : header.signatureBytes with
    | none =>
      simp only [onReceive, hasHeader, isText]
      exact ⟨trivial, declined_error .notText⟩
    | some signature =>
      cases hasTimestamp : message.headers.get? timestampHeader with
      | none =>
        simp only [onReceive, hasHeader, isText, hasTimestamp]
        exact ⟨trivial, declined_receiveLegacy signature⟩
      | some rawTimestamp =>
        cases hasNonce : message.headers.get? nonceHeader with
        | none =>
          simp only [onReceive, hasHeader, isText, hasTimestamp, hasNonce]
          exact ⟨trivial, declined_receiveLegacy signature⟩
        | some nonce =>
          simp only [onReceive, receiveFresh, hasHeader, isText, hasTimestamp, hasNonce]
          cases float : p.float rawTimestamp with
          | invalid => exact ⟨rfl, declined_error .badTimestamp⟩
          | nonFinite => exact ⟨rfl, declined_error .nonFinite⟩
          | finite timestamp =>
            have fails : p.verifyFreshSignature config
                (message.fields timestamp (p.str nonce)) signature = false := by
              simpa [signedAs, hasHeader, isText, hasTimestamp, hasNonce, float] using unsigned
            simp only [fails, Bool.false_eq_true, if_false]
            split
            · exact ⟨rfl, declined_error _⟩
            · exact ⟨rfl, declined_unless (by decide) fun _ invalid => invalid⟩

theorem signedAs_signEnvelope (timestamp : τ) (nonce : String) (message : SignableMessage) :
    p.signedAs config (p.signEnvelope config timestamp nonce message) =
      some (timestamp, nonce) := by
  obtain ⟨notTimestamp, notNonce⟩ := config.headerName_ne
  have distinct : timestampHeader ≠ nonceHeader := by decide
  have verifies : p.verifyFreshSignature config (message.fields timestamp nonce)
      (encode (p.computeFreshSignature config (message.fields timestamp nonce))) = true := by
    simp [verifyFreshSignature, verifyPayload, constTimeEq, computeFreshSignature,
      SigningConfig.acceptedKeys]
  have hasSignature : (p.signEnvelope config timestamp nonce message).headers.get?
      config.headerName =
        some (.text (p.computeFreshSignature config (message.fields timestamp nonce))) := by
    simp [signEnvelope, notTimestamp, notNonce]
  have hasTimestamp : (p.signEnvelope config timestamp nonce message).headers.get?
      timestampHeader = some (.text (p.text timestamp)) := by
    simp [signEnvelope, distinct]
  have hasNonce : (p.signEnvelope config timestamp nonce message).headers.get?
      nonceHeader = some (.text nonce) := by
    simp [signEnvelope]
  have sameFields : (p.signEnvelope config timestamp nonce message).fields timestamp nonce =
      message.fields timestamp nonce := rfl
  simp only [signedAs, hasSignature, hasTimestamp, hasNonce, HeaderValue.signatureBytes,
    bind_eq_bind, bind_some, p.float_text, p.str_text, sameFields, verifies,
    if_true]

end SigningPrimitives

structure TimedDelivery where
  message : SignableMessage
  time : ℚ

/-- A verifier with its cache.  `accepted` is bookkeeping: the nonces accepted so
far, with their times, for deliveries not flagged as redelivered. -/
structure VerifierWorld where
  cache : NonceCache := {}
  now : ℚ
  accepted : List (String × ℚ) := []

namespace VerifierWorld

variable {τ : Type} (p : SigningPrimitives τ) (config : SigningConfig)

def acceptances (d : TimedDelivery) (answer : Except InvalidSignature Admission) :
    List (String × ℚ) :=
  match answer, p.signedAs config d.message with
  | .ok .verified, some (_, nonce) => if d.message.redelivered then [] else [(nonce, d.time)]
  | _, _ => []

def step (epoch : ℚ) (w : VerifierWorld) (d : TimedDelivery) : Option VerifierWorld :=
  if d.time < w.now then none
  else
    let received := p.onReceive config d.time (d.time - epoch) w.cache d.message
    some {
      cache := received.1
      now := d.time
      accepted := acceptances p config d received.2 ++ w.accepted }

/-- All authentic copies of a nonce carry its one signing time, and no copy comes
at the last instant of the skew window after one accepted at the first. -/
def WindowOpen (signedAt : String → ℚ) (w : VerifierWorld) (d : TimedDelivery) : Prop :=
  ∀ timestamp nonce, p.signedAs config d.message = some (timestamp, nonce) →
    p.value timestamp = signedAt nonce ∧
      ¬ (d.message.redelivered = false ∧ d.time = signedAt nonce + config.maxSkew ∧
        (nonce, signedAt nonce - config.maxSkew) ∈ w.accepted)

/-- An accepted nonce is in the cache until the whole window has passed. -/
structure ReplayGuard (epoch : ℚ) (signedAt : String → ℚ) (w : VerifierWorld) : Prop where
  guarded : ∀ entry ∈ w.accepted, entry.2 + config.maxSkew * 2 ≤ w.now ∨
    ∃ expiry, w.cache.entries.get? entry.1 = some expiry ∧
      entry.2 - epoch + config.maxSkew * 2 ≤ expiry
  window : ∀ entry ∈ w.accepted, signedAt entry.1 - config.maxSkew ≤ entry.2
  once : (w.accepted.map Prod.fst).Nodup

variable {p config} {epoch : ℚ} {signedAt : String → ℚ} {w w' : VerifierWorld}
  {d : TimedDelivery}

variable {nonce : String} {timestamp : τ} {cache : NonceCache}

theorem ReplayGuard.refuses_copy (guard : ReplayGuard config epoch signedAt w)
    (later : w.now ≤ d.time) (admitted : w.WindowOpen p config signedAt d)
    (signed : p.signedAs config d.message = some (timestamp, nonce))
    (copy : nonce ∈ w.accepted.map Prod.fst) (fresh : d.message.redelivered = false) :
    ∃ refusal, (p.onReceive config d.time (d.time - epoch) w.cache d.message).2 =
      .error refusal := by
  obtain ⟨sameTime, notLast⟩ := admitted timestamp nonce signed
  obtain ⟨first, member⟩ : ∃ first, (nonce, first) ∈ w.accepted := by simpa using copy
  have started : signedAt nonce - config.maxSkew ≤ first := guard.window _ member
  rw [onReceive_of_signedAs signed, sameTime]
  split
  · exact ⟨_, rfl⟩
  next inside =>
    have ends : d.time ≤ signedAt nonce + config.maxSkew := by
      have bound := le_trans (le_abs_self _) (not_lt.mp inside)
      linarith
    have remembered : d.time < first + config.maxSkew * 2 := by
      by_contra forgotten
      have startsNow : first = signedAt nonce - config.maxSkew := by linarith
      exact notLast ⟨fresh, by linarith, startsNow ▸ member⟩
    rcases guard.guarded _ member with passed | ⟨expiry, held, covers⟩
    · linarith
    · have live : d.time - epoch < expiry := by linarith
      rw [seen_of_live held live]
      exact ⟨.replay, by simp [nonceVerdict, fresh]⟩

theorem step_eq (taken : step p config epoch w d = some w') :
    w.now ≤ d.time ∧
      w' = {
        cache := (p.onReceive config d.time (d.time - epoch) w.cache d.message).1
        now := d.time
        accepted := acceptances p config d
          (p.onReceive config d.time (d.time - epoch) w.cache d.message).2 ++ w.accepted } := by
  unfold step at taken
  split at taken
  · cases taken
  next later =>
    exact ⟨not_lt.mp later, by simpa using taken.symm⟩

theorem acceptances_cases (d : TimedDelivery) (answer : Except InvalidSignature Admission) :
    acceptances p config d answer = [] ∨ ∃ timestamp nonce, answer = .ok .verified ∧
        p.signedAs config d.message = some (timestamp, nonce) ∧
        d.message.redelivered = false ∧ acceptances p config d answer = [(nonce, d.time)] := by
  unfold acceptances
  split
  next timestamp nonce signed =>
    cases flagged : d.message.redelivered with
    | true => exact .inl rfl
    | false => exact .inr ⟨timestamp, nonce, rfl, signed, rfl, rfl⟩
  · exact .inl rfl

theorem verified_of_signedAs {now monotonic : ℚ}
    (signed : p.signedAs config d.message = some (timestamp, nonce))
    (verified : (p.onReceive config now monotonic cache d.message).2 = .ok .verified) :
    |now - p.value timestamp| ≤ config.maxSkew ∧
      (cache.seen monotonic nonce (config.maxSkew * 2)).2 = true ∧
      (p.onReceive config now monotonic cache d.message).1 =
        (cache.seen monotonic nonce (config.maxSkew * 2)).1 := by
  rw [onReceive_of_signedAs signed] at verified ⊢
  split at verified
  · cases verified
  next inside =>
    refine ⟨not_lt.mp inside, ?_, by rw [if_neg inside]⟩
    unfold nonceVerdict at verified
    split at verified
    · assumption
    · split at verified <;> cases verified

theorem onReceive_keeps_live {now monotonic expiry : ℚ}
    (held : cache.entries.get? nonce = some expiry) (live : monotonic < expiry) :
    (p.onReceive config now monotonic cache d.message).1.entries.get? nonce = some expiry := by
  cases signed : p.signedAs config d.message with
  | none => rw [(onReceive_of_unsigned signed).1, held]
  | some pair =>
    rw [onReceive_of_signedAs signed]
    split
    · exact held
    · exact seen_keeps_live held live

theorem ReplayGuard.step (guard : ReplayGuard config epoch signedAt w)
    (admitted : w.WindowOpen p config signedAt d) (taken : step p config epoch w d = some w') :
    ReplayGuard config epoch signedAt w' := by
  obtain ⟨later, rfl⟩ := step_eq taken
  have earlier : ∀ entry ∈ w.accepted, entry.2 + config.maxSkew * 2 ≤ d.time ∨
      ∃ expiry, (p.onReceive config d.time (d.time - epoch) w.cache d.message).1.entries.get?
        entry.1 = some expiry ∧ entry.2 - epoch + config.maxSkew * 2 ≤ expiry := by
    intro entry member
    rcases guard.guarded entry member with passed | ⟨expiry, held, covers⟩
    · exact .inl (le_trans passed later)
    · by_cases live : d.time - epoch < expiry
      · exact .inr ⟨expiry, onReceive_keeps_live held live, covers⟩
      · exact .inl (by linarith)
  rcases acceptances_cases d (p.onReceive config d.time (d.time - epoch) w.cache d.message).2 with
    nothing | ⟨timestamp, nonce, verified, signed, fresh, accepted⟩
  · rw [nothing]
    exact ⟨earlier, guard.window, guard.once⟩
  · obtain ⟨inside, first, cache⟩ := verified_of_signedAs signed verified
    rw [accepted]
    refine ⟨?_, ?_, ?_⟩
    · intro entry member
      rcases mem_cons.mp member with rfl | old
      · refine .inr ⟨_, ?_, le_refl _⟩
        rw [cache]
        exact seen_records first
      · exact earlier entry old
    · intro entry member
      rcases mem_cons.mp member with rfl | old
      · have sameTime := (admitted timestamp nonce signed).1
        have bound := neg_abs_le (d.time - p.value timestamp)
        linarith
      · exact guard.window entry old
    · refine nodup_cons.mpr ⟨fun copy => ?_, guard.once⟩
      obtain ⟨refusal, refused⟩ := guard.refuses_copy later admitted signed copy fresh
      rw [verified] at refused
      cases refused

/-- In a run whose deliveries keep the window open each nonce is accepted once
and every further copy is refused; an enforcing verifier accepts nothing else. -/
theorem nonce_accepted_once {deliveries : List TimedDelivery} {cache : NonceCache} {start : ℚ}
    (run : RunWithin (step p config epoch) (WindowOpen p config signedAt)
      { cache := cache, now := start } deliveries w) : (w.accepted.map Prod.fst).Nodup ∧
    (∀ d timestamp nonce, w.now ≤ d.time → w.WindowOpen p config signedAt d →
      p.signedAs config d.message = some (timestamp, nonce) →
      nonce ∈ w.accepted.map Prod.fst → d.message.redelivered = false →
      ∃ refusal, (p.onReceive config d.time (d.time - epoch) w.cache d.message).2 =
        .error refusal) ∧ (config.rejectUnsigned = true → config.rejectInvalid = true →
      config.requireFreshness = true → ∀ (d : TimedDelivery) admission,
      d.message.redelivered = false →
      (p.onReceive config d.time (d.time - epoch) w.cache d.message).2 = .ok admission →
      ∃ nonce, acceptances p config d (.ok admission) = [(nonce, d.time)]) := by
  have guard : ReplayGuard config epoch signedAt w := run.invariant .step
    ⟨by simp, by simp, by simp⟩
  refine ⟨guard.once, ?_, ?_⟩
  · intro d timestamp nonce later admitted signed copy fresh
    exact guard.refuses_copy later admitted signed copy fresh
  · intro unsigned invalid freshness d admission fresh received
    cases signed : p.signedAs config d.message with
    | none =>
      obtain ⟨refusal, refused⟩ := (onReceive_of_unsigned signed).2.2 unsigned invalid freshness
      rw [refused] at received
      cases received
    | some pair =>
      obtain ⟨timestamp, nonce⟩ := pair
      rw [onReceive_of_signedAs signed] at received
      split at received
      · cases received
      · refine ⟨nonce, ?_⟩
        cases first : (w.cache.seen (d.time - epoch) nonce (config.maxSkew * 2)).2 with
        | true =>
          simp only [nonceVerdict, first, if_true] at received
          cases received
          simp [acceptances, signed, fresh]
        | false => simp [nonceVerdict, first, fresh] at received

def signedAtZero : SignableMessage :=
  atEpoch.signEnvelope .zeroKey () "n1" { body := [] }

theorem signedAs_signedAtZero : atEpoch.signedAs .zeroKey signedAtZero = some ((), "n1") :=
  signedAs_signEnvelope () "n1" { body := [] }

/-- Accepted ten seconds early, a message is refused to the end of its window. -/
theorem nonce_accepted_once_early : ∃ w, RunWithin (step atEpoch .zeroKey 0)
        (WindowOpen atEpoch .zeroKey fun _ => 0) { now := -10 } [⟨signedAtZero, -10⟩] w ∧
      w.accepted = [("n1", -10)] ∧ ∃ refusal, (atEpoch.onReceive .zeroKey 60 (60 - 0) w.cache
        signedAtZero).2 = .error refusal := by
  have opened : ∀ (w : VerifierWorld) (time : ℚ), ("n1", -60) ∉ w.accepted →
      w.WindowOpen atEpoch .zeroKey (fun _ => 0) ⟨signedAtZero, time⟩ := by
    intro w time absent timestamp nonce signed
    rw [signedAs_signedAtZero] at signed
    cases signed
    refine ⟨rfl, fun last => absent ?_⟩
    simpa [SigningConfig.zeroKey] using last.2.2
  obtain ⟨w, taken, accepted, now⟩ : ∃ w,
      step atEpoch .zeroKey 0 { now := -10 } ⟨signedAtZero, -10⟩ = some w ∧
        w.accepted = [("n1", -10)] ∧ w.now = -10 := ⟨_, rfl, by decide +kernel, rfl⟩
  have run := RunWithin.snoc .nil (opened { now := -10 } (-10) (by simp)) taken
  exact ⟨w, run, accepted, (nonce_accepted_once run).2.1 ⟨signedAtZero, 60⟩ () "n1"
    (by rw [now]; norm_num) (opened w 60 (by simp [accepted])) signedAs_signedAtZero
    (by simp [accepted]) rfl⟩

/-- Accepted at the first instant of its window, a message is accepted again at
the last. -/
theorem nonce_accepted_twice : ∃ w, Run (step atEpoch .zeroKey 0) { now := -60 }
        [⟨signedAtZero, -60⟩, ⟨signedAtZero, 60⟩] w ∧ w.accepted = [("n1", 60), ("n1", -60)] :=
  exists_runWithin_of_decide (by decide +kernel)

end VerifierWorld
end RabbitKit
