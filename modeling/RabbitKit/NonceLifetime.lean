import Mathlib.Data.Rat.Floor
import RabbitKit.NonceReplay

/-! # How long a nonce is remembered

The cache of one process forgets no live nonce and refuses a new one only when it is full of
live ones, over every sequence of calls at non-decreasing times.  The shared cache keeps a
nonce for a whole number of seconds, rounded down from the width of the skew window, so that a
nonce received early enough is dropped while its message is still acceptable.
-/

namespace RabbitKit

open LabelledRun SigningPrimitives NonceCache OrderedDict List

structure NonceCall where
  time : ℚ
  nonce : String
  ttl : ℚ

namespace NonceCache

variable {cache : NonceCache} {now expiry : ℚ} {nonce : String}

def live (cache : NonceCache) (now : ℚ) : List (String × ℚ) :=
  cache.entries.entries.filter fun entry => now < entry.2

theorem get?_reclaim : (cache.reclaim now).entries.get? nonce = some expiry ↔
    cache.entries.get? nonce = some expiry ∧ now < expiry := by
  refine ⟨fun found => ?_, fun found => reclaim_live found.1 found.2⟩
  simp only [reclaim, get?_eraseAll] at found
  split at found
  · cases found
  next kept =>
    refine ⟨found, not_le.mp fun expired => kept ?_⟩
    exact mem_map.mpr ⟨(nonce, expiry), mem_filter.mpr
      ⟨mem_entries_of_get? found, by simpa using expired⟩, rfl⟩

theorem size_reclaim (cache : NonceCache) (now : ℚ) :
    (cache.reclaim now).entries.size = (cache.live now).length := by
  have distinct := (filter_sublist (p := fun entry => decide (entry.2 ≤ now))
    (l := cache.entries.entries)).map Prod.fst
  have counted := size_eraseAll (distinct.nodup cache.entries.keys_nodup) fun key member => by
      obtain ⟨entry, listed, rfl⟩ := mem_map.mp member
      exact ⟨entry.2, get?_of_mem_entries (mem_of_mem_filter listed)⟩
  have parts := length_eq_length_filter_add (l := cache.entries.entries)
    fun entry => decide (entry.2 ≤ now)
  simp only [← decide_not, not_le, length_map] at parts counted
  exact Nat.add_right_cancel (counted.trans (parts.trans (Nat.add_comm _ _)))

end NonceCache

/-- A cache under calls.  `admitted` is bookkeeping: the nonces reported as new, with the
instants at which they expire. -/
structure NonceWorld where
  cache : NonceCache := {}
  now : ℚ
  admitted : List (String × ℚ) := []

namespace NonceWorld

def step (w : NonceWorld) (call : NonceCall) : Option NonceWorld :=
  if call.time < w.now then none
  else
    let answer := w.cache.seen call.time call.nonce call.ttl
    some {
      cache := answer.1
      now := call.time
      admitted :=
        if answer.2 then (call.nonce, call.time + call.ttl) :: w.admitted else w.admitted }

structure Remembers (maxEntries : Nat) (w : NonceWorld) : Prop where
  limit : w.cache.maxEntries = maxEntries
  held : ∀ entry ∈ w.admitted, w.now < entry.2 → w.cache.entries.get? entry.1 = some entry.2
  known : ∀ nonce expiry, w.cache.entries.get? nonce = some expiry →
    (nonce, expiry) ∈ w.admitted
  bounded : w.cache.entries.size ≤ maxEntries

variable {w w' : NonceWorld} {call : NonceCall} {maxEntries : Nat}

theorem step_eq (taken : w.step call = some w') : w.now ≤ call.time ∧
      w'.cache = (w.cache.seen call.time call.nonce call.ttl).1 ∧ w'.now = call.time ∧
      w'.admitted = if (w.cache.seen call.time call.nonce call.ttl).2 then
        (call.nonce, call.time + call.ttl) :: w.admitted else w.admitted := by
  unfold step at taken
  split at taken
  · cases taken
  next later =>
    cases taken
    exact ⟨not_lt.mp later, rfl, rfl, rfl⟩

theorem Remembers.step (remembers : Remembers maxEntries w) (taken : w.step call = some w') :
    Remembers maxEntries w' := by
  obtain ⟨later, cache, now, admitted⟩ := step_eq taken
  have old : ∀ entry ∈ w.admitted, w'.now < entry.2 →
      w'.cache.entries.get? entry.1 = some entry.2 := by
    rw [cache, now]
    intro entry member live
    exact seen_keeps_live (remembers.held entry member (later.trans_lt live)) live
  obtain ⟨base, origin, answer⟩ := w.cache.seen_spec call.time call.nonce call.ttl
  have known : ∀ nonce expiry, base.entries.get? nonce = some expiry →
      (nonce, expiry) ∈ w.admitted := by
    intro nonce expiry found
    rcases origin with rfl | rfl
    · exact remembers.known nonce expiry found
    · exact remembers.known nonce expiry (get?_reclaim.mp found).1
  have bounded : base.entries.size ≤ maxEntries := by
    rcases origin with rfl | rfl
    · exact remembers.bounded
    · rw [size_reclaim]
      exact (length_filter_le _ _).trans remembers.bounded
  have limit : base.maxEntries = maxEntries := by
    rcases origin with rfl | rfl <;> exact remembers.limit
  rcases answer with ⟨refused, _⟩ | ⟨recorded, room, _⟩
  · rw [refused] at cache admitted
    exact ⟨cache ▸ limit, admitted ▸ old, cache ▸ admitted ▸ known, cache ▸ bounded⟩
  · have first : (w.cache.seen call.time call.nonce call.ttl).2 = true := by rw [recorded]; rfl
    have fresh := seen_records first
    rw [← cache] at fresh
    rw [recorded] at cache admitted
    refine ⟨cache ▸ limit, ?_, ?_, ?_⟩
    · rw [admitted]
      intro entry member live
      rcases mem_cons.mp member with rfl | earlier
      · exact fresh
      · exact old entry earlier live
    · rw [cache, admitted]
      intro nonce expiry found
      simp only [record, get?_set] at found
      split at found
      next same =>
        cases found
        exact same ▸ mem_cons_self
      · exact mem_cons_of_mem _ (known nonce expiry found)
    · rw [cache]
      exact (size_set_le _ _ _).trans (remembers.limit ▸ room)

/-- Over every sequence of calls from an empty cache of any capacity: the capacity is kept, a
live nonce is never reported as new again, and a nonce that is not live is refused only if as
many live ones are held as the cache may hold. -/
theorem nonce_remembered {calls : List NonceCall} {maxEntries : Nat} (positive : 0 < maxEntries)
    {start : ℚ} (run : Run step
      { cache := { maxEntries := maxEntries, maxEntries_pos := positive }, now := start } calls w) :
    w.cache.entries.size ≤ maxEntries ∧
    (∀ nonce expiry time ttl, (nonce, expiry) ∈ w.admitted → w.now ≤ time → time < expiry →
      (w.cache.seen time nonce ttl).2 = false) ∧
    (∀ nonce time ttl, w.now ≤ time → (∀ expiry, (nonce, expiry) ∈ w.admitted → expiry ≤ time) →
      (w.cache.seen time nonce ttl).2 = false → (w.cache.live time).length = maxEntries) := by
  have remembers : Remembers maxEntries w := run.invariant (fun before _ => before.step)
    ⟨rfl, by simp, by simp, Nat.zero_le _⟩
  refine ⟨remembers.bounded, ?_, ?_⟩
  · intro nonce expiry time ttl member later live
    have held := remembers.held _ member (later.trans_lt live)
    rw [seen_of_live held live]
  · intro nonce time ttl later unseen refused
    obtain ⟨base, _, ⟨_, ⟨expiry, held, live⟩ | full⟩ | ⟨recorded, _⟩⟩ :=
      w.cache.seen_spec time nonce ttl
    · exact absurd live (not_lt.mpr (unseen expiry (remembers.known nonce expiry held)))
    · rw [size_reclaim, remembers.limit] at full
      exact le_antisymm ((length_filter_le _ _).trans remembers.bounded) full
    · rw [recorded] at refused
      cases refused

theorem nonce_remembered_full : ∃ w, Run step { cache := { maxEntries := 1 }, now := 0 }
        [⟨0, "n1", 2⟩, ⟨1, "n2", 2⟩, ⟨2, "n2", 2⟩] w ∧
      w.admitted = [("n2", 4), ("n1", 2)] ∧ (w.cache.seen 3 "n2" 2).2 = false := by
  refine exists_runWithin_of_check
    (fun w => w.admitted == [("n2", 4), ("n1", 2)] && decide (w.now = 2)) (by decide +kernel) ?_
  intro w run checked
  obtain ⟨admitted, now⟩ : w.admitted = [("n2", 4), ("n1", 2)] ∧ w.now = 2 := by
    simpa using checked
  exact ⟨admitted, (nonce_remembered Nat.one_pos run).2.1 "n2" 4 3 2 (by simp [admitted])
    (by rw [now]; norm_num) (by norm_num)⟩

end NonceWorld

/-- Python's `int` of a number: the fraction is dropped. -/
def truncate (x : ℚ) : ℤ := if 0 ≤ x then ⌊x⌋ else ⌈x⌉

/-- The keys a Redis server holds, each with the instant after which it is gone. -/
structure RedisNonceCache where
  keyPrefix : String := "rabbitkit:nonce:"
  keys : OrderedDict String ℚ := .empty

namespace RedisNonceCache

/-- `_key`. -/
def key (cache : RedisNonceCache) (nonce : String) : String := cache.keyPrefix ++ nonce

/-- The `ex` argument, in seconds. -/
def expiry (ttl : ℚ) : ℤ := max 1 (truncate ttl)

/-- `SET NX EX` at server time `now`. -/
def seen (cache : RedisNonceCache) (now : ℚ) (nonce : String) (ttl : ℚ) :
    RedisNonceCache × Bool :=
  if (cache.keys.get? (cache.key nonce)).any (now ≤ ·) then (cache, false)
  else ({ cache with keys := cache.keys.set (cache.key nonce) (now + expiry ttl) }, true)

variable {cache : RedisNonceCache} {nonce : String}

theorem seen_records {now ttl : ℚ} (first : (cache.seen now nonce ttl).2 = true) :
    (cache.seen now nonce ttl).1.key nonce = cache.key nonce ∧
      (cache.seen now nonce ttl).1.keys.get? (cache.key nonce) = some (now + expiry ttl) := by
  unfold seen at first ⊢
  split
  · simp_all
  · exact ⟨rfl, by simp⟩

end RedisNonceCache

namespace SigningPrimitives

variable {τ : Type} (p : SigningPrimitives τ) (config : SigningConfig)

/-- The hook over the shared cache, whose server reads `epoch` less than the local clock. -/
def onReceiveShared (epoch now : ℚ) (cache : RedisNonceCache) (message : SignableMessage) :
    RedisNonceCache × Except InvalidSignature Admission :=
  match p.signedAs config message with
  | none => (cache, (p.onReceive config now now {} message).2)
  | some (timestamp, nonce) =>
    if config.maxSkew < |now - p.value timestamp| then
      (cache, .error (.skewed |now - p.value timestamp| config.maxSkew))
    else
      let answer := cache.seen (now - epoch) nonce (config.maxSkew * 2)
      (answer.1, nonceVerdict message answer.2)

variable {p config}

theorem expiry_of_wide (wide : 1 ≤ config.maxSkew * 2) :
    RedisNonceCache.expiry (config.maxSkew * 2) = ⌊config.maxSkew * 2⌋ := by
  rw [RedisNonceCache.expiry, truncate, if_pos (zero_le_one.trans wide)]
  exact max_eq_right (Int.le_floor.mpr (by exact_mod_cast wide))

theorem window_le_expiry {timestamp now time : ℚ} (late : 1 ≤ config.maxSkew * 2 →
      Int.fract (config.maxSkew * 2) ≤ now - (timestamp - config.maxSkew))
    (inside : |now - timestamp| ≤ config.maxSkew) (copy : |time - timestamp| ≤ config.maxSkew) :
    time - now ≤ RedisNonceCache.expiry (config.maxSkew * 2) := by
  have starts := neg_le_of_abs_le inside
  have ends := le_of_abs_le copy
  by_cases wide : 1 ≤ config.maxSkew * 2
  · have parts := Int.floor_add_fract (config.maxSkew * 2)
    have late := late wide
    rw [expiry_of_wide wide]
    linarith
  · have least : (1 : ℚ) ≤ RedisNonceCache.expiry (config.maxSkew * 2) := by
      exact_mod_cast le_max_left 1 (truncate (config.maxSkew * 2))
    linarith [not_le.mp wide]

/-- If the nonce lives as long as a copy received at the last instant of the window needs it, it was
stored at least the dropped fraction of a second after the window began. -/
theorem late_of_window_le_expiry {timestamp now : ℚ} (wide : 1 ≤ config.maxSkew * 2)
    (covered : timestamp + config.maxSkew - now ≤ RedisNonceCache.expiry (config.maxSkew * 2)) :
    Int.fract (config.maxSkew * 2) ≤ now - (timestamp - config.maxSkew) := by
  have parts := Int.floor_add_fract (config.maxSkew * 2)
  rw [expiry_of_wide wide] at covered
  linarith

/-- A nonce lives as long as a copy of its message may pass the skew check, and is refused until
then, exactly if it was stored at least the dropped fraction of a second after its window began. -/
theorem redis_nonce_outlives_window (epoch now : ℚ) (cache : RedisNonceCache)
    {message : SignableMessage} {timestamp : τ} {nonce : String}
    (signed : p.signedAs config message = some (timestamp, nonce))
    (verified : (p.onReceiveShared config epoch now cache message).2 = .ok .verified) :
    (p.onReceiveShared config epoch now cache message).1.keys.get? (cache.key nonce) =
      some (now - epoch + RedisNonceCache.expiry (config.maxSkew * 2)) ∧
    ((∀ time, |time - p.value timestamp| ≤ config.maxSkew →
      time - now ≤ RedisNonceCache.expiry (config.maxSkew * 2) ∧
      ∀ ttl, ((p.onReceiveShared config epoch now cache message).1.seen
        (time - epoch) nonce ttl).2 = false) ↔
      (1 ≤ config.maxSkew * 2 →
        Int.fract (config.maxSkew * 2) ≤ now - (p.value timestamp - config.maxSkew))) := by
  simp only [onReceiveShared, signed] at verified ⊢
  split at verified
  · cases verified
  rename_i inside
  rw [if_neg inside]
  have first : (cache.seen (now - epoch) nonce (config.maxSkew * 2)).2 = true := by
    unfold nonceVerdict at verified
    split at verified
    · assumption
    · split at verified <;> cases verified
  obtain ⟨sameKey, stored⟩ := RedisNonceCache.seen_records first
  refine ⟨stored, fun covers wide => ?_, fun late time copy => ?_⟩
  · have last : |p.value timestamp + config.maxSkew - p.value timestamp| ≤ config.maxSkew := by
      rw [add_sub_cancel_left, abs_of_pos config.maxSkew_pos]
    exact late_of_window_le_expiry wide (covers _ last).1
  · have covered := window_le_expiry late (not_lt.mp inside) copy
    refine ⟨covered, fun ttl => ?_⟩
    have lasts : time - epoch ≤ now - epoch + RedisNonceCache.expiry (config.maxSkew * 2) := by
      linarith
    rw [RedisNonceCache.seen, sameKey, stored, if_pos (by simpa using lasts)]

def threeQuarters : SigningConfig :=
  { SigningConfig.zeroKey with maxSkew := 3 / 4, maxSkew_pos := by norm_num }

def signedWithin : SignableMessage :=
  atEpoch.signEnvelope threeQuarters () "n1" { body := [] }

theorem signedAs_signedWithin : atEpoch.signedAs threeQuarters signedWithin = some ((), "n1") :=
  signedAs_signEnvelope () "n1" { body := [] }

theorem redis_nonce_outlives_window_late :
    let first := atEpoch.onReceiveShared threeQuarters 0 (-1 / 4) {} signedWithin
    first.2 = .ok .verified ∧ ∀ time, |time - atEpoch.value ()| ≤ threeQuarters.maxSkew →
      ∀ ttl, (first.1.seen (time - 0) "n1" ttl).2 = false := by
  have verified : (atEpoch.onReceiveShared threeQuarters 0 (-1 / 4) {} signedWithin).2 =
      .ok .verified := by decide +kernel
  have stored := redis_nonce_outlives_window 0 (-1 / 4) {} signedAs_signedWithin verified
  exact ⟨verified, fun time copy => (stored.2.mpr (by decide +kernel) time copy).2⟩

/-- Received as its window begins, a nonce is dropped after one second of one and a half, and
the same message is accepted again. -/
theorem redis_nonce_replayed :
    let first := atEpoch.onReceiveShared threeQuarters 0 (-3 / 4) {} signedWithin
    first.2 = .ok .verified ∧
      (atEpoch.onReceiveShared threeQuarters 0 (1 / 2) first.1 signedWithin).2 = .ok .verified := by
  decide +kernel

end SigningPrimitives
end RabbitKit
