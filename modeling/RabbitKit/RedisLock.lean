import RabbitKit.LabelledRun
import RabbitKit.OrderedDict

/-! # Distributed locks in Redis

`RedisLock` writes a fresh value with `SET NX EX`, remembers it under the key of the lock in a
dictionary of the object, and releases by a script that deletes the Redis key only if it still has
the value that the dictionary names. A late release through an object that has acquired the lock
again finds the value of the second holder.

A run interleaves any number of acquisitions through any number of lock objects, in one process or
in several; every Redis command and every access to the dictionary is a step of its own, and a Redis
key may expire between any two. The value of an acquisition is its number.
-/

namespace RabbitKit

open LabelledRun OrderedDict Option List

/-- `_prefix` and `_lock_values` of a lock object. -/
structure RedisLock where
  keyPrefix : String
  lockValues : OrderedDict String Nat := .empty

/-- `_key`. -/
def RedisLock.key (lock : RedisLock) (name : String) : String := lock.keyPrefix ++ name

/-- Where a holder stands: in the loop of `acquire`, between the `SET` and the entry in the
dictionary, in the handler, in `release` with the value it has read, or at an end. -/
inductive HolderStage
  | attempting
  | recording
  | holding
  | evaluating (lockValue : Nat)
  | dropping (lockValue : Nat)
  | released
  | refused
  deriving DecidableEq

/-- One acquisition: the lock object, the key, and the Redis key that `_key` makes of it. -/
structure LockHolder where
  lock : Nat
  name : String
  redisKey : String
  stage : HolderStage := .attempting

/-- `store` is Redis; `deletions` lists which acquisition has deleted which value. -/
structure RedisLocking where
  locks : List RedisLock
  store : OrderedDict String Nat := .empty
  holders : List LockHolder := []
  deletions : List (Nat × Nat) := []

inductive RedisLockAction
  | acquire (lock : Nat) (name : String)
  | attempt (holder : Nat)
  | attemptRaises (holder : Nat) (applied : Bool)
  | giveUp (holder : Nat)
  | record (holder : Nat)
  | release (holder : Nat)
  | eval (holder : Nat)
  | evalRaises (holder : Nat) (applied : Bool)
  | drop (holder : Nat)
  | expire (redisKey : String)
  deriving DecidableEq

namespace RedisLocking

variable (world : RedisLocking)

def init (prefixes : List String) : RedisLocking where
  locks := prefixes.map fun keyPrefix => { keyPrefix := keyPrefix }

def move (holder : Nat) (stage : HolderStage) : RedisLocking :=
  { world with holders := world.holders.modify holder fun found => { found with stage := stage } }

/-- `SET key value NX EX ttl`. -/
def setNx (redisKey : String) (value : Nat) : RedisLocking × Bool :=
  match world.store.get? redisKey with
  | some _ => (world, false)
  | none => ({ world with store := world.store.set redisKey value }, true)

/-- The release script, and whether it has deleted the key. -/
def compareAndDelete (holder : Nat) (redisKey : String) (value : Nat) : RedisLocking × Bool :=
  if world.store.get? redisKey = some value then
    ({ world with
      store := world.store.erase redisKey
      deletions := world.deletions ++ [(holder, value)] }, true)
  else (world, false)

/-- What `_lock_values` has for the key of the holder. -/
def recorded (found : LockHolder) : Option Nat :=
  world.locks[found.lock]?.bind fun lock => lock.lockValues.get? found.name

def updateValues (index : Nat)
    (update : OrderedDict String Nat → OrderedDict String Nat) : RedisLocking :=
  { world with
    locks := world.locks.modify index fun lock =>
      { lock with lockValues := update lock.lockValues } }

/-- The beginning of `release`. -/
def readValue (holder : Nat) (found : LockHolder) : RedisLocking :=
  match world.recorded found with
  | none => world.move holder .released
  | some lockValue => world.move holder (.evaluating lockValue)

/-- One step of a holder.  A failed `SET` is tried again or ends in `giveUp`; a command that
raises may have been carried out.  A holder may release again. -/
def advance (holder : Nat) (found : LockHolder) : RedisLockAction → HolderStage →
    Option RedisLocking
  | .attempt _, .attempting =>
    match world.setNx found.redisKey holder with
    | (world, true) => some (world.move holder .recording)
    | (world, false) => some world
  | .attemptRaises _ applied, .attempting =>
    let world := if applied then (world.setNx found.redisKey holder).1 else world
    some (world.move holder .refused)
  | .giveUp _, .attempting => some (world.move holder .refused)
  | .record _, .recording =>
    some ((world.updateValues found.lock (·.set found.name holder)).move holder .holding)
  | .release _, .holding | .release _, .released => some (world.readValue holder found)
  | .eval _, .evaluating lockValue =>
    match world.compareAndDelete holder found.redisKey lockValue with
    | (world, true) => some (world.move holder (.dropping lockValue))
    | (world, false) => some (world.move holder .released)
  | .evalRaises _ applied, .evaluating lockValue =>
    let world :=
      if applied then (world.compareAndDelete holder found.redisKey lockValue).1 else world
    some (world.move holder .released)
  | .drop _, .dropping lockValue =>
    let world :=
      if world.recorded found = some lockValue then
        world.updateValues found.lock (·.erase found.name)
      else world
    some (world.move holder .released)
  | _, _ => none

def step (action : RedisLockAction) : Option RedisLocking :=
  match action with
  | .acquire lock name =>
    world.locks[lock]?.map fun found =>
      { world with
        holders := world.holders ++
          [{ lock := lock, name := name, redisKey := found.key name }] }
  | .expire redisKey => some { world with store := world.store.erase redisKey }
  | .attempt holder | .attemptRaises holder _ | .giveUp holder | .record holder
  | .release holder | .eval holder | .evalRaises holder _ | .drop holder =>
    world.holders[holder]?.bind fun found => world.advance holder found action found.stage

variable {world} {world' : RedisLocking} {holder : Nat} {found : LockHolder}
variable {action : RedisLockAction}

inductive Advanced (world : RedisLocking) (holder : Nat) (found : LockHolder) :
    RedisLockAction → RedisLocking → Prop
  | polls {action : RedisLockAction} : Advanced world holder found action world
  | moves {action : RedisLockAction} {stage : HolderStage} (tried : stage ≠ .attempting)
      (noValue : ∀ lockValue, stage ≠ .evaluating lockValue) :
      Advanced world holder found action (world.move holder stage)
  | sets {action : RedisLockAction} {stage : HolderStage} (was : found.stage = .attempting)
      (tried : stage ≠ .attempting) (noValue : ∀ lockValue, stage ≠ .evaluating lockValue) :
      Advanced world holder found action
        ({ world with store := world.store.set found.redisKey holder }.move holder stage)
  | records {action : RedisLockAction} (was : found.stage = .recording) :
      Advanced world holder found action
        ((world.updateValues found.lock (·.set found.name holder)).move holder .holding)
  | reads {lockValue : Nat} (named : world.recorded found = some lockValue) :
      Advanced world holder found (.release holder) (world.move holder (.evaluating lockValue))
  | deletes {action : RedisLockAction} {lockValue : Nat} {stage : HolderStage}
      (was : found.stage = .evaluating lockValue)
      (held : world.store.get? found.redisKey = some lockValue) (tried : stage ≠ .attempting)
      (noValue : ∀ lockValue, stage ≠ .evaluating lockValue) :
      Advanced world holder found action
        ({ world with
          store := world.store.erase found.redisKey
          deletions := world.deletions ++ [(holder, lockValue)] }.move holder stage)
  | drops {action : RedisLockAction} :
      Advanced world holder found action
        ((world.updateValues found.lock (·.erase found.name)).move holder .released)

theorem setNx_cases (world : RedisLocking) (redisKey : String) (value : Nat) :
    world.setNx redisKey value = (world, false) ∨ world.setNx redisKey value =
        ({ world with store := world.store.set redisKey value }, true) := by
  unfold setNx
  split
  · exact .inl rfl
  · exact .inr rfl

variable {lockValue : Nat} {stage : HolderStage}

theorem advanced_readValue :
    Advanced world holder found (.release holder) (world.readValue holder found) := by
  unfold readValue
  split
  · exact .moves (by simp) (by simp)
  next named =>
    exact .reads named

theorem advanced (was : found.stage = stage)
    (own : ∀ other, action = .release other → other = holder)
    (taken : world.advance holder found action stage = some world') :
    Advanced world holder found action world' := by
  unfold advance compareAndDelete at taken
  split at taken
  · rcases world.setNx_cases found.redisKey holder with same | set
    · rw [same] at taken
      cases taken
      exact .polls
    · rw [set] at taken
      cases taken
      exact .sets was (by simp) (by simp)
  next applied =>
    cases taken
    cases applied with
    | false => exact .moves (by simp) (by simp)
    | true =>
      rcases world.setNx_cases found.redisKey holder with same | set
      · rw [if_pos rfl, same]
        exact .moves (by simp) (by simp)
      · rw [if_pos rfl, set]
        exact .sets was (by simp) (by simp)
  · cases taken
    exact .moves (by simp) (by simp)
  · cases taken
    exact .records was
  iterate 2
    rename_i other
    cases taken
    cases own other rfl
    exact advanced_readValue
  next lockValue =>
    by_cases held : world.store.get? found.redisKey = some lockValue
    · rw [if_pos held] at taken
      cases taken
      exact .deletes was held (by simp) (by simp)
    · rw [if_neg held] at taken
      cases taken
      exact .moves (by simp) (by simp)
  next applied lockValue =>
    cases taken
    cases applied with
    | false => exact .moves (by simp) (by simp)
    | true =>
      rw [if_pos rfl]
      split
      next held =>
        exact .deletes was held (by simp) (by simp)
      · exact .moves (by simp) (by simp)
  · cases taken
    split
    · exact .drops
    · exact .moves (by simp) (by simp)
  · cases taken

inductive Stepped (world : RedisLocking) (action : RedisLockAction) : RedisLocking → Prop
  | acquires {joined : LockHolder} (fresh : joined.stage = .attempting) :
      Stepped world action { world with holders := world.holders ++ [joined] }
  | expires {redisKey : String} :
      Stepped world action { world with store := world.store.erase redisKey }
  | advances {holder : Nat} {found : LockHolder} {world' : RedisLocking}
      (located : world.holders[holder]? = some found)
      (advanced : Advanced world holder found action world') : Stepped world action world'

theorem stepped (taken : world.step action = some world') : Stepped world action world' := by
  cases action with
  | acquire lock name =>
    obtain ⟨found, _, rfl⟩ := map_eq_some_iff.mp taken
    exact .acquires rfl
  | expire redisKey =>
    cases taken
    exact .expires
  | attempt | attemptRaises | giveUp | record | release | eval | evalRaises | drop =>
    obtain ⟨found, located, taken⟩ := bind_eq_some_iff.mp taken
    exact .advances located (advanced rfl (by simp) taken)

/-- The acquisition is past its last `SET`. -/
def Past (world : RedisLocking) (value : Nat) : Prop :=
  ∃ found, world.holders[value]? = some found ∧ found.stage ≠ .attempting

/-- A holder that begins to release finds its own value, none, or one that Redis no longer has
for its key. -/
def Undisputed (world : RedisLocking) : RedisLockAction → Prop
  | .release holder => ∀ found ∈ world.holders[holder]?, ∀ lockValue ∈ world.recorded found,
      lockValue = holder ∨ world.store.get? found.redisKey ≠ some lockValue
  | _ => True

instance (world : RedisLocking) : DecidablePred world.Undisputed := fun action => by
  unfold Undisputed
  split <;> infer_instance

structure Owned (world : RedisLocking) : Prop where
  recorded : ∀ {index : Nat} {lock : RedisLock} {name : String} {value : Nat},
    world.locks[index]? = some lock → lock.lockValues.get? name = some value → world.Past value
  evaluating : ∀ {holder : Nat} {found : LockHolder} {lockValue : Nat},
    world.holders[holder]? = some found → found.stage = .evaluating lockValue →
    lockValue = holder ∨ world.Past lockValue ∧ world.store.get? found.redisKey ≠ some lockValue
  deletions : ∀ entry ∈ world.deletions, entry.2 = entry.1

section

variable {stage : HolderStage} (located : world.holders[holder]? = some found)
  (moved : world'.holders = world.holders.modify holder fun found => { found with stage := stage })
  (tried : stage ≠ .attempting)
include located moved

theorem holders_of_moved {other : Nat} {seen : LockHolder}
    (stands : world'.holders[other]? = some seen) :
    holder = other ∧ seen = { found with stage := stage } ∨
      holder ≠ other ∧ world.holders[other]? = some seen := by
  rw [moved] at stands
  by_cases same : holder = other
  · subst same
    rw [getElem?_modify_eq, located] at stands
    exact .inl ⟨rfl, (some.inj stands).symm⟩
  · rw [getElem?_modify_ne _ _ same] at stands
    exact .inr ⟨same, stands⟩

include tried

theorem Past.of_moved {value : Nat} (past : world.Past value) : world'.Past value := by
  obtain ⟨seen, stands, done⟩ := past
  by_cases same : holder = value
  · subst same
    refine ⟨{ found with stage := stage }, ?_, tried⟩
    rw [moved, getElem?_modify_eq, located]
    rfl
  · refine ⟨seen, ?_, done⟩
    rw [moved, getElem?_modify_ne _ _ same]
    exact stands

/-- A holder moves; values that are past their `SET` do not come back to Redis. -/
theorem Owned.of_moved (owned : Owned world)
    (recorded : ∀ {index : Nat} {lock : RedisLock} {name : String} {value : Nat},
      world'.locks[index]? = some lock → lock.lockValues.get? name = some value →
      world.Past value ∨ value = holder)
    (store : ∀ {redisKey : String} {value : Nat}, world.Past value →
      world.store.get? redisKey ≠ some value → world'.store.get? redisKey ≠ some value)
    (reads : ∀ lockValue, stage = .evaluating lockValue → lockValue = holder ∨
      world.Past lockValue ∧ world.store.get? found.redisKey ≠ some lockValue)
    (deletions : ∀ entry ∈ world'.deletions, entry.2 = entry.1) : Owned world' where
  recorded := by
    intro index lock name value isLock named
    rcases recorded isLock named with past | rfl
    · exact past.of_moved located moved tried
    · refine ⟨{ found with stage := stage }, ?_, tried⟩
      rw [moved, getElem?_modify_eq, located]
      rfl
  evaluating := by
    intro other seen lockValue stands evaluating
    have known : lockValue = other ∨
        world.Past lockValue ∧ world.store.get? seen.redisKey ≠ some lockValue := by
      rcases holders_of_moved located moved stands with ⟨rfl, rfl⟩ | ⟨_, stood⟩
      · exact reads lockValue evaluating
      · exact owned.evaluating stood evaluating
    refine known.imp_right fun ⟨past, gone⟩ => ⟨?_, store past gone⟩
    exact past.of_moved located moved tried
  deletions := deletions

end

theorem locks_of_updateValues {index other : Nat} {lock : RedisLock} {stage : HolderStage}
    {update : OrderedDict String Nat → OrderedDict String Nat}
    (isLock : ((world.updateValues index update).move holder stage).locks[other]? = some lock) :
    ∃ old, world.locks[other]? = some old ∧
      (lock.lockValues = old.lockValues ∨ lock.lockValues = update old.lockValues) := by
  simp only [updateValues, move] at isLock
  by_cases same : index = other
  · subst same
    rw [getElem?_modify_eq] at isLock
    obtain ⟨old, wasLock, rfl⟩ := map_eq_some_iff.mp isLock
    exact ⟨old, wasLock, .inr rfl⟩
  · rw [getElem?_modify_ne _ _ same] at isLock
    exact ⟨lock, isLock, .inl rfl⟩

theorem Owned.advanced (owned : Owned world) (undisputed : world.Undisputed action)
    (located : world.holders[holder]? = some found)
    (advanced : Advanced world holder found action world') : Owned world' := by
  have kept : ∀ {index : Nat} {lock : RedisLock} {name : String} {value : Nat},
      world.locks[index]? = some lock → lock.lockValues.get? name = some value →
      world.Past value ∨ value = holder := fun isLock named => .inl (owned.recorded isLock named)
  cases advanced with
  | polls => exact owned
  | moves tried noValue =>
    refine owned.of_moved located rfl tried kept (fun _ gone => gone) ?_ owned.deletions
    intro lockValue same
    exact absurd same (noValue lockValue)
  | sets was tried noValue =>
    refine owned.of_moved located rfl tried kept ?_ ?_ owned.deletions
    · intro redisKey value past gone
      have different : value ≠ holder := by
        rintro rfl
        obtain ⟨seen, stands, done⟩ := past
        cases some.inj (located.symm.trans stands)
        exact done was
      simp only [move, get?_set]
      split
      · exact fun same => different (some.inj same).symm
      · exact gone
    · intro lockValue same
      exact absurd same (noValue lockValue)
  | records was =>
    refine owned.of_moved located rfl (by simp) ?_ (fun _ gone => gone) (by simp) owned.deletions
    intro index lock name value isLock named
    obtain ⟨old, wasLock, same | same⟩ := locks_of_updateValues isLock
    · exact .inl (owned.recorded wasLock (same ▸ named))
    · rw [same, get?_set] at named
      split at named
      · exact .inr (some.inj named).symm
      · exact .inl (owned.recorded wasLock named)
  | reads named =>
    refine owned.of_moved located rfl (by simp) kept (fun _ gone => gone) ?_ owned.deletions
    intro lockValue same
    cases same
    refine (undisputed found located _ named).imp_right fun gone => ⟨?_, gone⟩
    obtain ⟨lock, isLock, entry⟩ := bind_eq_some_iff.mp named
    exact owned.recorded isLock entry
  | deletes was held tried noValue =>
    refine owned.of_moved located rfl tried kept ?_ ?_ ?_
    · intro redisKey value past gone
      simp only [move, get?_erase]
      split
      · simp
      · exact gone
    · intro lockValue same
      exact absurd same (noValue lockValue)
    · intro entry member
      rcases mem_append.mp member with earlier | last
      · exact owned.deletions entry earlier
      · cases mem_singleton.mp last
        rcases owned.evaluating located was with own | ⟨_, gone⟩
        · exact own
        · exact absurd held gone
  | drops =>
    refine owned.of_moved located rfl (by simp) ?_ (fun _ gone => gone) (by simp) owned.deletions
    intro index lock name value isLock named
    obtain ⟨old, wasLock, same | same⟩ := locks_of_updateValues isLock
    · exact .inl (owned.recorded wasLock (same ▸ named))
    · rw [same, get?_erase] at named
      split at named
      · cases named
      · exact .inl (owned.recorded wasLock named)

theorem Owned.step (owned : Owned world) (undisputed : world.Undisputed action)
    (taken : world.step action = some world') : Owned world' := by
  cases stepped taken with
  | acquires fresh =>
    rename_i joined
    have kept : ∀ {value : Nat}, world.Past value →
        Past { world with holders := world.holders ++ [joined] } value := by
      rintro value ⟨seen, stands, done⟩
      have inBounds := (List.getElem?_eq_some_iff.mp stands).1
      exact ⟨seen, (List.getElem?_append_left inBounds).trans stands, done⟩
    refine ⟨fun isLock named => kept (owned.recorded isLock named), ?_, owned.deletions⟩
    intro holder found lockValue located evaluating
    rcases getElem?_of_joined located with stood | ⟨_, rfl⟩
    · exact (owned.evaluating stood evaluating).imp_right fun ⟨past, gone⟩ => ⟨kept past, gone⟩
    · cases fresh.symm.trans evaluating
  | expires =>
    refine ⟨owned.recorded, ?_, owned.deletions⟩
    intro holder found lockValue located evaluating
    refine (owned.evaluating located evaluating).imp_right fun ⟨past, gone⟩ => ⟨past, ?_⟩
    rw [get?_erase]
    split
    · simp
    · exact gone
  | advances located advanced => exact owned.advanced undisputed located advanced

theorem owned_init (prefixes : List String) : Owned (init prefixes) := by
  refine ⟨?_, by simp [init], by simp [init]⟩
  intro index lock name value isLock named
  simp only [init, getElem?_map] at isLock
  obtain ⟨keyPrefix, _, rfl⟩ := map_eq_some_iff.mp isLock
  cases named

/-- If every release begins undisputed, an acquisition deletes no value but its own. -/
theorem releases_delete_own {prefixes : List String} {actions : List RedisLockAction}
    (run : RunWithin step Undisputed (init prefixes) actions world) :
    ∀ entry ∈ world.deletions, entry.2 = entry.1 :=
  (run.invariant (fun held admitted taken => .step held admitted taken)
    (owned_init prefixes)).deletions

/-- Two processes: the lock of the first holder expires, and its release leaves the lock of the
second alone, which then deletes its own. -/
theorem releases_delete_own_expired : ∃ world, RunWithin step Undisputed (init ["lock:", "lock:"])
      [.acquire 0 "order", .attempt 0, .record 0, .expire "lock:order", .acquire 1 "order",
        .attempt 1, .record 1, .release 0, .eval 0, .release 1, .eval 1, .drop 1] world ∧
      world.deletions = [(1, 1)] ∧ ∀ entry ∈ world.deletions, entry.2 = entry.1 := by
  refine exists_runWithin_of_check
    (fun world => decide (world.deletions = [(1, 1)])) (by decide +kernel)
    fun world run checked => ?_
  exact ⟨of_decide_eq_true checked, releases_delete_own run⟩

/-- One lock object: the lock of the first holder expires and is acquired again, and the release
of the first holder deletes the lock of the second. -/
theorem release_deletes_other : ∃ world, Run step (init ["lock:"])
      [.acquire 0 "order", .attempt 0, .record 0, .expire "lock:order", .acquire 0 "order",
        .attempt 1, .record 1, .release 0, .eval 0] world ∧ world.deletions = [(0, 1)] :=
  exists_runWithin_of_decide (by decide +kernel)

end RedisLocking
end RabbitKit
