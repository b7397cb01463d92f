import RabbitKit.ChannelPoolAccounting

/-! # Wake-ups of the async channel pool

Whoever frees a channel or a slot wakes one waiter, and a woken waiter takes what it was
woken for or passes the wake-up on.  The exception is a woken waiter that finds its deadline
passed: it raises and tells nobody, and a slot it was woken for stays free while the other
waiters sleep.
-/

namespace RabbitKit

open LabelledRun List

namespace AsyncChannelPool

variable {pool pool' : AsyncChannelPool} {action : ChannelPoolAction} {acquirer : Nat}
  {expired : Bool} {before after : Acquirer} {slack slack' : Nat}

def free (pool : AsyncChannelPool) : Nat :=
  pool.idle.length + (pool.size - pool.created)

/-- A woken waiter whose deadline has passed finds a live idle channel, or nobody else
sleeps, or the other woken waiters are enough for what is free. -/
def Spared (pool : AsyncChannelPool) : ChannelPoolAction → Prop
  | .resume _ true => (∃ channel ∈ pool.idle, channel ∉ pool.dead) ∨
      Acquirer.waiting ∉ pool.acquirers ∨ pool.free < pool.number .woken
  | _ => True

instance (pool : AsyncChannelPool) : DecidablePred pool.Spared := fun action => by
  unfold Spared
  split <;> infer_instance

def Waits (pool : AsyncChannelPool) (acquirer : Nat) : Prop :=
  pool.acquirers[acquirer]? = some .waiting

/-- While a call waits, what is free is at most what woken waiters are on the way to take,
up to what has just been freed. -/
structure Awake (slack : Nat) (pool : AsyncChannelPool) : Prop where
  listed : ∀ acquirer, pool.Waits acquirer → acquirer ∈ pool.waiters
  shut : pool.closed = true → ∀ acquirer, ¬ pool.Waits acquirer
  covered : ∀ acquirer, pool.Waits acquirer → pool.free ≤ pool.number .woken + slack

/-- A step after which no call waits that did not wait before, and what became free is made
up for. -/
theorem Awake.of_fewer (awake : pool.Awake slack)
    (waiting : ∀ acquirer, pool'.Waits acquirer → pool.Waits acquirer)
    (listed : ∀ acquirer, pool'.Waits acquirer → acquirer ∈ pool.waiters → acquirer ∈ pool'.waiters)
    (shut : pool'.closed = pool.closed) (enough : pool.closed = false →
      pool'.free + pool.number .woken + slack ≤ pool.free + pool'.number .woken + slack') :
    pool'.Awake slack' where
  listed acquirer waits := listed acquirer waits (awake.listed acquirer (waiting acquirer waits))
  shut isClosed acquirer waits :=
    awake.shut (shut.symm.trans isClosed) acquirer (waiting acquirer waits)
  covered acquirer waits := by
    have waited := waiting acquirer waits
    have isOpen : pool.closed = false :=
      Bool.eq_false_iff.mpr fun isClosed => awake.shut isClosed acquirer waited
    have before := awake.covered acquirer waited
    have made := enough isOpen
    omega

theorem Awake.woken (awake : pool.Awake 1) (woken : Woken pool pool') : pool'.Awake 0 := by
  cases woken with
  | nobody settled =>
    have none (acquirer : Nat) (waits : pool.Waits acquirer) : False :=
      settled acquirer (awake.listed acquirer waits) waits
    exact ⟨fun acquirer waits => (none acquirer waits).elim,
      fun _ acquirer waits => none acquirer waits,
      fun acquirer waits => (none acquirer waits).elim⟩
  | @woke skipped rest woke waiters settled pending =>
    refine awake.of_fewer (fun acquirer waits => (stage_of_move waits nofun).2)
      (fun acquirer waits member => ?_) rfl fun _ => ?_
    · obtain ⟨different, waited⟩ := stage_of_move waits nofun
      rw [waiters] at member
      rcases mem_append.mp member with member | member
      · exact absurd waited (settled acquirer member)
      · exact (mem_cons.mp member).resolve_left different
    · have more : (pool.move woke .woken).number .woken = pool.number .woken + 1 := by
        simpa using number_move .woken .woken pending
      change pool.free + pool.number .woken + 1 ≤
        pool.free + (pool.move woke .woken).number .woken + 0
      omega

theorem Awake.join (awake : pool.Awake slack) : pool.join.Awake slack := by
  refine awake.of_fewer (fun acquirer waits => stage_of_join waits nofun)
    (fun _ _ member => member) rfl fun _ => ?_
  rw [number_join .woken nofun]
  exact le_refl _

theorem Awake.attempted (awake : pool.Awake 0) (books : pool.Books)
    (found : pool.acquirers[acquirer]? = some before)
    (spared : before = .woken → expired = true → (∃ channel ∈ pool.idle, channel ∉ pool.dead) ∨
      Acquirer.waiting ∉ pool.acquirers ∨ pool.free < pool.number .woken)
    (attempt : Attempt pool acquirer expired pool') : pool'.Awake 0 := by
  have books : ChannelBooks _ _ _ _ _ _ _ := books
  have bounded := books.bounded
  have fewer (after : Acquirer) (different : after ≠ .woken) :
      pool.number .woken ≤ (pool.move acquirer after).number .woken + 1 := by
    have moved := number_move .woken after found
    simp only [different, if_false] at moved
    split at moved <;> omega
  cases attempt with
  | refused isClosed =>
    refine awake.of_fewer (fun other waits => (stage_of_move waits nofun).2)
      (fun _ _ member => member) rfl fun isOpen => ?_
    cases isOpen.symm.trans isClosed
  | @took stale rest channel isOpen idle =>
    refine awake.of_fewer (fun other waits => (stage_of_move waits nofun).2)
      (fun _ _ member => member) rfl fun _ => ?_
    have balanced := books.balanced isOpen
    have less := fewer (.holding channel) nofun
    have freed : pool.free = stale.length + 1 + rest.length + (pool.size - pool.created) := by
      simp [free, idle, Nat.add_assoc, Nat.add_comm 1]
    have left : ({ pool with idle := rest, created := pool.created - stale.length }.checkOut
        acquirer channel).free = rest.length + (pool.size - (pool.created - stale.length)) := rfl
    change _ + _ + 0 ≤ pool.free + (pool.move acquirer (.holding channel)).number .woken + 0
    rw [left, freed]
    rw [idle, length_append, length_cons] at balanced
    omega
  | exhausted isOpen stale late =>
    have kept : ({ pool with idle := [], created := pool.created - pool.idle.length }.move
        acquirer .gone).free = pool.free := by
      have balanced := books.balanced isOpen
      simp only [free, move, length_nil]
      omega
    have moved : (pool.move acquirer .gone).number .woken +
        (if before = .woken then 1 else 0) = pool.number .woken := by
      simpa using number_move .woken .gone found
    refine ⟨fun other waits => awake.listed other (stage_of_move waits nofun).2,
      fun isClosed other waits => awake.shut isClosed other (stage_of_move waits nofun).2,
      fun other waits => ?_⟩
    have waited : pool.Waits other := (stage_of_move waits nofun).2
    have covered := awake.covered other waited
    change _ ≤ (pool.move acquirer .gone).number .woken + 0
    rw [kept]
    by_cases woken : before = .woken
    · rcases spared woken late with ⟨channel, idle, live⟩ | nobody | enough
      · exact absurd (stale channel idle) live
      · exact absurd (mem_of_getElem? waited) nobody
      · rw [if_pos woken] at moved
        omega
    · rw [if_neg woken] at moved
      omega
  | opens isOpen room =>
    refine awake.of_fewer (fun other waits => (stage_of_move waits nofun).2)
      (fun _ _ member => member) rfl fun _ => ?_
    have balanced := books.balanced isOpen
    have less := fewer .opening nofun
    change 0 + (pool.size - (pool.created - pool.idle.length + 1)) + _ + 0 ≤
      pool.idle.length + (pool.size - pool.created) +
        (pool.move acquirer .opening).number .woken + 0
    omega
  | waits isOpen full =>
    refine ⟨fun other waits => ?_, fun isClosed => ?_, fun other waits => ?_⟩
    · by_cases same : other = acquirer
      · exact same ▸ mem_append_right _ mem_cons_self
      · have waits : (pool.move acquirer .waiting).acquirers[other]? = some .waiting := waits
        have waited : pool.Waits other := (getElem?_set_ne (Ne.symm same)).symm.trans waits
        exact mem_append_left _ (awake.listed other waited)
    · cases isOpen.symm.trans isClosed
    · change 0 + (pool.size - (pool.created - pool.idle.length)) ≤ _
      omega

theorem Awake.move (awake : pool.Awake slack) (after : Acquirer)
    (found : pool.acquirers[acquirer]? = some before) (notWoken : before ≠ .woken)
    (notAfter : after ≠ .waiting) : (pool.move acquirer after).Awake slack := by
  refine awake.of_fewer (fun other waits => (stage_of_move waits notAfter).2)
    (fun _ _ member => member) rfl fun _ => ?_
  have moved := number_move .woken after found
  rw [if_neg notWoken] at moved
  change pool.free + _ + _ ≤ _
  omega

theorem Awake.giveBack (awake : pool.Awake slack) (caller channel : Nat) :
    (pool.giveBack caller channel).Awake slack := by
  unfold AsyncChannelPool.giveBack
  split
  next held =>
    exact awake.move .gone held nofun nofun
  · exact awake

section

variable (awake : pool.Awake 0)
include awake

theorem Awake.freeSlot (inUse : List Nat) :
    Awake 1 { pool with inUse := inUse, created := pool.created - 1 } := by
  refine awake.of_fewer (fun _ waits => waits) (fun _ _ member => member) rfl fun _ => ?_
  change pool.idle.length + (pool.size - (pool.created - 1)) + pool.number .woken + 0 ≤
    pool.idle.length + (pool.size - pool.created) + pool.number .woken + 1
  omega

theorem Awake.discard (channel : Nat) : (pool.discard channel).Awake 0 := by
  unfold AsyncChannelPool.discard
  split
  · exact (awake.freeSlot _).woken (wakeOne_spec _)
  · exact awake

theorem Awake.release (channel : Nat) : (pool.release channel).Awake 0 := by
  unfold AsyncChannelPool.release
  split
  · exact awake
  · split
    · have returned : Awake 1 { pool with
          inUse := pool.inUse.erase channel, idle := pool.idle ++ [channel] } := by
        refine awake.of_fewer (fun _ waits => waits) (fun _ _ member => member) rfl fun _ => ?_
        change (pool.idle ++ [channel]).length + (pool.size - pool.created) +
          pool.number .woken + 0 ≤
            pool.idle.length + (pool.size - pool.created) + pool.number .woken + 1
        rw [length_append, length_singleton]
        omega
      exact returned.woken (wakeOne_spec _)
    · exact (awake.freeSlot _).woken (wakeOne_spec _)

theorem Awake.step (books : pool.Books) (spared : pool.Spared action)
    (taken : pool.step action = some pool') : pool'.Awake 0 := by
  cases action <;> simp only [step] at taken
  case acquire expired =>
    cases taken
    exact awake.join.attempted books.join pool.join_found (by simp) (attempt_spec _ _ _)
  case tryAcquireIdle =>
    cases taken
    rw [tryAcquireIdle_eq]
    exact awake.join.attempted books.join pool.join_found (by simp) (attempt_spec _ _ _)
  case resume acquirer expired =>
    split at taken <;> cases taken
    rename_i woken
    refine awake.attempted books woken (fun _ late => ?_) (attempt_spec _ _ _)
    subst late
    exact spared
  case cancel acquirer =>
    split at taken <;> cases taken
    rename_i waiting
    exact awake.move .cancelled waiting (by simp) (by simp)
  case unwind acquirer =>
    split at taken <;> cases taken
    next woken =>
      have passed : Awake 1 (pool.move acquirer .gone) := by
        refine awake.of_fewer (fun _ waits => (stage_of_move waits (by simp)).2)
          (fun _ _ member => member) rfl fun _ => ?_
        have moved : (pool.move acquirer .gone).number .woken + 1 = pool.number .woken := by
          simpa using number_move .woken .gone woken
        change pool.free + _ + 0 ≤ pool.free + _ + 1
        omega
      exact passed.woken (wakeOne_spec _)
    next cancelled =>
      have moved := awake.move .gone cancelled (by simp) (by simp)
      refine moved.of_fewer (fun _ waits => waits) (fun other waits member => ?_) rfl
        fun _ => le_refl _
      exact (mem_erase_of_ne (stage_of_move waits (by simp)).1).mpr member
  case openSucceeds acquirer =>
    split at taken
    next opening =>
      split at taken <;> cases taken
      next isClosed =>
        have moved := awake.move .gone opening (by simp) (by simp)
        refine moved.of_fewer (fun _ waits => waits) (fun _ _ member => member) rfl fun isOpen => ?_
        cases isOpen.symm.trans isClosed
      · have moved := awake.move (.holding pool.opened) opening (by simp) (by simp)
        exact ⟨moved.listed, moved.shut, moved.covered⟩
    · cases taken
  case openFails acquirer =>
    split at taken <;> cases taken
    rename_i opening
    have moved := awake.move .gone opening (by simp) (by simp)
    exact (moved.freeSlot pool.inUse).woken (wakeOne_spec _)
  case release caller channel =>
    cases taken
    exact (awake.giveBack caller channel).release channel
  case discard caller channel =>
    cases taken
    exact (awake.giveBack caller channel).discard channel
  case dies channel =>
    cases taken
    exact ⟨awake.listed, awake.shut, awake.covered⟩
  case closeAll =>
    cases taken
    have nobody (acquirer : Nat) (waits : pool.closeAll.Waits acquirer) : False := by
      obtain ⟨waited, unlisted⟩ := stage_of_wakeAll waits (by simp)
      exact unlisted rfl (awake.listed acquirer waited)
    exact ⟨fun acquirer waits => (nobody acquirer waits).elim,
      fun _ acquirer waits => nobody acquirer waits,
      fun acquirer waits => (nobody acquirer waits).elim⟩

end

/-- While a call sleeps, what is free is at most what the waiters that were woken and have
not resumed will take, in every run in which a woken waiter whose deadline has passed finds
a live idle channel, or leaves nobody asleep, or leaves enough others awake. -/
theorem no_lost_wakeup {size : Nat} {actions : List ChannelPoolAction}
    (run : RunWithin step Spared { size := size } actions pool) (waits : pool.Waits acquirer) :
    pool.free ≤ pool.number .woken := by
  have start : Books { size := size } ∧ Awake 0 { size := size } :=
    ⟨books_init size, nofun, nofun, nofun⟩
  have inv := run.invariant (fun {before} _ _ (held : before.Books ∧ before.Awake 0) admitted
    taken => ⟨held.1.step taken, held.2.step held.1 admitted taken⟩) start
  exact inv.2.covered acquirer waits

/-- The last holder of the only channel discards it with two calls waiting: the one that was
woken is on its way to the slot. -/
theorem no_lost_wakeup_slot : ∃ pool, RunWithin step Spared { size := 1 }
        [.acquire false, .openSucceeds 0, .acquire false, .acquire false, .discard 0 0] pool ∧
      pool.Waits 2 ∧ pool.free = 1 ∧ pool.free ≤ pool.number .woken := by
  refine exists_runWithin_of_check
    (fun pool => decide (pool.acquirers[2]? = some .waiting ∧ pool.free = 1)) (by decide)
    fun pool run checked => ?_
  obtain ⟨waits, slot⟩ := of_decide_eq_true checked
  exact ⟨waits, slot, no_lost_wakeup run waits⟩

/-- The woken call resumes after its deadline and raises: the slot is free, nobody was woken
for it, and the other call sleeps. -/
theorem lost_wakeup : ∃ pool, Run step { size := 1 }
        [.acquire false, .openSucceeds 0, .acquire false, .acquire false, .discard 0 0,
          .resume 1 true] pool ∧
      pool.Waits 2 ∧ pool.free = 1 ∧ pool.number .woken = 0 ∧ pool.number .opening = 0 :=
  ⟨_, run_of_execute rfl, rfl, rfl, rfl, rfl⟩

end AsyncChannelPool
end RabbitKit
