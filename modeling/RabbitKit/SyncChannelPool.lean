import RabbitKit.LabelledRun

/-! # The channel pool of the sync side

An acquire takes an idle channel, or reserves a slot and opens a channel, or waits on the queue
of idle channels.  Each section under the lock and each operation of that queue is a step, and
the threads interleave between them.  A slot that is given up wakes nobody.
-/

namespace RabbitKit

open LabelledRun List

/-- Where a thread is between an acquire and the end of the release. -/
inductive SlotStage
  | arriving
  /-- Took a closed channel without waiting, or after it. -/
  | stale
  | staleAfterWait
  | reserving
  | opening
  | waiting
  | holding
  /-- The open failed, or the channel to release was closed. -/
  | dropping
  | ended
  deriving DecidableEq

namespace SlotStage

/-- A channel is checked out or being opened. -/
def occupies : SlotStage → Bool
  | .stale | .staleAfterWait | .opening | .holding | .dropping => true
  | _ => false

def givesUp : SlotStage → Bool
  | .stale | .staleAfterWait | .dropping => true
  | _ => false

end SlotStage

structure SyncChannelPool where
  poolSize : Nat
  created : Nat := 0
  idle : Nat := 0
  threads : List SlotStage := []

/-- `isOpen` says whether the channel that the step looks at is open. -/
inductive SyncPoolAction
  | acquire
  | run (thread : Nat) (isOpen : Bool)
  | timeout (thread : Nat)

namespace SyncChannelPool

/-- A channel leaves the pool. -/
def discard (pool : SyncChannelPool) : SyncChannelPool :=
  { pool with created := pool.created - 1 }

/-- One section of `acquire` or `release` for a thread. -/
def advance (pool : SyncChannelPool) (isOpen : Bool) :
    SlotStage → Option (SyncChannelPool × SlotStage)
  | .arriving =>
    if pool.idle = 0 then some (pool, .reserving)
    else some ({ pool with idle := pool.idle - 1 }, if isOpen then .holding else .stale)
  | .stale => some (pool.discard, .reserving)
  | .reserving =>
    if pool.created < pool.poolSize then
      some ({ pool with created := pool.created + 1 }, .opening)
    else some (pool, .waiting)
  | .opening => some (pool, if isOpen then .holding else .dropping)
  | .waiting =>
    if pool.idle = 0 then none
    else some ({ pool with idle := pool.idle - 1 }, if isOpen then .holding else .staleAfterWait)
  | .staleAfterWait => some (pool.discard, .arriving)
  -- A queue of size zero is unbounded.
  | .holding =>
    if isOpen = true ∧ (pool.poolSize = 0 ∨ pool.idle < pool.poolSize) then
      some ({ pool with idle := pool.idle + 1 }, .ended)
    else some (pool, .dropping)
  | .dropping => some (pool.discard, .ended)
  | .ended => none

def step (pool : SyncChannelPool) : SyncPoolAction → Option SyncChannelPool
  | .acquire => some { pool with threads := pool.threads ++ [.arriving] }
  | .run thread isOpen =>
    pool.threads[thread]?.bind fun stage =>
      (pool.advance isOpen stage).map fun result =>
        { result.1 with threads := pool.threads.set thread result.2 }
  | .timeout thread =>
    if pool.threads[thread]? = some .waiting ∧ pool.idle = 0 then
      some { pool with threads := pool.threads.set thread .ended }
    else none

/-- A thread waits for a channel, and the queue that it waits on is empty. -/
def Blocked (pool : SyncChannelPool) : Prop := .waiting ∈ pool.threads ∧ pool.idle = 0

/-- No slot is given up while a thread waits. -/
def keeps (pool : SyncChannelPool) : SyncPoolAction → Bool
  | .run thread _ => !pool.threads[thread]?.any SlotStage.givesUp || .waiting ∉ pool.threads
  | _ => true

variable {pool pool' : SyncChannelPool} {action : SyncPoolAction} {size : Nat}

/-- Every created channel is idle or in the hands of a thread. -/
structure Accounted (size : Nat) (pool : SyncChannelPool) : Prop where
  sized : pool.poolSize = size
  books : pool.created = pool.idle + pool.threads.countP (·.occupies)
  bounded : pool.created ≤ size

theorem countP_set_add {threads : List SlotStage} {thread : Nat} {stage : SlotStage}
    (found : threads[thread]? = some stage) (next : SlotStage) :
    (threads.set thread next).countP (·.occupies) + stage.occupies.toNat =
      threads.countP (·.occupies) + next.occupies.toNat := by
  obtain ⟨bound, rfl⟩ := List.getElem?_eq_some_iff.mp found
  have listed : threads[thread].occupies = true → 0 < threads.countP (·.occupies) := fun held =>
    countP_pos_iff.mpr ⟨_, getElem_mem bound, held⟩
  rw [countP_set bound]
  cases before : threads[thread].occupies <;> cases after : next.occupies <;> simp_all

theorem advance_spec {isOpen : Bool} {stage : SlotStage} {result : SyncChannelPool × SlotStage}
    (taken : pool.advance isOpen stage = some result) (held : stage.occupies.toNat ≤ pool.created) :
    result.1.poolSize = pool.poolSize ∧ result.1.created + pool.idle + stage.occupies.toNat =
        pool.created + result.1.idle + result.2.occupies.toNat ∧
      (pool.created ≤ pool.poolSize → result.1.created ≤ pool.poolSize) ∧
      (stage.givesUp = false → pool.created ≤ result.1.created) ∧
      (result.2 = .waiting → pool.poolSize ≤ result.1.created) := by
  cases stage <;> simp only [advance] at taken
  case ended => cases taken
  case arriving | reserving | waiting | holding =>
    split at taken <;> cases taken <;> cases isOpen <;>
      simp [SlotStage.occupies, SlotStage.givesUp] <;> omega
  case stale | opening | staleAfterWait | dropping =>
    cases taken
    cases isOpen <;> simp [discard, SlotStage.occupies, SlotStage.givesUp] at held ⊢ <;> omega

theorem Accounted.step (accounted : Accounted size pool) (taken : pool.step action = some pool') :
    Accounted size pool' ∧ ((.waiting ∈ pool.threads → pool.created = size) →
      pool.keeps action = true → .waiting ∈ pool'.threads → pool'.created = size) := by
  obtain ⟨rfl, books, bounded⟩ := accounted
  cases action with
  | acquire =>
    cases taken
    exact ⟨⟨rfl, by simpa [countP_append, SlotStage.occupies] using books, bounded⟩,
      fun full _ waiting => full (by simpa using waiting)⟩
  | run thread isOpen =>
    obtain ⟨stage, found, moved⟩ := Option.bind_eq_some_iff.mp taken
    obtain ⟨result, advanced, rfl⟩ := Option.map_eq_some_iff.mp moved
    have counted := countP_set_add found
    have ended : _ = _ + 0 := counted .ended
    obtain ⟨sized, books', bounded', keeps, waits⟩ := advance_spec advanced (by omega)
    have counted := counted result.2
    have bounded' := bounded' bounded
    refine ⟨⟨sized, by dsimp only; omega, bounded'⟩, fun full admitted waiting => ?_⟩
    dsimp only at waiting ⊢
    rcases mem_or_eq_of_mem_set waiting with old | new
    · have full := full old
      have kept := keeps (by simpa [SyncChannelPool.keeps, found, old] using admitted)
      omega
    · have full := waits new.symm
      omega
  | timeout thread =>
    simp only [SyncChannelPool.step] at taken
    split at taken
    next waits =>
      cases taken
      have counted : _ + 0 = _ + 0 := countP_set_add waits.1 .ended
      refine ⟨⟨rfl, by dsimp only; omega, bounded⟩, fun full _ waiting => full ?_⟩
      rcases mem_or_eq_of_mem_set waiting with old | new
      · exact old
      · cases new
    · cases taken

variable {actions : List SyncPoolAction}

theorem accounted_init (size : Nat) : Accounted size { poolSize := size } :=
  ⟨rfl, rfl, Nat.zero_le _⟩

theorem full_while_waiting
    (within : RunWithin step (fun pool action => pool.keeps action = true) { poolSize := size }
      actions pool) : Accounted size pool ∧ (.waiting ∈ pool.threads → pool.created = size) := by
  induction within with
  | nil => exact ⟨accounted_init size, by simp⟩
  | snoc _ admitted taken ih =>
    have stepped := ih.1.step taken
    exact ⟨stepped.1, stepped.2 ih.2 admitted⟩

/-- The created channels are those that are idle, checked out or being opened, and never too
many.  If no slot is given up while a thread waits, none is free while one is blocked. -/
theorem blocked_only_when_full (run : Run step { poolSize := size } actions pool) :
    (pool.created = pool.idle + pool.threads.countP (·.occupies) ∧ pool.created ≤ size) ∧
      (RunWithin step (fun pool action => pool.keeps action = true) { poolSize := size }
        actions pool → pool.Blocked → pool.created = size ∧ pool.idle = 0) := by
  have accounted : Accounted size pool :=
    run.invariant (fun held _ taken => (held.step taken).1) (accounted_init size)
  exact ⟨⟨accounted.books, accounted.bounded⟩, fun within blocked =>
    ⟨(full_while_waiting within).2 blocked.1, blocked.2⟩⟩

theorem blocked_only_when_full_one :
    ∃ pool, RunWithin step (fun pool action => pool.keeps action = true) { poolSize := 1 }
        [.acquire, .acquire, .run 0 true, .run 0 true, .run 0 true, .run 1 true, .run 1 true]
        pool ∧ pool.Blocked ∧ pool.created = 1 ∧ pool.idle = 0 :=
  exists_runWithin_of_check (fun pool => decide (SlotStage.waiting ∈ pool.threads ∧ pool.idle = 0))
    (by decide) fun _ run checked =>
      have blocked := of_decide_eq_true checked
      ⟨blocked, (blocked_only_when_full run.unrestricted).2 run blocked⟩

/-- The broker has closed the channel by the time it is released: its slot is free, and the
thread still waits. -/
theorem blocked_with_free_slot : ∃ pool, Run step { poolSize := 1 }
        [.acquire, .acquire, .run 0 true, .run 0 true, .run 0 true, .run 1 true, .run 1 true,
          .run 0 false, .run 0 true] pool ∧
      .waiting ∈ pool.threads ∧ pool.idle = 0 ∧ pool.created = 0 :=
  exists_runWithin_of_decide (by decide)

end SyncChannelPool
end RabbitKit
