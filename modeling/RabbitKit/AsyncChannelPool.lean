import RabbitKit.LabelledRun

/-! # The async channel pool

`AsyncChannelPool` keeps the channels of one connection: `_pool` holds the idle ones, `_in_use`
those checked out, and `_created` counts both and the channels being opened. Its bookkeeping never
awaits, so the steps of the model are the stretches of code between two suspensions of `acquire`:
the wait on a future of `_waiters`, and the open of a channel.

A caller of `acquire` is known by its position in `acquirers`, a channel by the number of channels
opened before it. `dead` are the channels whose `is_closed` is true.
-/

namespace RabbitKit

open LabelledRun List

/-- Where a call of `acquire` stands: its future is pending, was cancelled, or has its
result; it opens a channel; its caller has the channel; or it is over. -/
inductive Acquirer
  | waiting
  | cancelled
  | woken
  | opening
  | holding (channel : Nat)
  | gone
  deriving DecidableEq

structure AsyncChannelPool where
  size : Nat
  idle : List Nat := []
  inUse : List Nat := []
  created : Nat := 0
  waiters : List Nat := []
  closed : Bool := false
  acquirers : List Acquirer := []
  dead : List Nat := []
  opened : Nat := 0
  deriving DecidableEq

/-- `expired` tells whether the deadline of the call has passed when it looks at the clock.
`cancel` cancels or times out a call that waits; `unwind` is its `except` block.  The caller
of `release` and `discard` need not have the channel. -/
inductive ChannelPoolAction
  | acquire (expired : Bool)
  | tryAcquireIdle
  | resume (acquirer : Nat) (expired : Bool)
  | cancel (acquirer : Nat)
  | unwind (acquirer : Nat)
  | openSucceeds (acquirer : Nat)
  | openFails (acquirer : Nat)
  | release (caller channel : Nat)
  | discard (caller channel : Nat)
  | dies (channel : Nat)
  | closeAll
  deriving DecidableEq

namespace AsyncChannelPool

def move (pool : AsyncChannelPool) (acquirer : Nat) (moved : Acquirer) : AsyncChannelPool :=
  { pool with acquirers := pool.acquirers.set acquirer moved }

/-- A new task. -/
def join (pool : AsyncChannelPool) : AsyncChannelPool :=
  { pool with acquirers := pool.acquirers ++ [.gone] }

/-- `_wake_one`: the first waiter whose future is pending is woken, and those before it
leave the queue. -/
def wakeOne (pool : AsyncChannelPool) : AsyncChannelPool :=
  go pool.waiters
where
  go : List Nat → AsyncChannelPool
    | [] => { pool with waiters := [] }
    | acquirer :: rest =>
      if pool.acquirers[acquirer]? = some .waiting then
        { pool.move acquirer .woken with waiters := rest }
      else go rest

/-- `_wake_all`. -/
def wakeAll (pool : AsyncChannelPool) : AsyncChannelPool :=
  { pool with
    waiters := []
    acquirers := pool.acquirers.mapIdx fun acquirer stage =>
      if acquirer ∈ pool.waiters ∧ stage = .waiting then .woken else stage }

/-- `_take_idle`: closed channels found on the way give their slots back. -/
def takeIdle (pool : AsyncChannelPool) : Option Nat × AsyncChannelPool :=
  go pool.idle pool.created
where
  go : List Nat → Nat → Option Nat × AsyncChannelPool
    | [], created => (none, { pool with idle := [], created := created })
    | channel :: rest, created =>
      if channel ∈ pool.dead then go rest (created - 1)
      else (some channel, { pool with idle := rest, created := created })

def checkOut (pool : AsyncChannelPool) (acquirer channel : Nat) : AsyncChannelPool :=
  { pool.move acquirer (.holding channel) with inUse := channel :: pool.inUse }

/-- `try_acquire_idle`. -/
def tryAcquireIdle (pool : AsyncChannelPool) (acquirer : Nat) : AsyncChannelPool :=
  if pool.closed then pool.move acquirer .gone
  else
    match pool.takeIdle with
    | (some channel, taken) => taken.checkOut acquirer channel
    | (none, taken) => taken.move acquirer .gone

/-- The loop of `acquire` up to its next suspension. -/
def attempt (pool : AsyncChannelPool) (acquirer : Nat) (expired : Bool) : AsyncChannelPool :=
  if pool.closed then pool.move acquirer .gone
  else
    match pool.takeIdle with
    | (some channel, taken) => taken.checkOut acquirer channel
    | (none, taken) =>
      if expired then taken.move acquirer .gone
      else if taken.created < taken.size then
        { taken.move acquirer .opening with created := taken.created + 1 }
      else { taken.move acquirer .waiting with waiters := taken.waiters ++ [acquirer] }

/-- The holder gives its channel up. -/
def giveBack (pool : AsyncChannelPool) (caller channel : Nat) : AsyncChannelPool :=
  if pool.acquirers[caller]? = some (.holding channel) then pool.move caller .gone else pool

def drop (pool : AsyncChannelPool) (channel : Nat) : AsyncChannelPool :=
  wakeOne { pool with inUse := pool.inUse.erase channel, created := pool.created - 1 }

/-- `discard`. -/
def discard (pool : AsyncChannelPool) (channel : Nat) : AsyncChannelPool :=
  if channel ∈ pool.inUse then pool.drop channel else pool

/-- The queue of idle channels has room for `size` of them, or for any number when `size`
is zero. -/
def release (pool : AsyncChannelPool) (channel : Nat) : AsyncChannelPool :=
  if channel ∉ pool.inUse then pool
  else if channel ∉ pool.dead ∧ pool.closed = false ∧
      (pool.size = 0 ∨ pool.idle.length < pool.size) then
    wakeOne { pool with inUse := pool.inUse.erase channel, idle := pool.idle ++ [channel] }
  else pool.drop channel

/-- `close_all` and `abandon`, which differ in how they close the channels. -/
def closeAll (pool : AsyncChannelPool) : AsyncChannelPool :=
  { pool.wakeAll with closed := true, idle := [], inUse := [], created := 0 }

def step (pool : AsyncChannelPool) : ChannelPoolAction → Option AsyncChannelPool
  | .acquire expired => some (pool.join.attempt pool.acquirers.length expired)
  | .tryAcquireIdle => some (pool.join.tryAcquireIdle pool.acquirers.length)
  | .resume acquirer expired =>
    if pool.acquirers[acquirer]? = some .woken then some (pool.attempt acquirer expired)
    else none
  | .cancel acquirer =>
    if pool.acquirers[acquirer]? = some .waiting then some (pool.move acquirer .cancelled)
    else none
  | .unwind acquirer =>
    match pool.acquirers[acquirer]? with
    | some .woken => some (pool.move acquirer .gone).wakeOne
    | some .cancelled =>
      some { pool.move acquirer .gone with waiters := pool.waiters.erase acquirer }
    | _ => none
  | .openSucceeds acquirer =>
    if pool.acquirers[acquirer]? = some .opening then
      if pool.closed then
        some { pool.move acquirer .gone with
          created := pool.created - 1, opened := pool.opened + 1 }
      else some { pool.checkOut acquirer pool.opened with opened := pool.opened + 1 }
    else none
  | .openFails acquirer =>
    if pool.acquirers[acquirer]? = some .opening then
      some { pool.move acquirer .gone with created := pool.created - 1 }.wakeOne
    else none
  | .release caller channel => some ((pool.giveBack caller channel).release channel)
  | .discard caller channel => some ((pool.giveBack caller channel).discard channel)
  | .dies channel => some { pool with dead := channel :: pool.dead }
  | .closeAll => some pool.closeAll

variable {pool pool' : AsyncChannelPool} {acquirer other : Nat} {expired : Bool}
  {stage before after : Acquirer}

def number (pool : AsyncChannelPool) (stage : Acquirer) : Nat :=
  weigh (fun other => if other = stage then 1 else 0) pool.acquirers

theorem number_move (stage after : Acquirer) (found : pool.acquirers[acquirer]? = some before) :
    (pool.move acquirer after).number stage + (if before = stage then 1 else 0) =
      pool.number stage + (if after = stage then 1 else 0) :=
  weigh_set _ after found

theorem number_join (stage : Acquirer) (different : stage ≠ .gone) :
    pool.join.number stage = pool.number stage := by
  simp [number, join, weigh, different.symm]

/-- The outcomes of the loop of `acquire`.  Idle channels in front of the one taken, or all
of them where none is taken, were dead and have given their slots back. -/
inductive Attempt (pool : AsyncChannelPool) (acquirer : Nat) (expired : Bool) :
    AsyncChannelPool → Prop
  | refused (isClosed : pool.closed = true) :
      Attempt pool acquirer expired (pool.move acquirer .gone)
  | took {stale rest : List Nat} {channel : Nat} (isOpen : pool.closed = false)
      (idle : pool.idle = stale ++ channel :: rest) (live : channel ∉ pool.dead) :
      Attempt pool acquirer expired
        ({ pool with idle := rest, created := pool.created - stale.length }.checkOut
          acquirer channel)
  | exhausted (isOpen : pool.closed = false) (stale : ∀ channel ∈ pool.idle, channel ∈ pool.dead)
      (late : expired = true) :
      Attempt pool acquirer expired
        ({ pool with idle := [], created := pool.created - pool.idle.length }.move acquirer .gone)
  | opens (isOpen : pool.closed = false)
      (room : pool.created - pool.idle.length < pool.size) :
      Attempt pool acquirer expired
        { pool.move acquirer .opening with
          idle := [], created := pool.created - pool.idle.length + 1 }
  | waits (isOpen : pool.closed = false)
      (full : pool.size ≤ pool.created - pool.idle.length) :
      Attempt pool acquirer expired
        { pool.move acquirer .waiting with
          idle := [], created := pool.created - pool.idle.length
          waiters := pool.waiters ++ [acquirer] }

section

variable (pool : AsyncChannelPool)

theorem takeIdle_go (idle : List Nat) (created : Nat) :
    (∃ stale channel rest, idle = stale ++ channel :: rest ∧ channel ∉ pool.dead ∧
      takeIdle.go pool idle created =
        (some channel, { pool with idle := rest, created := created - stale.length })) ∨
    (∀ channel ∈ idle, channel ∈ pool.dead) ∧ takeIdle.go pool idle created =
        (none, { pool with idle := [], created := created - idle.length }) := by
  induction idle generalizing created with
  | nil => exact .inr ⟨nofun, rfl⟩
  | cons channel rest ih =>
    by_cases dead : channel ∈ pool.dead
    · have skipped : takeIdle.go pool (channel :: rest) created =
          takeIdle.go pool rest (created - 1) := by
        simp [takeIdle.go, dead]
      rw [skipped]
      rcases ih (created - 1) with ⟨stale, taken, left, rfl, live, found⟩ | ⟨all, found⟩
      · refine .inl ⟨channel :: stale, taken, left, rfl, live, found.trans ?_⟩
        rw [length_cons, Nat.sub_sub, Nat.add_comm 1]
      · refine .inr ⟨forall_mem_cons.mpr ⟨dead, all⟩, found.trans ?_⟩
        rw [length_cons, Nat.sub_sub, Nat.add_comm 1]
    · exact .inl ⟨[], channel, rest, rfl, dead, by simp [takeIdle.go, dead]⟩

theorem attempt_spec (acquirer : Nat) (expired : Bool) :
    Attempt pool acquirer expired (pool.attempt acquirer expired) := by
  unfold attempt
  split
  next isClosed =>
    exact .refused isClosed
  next isOpen =>
    have isOpen : pool.closed = false := by simpa using isOpen
    rcases takeIdle_go pool pool.idle pool.created with
      ⟨stale, channel, rest, idle, live, found⟩ | ⟨stale, found⟩
    · have found : pool.takeIdle = _ := found
      rw [found]
      exact .took isOpen idle live
    · have found : pool.takeIdle = _ := found
      rw [found]
      dsimp only
      split
      next late =>
        exact .exhausted isOpen stale late
      · split
        next room =>
          exact .opens isOpen room
        next full =>
          exact .waits isOpen (Nat.le_of_not_lt full)

theorem tryAcquireIdle_eq (acquirer : Nat) :
    pool.tryAcquireIdle acquirer = pool.attempt acquirer true := by
  simp [tryAcquireIdle, attempt]

end

inductive Woken (pool : AsyncChannelPool) : AsyncChannelPool → Prop
  | nobody (settled : ∀ acquirer ∈ pool.waiters, pool.acquirers[acquirer]? ≠ some .waiting) :
      Woken pool { pool with waiters := [] }
  | woke {skipped rest : List Nat} {acquirer : Nat}
      (waiters : pool.waiters = skipped ++ acquirer :: rest)
      (settled : ∀ acquirer ∈ skipped, pool.acquirers[acquirer]? ≠ some .waiting)
      (pending : pool.acquirers[acquirer]? = some .waiting) :
      Woken pool { pool.move acquirer .woken with waiters := rest }

theorem wakeOne_go (pool : AsyncChannelPool) (skipped waiters : List Nat)
    (all : pool.waiters = skipped ++ waiters)
    (settled : ∀ acquirer ∈ skipped, pool.acquirers[acquirer]? ≠ some .waiting) :
    Woken pool (wakeOne.go pool waiters) := by
  induction waiters generalizing skipped with
  | nil => exact .nobody (by simpa [all] using settled)
  | cons acquirer rest ih =>
    by_cases pending : pool.acquirers[acquirer]? = some .waiting
    · have woke : wakeOne.go pool (acquirer :: rest) =
          { pool.move acquirer .woken with waiters := rest } := by
        simp [wakeOne.go, pending]
      exact woke ▸ .woke all settled pending
    · have skips : wakeOne.go pool (acquirer :: rest) = wakeOne.go pool rest := by
        simp [wakeOne.go, pending]
      rw [skips]
      refine ih (skipped ++ [acquirer]) (by simpa using all) ?_
      intro other member
      rcases mem_append.mp member with member | member
      · exact settled other member
      · exact mem_singleton.mp member ▸ pending

theorem wakeOne_spec (pool : AsyncChannelPool) : Woken pool pool.wakeOne :=
  wakeOne_go pool [] pool.waiters rfl nofun

theorem stage_of_move (found : (pool.move acquirer after).acquirers[other]? = some stage)
    (different : after ≠ stage) : other ≠ acquirer ∧ pool.acquirers[other]? = some stage := by
  unfold move at found
  rw [getElem?_set] at found
  split at found
  · split at found
    · exact absurd (Option.some.inj found) different
    · cases found
  next apart =>
    exact ⟨.symm apart, found⟩

theorem stage_of_join (found : pool.join.acquirers[other]? = some stage)
    (different : stage ≠ .gone) : pool.acquirers[other]? = some stage := by
  rcases getElem?_of_joined found with found | ⟨-, rfl⟩
  · exact found
  · exact absurd rfl different

theorem join_found (pool : AsyncChannelPool) :
    pool.join.acquirers[pool.acquirers.length]? = some .gone := by
  simp [join]

theorem stage_of_woken (woken : Woken pool pool') (found : pool'.acquirers[other]? = some stage)
    (different : stage ≠ .woken) : pool.acquirers[other]? = some stage := by
  cases woken with
  | nobody => exact found
  | woke => exact (stage_of_move found different.symm).2

theorem stage_of_wakeAll (found : pool.wakeAll.acquirers[other]? = some stage)
    (different : stage ≠ .woken) :
    pool.acquirers[other]? = some stage ∧ (stage = .waiting → other ∉ pool.waiters) := by
  unfold wakeAll at found
  rw [getElem?_mapIdx, Option.map_eq_some_iff] at found
  obtain ⟨before, located, same⟩ := found
  split at same
  · exact absurd same.symm different
  next kept =>
    subst same
    exact ⟨located, fun waiting listed => kept ⟨listed, waiting⟩⟩

theorem giveBack_eq (pool : AsyncChannelPool) (caller channel : Nat) :
    ∃ acquirers, pool.giveBack caller channel = { pool with acquirers := acquirers } := by
  unfold giveBack
  split
  · exact ⟨_, rfl⟩
  · exact ⟨_, rfl⟩

theorem stage_of_giveBack {caller channel : Nat}
    (found : (pool.giveBack caller channel).acquirers[other]? = some stage)
    (different : stage ≠ .gone) : pool.acquirers[other]? = some stage := by
  unfold giveBack at found
  split at found
  · exact (stage_of_move found different.symm).2
  · exact found

end AsyncChannelPool
end RabbitKit
