import RabbitKit.LabelledRun

/-! # Closing a group of ackers

`CoalescingAckerGroup` keeps one acker for each channel.  `for_channel` looks under the lock whether
the group is closed, builds an acker outside the lock and adds it under the lock again.  `close` and
`reset` take ackers out under the lock and go through them afterwards.
-/

namespace RabbitKit

open LabelledRun List

/-- A call of `for_channel`, which may be building its acker. -/
inductive ForChannelCall (Channel : Type*)
  | building (channel : Channel)
  | returned (acker : Nat)
  | batchClosedError (text : String)
  deriving DecidableEq

structure AckerSweep where
  closes : Bool
  done : List Nat := []
  todo : List Nat
  deriving DecidableEq

/-- `built` is the number of the next acker. -/
structure AckerGroup (Channel : Type*) where
  closed : Bool := false
  ackers : List (Channel × Nat) := []
  built : Nat := 0
  calls : List (ForChannelCall Channel) := []
  sweeps : List AckerSweep := []
  deriving DecidableEq

/-- `dropped` are the channels that `reset` finds closed. -/
inductive AckerGroupAction (Channel : Type*)
  | forChannel (channel : Channel)
  | insert (call : Nat)
  | reset (dropped : List Channel)
  | close
  | sweep (index : Nat)
  deriving DecidableEq

namespace AckerGroup

variable {Channel : Type*} [DecidableEq Channel] (group : AckerGroup Channel)

/-- `for_channel` up to the factory. -/
def enter (channel : Channel) : ForChannelCall Channel :=
  if group.closed then
    .batchClosedError "CoalescingAckerGroup is closed; for_channel() rejected"
  else
    match group.ackers.lookup channel with
    | some acker => .returned acker
    | none => .building channel

/-- `for_channel` after the factory. -/
def insert (call : Nat) : ForChannelCall Channel → Option (AckerGroup Channel)
  | .building channel =>
    match group.ackers.lookup channel with
    | some acker => some { group with calls := group.calls.set call (.returned acker) }
    | none =>
      some { group with
        ackers := group.ackers ++ [(channel, group.built)]
        built := group.built + 1
        calls := group.calls.set call (.returned group.built) }
  | _ => none

/-- `reset` and `close` take the ackers that leave out of the group. -/
def takeOut (closes : Bool) (leaves : Channel × Nat → Bool) : AckerGroup Channel :=
  { group with
    ackers := group.ackers.filter fun acker => !leaves acker
    sweeps := group.sweeps ++ [{ closes, todo := (group.ackers.filter leaves).map (·.2) }] }

/-- One acker of a sweep is reset or closed. -/
def sweepOne (index : Nat) (sweep : AckerSweep) : List Nat → Option (AckerGroup Channel)
  | [] => none
  | acker :: rest =>
    some { group with
      sweeps := group.sweeps.set index { sweep with done := sweep.done ++ [acker], todo := rest } }

def step : AckerGroupAction Channel → Option (AckerGroup Channel)
  | .forChannel channel => some { group with calls := group.calls ++ [group.enter channel] }
  | .insert call => group.calls[call]?.bind (group.insert call)
  | .reset dropped => some (group.takeOut false fun acker => acker.1 ∈ dropped)
  | .close => some { group.takeOut true fun _ => true with closed := true }
  | .sweep index => group.sweeps[index]?.bind fun sweep => group.sweepOne index sweep sweep.todo

/-- No call of `for_channel` comes back from the factory after the group was closed. -/
def Timely : AckerGroupAction Channel → Prop
  | .insert _ => group.closed = false
  | _ => True

instance : DecidablePred group.Timely := fun action => by
  unfold Timely
  split <;> infer_instance

/-- The acker is closed or reset, or a call of `close` or `reset` has it before it. -/
def Swept (acker : Nat) : Prop :=
  ∃ sweep ∈ group.sweeps, acker ∈ sweep.done ∨ acker ∈ sweep.todo

/-- Every acker that was handed out is in the group or swept, and a closed group has none. -/
structure Tracked : Prop where
  handed : ∀ acker, .returned acker ∈ group.calls →
    (∃ channel, (channel, acker) ∈ group.ackers) ∨ group.Swept acker
  emptied : group.closed = true → group.ackers = []

variable {group} {group' : AckerGroup Channel}

theorem mem_of_lookup {channel : Channel} {acker : Nat}
    (found : group.ackers.lookup channel = some acker) : (channel, acker) ∈ group.ackers := by
  obtain ⟨before, after, split, _⟩ := lookup_eq_some_iff.mp found
  simp [split]

omit [DecidableEq Channel] in
theorem tracked_takeOut (tracked : Tracked group) (closes : Bool) (leaves : Channel × Nat → Bool) :
    Tracked (group.takeOut closes leaves) where
  handed acker returned := by
    rcases tracked.handed acker returned with ⟨channel, member⟩ | ⟨sweep, swept, among⟩
    · cases leaving : leaves (channel, acker) with
      | true =>
        have taken := mem_map_of_mem (f := (·.2)) (mem_filter.mpr ⟨member, leaving⟩)
        exact .inr ⟨_, mem_append_right _ (mem_singleton_self _), .inr taken⟩
      | false => exact .inl ⟨channel, mem_filter.mpr ⟨member, by simp [leaving]⟩⟩
    · exact .inr ⟨sweep, mem_append_left _ swept, among⟩
  emptied closed := by
    dsimp only [takeOut]
    rw [tracked.emptied closed, filter_nil]

theorem tracked_insert {call : Nat} {stage : ForChannelCall Channel} (tracked : Tracked group)
    (opened : group.closed = false) (inserted : group.insert call stage = some group') :
    Tracked group' := by
  unfold insert at inserted
  split at inserted
  · split at inserted <;> cases inserted
    next acker existing =>
      refine ⟨fun other returned => ?_, tracked.emptied⟩
      rcases mem_or_eq_of_mem_set returned with before | now
      · exact tracked.handed other before
      · cases now
        exact .inl ⟨_, mem_of_lookup existing⟩
    · refine ⟨fun other returned => ?_, fun closed => by cases opened.symm.trans closed⟩
      rcases mem_or_eq_of_mem_set returned with before | now
      · refine (tracked.handed other before).imp_left fun ⟨owner, member⟩ => ?_
        exact ⟨owner, mem_append_left _ member⟩
      · cases now
        exact .inl ⟨_, mem_append_right _ (mem_singleton_self _)⟩
  · cases inserted

omit [DecidableEq Channel] in
theorem tracked_sweepOne {index : Nat} {sweep : AckerSweep} (tracked : Tracked group)
    (found : group.sweeps[index]? = some sweep)
    (swept : group.sweepOne index sweep sweep.todo = some group') : Tracked group' := by
  generalize next : sweep.todo = todo at swept
  cases todo with
  | nil => cases swept
  | cons acker rest =>
    cases swept
    refine ⟨fun other returned => ?_, tracked.emptied⟩
    refine (tracked.handed other returned).imp_right fun ⟨party, member, among⟩ => ?_
    obtain ⟨position, located⟩ := mem_iff_getElem?.mp member
    rcases getElem?_moved { sweep with done := sweep.done ++ [acker], todo := rest } found located
      with ⟨rfl, now⟩ | stands
    · exact ⟨_, mem_of_getElem? now, by simpa [next, or_assoc] using among⟩
    · exact ⟨party, mem_of_getElem? stands, among⟩

theorem tracked_step {action : AckerGroupAction Channel} (tracked : Tracked group)
    (timely : group.Timely action) (taken : group.step action = some group') : Tracked group' := by
  cases action with
  | forChannel channel =>
    cases taken
    refine ⟨fun acker returned => ?_, tracked.emptied⟩
    rcases mem_append.mp returned with before | now
    · exact tracked.handed acker before
    · have entered := mem_singleton.mp now
      unfold enter at entered
      split at entered
      · cases entered
      · split at entered <;> cases entered
        rename_i found
        exact .inl ⟨channel, mem_of_lookup found⟩
  | insert call =>
    obtain ⟨stage, _, inserted⟩ := Option.bind_eq_some_iff.mp taken
    exact tracked_insert tracked timely inserted
  | reset dropped =>
    cases taken
    exact tracked_takeOut tracked false _
  | close =>
    cases taken
    exact ⟨(tracked_takeOut tracked true fun _ => true).handed, fun _ => by simp [takeOut]⟩
  | sweep index =>
    obtain ⟨sweep, found, swept⟩ := Option.bind_eq_some_iff.mp taken
    exact tracked_sweepOne tracked found swept

/-- In a closed group there is no acker, and every acker that was handed out has been closed or
reset or is about to be. -/
theorem close_final {actions : List (AckerGroupAction Channel)}
    (run : RunWithin step Timely {} actions group) (closed : group.closed = true) :
    group.ackers = [] ∧ ∀ acker, .returned acker ∈ group.calls → group.Swept acker := by
  have tracked : Tracked group := run.invariant
    (fun held admitted taken => tracked_step held admitted taken) ⟨by simp, by simp⟩
  have empty := tracked.emptied closed
  refine ⟨empty, fun acker returned => (tracked.handed acker returned).resolve_left ?_⟩
  simp [empty]

theorem close_final_reset : ∃ group : AckerGroup Nat, RunWithin step Timely {}
        [.forChannel 7, .forChannel 7, .insert 1, .insert 0, .reset [7], .sweep 0, .forChannel 7,
          .insert 2, .close, .sweep 1, .forChannel 7] group ∧
      group.sweeps = [⟨false, [0], []⟩, ⟨true, [1], []⟩] ∧ group.ackers = [] ∧
      ∀ acker, .returned acker ∈ group.calls → group.Swept acker := by
  refine exists_runWithin_of_check
    (fun group => group.sweeps = [⟨false, [0], []⟩, ⟨true, [1], []⟩] ∧ group.closed = true)
    (by decide) fun group run checked => ?_
  obtain ⟨sweeps, closed⟩ := of_decide_eq_true checked
  exact ⟨sweeps, close_final run closed⟩

/-- A call comes back from the factory after `close` has returned, and its acker stays open. -/
theorem closed_group_grows :
    ∃ group : AckerGroup Nat, Run step {} [.forChannel 7, .close, .insert 0] group ∧
      group = ⟨true, [(7, 0)], 1, [.returned 0], [⟨true, [], []⟩]⟩ :=
  exists_runWithin_of_decide (by decide)

end AckerGroup
end RabbitKit
