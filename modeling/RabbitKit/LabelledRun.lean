import Mathlib.Data.List.Basic
import Mathlib.Logic.Basic
import Mathlib.Order.WellFounded

/-! # Finite runs of labelled transition systems

A system is a partial step function `State → Action → Option State`: the action
names which party moves and how its environment answers, so every interleaving
and every outcome is a list of actions.  `RunWithin` is a run each of whose
steps was taken in a state that admits its action, `Run` one without that
restriction, and `execute` the executable reading of both.
-/

namespace LabelledRun

open List

variable {State Action : Type*}

/-- Actions taken one after another, each admitted by the state it was taken in. -/
inductive RunWithin (step : State → Action → Option State)
    (admits : State → Action → Prop) (initial : State) :
    List Action → State → Prop
  | nil : RunWithin step admits initial [] initial
  | snoc {middle final : State} {actions : List Action} {action : Action}
      (earlier : RunWithin step admits initial actions middle)
      (admitted : admits middle action)
      (last : step middle action = some final) :
      RunWithin step admits initial (actions ++ [action]) final

/-- A run with no restriction on the states its actions are taken in. -/
abbrev Run (step : State → Action → Option State) :
    State → List Action → State → Prop :=
  RunWithin step fun _ _ => True

/-- Execute admitted actions from left to right, stopping at a disabled one. -/
def executeWithin (step : State → Action → Option State) (admits : State → Action → Prop)
    [∀ state action, Decidable (admits state action)] (initial : State)
    (actions : List Action) : Option State :=
  actions.foldlM (fun state action => if admits state action then step state action else none)
    initial

def execute (step : State → Action → Option State) (initial : State)
    (actions : List Action) : Option State :=
  executeWithin step (fun _ _ => True) initial actions

variable {step : State → Action → Option State}
variable {admits : State → Action → Prop}
variable {initial middle final : State} {first second actions : List Action}

theorem RunWithin.append (head : RunWithin step admits initial first middle)
    (tail : RunWithin step admits middle second final) :
    RunWithin step admits initial (first ++ second) final := by
  induction tail with
  | nil => simpa using head
  | snoc _ admitted last ih =>
    rw [← append_assoc]
    exact .snoc ih admitted last

theorem RunWithin.mono {allows : State → Action → Prop}
    (weaker : ∀ {state action}, admits state action → allows state action)
    (run : RunWithin step admits initial actions final) :
    RunWithin step allows initial actions final := by
  induction run with
  | nil => exact .nil
  | snoc _ admitted last ih => exact .snoc ih (weaker admitted) last

theorem RunWithin.unrestricted (run : RunWithin step admits initial actions final) :
    Run step initial actions final :=
  run.mono fun _ => trivial

theorem runWithin_of_executeWithin [∀ state action, Decidable (admits state action)]
    (executed : executeWithin step admits initial actions = some final) :
    RunWithin step admits initial actions final := by
  induction actions generalizing initial with
  | nil =>
    have same : initial = final := by simpa [executeWithin] using executed
    exact same ▸ .nil
  | cons action rest ih =>
    by_cases admitted : admits initial action
    · obtain ⟨next, stepped, remaining⟩ : ∃ next, step initial action = some next ∧
            executeWithin step admits next rest = some final := by
        simpa [executeWithin, foldlM_cons, Option.bind_eq_some_iff, admitted] using executed
      have one : RunWithin step admits initial [action] next := .snoc .nil admitted stepped
      exact one.append (ih remaining)
    · simp [executeWithin, foldlM_cons, admitted] at executed

theorem exists_runWithin_of_any (step : State → Action → Option State)
    (admits : State → Action → Prop) [∀ state action, Decidable (admits state action)]
    (initial : State) (actions : List Action) (check : State → Bool)
    (passed : (executeWithin step admits initial actions).any check = true) :
    ∃ final, RunWithin step admits initial actions final ∧ check final = true := by
  cases executed : executeWithin step admits initial actions with
  | none => simp [executed] at passed
  | some final => exact ⟨final, runWithin_of_executeWithin executed,
    by simpa [executed] using passed⟩

variable {holds : State → Prop}

/-- What a checked execution shows of the state that it ends in. -/
theorem exists_runWithin_of_check [∀ state action, Decidable (admits state action)]
    (check : State → Bool) (passed : (executeWithin step admits initial actions).any check = true)
    (shown : ∀ final, RunWithin step admits initial actions final → check final = true →
      holds final) : ∃ final, RunWithin step admits initial actions final ∧ holds final := by
  obtain ⟨final, run, checked⟩ := exists_runWithin_of_any step admits initial actions check passed
  exact ⟨final, run, shown final run checked⟩

theorem exists_runWithin_of_decide [∀ state action, Decidable (admits state action)]
    [DecidablePred holds]
    (passed : (executeWithin step admits initial actions).any (fun final => holds final) = true) :
    ∃ final, RunWithin step admits initial actions final ∧ holds final :=
  exists_runWithin_of_check _ passed fun _ _ => of_decide_eq_true

theorem run_of_execute (executed : execute step initial actions = some final) :
    Run step initial actions final :=
  runWithin_of_executeWithin executed

/-- An invariant kept by each admitted step holds at the end of the run. -/
theorem RunWithin.invariant (run : RunWithin step admits initial actions final)
    (preserved : ∀ {before action after}, holds before → admits before action →
      step before action = some after → holds after) (start : holds initial) : holds final := by
  induction run with
  | nil => exact start
  | snoc _ admitted last ih => exact preserved ih admitted last

/-! Where several parties are kept in a list, a step replaces the one that moves. -/

section Parties

variable {Party : Type*} {parties : List Party} {index position : Nat} {before after party : Party}

/-- After a move a party is the one that moved or stood there before. -/
theorem getElem?_of_moved (found : parties[index]? = some before)
    (located : (parties.set index after)[position]? = some party) :
    index = position ∧ party = after ∨ index ≠ position ∧ parties[position]? = some party := by
  have inBounds := (List.getElem?_eq_some_iff.mp found).1
  by_cases same : index = position
  · subst same
    have moved : after = party := by simpa [inBounds] using located
    exact .inl ⟨rfl, moved.symm⟩
  · exact .inr ⟨same, (List.getElem?_set_ne same).symm.trans located⟩

theorem getElem?_moved (after : Party) (found : parties[index]? = some before)
    (located : parties[position]? = some party) :
    (party = before ∧ (parties.set index after)[position]? = some after) ∨
      (parties.set index after)[position]? = some party := by
  have inBounds := (List.getElem?_eq_some_iff.mp found).1
  by_cases same : index = position
  · subst same
    have moved : before = party := Option.some.inj (found.symm.trans located)
    exact .inl ⟨moved.symm, by simp [inBounds]⟩
  · exact .inr ((List.getElem?_set_ne same).trans located)

/-- After a party joins at the end, a party is that one or stood there before. -/
theorem getElem?_of_joined {joined : Party}
    (located : (parties ++ [joined])[position]? = some party) :
    parties[position]? = some party ∨ position = parties.length ∧ party = joined := by
  rw [getElem?_append] at located
  split at located
  · exact .inl located
  next outside =>
    obtain ⟨inBounds, same⟩ := List.getElem?_eq_some_iff.mp located
    have last : position = parties.length := by simp at inBounds; omega
    exact .inr ⟨last, by simpa using same.symm⟩

def weigh (weight : Party → Nat) : List Party → Nat
  | [] => 0
  | first :: rest => weight first + weigh weight rest

@[simp]
theorem weigh_append (weight : Party → Nat) (first second : List Party) :
    weigh weight (first ++ second) = weigh weight first + weigh weight second := by
  induction first with
  | nil => simp [weigh]
  | cons _ _ ih => simp [weigh, ih, Nat.add_assoc]

/-- A move changes what the party that moves holds, and nothing else. -/
theorem weigh_set (weight : Party → Nat) (after : Party) (found : parties[index]? = some before) :
    weigh weight (parties.set index after) + weight before =
      weigh weight parties + weight after := by
  induction parties generalizing index with
  | nil => cases found
  | cons first rest ih =>
    cases index with
    | zero =>
      cases found
      simp only [set_cons_zero, weigh]
      omega
    | succ index =>
      have located : rest[index]? = some before := by simpa using found
      have moved := ih located
      simp only [set_cons_succ, weigh]
      omega

/-- What the parties have in hand, when one of them takes and gives away something. -/
theorem flatMap_set_perm {Item : Type*} {hands : Party → List Item} {taken given : List Item}
    (found : parties[index]? = some before)
    (moved : given ++ hands after = hands before ++ taken) :
    (given ++ (parties.set index after).flatMap hands).Perm (parties.flatMap hands ++ taken) := by
  induction parties generalizing index with
  | nil => cases found
  | cons first rest ih =>
    cases index with
    | zero =>
      cases found
      simp only [set_cons_zero, flatMap_cons]
      rw [← append_assoc, moved, append_assoc, append_assoc]
      exact perm_append_comm.append_left _
    | succ index =>
      simp only [set_cons_succ, flatMap_cons, append_assoc]
      exact (perm_append_comm_assoc _ _ _).trans ((ih found).append_left _)

theorem weigh_eq_zero {weight : Party → Nat} (nothing : ∀ party ∈ parties, weight party = 0) :
    weigh weight parties = 0 := by
  induction parties with
  | nil => rfl
  | cons first rest ih => simp [weigh, nothing first,
    ih fun party member => nothing party (by simp [member])]

end Parties

end LabelledRun
