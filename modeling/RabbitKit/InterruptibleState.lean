import Mathlib.Logic.Basic

/-! # Programs that change a state and may be interrupted

A program is a computation of `ExceptT ε (StateM σ)`: it ends with a value or with
an interrupt, and keeps the changes it made to the state in both cases.
`Ensures program post` is the weakest precondition of a postcondition on the end
and the final state.  The rules push it through the constructs of a `do` block.
-/

namespace InterruptibleState

variable {σ ε α β : Type}

/-- From this state, the program ends as the postcondition demands. -/
def Ensures (program : ExceptT ε (StateM σ) α) (post : Except ε α → σ → Prop) (state : σ) :
    Prop :=
  post (program.run.run state).1 (program.run.run state).2

def afterValue (post : Except ε β → σ → Prop) (next : α → ExceptT ε (StateM σ) β) :
    Except ε α → σ → Prop
  | .ok value, state => Ensures (next value) post state
  | .error interrupt, state => post (.error interrupt) state

def afterInterrupt (post : Except ε α → σ → Prop) (handler : ε → ExceptT ε (StateM σ) α) :
    Except ε α → σ → Prop
  | .ok value, state => post (.ok value) state
  | .error interrupt, state => Ensures (handler interrupt) post state

variable {program : ExceptT ε (StateM σ) α} {post post' : Except ε α → σ → Prop} {state : σ}

theorem Ensures.mono (ensures : Ensures program post state)
    (weaker : ∀ result final, post result final → post' result final) :
    Ensures program post' state :=
  weaker _ _ ensures

theorem ensures_iff_of_run {result : Except ε α} {final : σ}
    (ran : program.run.run state = (result, final)) :
    Ensures program post state ↔ post result final := by
  unfold Ensures
  rw [ran]

theorem run_eq_of_ensures {result : Except ε α} {final : σ}
    (ensures : Ensures program (fun ended last => ended = result ∧ last = final) state) :
    program.run.run state = (result, final) :=
  Prod.ext ensures.1 ensures.2

@[simp]
theorem afterValue_ok (post : Except ε β → σ → Prop) (next : α → ExceptT ε (StateM σ) β)
    (value : α) (state : σ) :
    afterValue post next (.ok value) state ↔ Ensures (next value) post state :=
  .rfl

@[simp]
theorem afterValue_error (post : Except ε β → σ → Prop) (next : α → ExceptT ε (StateM σ) β)
    (interrupt : ε) (state : σ) :
    afterValue post next (.error interrupt) state ↔ post (.error interrupt) state :=
  .rfl

@[simp]
theorem afterInterrupt_ok (post : Except ε α → σ → Prop)
    (handler : ε → ExceptT ε (StateM σ) α) (value : α) (state : σ) :
    afterInterrupt post handler (.ok value) state ↔ post (.ok value) state :=
  .rfl

@[simp]
theorem afterInterrupt_error (post : Except ε α → σ → Prop)
    (handler : ε → ExceptT ε (StateM σ) α) (interrupt : ε) (state : σ) :
    afterInterrupt post handler (.error interrupt) state ↔ Ensures (handler interrupt) post state :=
  .rfl

@[simp]
theorem ensures_pure (value : α) :
    Ensures (pure value : ExceptT ε (StateM σ) α) post state ↔ post (.ok value) state :=
  .rfl

@[simp]
theorem ensures_throw (interrupt : ε) :
    Ensures (throw interrupt : ExceptT ε (StateM σ) α) post state ↔ post (.error interrupt) state :=
  .rfl

@[simp]
theorem ensures_bind {next : α → ExceptT ε (StateM σ) β} {post : Except ε β → σ → Prop} :
    Ensures (program >>= next) post state ↔ Ensures program (afterValue post next) state := by
  unfold Ensures
  cases ended : program.run.run state with
  | mk result final => 
    have ran : (program >>= next).run.run state = match result with
        | .ok value => (next value).run.run final
        | .error interrupt => (.error interrupt, final) := by
      simp only [ExceptT.run_bind, StateT.run_bind, ended]
      cases result <;> rfl
    rw [ran]
    cases result <;> rfl

@[simp]
theorem ensures_tryCatch {handler : ε → ExceptT ε (StateM σ) α} :
    Ensures (tryCatch program handler) post state ↔
      Ensures program (afterInterrupt post handler) state := by
  unfold Ensures
  cases ended : program.run.run state with
  | mk result final => 
    have ran : (tryCatch program handler).run.run state = match result with
        | .ok value => (.ok value, final)
        | .error interrupt => (handler interrupt).run.run final := by
      simp only [ExceptT.run_tryCatch, StateT.run_bind, ended]
      cases result <;> rfl
    rw [ran]
    cases result <;> rfl

@[simp]
theorem ensures_get {post : Except ε σ → σ → Prop} :
    Ensures (get : ExceptT ε (StateM σ) σ) post state ↔ post (.ok state) state :=
  .rfl

@[simp]
theorem ensures_modify {change : σ → σ} {post : Except ε PUnit → σ → Prop} :
    Ensures (modify change : ExceptT ε (StateM σ) PUnit) post state ↔
      post (.ok ⟨⟩) (change state) :=
  .rfl

theorem run_bind_congr {next next' : α → ExceptT ε (StateM σ) β}
    (same : Ensures program (fun result final => ∀ value, result = .ok value →
      (next value).run.run final = (next' value).run.run final) state) :
    (program >>= next).run.run state = (program >>= next').run.run state := by
  unfold Ensures at same
  cases ended : program.run.run state with
  | mk result final =>
    rw [ended] at same
    simp only [ExceptT.run_bind, StateT.run_bind, ended]
    cases result with
    | ok value => exact same value rfl
    | error interrupt => rfl

theorem run_bind_congr_left {program' : ExceptT ε (StateM σ) α} (next : α → ExceptT ε (StateM σ) β)
    (same : program.run.run state = program'.run.run state) :
    (program >>= next).run.run state = (program' >>= next).run.run state := by
  simp only [ExceptT.run_bind, StateT.run_bind, same]

@[simp]
theorem ensures_map {change : α → β} {post : Except ε β → σ → Prop} :
    Ensures (change <$> program) post state ↔
      Ensures program (afterValue post fun value => pure (change value)) state := by
  rw [map_eq_pure_bind, ensures_bind]

end InterruptibleState
