import Mathlib.Logic.Basic

/-! # Scripts of calls to a surrounding world

A script is a program seen from outside: it makes calls, goes on as their answers say, and ends with
a value or an error. Code that is not known, such as the callbacks a library is handed, is any
script, and a library written as a script can be run against several worlds.

`Script.andThen` continues with the end of a script, whether it is a value or an error.
-/

namespace InteractionScripts

inductive Script (Call : Type) (Answer : Call → Type) (ε α : Type)
  | ends (result : Except ε α)
  | calls (call : Call) (next : Answer call → Script Call Answer ε α)

variable {Call : Type} {Answer : Call → Type} {ε α β σ : Type}

namespace Script

def andThen (script : Script Call Answer ε α) (next : Except ε α → Script Call Answer ε β) :
    Script Call Answer ε β :=
  match script with
  | .ends result => next result
  | .calls call rest => .calls call fun answer => (rest answer).andThen next

def raise (error : ε) : Script Call Answer ε α := .ends (.error error)

def onValue (next : α → Script Call Answer ε β) : Except ε α → Script Call Answer ε β
  | .ok value => next value
  | .error error => raise error

def onError (handler : ε → Script Call Answer ε α) : Except ε α → Script Call Answer ε α
  | .ok value => .ends (.ok value)
  | .error error => handler error

instance : Monad (Script Call Answer ε) where
  pure value := .ends (.ok value)
  bind script next := script.andThen (onValue next)

def catching (script : Script Call Answer ε α) (handler : ε → Script Call Answer ε α) :
    Script Call Answer ε α :=
  script.andThen (onError handler)

def perform (call : Call) : Script Call Answer ε (Answer call) :=
  .calls call fun answer => .ends (.ok answer)

def run (world : (call : Call) → σ → Answer call × σ) :
    Script Call Answer ε α → σ → Except ε α × σ
  | .ends result, state => (result, state)
  | .calls call next, state => (next (world call state).1).run world (world call state).2

variable {world : (call : Call) → σ → Answer call × σ} {script : Script Call Answer ε α}
  {state : σ}

@[simp]
theorem run_ends (result : Except ε α) :
    (Script.ends result : Script Call Answer ε α).run world state = (result, state) :=
  rfl

@[simp]
theorem run_calls (call : Call) (next : Answer call → Script Call Answer ε α) :
    (Script.calls call next).run world state =
      (next (world call state).1).run world (world call state).2 :=
  rfl

theorem run_andThen (next : Except ε α → Script Call Answer ε β) :
    (script.andThen next).run world state =
      (next (script.run world state).1).run world (script.run world state).2 := by
  induction script generalizing state with
  | ends result => rfl
  | calls call rest ih => exact ih (world call state).1

@[simp]
theorem andThen_ends : script.andThen .ends = script := by
  induction script with
  | ends result => rfl
  | calls call rest ih => exact congrArg (Script.calls call) (funext ih)

theorem bind_pure_unit (script : Script Call Answer ε Unit) : (do script; pure ()) = script := by
  have next : (onValue fun _ => pure () : Except ε Unit → Script Call Answer ε Unit) = .ends := by
    funext result
    cases result <;> rfl
  change script.andThen (onValue fun _ => pure ()) = script
  rw [next, andThen_ends]

/-- What every call keeps is kept by the run of a script. -/
theorem run_invariant (invariant : σ → Prop)
    (kept : ∀ call state, invariant state → invariant (world call state).2)
    (holds : invariant state) : invariant (script.run world state).2 := by
  induction script generalizing state with
  | ends result => exact holds
  | calls call rest ih => exact ih _ (kept call state holds)

end Script
end InteractionScripts
