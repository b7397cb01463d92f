import RabbitKit.LabelledRun

/-! # The life cycle of an application

`start` and `stop` of `core/app.py` run the registered hooks around changes of
the application's state.  `start_async` and `stop_async` have the same bodies
over the asynchronous hook runner, so a call carries its runner and what each of
its hooks does.
-/

namespace RabbitKit

open LabelledRun

inductive AppState
  | idle | starting | running | stopping | stopped
  deriving DecidableEq

def AppState.Settled (state : AppState) : Prop :=
  state = .idle ∨ state = .running ∨ state = .stopped

/-- What a hook does when it is called.  It `overruns` if it takes longer than
the startup timeout, and `interrupts` if it ends with a `BaseException` that is
no `Exception`, as the cancellation of the awaiting task is. -/
inductive HookEffect
  | returns | givesCoroutine | raises | overruns | interrupts
  deriving DecidableEq

inductive HookEnd
  | returned | failed | interrupted
  deriving DecidableEq

inductive HookRunner
  | sync | async

namespace HookRunner

/-- One hook of `_run_hooks_sync` or `_run_hooks_async`. -/
def runHook (runner : HookRunner) (timed : Bool) : HookEffect → HookEnd
  | .returns => .returned
  | .givesCoroutine =>
    match runner with
    | .sync => .failed
    | .async => .returned
  | .raises => .failed
  | .overruns => if timed then .failed else .returned
  | .interrupts => .interrupted

/-- `_run_hooks_sync` and `_run_hooks_async`: the hooks called, and how that ended. -/
def runHooks (runner : HookRunner) (timed : Bool) : List HookEffect → List HookEffect × HookEnd
  | [] => ([], .returned)
  | hook :: rest =>
    match runner.runHook timed hook with
    | .returned => (hook :: (runner.runHooks timed rest).1, (runner.runHooks timed rest).2)
    | ended => ([hook], ended)

theorem all_called {runner : HookRunner} {timed : Bool} {hooks : List HookEffect}
    (returned : (runner.runHooks timed hooks).2 = .returned) :
    (runner.runHooks timed hooks).1 = hooks := by
  induction hooks with
  | nil => rfl
  | cons hook rest ih =>
    rw [runHooks] at returned ⊢
    cases ended : runner.runHook timed hook with
    | returned =>
      rw [ended] at returned
      exact congrArg (hook :: ·) (ih returned)
    | failed => simp [ended] at returned
    | interrupted => simp [ended] at returned

end HookRunner

/-- One call; `timed` says that a startup timeout is set. -/
structure AppCall where
  runner : HookRunner
  timed : Bool
  onStartup : List HookEffect
  afterStartup : List HookEffect
  onShutdown : List HookEffect
  afterShutdown : List HookEffect

structure CallReport where
  state : AppState
  ended : HookEnd
  shutdownCalled : List HookEffect

namespace AppCall

/-- The handler of `start` for an `Exception` of a startup hook. -/
def rollBack (call : AppCall) : CallReport :=
  let shutdown := call.runner.runHooks false call.onShutdown
  match shutdown.2 with
  | .returned => ⟨.stopped, .failed, shutdown.1⟩
  | raised => ⟨.stopping, raised, shutdown.1⟩

/-- `RabbitApp.start` and `start_async`. -/
def start (call : AppCall) (state : AppState) : CallReport :=
  match state with
  | .running | .starting | .stopping => ⟨state, .returned, []⟩
  | .idle | .stopped =>
    match (call.runner.runHooks call.timed call.onStartup).2 with
    | .returned =>
      match (call.runner.runHooks call.timed call.afterStartup).2 with
      | .returned => ⟨.running, .returned, []⟩
      | .failed => call.rollBack
      | .interrupted => ⟨.running, .interrupted, []⟩
    | .failed => call.rollBack
    | .interrupted => ⟨.starting, .interrupted, []⟩

/-- `RabbitApp.stop` and `stop_async`. -/
def stop (call : AppCall) (state : AppState) : CallReport :=
  match state with
  | .stopped | .stopping | .idle => ⟨state, .returned, []⟩
  | .running | .starting =>
    let shutdown := call.runner.runHooks false call.onShutdown
    match (call.runner.runHooks false call.afterShutdown).2 with
    | .returned => ⟨.stopped, shutdown.2, shutdown.1⟩
    | raised => ⟨.stopping, raised, shutdown.1⟩

/-- How the startup hooks of a call end, if it runs them. -/
def startupEnd (call : AppCall) : HookEnd :=
  match (call.runner.runHooks call.timed call.onStartup).2 with
  | .returned => (call.runner.runHooks call.timed call.afterStartup).2
  | ended => ended

theorem rollBack_settles {call : AppCall}
    (returned : (call.runner.runHooks false call.onShutdown).2 = .returned) :
    call.rollBack.state = .stopped ∧ call.rollBack.shutdownCalled = call.onShutdown := by
  simp [rollBack, returned, HookRunner.all_called returned]

end AppCall

/-- A call, or one that was cancelled while it waited for the lock. -/
inductive AppAction
  | start (call : AppCall)
  | stop (call : AppCall)
  | cancelled

namespace AppAction

def perform (state : AppState) : AppAction → CallReport
  | start call => call.start state
  | stop call => call.stop state
  | cancelled => ⟨state, .interrupted, []⟩

def step (state : AppState) (action : AppAction) : Option AppState :=
  some (action.perform state).state

/-- The call leaves a settled state, and if its startup hooks did not all
return, every shutdown hook was called. -/
def Settles (state : AppState) (action : AppAction) : Prop :=
  (action.perform state).state.Settled ∧
    ∀ call, action = start call → state = .idle ∨ state = .stopped →
      call.startupEnd ≠ .returned → (action.perform state).shutdownCalled = call.onShutdown

/-- No startup hook is interrupted, no shutdown hook fails after a failed
startup, and no hook fails after a shutdown. -/
def Orderly (state : AppState) : AppAction → Prop
  | start call => state = .idle ∨ state = .stopped →
      call.startupEnd ≠ .interrupted ∧
        (call.startupEnd = .failed → (call.runner.runHooks false call.onShutdown).2 = .returned)
  | stop call => state = .running →
      (call.runner.runHooks false call.afterShutdown).2 = .returned
  | cancelled => True

theorem start_settles {state : AppState} {call : AppCall}
    (fresh : state = .idle ∨ state = .stopped) (orderly : Orderly state (start call)) :
    Settles state (start call) := by
  obtain ⟨uninterrupted, rolledBack⟩ := orderly fresh
  have body : call.startupEnd = .returned ∧ (call.start state).state = .running ∨
      call.startupEnd = .failed ∧ call.start state = call.rollBack := by
    rcases fresh with rfl | rfl <;>
      cases first : (call.runner.runHooks call.timed call.onStartup).2 <;>
      cases second : (call.runner.runHooks call.timed call.afterStartup).2 <;>
      simp_all [AppCall.start, AppCall.startupEnd]
  rcases body with ⟨returned, running⟩ | ⟨failed, rolled⟩
  · refine ⟨.inr (.inl running), ?_⟩
    rintro _ ⟨⟩ _ unreturned
    exact absurd returned unreturned
  · obtain ⟨stopped, called⟩ := AppCall.rollBack_settles (rolledBack failed)
    rw [← rolled] at stopped called
    refine ⟨.inr (.inr stopped), ?_⟩
    rintro _ ⟨⟩ _ _
    exact called

theorem settles_of_orderly {state : AppState} {action : AppAction}
    (settled : state.Settled) (orderly : Orderly state action) : Settles state action := by
  cases action with
  | start call =>
    rcases settled with rfl | rfl | rfl
    · exact start_settles (.inl rfl) orderly
    · refine ⟨.inr (.inl rfl), ?_⟩
      rintro _ _ (idle | stopped)
      · cases idle
      · cases stopped
    · exact start_settles (.inr rfl) orderly
  | stop call =>
    refine ⟨?_, nofun⟩
    rcases settled with rfl | rfl | rfl
    · exact .inl rfl
    · simp [perform, AppCall.stop, orderly rfl, AppState.Settled]
    · exact .inr (.inr rfl)
  | cancelled => exact ⟨settled, nofun⟩

/-- In every orderly sequence of calls no call leaves the application between
two states, and none skips the shutdown hooks after a failed startup. -/
theorem lifecycle_settles {actions : List AppAction} {state : AppState}
    (run : RunWithin step Orderly .idle actions state) :
    state.Settled ∧ ∀ action, Orderly state action → Settles state action := by
  have settled : state.Settled := by
    induction run with
    | nil => exact .inl rfl
    | snoc _ orderly last ih =>
      cases last
      exact (settles_of_orderly ih orderly).1
  exact ⟨settled, fun _ orderly => settles_of_orderly settled orderly⟩

/-- A startup that fails after its first hook, is rolled back, and is stopped. -/
theorem lifecycle_settles_rolledBack :
    ∃ actions, actions.length = 2 ∧ RunWithin step Orderly .idle actions .stopped ∧
      AppState.Settled .stopped := by
  let call : AppCall := ⟨.async, true, [.returns, .overruns], [], [.returns], [.returns]⟩
  have run : RunWithin step Orderly .idle [start call, stop call] .stopped :=
    .snoc (.snoc .nil (fun _ => by decide) rfl) nofun rfl
  exact ⟨_, rfl, run, (lifecycle_settles run).1⟩

/-- A shutdown hook that fails in the rollback leaves `stopping`, after which
`start` does nothing; so does a hook that fails after a shutdown; and a startup
hook that is cancelled leaves `starting` with no shutdown hook called. -/
theorem lifecycle_wedges :
    (perform .idle (start ⟨.sync, false, [.raises], [], [.raises], []⟩)).state = .stopping ∧
    (perform .stopping (start ⟨.sync, false, [], [], [], []⟩)).state = .stopping ∧
    (perform .running (stop ⟨.sync, false, [], [], [], [.raises]⟩)).state = .stopping ∧
    (perform .idle (start ⟨.async, false, [.interrupts], [], [.returns], []⟩)).state = .starting ∧
    (perform .idle (start ⟨.async, false, [.interrupts], [], [.returns], []⟩)).shutdownCalled =
      [] := by
  decide

end AppAction

end RabbitKit
