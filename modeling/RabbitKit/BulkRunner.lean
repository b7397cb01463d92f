import RabbitKit.LabelledRun
import RabbitKit.BulkPublishItems

/-! # The bulk publish runners

`iter_publish_sync` and `iter_publish_async` as transition systems.  The consumer
drives the generator and may abandon it at a yield; the input iterable may end or
raise at any pull; every publish ends as it likes.  In the async runner the publish
tasks move between any two steps of the generator.

A task runs up to its first suspension before the generator is resumed from one of
its own, because the event loop runs what was scheduled first.  So a cancellation
delivered to the generator and the end of `asyncio.wait` find no task that has not
started; only an iterable that raises `CancelledError` itself can.
-/

namespace RabbitKit

open LabelledRun

inductive PublishEnding
  | returned (outcome : PublishOutcome)
  | returnedOther
  | raised (failure : Failure)
  | cancelled
  | fatal

/-- How the generator ends: it is exhausted, passes on the exception of the input,
was cancelled, was abandoned at a yield, or lets through a `BaseException`. -/
inductive BulkEnd
  | returned
  | raised
  | cancelled
  | abandoned
  | fatal
  deriving DecidableEq

def BulkPublishOptions.late (options : BulkPublishOptions) (passed : Bool) : Bool :=
  options.overallTimeout.isSome && passed

inductive SyncBulkPhase
  | pulling
  | publishing (bytes : Nat)
  | yielding (item : BulkPublishItem)
  | ended (how : BulkEnd)
  deriving DecidableEq

/-- `consumed`, `invoked` and `endings` are bookkeeping: the number of inputs taken,
the indices the publish function was called for, and how its calls ended. -/
structure SyncBulkRun where
  phase : SyncBulkPhase := .pulling
  index : Nat := 0
  reported : List BulkPublishItem := []
  yielded : List BulkPublishItem := []
  consumed : Nat := 0
  invoked : List Nat := []
  endings : List (Nat × PublishEnding) := []

inductive SyncBulkAction
  | pulled (raw : BulkInput) (passed : Bool)
  | inputEnded
  | inputRaised
  | published (ending : PublishEnding)
  | resumed
  | abandoned

/-- The item of a publish; a `BaseException` passes through without one. -/
def PublishEnding.syncItem (index : Nat) : PublishEnding → Option BulkPublishItem
  | .returned outcome => some (fromOutcome index (some outcome))
  | .returnedOther => some (fromOutcome index none)
  | .raised failure => some (fromException index failure none)
  | .cancelled | .fatal => none

namespace SyncBulkRun

def report (run : SyncBulkRun) (item : BulkPublishItem) : SyncBulkRun :=
  { run with reported := run.reported ++ [item], phase := .yielding item }

/-- `iter_publish_sync`, section by section. -/
def step (options : BulkPublishOptions) (preparer : PublishPreparer) (run : SyncBulkRun) :
    SyncBulkAction → Option SyncBulkRun
  | .pulled raw passed =>
    match run.phase with
    | .pulling =>
      let taken := { run with consumed := run.consumed + 1 }
      match preparer.prepare run.index raw with
      | .error invalid => some (taken.report invalid)
      | .ok bytes =>
        if options.late passed then
          some (taken.report (notSentItem run.index "overall_timeout"))
        else
          some { taken with
            phase := .publishing bytes
            invoked := run.invoked ++ [run.index] }
    | _ => none
  | .inputEnded =>
    match run.phase with
    | .pulling => some { run with phase := .ended .returned }
    | _ => none
  | .inputRaised =>
    match run.phase with
    | .pulling => some { run with phase := .ended .raised }
    | _ => none
  | .published ending =>
    match run.phase with
    | .publishing _ =>
      let ended := { run with endings := run.endings ++ [(run.index, ending)] }
      match ending.syncItem run.index with
      | some item => some (ended.report item)
      | none => some { ended with phase := .ended .fatal }
    | _ => none
  | .resumed =>
    match run.phase with
    | .yielding item =>
      some { run with
        phase := .pulling
        yielded := run.yielded ++ [item]
        index := run.index + 1 }
    | _ => none
  | .abandoned =>
    match run.phase with
    | .yielding item =>
      some { run with phase := .ended .abandoned, yielded := run.yielded ++ [item] }
    | _ => none

inductive Transition (options : BulkPublishOptions) (preparer : PublishPreparer)
    (run : SyncBulkRun) : SyncBulkAction → SyncBulkRun → Prop
  | refused {raw : BulkInput} {passed : Bool} {invalid : BulkPublishItem}
      (pulling : run.phase = .pulling) (refused : preparer.prepare run.index raw = .error invalid) :
      Transition options preparer run (.pulled raw passed)
        (({ run with consumed := run.consumed + 1 } : SyncBulkRun).report invalid)
  | late {raw : BulkInput} {passed : Bool} (pulling : run.phase = .pulling) :
      Transition options preparer run (.pulled raw passed)
        (({ run with consumed := run.consumed + 1 } : SyncBulkRun).report
          (notSentItem run.index "overall_timeout"))
  | publish {raw : BulkInput} {passed : Bool} {bytes : Nat} (pulling : run.phase = .pulling)
      (prepared : preparer.prepare run.index raw = .ok bytes) :
      Transition options preparer run (.pulled raw passed)
        { run with
          consumed := run.consumed + 1
          phase := .publishing bytes
          invoked := run.invoked ++ [run.index] }
  | inputEnded (pulling : run.phase = .pulling) :
      Transition options preparer run .inputEnded { run with phase := .ended .returned }
  | inputRaised (pulling : run.phase = .pulling) :
      Transition options preparer run .inputRaised { run with phase := .ended .raised }
  | answered {ending : PublishEnding} {bytes : Nat} {item : BulkPublishItem}
      (publishing : run.phase = .publishing bytes)
        (answered : ending.syncItem run.index = some item) :
      Transition options preparer run (.published ending)
        (({ run with endings := run.endings ++ [(run.index, ending)] } : SyncBulkRun).report item)
  | passedThrough {ending : PublishEnding} {bytes : Nat}
      (publishing : run.phase = .publishing bytes) (silent : ending.syncItem run.index = none) :
      Transition options preparer run (.published ending)
        { run with endings := run.endings ++ [(run.index, ending)], phase := .ended .fatal }
  | resumed {item : BulkPublishItem} (yielding : run.phase = .yielding item) :
      Transition options preparer run .resumed
        { run with phase := .pulling, yielded := run.yielded ++ [item], index := run.index + 1 }
  | abandoned {item : BulkPublishItem} (yielding : run.phase = .yielding item) :
      Transition options preparer run .abandoned
        { run with phase := .ended .abandoned, yielded := run.yielded ++ [item] }

theorem transition_of_step {options : BulkPublishOptions} {preparer : PublishPreparer}
    {run run' : SyncBulkRun} {action : SyncBulkAction}
    (taken : step options preparer run action = some run') :
    Transition options preparer run action run' := by
  cases action <;> simp only [step] at taken
  case pulled raw passed =>
    split at taken
    next pulling =>
      split at taken
      next refused =>
        cases taken
        exact .refused pulling refused
      next prepared =>
        split at taken <;> cases taken
        · exact .late pulling
        · exact .publish pulling prepared
    · cases taken
  case inputEnded =>
    split at taken <;> cases taken
    exact .inputEnded ‹_›
  case inputRaised =>
    split at taken <;> cases taken
    exact .inputRaised ‹_›
  case published ending =>
    split at taken
    next publishing =>
      split at taken <;> cases taken
      · exact .answered publishing ‹_›
      · exact .passedThrough publishing ‹_›
    · cases taken
  case resumed =>
    split at taken <;> cases taken
    exact .resumed ‹_›
  case abandoned =>
    split at taken <;> cases taken
    exact .abandoned ‹_›

end SyncBulkRun

/-- A publish task: not yet run, in its publish, finished with or without an item in
the queue, or cancelled before it ran. -/
inductive TaskStage
  | created
  | publishing
  | finished (queued : Bool)
  | dropped
  deriving DecidableEq

structure PublishTask where
  index : Nat
  bytes : Nat
  stage : TaskStage := .created
  cancelling : Bool := false
  deriving DecidableEq

namespace PublishTask

def done (task : PublishTask) : Bool :=
  match task.stage with
  | .finished _ | .dropped => true
  | _ => false

/-- The task has entered itself into `inflight` and `admitted`. -/
def started (task : PublishTask) : Bool :=
  match task.stage with
  | .publishing | .finished _ => true
  | _ => false

def cancel (task : PublishTask) : PublishTask :=
  if task.done then task else { task with cancelling := true }

end PublishTask

/-- The item `_one` puts into the queue. -/
def PublishEnding.asyncItem (index : Nat) (cancelling : Bool) :
    PublishEnding → Option BulkPublishItem
  | .returned outcome => some (fromOutcome index (some outcome))
  | .returnedOther => some (fromOutcome index none)
  | .raised failure =>
    some (fromException index failure
      (if failure.isInstance .timeoutError then some "confirm_timeout" else none))
  | .cancelled => if cancelling then none else some (fromException index cancelledFailure none)
  | .fatal => none

/-- Where the generator goes on after a `for it in _fresh(...): yield it`. -/
inductive BulkNext
  | count
  | pull
  | check
  | final
  | finish
  deriving DecidableEq

inductive AbandonCause
  | deadline
  | cancelled
  deriving DecidableEq

def AbandonCause.reason : AbandonCause → String
  | .deadline => "overall_timeout"
  | .cancelled => "cancelled"

inductive BulkPhase
  | pulling
  | slot (bytes : Nat)
  | budget (bytes : Nat)
  | yielding (rest : List BulkPublishItem) (next : BulkNext)
  | waiting
  | abandoning (cause : AbandonCause) (rest : List Nat) (items : List BulkPublishItem)
  | ended (how : BulkEnd)
  deriving DecidableEq

/-- The generator with its semaphore, its byte budget and all tasks it has created.
The last three fields are bookkeeping as in the sync runner. -/
structure BulkRun where
  phase : BulkPhase := .pulling
  index : Nat := 0
  tasks : List PublishTask := []
  doneQueue : List BulkPublishItem := []
  reported : List BulkPublishItem := []
  yielded : List BulkPublishItem := []
  slots : Nat
  used : Nat := 0
  deadlineHit : Bool := false
  inputError : Bool := false
  consumed : Nat := 0
  invoked : List Nat := []
  endings : List (Nat × PublishEnding) := []

inductive BulkAction
  | pulled (raw : BulkInput) (passed : Bool)
  | inputEnded
  | inputRaised
  | inputCancelled
  | inputFatal
  | slotAcquired
  | slotTimeout (atDeadline : Bool)
  | budgetAcquired
  | budgetTimeout (atDeadline : Bool)
  | resumed
  | continued
  | abandoned
  | cancelled
  | waitReturned
  | awaited
  | abandonedAll
  | started (position : Nat)
  | finished (position : Nat) (ending : PublishEnding)

def fresh (reported : List BulkPublishItem) : List BulkPublishItem → List BulkPublishItem
  | [] => []
  | item :: rest =>
    if item.index ∈ reported.map (·.index) then fresh reported rest
    else item :: fresh (reported ++ [item]) rest

namespace BulkRun

def init (options : BulkPublishOptions) : BulkRun where
  slots := options.maxInFlight

/-- `_drain_done`: the queue is emptied. -/
def drained (run : BulkRun) : BulkRun := { run with doneQueue := [] }

/-- `_fresh`: the new items go to `on_item`. -/
def recordFresh (run : BulkRun) (items : List BulkPublishItem) : BulkRun :=
  { run with reported := run.reported ++ fresh run.reported items }

/-- `for it in _fresh(items): yield it`. -/
def report (run : BulkRun) (items : List BulkPublishItem) (next : BulkNext) : BulkRun :=
  { run.recordFresh items with phase := .yielding (fresh run.reported items) next }

/-- `_missing_items`: admitted indices that nobody reported. -/
def missingItems (run : BulkRun) : List BulkPublishItem :=
  (run.tasks.filter fun task =>
    task.started && !decide (task.index ∈ run.reported.map (·.index))).map fun task =>
      fromOutcome task.index none

def allDone (run : BulkRun) : Bool := run.tasks.all (·.done)

def allStarted (run : BulkRun) : Bool := run.tasks.all (·.stage ≠ .created)

/-- The first half of `_abandon_inflight`: cancel what is still running. -/
def startAbandon (run : BulkRun) (cause : AbandonCause) : BulkRun :=
  { run with
    tasks := run.tasks.map (·.cancel)
    phase := .abandoning cause
      ((List.range run.tasks.length).filter fun position =>
        !(run.tasks[position]?.any (·.done))) [] }

def abandonedItem (run : BulkRun) (cause : AbandonCause) (position : Nat) :
    Option BulkPublishItem :=
  (run.tasks[position]?.filter (·.started)).map fun task =>
    fromException task.index cancelledFailure (some cause.reason)

/-- `_fresh([*_drain_done(), *_missing_items()])` at the end. -/
def reportFinal (run : BulkRun) : BulkRun :=
  run.drained.report (run.doneQueue ++ run.missingItems) .finish

/-- The end of the `except CancelledError` block: nothing can be yielded any more. -/
def endCancelled (run : BulkRun) (items : List BulkPublishItem) : BulkRun :=
  let first := run.drained.recordFresh (run.doneQueue ++ items)
  { first.recordFresh first.missingItems with phase := .ended .cancelled }

def continueAt (run : BulkRun) : BulkNext → BulkRun
  | .count => { run with index := run.index + 1, phase := .pulling }
  | .pull => { run with phase := .pulling }
  | .check => if run.allDone then run.reportFinal else run.startAbandon .deadline
  | .final => run.reportFinal
  | .finish => { run with phase := .ended (if run.inputError then .raised else .returned) }

def drainPhase (run : BulkRun) : BulkRun :=
  if run.allDone then run.drained.report run.doneQueue .check else { run with phase := .waiting }

def timeoutItem (options : BulkPublishOptions) (run : BulkRun) (atDeadline : Bool) :
    BulkPublishItem :=
  notSentItem run.index
    (if options.late atDeadline then "overall_timeout" else "admission_timeout")

def finishTask (run : BulkRun) (position : Nat) (task : PublishTask) (ending : PublishEnding) :
    BulkRun :=
  let item := ending.asyncItem task.index task.cancelling
  { run with
    tasks := run.tasks.set position { task with stage := .finished item.isSome }
    doneQueue := run.doneQueue ++ item.toList
    slots := run.slots + 1
    used := run.used - task.bytes
    endings := run.endings ++ [(task.index, ending)] }

/-- `iter_publish_async`, section by section. -/
def step (options : BulkPublishOptions) (preparer : PublishPreparer) (run : BulkRun) :
    BulkAction → Option BulkRun
  | .pulled raw passed =>
    match run.phase with
    | .pulling =>
      let taken := { run with consumed := run.consumed + 1 }
      match preparer.prepare run.index raw with
      | .error invalid => some (taken.drained.report (invalid :: run.doneQueue) .count)
      | .ok bytes =>
        if run.deadlineHit || options.late passed then
          some (({ taken with deadlineHit := true } : BulkRun).report
            [notSentItem run.index "overall_timeout"] .count)
        else some { taken with phase := .slot bytes }
    | _ => none
  | .inputEnded =>
    match run.phase with
    | .pulling => some run.drainPhase
    | _ => none
  | .inputRaised =>
    match run.phase with
    | .pulling => some ({ run with inputError := true } : BulkRun).drainPhase
    | _ => none
  | .inputCancelled =>
    match run.phase with
    | .pulling => some (run.startAbandon .cancelled)
    | _ => none
  | .inputFatal =>
    match run.phase with
    | .pulling => some { run with phase := .ended .fatal }
    | _ => none
  | .slotAcquired =>
    match run.phase, run.slots with
    | .slot bytes, slots + 1 => some { run with phase := .budget bytes, slots := slots }
    | _, _ => none
  | .slotTimeout atDeadline =>
    match run.phase with
    | .slot _ =>
      some (run.drained.report (run.timeoutItem options atDeadline :: run.doneQueue) .count)
    | _ => none
  | .budgetAcquired =>
    match run.phase with
    | .budget bytes =>
      if run.used + bytes ≤ options.maxBufferBytes then
        some (({ run with
          used := run.used + bytes
          tasks := run.tasks ++ [{ index := run.index, bytes := bytes }]
          index := run.index + 1
          doneQueue := [] } : BulkRun).report run.doneQueue .pull)
      else none
    | _ => none
  | .budgetTimeout atDeadline =>
    match run.phase with
    | .budget _ =>
      some (({ run with slots := run.slots + 1, doneQueue := [] } : BulkRun).report
        (run.timeoutItem options atDeadline :: run.doneQueue) .count)
    | _ => none
  | .resumed =>
    match run.phase with
    | .yielding (item :: rest) next =>
      some { run with phase := .yielding rest next, yielded := run.yielded ++ [item] }
    | _ => none
  | .continued =>
    match run.phase with
    | .yielding [] next => some (run.continueAt next)
    | _ => none
  | .abandoned =>
    match run.phase with
    | .yielding (item :: _) _ =>
      some { run with phase := .ended .abandoned, yielded := run.yielded ++ [item] }
    | _ => none
  | .cancelled =>
    match run.phase with
    | .pulling | .slot _ | .budget _ | .waiting =>
      if run.allStarted then some (run.startAbandon .cancelled) else none
    | .abandoning cause (position :: rest) items =>
      -- `suppress(BaseException)` around `await t` also swallows this cancellation.
      some { run with
        phase := .abandoning cause rest (items ++ (run.abandonedItem cause position).toList) }
    | _ => none
  | .waitReturned =>
    match run.phase with
    | .waiting =>
      if run.allStarted ∧ (run.allDone ∨ options.overallTimeout.isSome) then
        some (run.drained.report run.doneQueue .check)
      else none
    | _ => none
  | .awaited =>
    match run.phase with
    | .abandoning cause (position :: rest) items =>
      if run.tasks[position]?.any (·.done) then
        some { run with
          phase := .abandoning cause rest
            (items ++ (run.abandonedItem cause position).toList) }
      else none
    | _ => none
  | .abandonedAll =>
    match run.phase with
    | .abandoning .deadline [] items =>
      some (run.drained.report (run.doneQueue ++ items) .final)
    | .abandoning .cancelled [] items => some (run.endCancelled items)
    | _ => none
  | .started position =>
    match run.tasks[position]? with
    | some ⟨index, bytes, .created, false⟩ =>
      some { run with
        tasks := run.tasks.set position ⟨index, bytes, .publishing, false⟩
        invoked := run.invoked ++ [index] }
    | some ⟨index, bytes, .created, true⟩ =>
      some { run with tasks := run.tasks.set position ⟨index, bytes, .dropped, true⟩ }
    | _ => none
  | .finished position ending =>
    match run.tasks[position]? with
    | some ⟨index, bytes, .publishing, cancelling⟩ =>
      some (run.finishTask position ⟨index, bytes, .publishing, cancelling⟩ ending)
    | _ => none

def interruptible (run : BulkRun) : Bool :=
  match run.phase with
  | .pulling | .slot _ | .budget _ | .waiting => true
  | _ => false

def collect (run : BulkRun) (cause : AbandonCause) (position : Nat) (rest : List Nat)
    (items : List BulkPublishItem) : BulkRun :=
  { run with phase := .abandoning cause rest (items ++ (run.abandonedItem cause position).toList) }

def createTask (run : BulkRun) (bytes : Nat) : BulkRun :=
  ({ run with
    used := run.used + bytes
    tasks := run.tasks ++ [{ index := run.index, bytes := bytes }]
    index := run.index + 1
    doneQueue := [] } : BulkRun).report run.doneQueue .pull

inductive Transition (options : BulkPublishOptions) (preparer : PublishPreparer)
    (run : BulkRun) : BulkAction → BulkRun → Prop
  | refused {raw : BulkInput} {passed : Bool} {invalid : BulkPublishItem}
      (pulling : run.phase = .pulling) (refused : preparer.prepare run.index raw = .error invalid) :
      Transition options preparer run (.pulled raw passed)
        (({ run with consumed := run.consumed + 1 } : BulkRun).drained.report
          (invalid :: run.doneQueue) .count)
  | late {raw : BulkInput} {passed : Bool} (pulling : run.phase = .pulling) :
      Transition options preparer run (.pulled raw passed)
        (({ run with consumed := run.consumed + 1, deadlineHit := true } : BulkRun).report
          [notSentItem run.index "overall_timeout"] .count)
  | pulled {raw : BulkInput} {passed : Bool} {bytes : Nat} (pulling : run.phase = .pulling) :
      Transition options preparer run (.pulled raw passed)
        { run with consumed := run.consumed + 1, phase := .slot bytes }
  | inputEnded (pulling : run.phase = .pulling) :
      Transition options preparer run .inputEnded run.drainPhase
  | inputRaised (pulling : run.phase = .pulling) :
      Transition options preparer run .inputRaised
        ({ run with inputError := true } : BulkRun).drainPhase
  | inputCancelled (pulling : run.phase = .pulling) :
      Transition options preparer run .inputCancelled (run.startAbandon .cancelled)
  | inputFatal (pulling : run.phase = .pulling) :
      Transition options preparer run .inputFatal { run with phase := .ended .fatal }
  | slotAcquired {bytes slots : Nat} (waiting : run.phase = .slot bytes)
      (available : run.slots = slots + 1) :
      Transition options preparer run .slotAcquired
        { run with phase := .budget bytes, slots := slots }
  | slotTimeout {bytes : Nat} {atDeadline : Bool} (waiting : run.phase = .slot bytes) :
      Transition options preparer run (.slotTimeout atDeadline)
        (run.drained.report (run.timeoutItem options atDeadline :: run.doneQueue) .count)
  | budgetAcquired {bytes : Nat} (waiting : run.phase = .budget bytes)
      (fits : run.used + bytes ≤ options.maxBufferBytes) :
      Transition options preparer run .budgetAcquired (run.createTask bytes)
  | budgetTimeout {bytes : Nat} {atDeadline : Bool} (waiting : run.phase = .budget bytes) :
      Transition options preparer run (.budgetTimeout atDeadline)
        (({ run with slots := run.slots + 1 } : BulkRun).drained.report
          (run.timeoutItem options atDeadline :: run.doneQueue) .count)
  | resumed {item : BulkPublishItem} {rest : List BulkPublishItem} {next : BulkNext}
      (yielding : run.phase = .yielding (item :: rest) next) :
      Transition options preparer run .resumed
        { run with phase := .yielding rest next, yielded := run.yielded ++ [item] }
  | continued {next : BulkNext} (exhausted : run.phase = .yielding [] next) :
      Transition options preparer run .continued (run.continueAt next)
  | abandoned {item : BulkPublishItem} {rest : List BulkPublishItem} {next : BulkNext}
      (yielding : run.phase = .yielding (item :: rest) next) :
      Transition options preparer run .abandoned
        { run with phase := .ended .abandoned, yielded := run.yielded ++ [item] }
  | cancelled (suspended : run.interruptible = true) (started : run.allStarted = true) :
      Transition options preparer run .cancelled (run.startAbandon .cancelled)
  | swallowed {cause : AbandonCause} {position : Nat} {rest : List Nat}
      {items : List BulkPublishItem}
      (abandoning : run.phase = .abandoning cause (position :: rest) items) :
      Transition options preparer run .cancelled (run.collect cause position rest items)
  | waitReturned (waiting : run.phase = .waiting) (started : run.allStarted = true) :
      Transition options preparer run .waitReturned (run.drained.report run.doneQueue .check)
  | awaited {cause : AbandonCause} {position : Nat} {rest : List Nat} {items : List BulkPublishItem}
      (abandoning : run.phase = .abandoning cause (position :: rest) items)
      (ended : run.tasks[position]?.any (·.done) = true) :
      Transition options preparer run .awaited (run.collect cause position rest items)
  | gaveUp {items : List BulkPublishItem} (abandoning : run.phase = .abandoning .deadline [] items)
    :
      Transition options preparer run .abandonedAll
        (run.drained.report (run.doneQueue ++ items) .final)
  | endedCancelled {items : List BulkPublishItem}
      (abandoning : run.phase = .abandoning .cancelled [] items) :
      Transition options preparer run .abandonedAll (run.endCancelled items)
  | started {position index bytes : Nat}
      (found : run.tasks[position]? = some ⟨index, bytes, .created, false⟩) :
      Transition options preparer run (.started position)
        { run with
          tasks := run.tasks.set position ⟨index, bytes, .publishing, false⟩
          invoked := run.invoked ++ [index] }
  | dropped {position index bytes : Nat}
      (found : run.tasks[position]? = some ⟨index, bytes, .created, true⟩) :
      Transition options preparer run (.started position)
        { run with tasks := run.tasks.set position ⟨index, bytes, .dropped, true⟩ }
  | finished {position index bytes : Nat} {cancelling : Bool} {ending : PublishEnding}
      (found : run.tasks[position]? = some ⟨index, bytes, .publishing, cancelling⟩) :
      Transition options preparer run (.finished position ending)
        (run.finishTask position ⟨index, bytes, .publishing, cancelling⟩ ending)

theorem transition_of_step {options : BulkPublishOptions} {preparer : PublishPreparer}
    {run run' : BulkRun} {action : BulkAction}
    (taken : step options preparer run action = some run') :
    Transition options preparer run action run' := by
  cases action <;> simp only [step] at taken
  case pulled raw passed =>
    split at taken
    next pulling =>
      split at taken
      next refused =>
        cases taken
        exact .refused pulling refused
      · split at taken <;> cases taken
        · exact .late pulling
        · exact .pulled pulling
    · cases taken
  case inputEnded =>
    split at taken <;> cases taken
    exact .inputEnded ‹_›
  case inputRaised =>
    split at taken <;> cases taken
    exact .inputRaised ‹_›
  case inputCancelled =>
    split at taken <;> cases taken
    exact .inputCancelled ‹_›
  case inputFatal =>
    split at taken <;> cases taken
    exact .inputFatal ‹_›
  case slotAcquired =>
    split at taken <;> cases taken
    exact .slotAcquired ‹_› ‹_›
  case slotTimeout atDeadline =>
    split at taken <;> cases taken
    exact .slotTimeout ‹_›
  case budgetAcquired =>
    split at taken
    next waiting =>
      split at taken <;> cases taken
      exact .budgetAcquired waiting ‹_›
    · cases taken
  case budgetTimeout atDeadline =>
    split at taken <;> cases taken
    exact .budgetTimeout ‹_›
  case resumed =>
    split at taken <;> cases taken
    exact .resumed ‹_›
  case continued =>
    split at taken <;> cases taken
    exact .continued ‹_›
  case abandoned =>
    split at taken <;> cases taken
    exact .abandoned ‹_›
  case cancelled =>
    split at taken
    case h_5 =>
      cases taken
      exact .swallowed ‹_›
    case h_6 => cases taken
    all_goals
      rename_i phase
      split at taken <;> cases taken
      exact .cancelled (by simp [interruptible, phase]) ‹_›
  case waitReturned =>
    split at taken
    next waiting =>
      split at taken <;> cases taken
      rename_i ready
      exact .waitReturned waiting ready.1
    · cases taken
  case awaited =>
    split at taken
    next abandoning =>
      split at taken <;> cases taken
      exact .awaited abandoning ‹_›
    · cases taken
  case abandonedAll =>
    split at taken <;> cases taken
    · exact .gaveUp ‹_›
    · exact .endedCancelled ‹_›
  case started position =>
    split at taken <;> cases taken
    · exact .started ‹_›
    · exact .dropped ‹_›
  case finished position ending =>
    split at taken <;> cases taken
    exact .finished ‹_›

end BulkRun
end RabbitKit
