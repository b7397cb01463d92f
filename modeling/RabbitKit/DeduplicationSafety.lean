import RabbitKit.DeduplicationMiddleware

/-! # Duplicates follow a success

A delivery is skipped as a duplicate only because of an entry, in Redis or in a cache, that another
delivery wrote. In a run without three irregular steps every such entry was written by a delivery
whose chain had returned and whose acknowledgement had begun on the success path, or that its
handler acknowledged itself; a stored result comes from a chain that returned it.

The irregular steps are a chain that returns after its delivery was nacked or rejected inside, an
acknowledgement by the failure path of a delivery whose chain had returned, and a settlement that
raises in the sync pipeline and leaves the delivery to be settled again. A stored result
enters the cache before it is published, so results are not stored together with a cache here.
-/

namespace RabbitKit

open LabelledRun DedupDelivery List

variable {ρ : Type}

/-- The chain returned, and the delivery was acknowledged for that reason. -/
structure DedupDelivery.Succeeded (d : DedupDelivery ρ) : Prop where
  returned : d.returned.isSome = true
  acked : d.settled = some .ack
  origin : d.ackOrigin = some .successPath ∨ d.ackOrigin = some .handler

def DedupWorld.Succeeded (w : DedupWorld ρ) (writer : Nat) : Prop :=
  ∃ d, w.deliveries[writer]? = some d ∧ d.Succeeded

def DedupWorld.Returned (w : DedupWorld ρ) (writer : Nat) (value : ρ) : Prop :=
  ∃ d, w.deliveries[writer]? = some d ∧ d.returned = some (some value)

def DedupDelivery.isHooked (d : DedupDelivery ρ) : Bool :=
  match d.phase with
  | .returned hooked => hooked
  | _ => false

def DedupDelivery.regular (d : DedupDelivery ρ) : DedupStep ρ → Bool
  | .endChain settles (.returned _) => settles == none || settles == some .ack
  | .finish (.failure .ack) => !d.isHooked
  | .raise => false
  | _ => true

def DedupWorld.regular (w : DedupWorld ρ) : DedupAction ρ → Bool
  | .act index step =>
    match w.deliveries[index]? with
    | some d => d.regular step
    | none => true
  | _ => true

structure DedupDelivery.Fresh (d : DedupDelivery ρ) : Prop where
  settled : d.settled = none
  returned : d.returned = none
  duplicateOf : d.duplicateOf = none
  replayOf : d.replayOf = none
  ackOrigin : d.ackOrigin = none

section Soundness

variable (config : DeduplicationConfig ρ) (succeeded : Nat → Prop) (returned : Nat → ρ → Prop)

/-- What a delivery was taken for a duplicate of; its own chain did not return. -/
structure RecordSound (d : DedupDelivery ρ) : Prop where
  duplicate : ∀ writer, d.duplicateOf = some writer → succeeded writer ∧ d.returned = none
  replay : ∀ writer value, d.replayOf = some (writer, value) →
    returned writer value ∧ d.returned = none
  skipped : d.ackOrigin = some .duplicate → d.duplicateOf.isSome = true
  inFlight : d.ackOrigin = some .inFlight → config.onInFlight = .ackSkip

def PhaseSound (d : DedupDelivery ρ) : DedupPhase ρ → Prop
  | .arrived | .querying | .reading | .running => d.Fresh
  | .marking .completed | .acking => d.Succeeded
  | .marking (.result value) => d.returned = some (some value) ∧ config.storeResults = true
  | .caching _ => config.hasLocalCache = true → d.Succeeded
  | .returned hooked => hooked = true → d.returned.isSome = true
  | .sending _ | .deleting _ | .uncaching _ | .ended => True

def KeySound : Option (RedisValue ρ) → Prop
  | none => True
  | some (.inFlight _) => config.markPolicy = .claim
  | some (.completed writer) => succeeded writer
  | some (.result writer value) => returned writer value ∧ config.storeResults = true

structure ViewSound (view : DedupView ρ) : Prop where
  record : RecordSound config succeeded returned view.delivery
  phase : PhaseSound config view.delivery view.delivery.phase
  key : KeySound config succeeded returned view.key
  cached : ∀ writer, view.cached = some writer → succeeded writer

structure Keeps (d d' : DedupDelivery ρ) : Prop where
  succeeded : d.Succeeded → d'.Succeeded
  returned : ∀ value, d.returned = some (some value) → d'.returned = some (some value)

structure SoundStep (view view' : DedupView ρ) : Prop where
  sound : ViewSound config succeeded returned view'
  keeps : Keeps view.delivery view'.delivery

end Soundness

variable {config : DeduplicationConfig ρ} {succeeded : Nat → Prop} {returned : Nat → ρ → Prop}
variable {d d' : DedupDelivery ρ} {view view' : DedupView ρ} {self : Nat}

theorem Keeps.of_not_succeeded (never : ¬ d.Succeeded) (same : d'.returned = d.returned) :
    Keeps d d' :=
  ⟨fun succeeded => absurd succeeded never, fun _ held => same.trans held⟩

theorem Keeps.of_fresh (fresh : d.Fresh) : Keeps d d' := by
  refine ⟨fun succeeded => ?_, fun value held => ?_⟩
  · simpa [fresh.returned] using succeeded.returned
  · simp [fresh.returned] at held

theorem Keeps.phase (d : DedupDelivery ρ) (phase : DedupPhase ρ) (acknowledged : Bool) :
    Keeps d { d with phase := phase, acknowledged := acknowledged } :=
  ⟨fun succeeded => ⟨succeeded.1, succeeded.2, succeeded.3⟩, fun _ held => held⟩

theorem RecordSound.of_same (sound : RecordSound config succeeded returned d)
    (duplicate : d'.duplicateOf = d.duplicateOf) (replay : d'.replayOf = d.replayOf)
    (same : d'.returned = d.returned)
    (origin : d'.ackOrigin = d.ackOrigin ∨ d'.ackOrigin = some .successPath ∨
      d'.ackOrigin = some .failurePath) : RecordSound config succeeded returned d' where
  duplicate := by
    rw [duplicate, same]
    exact sound.duplicate
  replay := by
    rw [replay, same]
    exact sound.replay
  skipped := by
    rw [duplicate]
    rcases origin with origin | origin | origin <;> simp only [origin]
    · exact sound.skipped
    all_goals simp
  inFlight := by
    rcases origin with origin | origin | origin <;> simp only [origin]
    · exact sound.inFlight
    all_goals simp

theorem RecordSound.of_own (duplicate : d.duplicateOf = none) (replay : d.replayOf = none)
    (skipped : d.ackOrigin ≠ some .duplicate)
    (inFlight : d.ackOrigin = some .inFlight → config.onInFlight = .ackSkip) :
    RecordSound config succeeded returned d where
  duplicate := by simp [duplicate]
  replay := by simp [replay]
  skipped := fun origin => absurd origin skipped
  inFlight := inFlight

variable {settles : Option Settlement} {pipelineEnd : PipelineEnd} {hooked : Bool} {writer : Nat}

theorem RecordSound.skip (fresh : d.Fresh) (success : succeeded writer) :
    RecordSound config succeeded returned (d.skip writer) where
  duplicate := by
    intro other same
    obtain rfl : writer = other := by simpa [DedupDelivery.skip] using same
    exact ⟨success, fresh.returned⟩
  replay := by simp [DedupDelivery.skip, fresh.replayOf]
  skipped := fun _ => rfl
  inFlight := by simp [DedupDelivery.skip]

section

variable (sound : ViewSound config succeeded returned view)
include sound

theorem ViewSound.skip (fresh : view.delivery.Fresh) (success : succeeded writer) :
    SoundStep config succeeded returned view { view with delivery := view.delivery.skip writer } :=
  ⟨⟨.skip fresh success, trivial, sound.key, sound.cached⟩, .of_fresh fresh⟩

theorem ViewSound.move
    (phase : DedupPhase ρ) (arrives : PhaseSound config { view.delivery with phase := phase } phase)
    : SoundStep config succeeded returned view { view with delivery.phase := phase } := by
  refine ⟨⟨?_, arrives, sound.key, sound.cached⟩, .phase _ _ _⟩
  exact sound.record.of_same rfl rfl rfl (.inl rfl)

omit sound in
theorem DedupDelivery.Fresh.move (fresh : d.Fresh) (phase : DedupPhase ρ) :
    ({ d with phase := phase } : DedupDelivery ρ).Fresh :=
  ⟨fresh.1, fresh.2, fresh.3, fresh.4, fresh.5⟩

theorem ViewSound.begin (fresh : view.delivery.Fresh) :
    SoundStep config succeeded returned view view.begin := by
  unfold DedupView.begin
  split
  next writer cached => exact sound.skip fresh (sound.cached writer cached)
  next => exact sound.move .querying (fresh.move .querying)

end

/-- Under `on_success` every value of the key is a mark, and no claim or result. -/
theorem KeySound.author_of_onSuccess {value : RedisValue ρ}
    (sound : KeySound config succeeded returned (some value))
    (policy : config.markPolicy = .onSuccess) : succeeded value.author := by
  cases value with
  | inFlight owner => simp [KeySound, policy] at sound
  | completed writer => exact sound
  | result writer value => simpa [policy] using config.claim_of_storeResults sound.2

section

variable (sound : ViewSound config succeeded returned view)
include sound

section

variable (fresh : view.delivery.Fresh)
include fresh

theorem ViewSound.query : SoundStep config succeeded returned view (view.query config self) := by
  unfold DedupView.query
  split
  next => exact sound.move .running (fresh.move .running)
  next value policy key =>
    have marked := sound.key
    rw [key] at marked
    exact sound.skip fresh (marked.author_of_onSuccess policy)
  next policy key =>
    have moved := sound.move .running (fresh.move .running)
    exact ⟨⟨moved.sound.record, moved.sound.phase, policy, sound.cached⟩, moved.keeps⟩
  next => exact sound.move .reading (fresh.move .reading)

theorem ViewSound.inFlightDuplicate : SoundStep config succeeded returned view
      { view with delivery := view.delivery.inFlightDuplicate config } := by
  refine ⟨⟨?_, ?_, sound.key, sound.cached⟩, .of_fresh fresh⟩
  · unfold DedupDelivery.inFlightDuplicate
    split
    next policy => exact .of_own fresh.duplicateOf fresh.replayOf (by simp) fun _ => policy
    next => exact sound.record.of_same rfl rfl rfl (.inl rfl)
  · unfold DedupDelivery.inFlightDuplicate
    split <;> trivial

theorem ViewSound.replay {writer : Nat} {value : ρ} (result : returned writer value) :
    SoundStep config succeeded returned view
      { view with
        delivery.phase := .returned false
        delivery.replayOf := some (writer, value) } := by
  refine ⟨⟨⟨?_, ?_, ?_, ?_⟩, ?_, sound.key, sound.cached⟩, .of_fresh fresh⟩
  · exact sound.record.duplicate
  · intro other value' same
    obtain ⟨rfl, rfl⟩ : writer = other ∧ value = value' := by simpa using same
    exact ⟨result, fresh.returned⟩
  · exact sound.record.skipped
  · exact sound.record.inFlight
  · exact fun hooked => by simp at hooked

theorem ViewSound.read : SoundStep config succeeded returned view (view.read config) := by
  have marked := sound.key
  unfold DedupView.read
  split
  next => exact sound.inFlightDuplicate fresh
  next => exact sound.inFlightDuplicate fresh
  next writer key =>
    rw [key] at marked
    exact sound.skip fresh marked
  next writer value key =>
    rw [key] at marked
    rw [if_pos marked.2]
    exact sound.replay fresh marked.1

end

end

theorem phaseSound_abandon (d : DedupDelivery ρ) :
    PhaseSound config (d.abandon config) (d.abandon config).phase := by
  unfold abandon
  split <;> trivial

theorem recordSound_abandon (sound : RecordSound config succeeded returned d) :
    RecordSound config succeeded returned (d.abandon config) := by
  unfold abandon
  split <;> exact sound.of_same rfl rfl rfl (.inl rfl)

theorem keeps_abandon (d : DedupDelivery ρ) : Keeps d (d.abandon config) := by
  unfold abandon
  split <;> exact .phase d _ _

theorem recordSound_settleInside (fresh : d.Fresh) (settles : Option Settlement) :
    RecordSound config succeeded returned (d.settleInside settles) := by
  unfold settleInside
  split
  all_goals
    refine .of_own fresh.duplicateOf fresh.replayOf ?_ ?_ <;> simp [fresh.ackOrigin]

theorem completedValue_eq_result {result : Option ρ} {value : ρ}
    (stored : config.completedValue result = .result value) :
    result = some value ∧ config.storeResults = true := by
  unfold DeduplicationConfig.completedValue at stored
  split at stored
  next other =>
    split at stored
    next encodable =>
      obtain rfl : other = value := by simpa using stored
      exact ⟨rfl, (Bool.and_eq_true_iff.mp encodable).1⟩
    next => cases stored
  next => cases stored

theorem recordSound_complete (fresh : d.Fresh) (result : Option ρ) :
    RecordSound config succeeded returned ((d.settleInside settles).complete config result) := by
  have settled : RecordSound config succeeded returned (d.settleInside settles) :=
    recordSound_settleInside fresh settles
  have duplicate : (d.settleInside settles).duplicateOf = none := by
    unfold settleInside
    split <;> exact fresh.duplicateOf
  have replay : (d.settleInside settles).replayOf = none := by
    unfold settleInside
    split <;> exact fresh.replayOf
  have own : (d.settleInside settles).ackOrigin ≠ some .duplicate := fun origin => by
    simpa [duplicate] using settled.skipped origin
  unfold complete
  split <;> exact .of_own duplicate replay own settled.inFlight

/-- A delivery settled inside its chain is marked at once, so it has to be
acknowledged. -/
theorem phaseSound_complete (own : d.settled = none ∨
      d.settled = some .ack ∧ d.ackOrigin = some .handler) (result : Option ρ) :
    PhaseSound config (d.complete config result) (d.complete config result).phase := by
  unfold complete
  split
  next value _ stored =>
    obtain ⟨rfl, storeResults⟩ := completedValue_eq_result stored
    exact ⟨rfl, storeResults⟩
  next settlement _ settled =>
    rcases own with unsettled | ⟨acked, origin⟩
    · simp [unsettled] at settled
    · exact ⟨rfl, acked, .inr origin⟩
  next => exact fun _ => rfl

section

variable (sound : ViewSound config succeeded returned view)
include sound

theorem ViewSound.endChain (fresh : view.delivery.Fresh) {chainEnd : ChainEnd ρ}
    (regular : view.delivery.regular (.endChain settles chainEnd) = true) :
    SoundStep config succeeded returned view (view.endChain config settles chainEnd) := by
  have settled : RecordSound config succeeded returned (view.delivery.settleInside settles) :=
    recordSound_settleInside fresh settles
  cases chainEnd with
  | raised | requeuedForRetry =>
    exact ⟨⟨recordSound_abandon settled, phaseSound_abandon _, sound.key, sound.cached⟩,
      .of_fresh fresh⟩
  | returned result =>
    have own : settles = none ∨ settles = some .ack := by
      simpa [DedupDelivery.regular] using regular
    refine ⟨⟨?_, ?_, sound.key, sound.cached⟩, .of_fresh fresh⟩
    · exact recordSound_complete fresh result
    · rcases own with rfl | rfl
      · exact phaseSound_complete (.inl fresh.settled) result
      · exact phaseSound_complete (.inr ⟨rfl, rfl⟩) result

omit sound in
theorem keySound_writeMark {key : Option (RedisValue ρ)}
    (sound : KeySound config succeeded returned key) {mark : Mark ρ}
    (marked : KeySound config succeeded returned (some (mark.value self))) :
    KeySound config succeeded returned (config.writeMark self mark key) := by
  unfold DeduplicationConfig.writeMark
  split
  next => exact sound
  next => exact marked

theorem ViewSound.write (self : Nat)
    (mark : Mark ρ) (marked : KeySound config succeeded returned (some (mark.value self)))
    (hooked : Bool) (caches : config.hasLocalCache = true → view.delivery.Succeeded) :
    SoundStep config succeeded returned view (view.write config self mark hooked) := by
  have moved := sound.move (.caching hooked) fun cache =>
    (Keeps.phase view.delivery (.caching hooked) _).succeeded (caches cache)
  exact ⟨⟨moved.sound.record, moved.sound.phase, keySound_writeMark sound.key marked,
    sound.cached⟩, moved.keeps⟩

theorem ViewSound.cache (hooked : Bool) (caches : config.hasLocalCache = true → succeeded self) :
    SoundStep config succeeded returned view (view.cache config self hooked) := by
  have moved := sound.move (if hooked then .sending true else .returned false) (by
    cases hooked <;> simp [PhaseSound])
  refine ⟨⟨moved.sound.record, moved.sound.phase, sound.key, ?_⟩, moved.keeps⟩
  intro writer cached
  by_cases hasLocalCache : config.hasLocalCache = true
  · obtain rfl : self = writer := by simpa [DedupView.cache, hasLocalCache] using cached
    exact caches hasLocalCache
  · refine sound.cached writer ?_
    simpa [DedupView.cache, hasLocalCache] using cached

end

theorem recordSound_settleAfter (sound : RecordSound config succeeded returned d) (hooked : Bool)
    (pipelineEnd : PipelineEnd) :
    RecordSound config succeeded returned (d.settleAfter config hooked pipelineEnd) := by
  unfold settleAfter
  split
  all_goals
    refine sound.of_same rfl rfl rfl ?_
    simp [acknowledge, refuse]

theorem phaseSound_refuse (d : DedupDelivery ρ) (settlement : Settlement) (hooked : Bool) :
    PhaseSound config (d.refuse config settlement hooked)
      (d.refuse config settlement hooked).phase := by
  unfold refuse
  cases hooked && config.markPolicy == .claim <;> trivial

/-- The hook of an acknowledgement marks the delivery, so only the success path may
run it. -/
theorem phaseSound_settleAfter (ended : hooked = true → d.returned.isSome = true)
    (regular : pipelineEnd = .failure .ack → hooked = false) :
    PhaseSound config (d.settleAfter config hooked pipelineEnd)
      (d.settleAfter config hooked pipelineEnd).phase := by
  unfold settleAfter
  split
  next =>
    cases hooked with
    | true => exact ⟨ended rfl, rfl, .inl rfl⟩
    | false => trivial
  next => exact phaseSound_refuse d _ hooked
  next =>
    obtain rfl : hooked = false := regular rfl
    trivial
  next => exact phaseSound_refuse d _ hooked
  next => trivial

theorem returned_settleAfter (d : DedupDelivery ρ) (hooked : Bool) (pipelineEnd : PipelineEnd) :
    (d.settleAfter config hooked pipelineEnd).returned = d.returned := by
  unfold settleAfter
  split <;> rfl

theorem ViewSound.finish (sound : ViewSound config succeeded returned view)
    (ended : hooked = true → view.delivery.returned.isSome = true)
    (regular : pipelineEnd = .failure .ack → hooked = false) :
    SoundStep config succeeded returned view (view.finish config hooked pipelineEnd) := by
  unfold DedupView.finish
  split
  next => exact sound.move .ended trivial
  next unsettled =>
    have never : ¬ view.delivery.Succeeded := fun success => by
      simpa [unsettled] using success.acked
    exact ⟨⟨recordSound_settleAfter sound.record hooked pipelineEnd,
      phaseSound_settleAfter ended regular, sound.key, sound.cached⟩,
      .of_not_succeeded never (returned_settleAfter _ hooked pipelineEnd)⟩

section

variable (separate : config.storeResults = true → config.hasLocalCache = false)
include separate

section

variable (ofSucceeded : view.delivery.Succeeded → succeeded self)
  (ofReturned : ∀ value, view.delivery.returned = some (some value) → returned self value)
  (sound : ViewSound config succeeded returned view)
include ofSucceeded ofReturned sound

/-- A mark is that of a success, or the stored result of the chain; only the first is
cached, since results are not stored where there is a cache. -/
theorem ViewSound.mark {mark : Mark ρ} (phase : PhaseSound config view.delivery (.marking mark)) :
    SoundStep config succeeded returned view (view.write config self mark false) := by
  cases mark with
  | completed => exact sound.write self .completed (ofSucceeded phase) false fun _ => phase
  | result value =>
    have marked : KeySound config succeeded returned (some (.result self value)) :=
      ⟨ofReturned value phase.1, phase.2⟩
    refine sound.write self (.result value) marked false fun cache => ?_
    simp [separate phase.2] at cache

theorem ViewSound.advance {step : DedupStep ρ} (regular : view.delivery.regular step = true)
    (stepped : view.advance config self step = some view') :
    SoundStep config succeeded returned view view' := by
  have inPhase : ∀ phase, view.delivery.phase = phase →
      PhaseSound config view.delivery phase := by
    rintro _ rfl
    exact sound.phase
  unfold DedupView.advance at stepped
  split at stepped <;> cases stepped
  next phase => exact sound.begin (inPhase _ phase)
  next phase => exact sound.query (inPhase _ phase)
  next phase => exact sound.read (inPhase _ phase)
  next phase => exact sound.endChain (inPhase _ phase) regular
  next phase => exact sound.mark separate ofSucceeded ofReturned (inPhase _ phase)
  next phase =>
    have success : view.delivery.Succeeded := inPhase _ phase
    exact sound.write self .completed (ofSucceeded success) true fun _ => success
  next hooked phase =>
    exact sound.cache hooked fun cache => ofSucceeded (inPhase _ phase cache)
  next pipelineEnd hooked phase =>
    refine sound.finish (inPhase _ phase) fun failed => ?_
    subst failed
    simpa [DedupDelivery.regular, DedupDelivery.isHooked, phase] using regular
  next =>
    refine ⟨⟨?_, trivial, sound.key, sound.cached⟩, .phase _ _ _⟩
    exact sound.record.of_same rfl rfl rfl (.inl rfl)
  next hooked _ =>
    have moved := sound.move (.uncaching hooked) trivial
    exact ⟨⟨moved.sound.record, trivial, trivial, sound.cached⟩, moved.keeps⟩
  next =>
    have moved := sound.move .ended trivial
    refine ⟨⟨moved.sound.record, trivial, sound.key, ?_⟩, moved.keeps⟩
    exact fun writer cached => by simp at cached
  next => cases regular
  next => cases regular
  next =>
    exact ⟨⟨recordSound_abandon sound.record, phaseSound_abandon _, sound.key, sound.cached⟩,
      keeps_abandon _⟩
  next => exact sound.move .ended trivial

end

end

structure DedupWorld.Grows (w w' : DedupWorld ρ) : Prop where
  succeeded : ∀ {writer}, w.Succeeded writer → w'.Succeeded writer
  returned : ∀ {writer value}, w.Returned writer value → w'.Returned writer value

theorem DedupWorld.grows_of_keeps {w w' : DedupWorld ρ}
    (kept : ∀ (index : Nat) (d : DedupDelivery ρ), w.deliveries[index]? = some d →
      ∃ d', w'.deliveries[index]? = some d' ∧ Keeps d d') : w.Grows w' where
  succeeded := by
    rintro writer ⟨d, found, success⟩
    obtain ⟨d', found', keeps⟩ := kept writer d found
    exact ⟨d', found', keeps.succeeded success⟩
  returned := by
    rintro writer value ⟨d, found, result⟩
    obtain ⟨d', found', keeps⟩ := kept writer d found
    exact ⟨d', found', keeps.returned value result⟩

section Growth

variable {succeeded' : Nat → Prop} {returned' : Nat → ρ → Prop}
variable (succeeds : ∀ {writer}, succeeded writer → succeeded' writer)
variable (returns : ∀ {writer value}, returned writer value → returned' writer value)

include succeeds returns

theorem RecordSound.mono (sound : RecordSound config succeeded returned d) :
    RecordSound config succeeded' returned' d where
  duplicate := fun writer same => (sound.duplicate writer same).imp_left succeeds
  replay := fun writer value same => (sound.replay writer value same).imp_left returns
  skipped := sound.skipped
  inFlight := sound.inFlight

theorem KeySound.mono {key : Option (RedisValue ρ)}
    (sound : KeySound config succeeded returned key) :
    KeySound config succeeded' returned' key := by
  rcases key with _ | (_ | _ | _)
  · trivial
  · exact sound
  · exact succeeds sound
  · exact sound.imp_left returns

end Growth

/-- Every delivery, the key and the caches rest on deliveries that succeeded. -/
structure DedupWorld.Sound (config : DeduplicationConfig ρ) (w : DedupWorld ρ) : Prop where
  record : ∀ d ∈ w.deliveries, RecordSound config w.Succeeded w.Returned d
  phase : ∀ d ∈ w.deliveries, PhaseSound config d d.phase
  key : KeySound config w.Succeeded w.Returned w.key
  caches : ∀ process writer, w.caches.get? process = some writer → w.Succeeded writer

namespace DedupWorld

variable {w w' : DedupWorld ρ}

theorem Sound.viewSound (sound : w.Sound config) (member : d ∈ w.deliveries) :
    ViewSound config w.Succeeded w.Returned (w.view d) where
  record := sound.record d member
  phase := sound.phase d member
  key := sound.key
  cached := fun writer cached => sound.caches d.process writer cached

theorem get?_caches_update {index process : Nat} {view : DedupView ρ} {other writer : Nat}
    (cached : (w.update index process view).caches.get? other = some writer) :
    view.cached = some writer ∨ w.caches.get? other = some writer := by
  unfold update at cached
  cases entry : view.cached with
  | none =>
    simp only [entry, OrderedDict.get?_erase] at cached
    split at cached
    · cases cached
    · exact .inr cached
  | some held =>
    simp only [entry, OrderedDict.get?_set] at cached
    split at cached
    · exact .inl cached
    · exact .inr cached

theorem grows_update {index : Nat} (found : w.deliveries[index]? = some d)
    (keeps : Keeps d view.delivery) : w.Grows (w.update index d.process view) := by
  refine grows_of_keeps fun other d' found' => ?_
  rcases getElem?_moved view.delivery found found' with ⟨rfl, moved⟩ | same
  · exact ⟨view.delivery, moved, keeps⟩
  · exact ⟨d', same, ⟨id, fun _ held => held⟩⟩

theorem Sound.update (sound : w.Sound config) {index : Nat} (found : w.deliveries[index]? = some d)
    (stepped : SoundStep config w.Succeeded w.Returned (w.view d) view) :
    (w.update index d.process view).Sound config := by
  have grows : w.Grows (w.update index d.process view) := grows_update found stepped.keeps
  have members : ∀ d' ∈ (w.update index d.process view).deliveries,
      d' ∈ w.deliveries ∨ d' = view.delivery :=
    fun d' member => mem_or_eq_of_mem_set member
  refine ⟨?_, ?_, ?_, ?_⟩
  · intro d' member
    rcases members d' member with old | rfl
    · exact (sound.record d' old).mono grows.succeeded grows.returned
    · exact stepped.sound.record.mono grows.succeeded grows.returned
  · intro d' member
    rcases members d' member with old | rfl
    · exact sound.phase d' old
    · exact stepped.sound.phase
  · exact stepped.sound.key.mono grows.succeeded grows.returned
  · intro process writer cached
    rcases get?_caches_update cached with own | other
    · exact grows.succeeded (stepped.sound.cached writer own)
    · exact grows.succeeded (sound.caches process writer other)

theorem Sound.deliver (sound : w.Sound config) (process : Nat) :
    ({ w with deliveries := w.deliveries ++ [{ process := process }] } : DedupWorld ρ).Sound
      config := by
  have grows : w.Grows { w with deliveries := w.deliveries ++ [{ process := process }] } := by
    refine grows_of_keeps fun index d found => ?_
    obtain ⟨inBounds, _⟩ := List.getElem?_eq_some_iff.mp found
    refine ⟨d, ?_, ⟨id, fun _ held => held⟩⟩
    simpa [getElem?_append_left inBounds] using found
  refine ⟨?_, ?_, sound.key.mono grows.succeeded grows.returned, ?_⟩
  · intro d member
    rcases mem_append.mp member with old | new
    · exact (sound.record d old).mono grows.succeeded grows.returned
    · obtain rfl := mem_singleton.mp new
      exact .of_own rfl rfl (by simp) (by simp)
  · intro d member
    rcases mem_append.mp member with old | new
    · exact sound.phase d old
    · obtain rfl := mem_singleton.mp new
      exact ⟨rfl, rfl, rfl, rfl, rfl⟩
  · exact fun process writer cached => grows.succeeded (sound.caches process writer cached)

theorem get?_caches_erase {process other writer : Nat}
    (cached : (w.caches.erase process).get? other = some writer) :
    w.caches.get? other = some writer := by
  rw [OrderedDict.get?_erase] at cached
  split at cached
  · cases cached
  · exact cached

theorem keeps_crashed (process : Nat) (d : DedupDelivery ρ) : Keeps d (crashed process d) := by
  unfold crashed
  split
  · exact .phase d _ _
  · exact ⟨id, fun _ held => held⟩

theorem Sound.crash (sound : w.Sound config) (process : Nat) :
    ({ w with
      caches := w.caches.erase process
      deliveries := w.deliveries.map (crashed process) } : DedupWorld ρ).Sound config := by
  have grows : w.Grows { w with
      caches := w.caches.erase process
      deliveries := w.deliveries.map (crashed process) } := by
    refine grows_of_keeps fun index d found => ⟨crashed process d, ?_, keeps_crashed process d⟩
    simp [found]
  refine ⟨?_, ?_, sound.key.mono grows.succeeded grows.returned, ?_⟩
  · intro _ member
    obtain ⟨d, old, rfl⟩ := mem_map.mp member
    have recorded := (sound.record d old).mono grows.succeeded grows.returned
    unfold crashed
    split
    · exact recorded.of_same rfl rfl rfl (.inl rfl)
    · exact recorded
  · intro _ member
    obtain ⟨d, old, rfl⟩ := mem_map.mp member
    unfold crashed
    split
    · trivial
    · exact sound.phase d old
  · exact fun _ writer cached => grows.succeeded (sound.caches _ writer (get?_caches_erase cached))

theorem Sound.step (separate : config.storeResults = true → config.hasLocalCache = false)
    (sound : w.Sound config) {action : DedupAction ρ} (regular : w.regular action = true)
    (stepped : w.step config action = some w') : w'.Sound config := by
  cases action with
  | deliver process =>
    cases stepped
    exact sound.deliver process
  | act index step =>
    obtain ⟨d, found, after, advanced, rfl⟩ : ∃ d, w.deliveries[index]? = some d ∧
        ∃ after, (w.view d).advance config index step = some after ∧
          w.update index d.process after = w' := by
      simpa [DedupWorld.step, Option.bind_eq_some_iff] using stepped
    have regularStep : d.regular step = true := by
      simpa [DedupWorld.regular, found] using regular
    have member : d ∈ w.deliveries := mem_of_getElem? found
    refine sound.update found ?_
    exact (sound.viewSound member).advance separate (fun success => ⟨d, found, success⟩)
      (fun value result => ⟨d, found, result⟩) regularStep advanced
  | expire =>
    cases stepped
    exact ⟨sound.record, sound.phase, trivial, sound.caches⟩
  | evict process =>
    cases stepped
    exact ⟨sound.record, sound.phase, sound.key,
      fun _ writer cached => sound.caches _ writer (get?_caches_erase cached)⟩
  | crash process =>
    cases stepped
    exact sound.crash process

theorem sound_empty : (({} : DedupWorld ρ)).Sound config where
  record := by simp
  phase := by simp
  key := trivial
  caches := by simp

/-- In every run of regular steps a delivery is acknowledged as a duplicate only of
another one that succeeded, and replays only what the chain of another one returned; a
delivery is acknowledged for a claim in flight only if the configuration says so. -/
theorem duplicates_follow_success
    (separate : config.storeResults = true → config.hasLocalCache = false)
    {actions : List (DedupAction ρ)} {final : DedupWorld ρ}
    (run : RunWithin (DedupWorld.step config) (fun w action => w.regular action = true) {}
      actions final) {index : Nat} (found : final.deliveries[index]? = some d) :
    (d.ackOrigin = some .duplicate → d.duplicateOf.isSome = true) ∧
      (∀ writer, d.duplicateOf = some writer → writer ≠ index ∧ final.Succeeded writer) ∧
      (∀ writer value, d.replayOf = some (writer, value) →
        writer ≠ index ∧ final.Returned writer value) ∧
      (d.ackOrigin = some .inFlight → config.onInFlight = .ackSkip) := by
  have sound : final.Sound config :=
    run.invariant (fun sound regular stepped => sound.step separate regular stepped) sound_empty
  have record := sound.record d (mem_of_getElem? found)
  refine ⟨record.skipped, fun writer same => ?_, fun writer value same => ?_, record.inFlight⟩
  · obtain ⟨success, unreturned⟩ := record.duplicate writer same
    refine ⟨?_, success⟩
    rintro rfl
    obtain ⟨other, found', otherSuccess⟩ := success
    obtain rfl : d = other := by simpa [found] using found'
    simpa [unreturned] using otherSuccess.returned
  · obtain ⟨result, unreturned⟩ := record.replay writer value same
    refine ⟨?_, result⟩
    rintro rfl
    obtain ⟨other, found', otherResult⟩ := result
    obtain rfl : d = other := by simpa [found] using found'
    simp [unreturned] at otherResult

theorem duplicates_follow_success_cached : ∃ (final : DedupWorld Nat) (d : DedupDelivery Nat),
      RunWithin (DedupWorld.step { hasLocalCache := true })
        (fun w action => w.regular action = true) {}
        [.deliver 0, .act 0 .begin, .act 0 .query, .act 0 (.endChain none (.returned none)),
          .act 0 (.finish .success), .act 0 .mark, .act 0 .cache, .act 0 (.send true),
          .deliver 0, .act 1 .begin] final ∧
        final.deliveries[1]? = some d ∧ d.duplicateOf = some 0 ∧ final.Succeeded 0 := by
  simp only [exists_and_left]
  refine exists_runWithin_of_check
    (fun w => w.deliveries[1]?.any fun d => d.duplicateOf == some 0) (by decide)
    fun final run checked => ?_
  obtain ⟨d, found, skipped⟩ := Option.any_eq_true _ _ |>.mp checked
  have duplicate : d.duplicateOf = some 0 := beq_iff_eq.mp skipped
  have followed := duplicates_follow_success (by decide) run found
  exact ⟨d, found, duplicate, (followed.2.1 0 duplicate).2⟩

end DedupWorld

def DedupDelivery.completed (d : DedupDelivery ρ) : Bool :=
  d.returned.isSome && d.ackOrigin == some .successPath && d.acknowledged

def DedupDelivery.skipped (d : DedupDelivery ρ) : Bool :=
  d.settled == some .ack &&
    (d.duplicateOf.isSome || d.ackOrigin == some .inFlight || d.replayOf.isSome)

def DedupWorld.SkipsAfter (config : DeduplicationConfig ρ) (actions : List (DedupAction ρ)) :
    Prop :=
  ∃ final, Run (DedupWorld.step config) {} actions final ∧
    final.deliveries.any DedupDelivery.skipped = true ∧
    final.deliveries.any DedupDelivery.completed = false

theorem DedupWorld.skipsAfter_of_execute {config : DeduplicationConfig ρ}
    {actions : List (DedupAction ρ)} (executed : (execute (step config) {} actions).any (fun w =>
      w.deliveries.any skipped && !w.deliveries.any completed) = true) :
    DedupWorld.SkipsAfter config actions := by
  obtain ⟨final, run, checked⟩ := exists_runWithin_of_any _ _ _ _ _ executed
  rw [Bool.and_eq_true_iff, Bool.not_eq_true'] at checked
  exact ⟨final, run, checked.1, checked.2⟩

/-- A delivery is skipped after one that a middleware inside requeued before its chain
returned, that the failure path acknowledged, or whose stored result was cached and never
published; and, as configured or documented, beside a claim that then fails, after an
acknowledgement that was lost, after a result that was stored and not acknowledged, and
after one that the handler acknowledged itself. -/
theorem DedupWorld.skips_without_completion : DedupWorld.SkipsAfter (ρ := Nat) {}
        [.deliver 0, .act 0 .begin, .act 0 .query,
          .act 0 (.endChain (some (.nack true)) (.returned none)), .act 0 .mark, .act 0 .cache,
          .deliver 0, .act 1 .begin, .act 1 .query] ∧ DedupWorld.SkipsAfter (ρ := Nat) {}
        [.deliver 0, .act 0 .begin, .act 0 .query, .act 0 (.endChain none (.returned none)),
          .act 0 (.finish (.failure .ack)), .act 0 .mark, .act 0 .cache, .act 0 (.send true),
          .deliver 0, .act 1 .begin, .act 1 .query] ∧ DedupWorld.SkipsAfter (ρ := Nat)
        { markPolicy := .claim, storeResults := true, hasLocalCache := true }
        [.deliver 0, .act 0 .begin, .act 0 .query, .act 0 (.endChain none (.returned (some 7))),
          .act 0 .mark, .act 0 .cache, .act 0 (.finish .publishFailed), .deliver 0, .act 1 .begin] ∧
      DedupWorld.SkipsAfter (ρ := Nat) { markPolicy := .claim, onInFlight := .ackSkip }
        [.deliver 0, .act 0 .begin, .act 0 .query, .deliver 1, .act 1 .begin, .act 1 .query,
          .act 1 .read, .act 0 (.endChain none .raised)] ∧ DedupWorld.SkipsAfter (ρ := Nat) {}
        [.deliver 0, .act 0 .begin, .act 0 .query, .act 0 (.endChain none (.returned none)),
          .act 0 (.finish .success), .act 0 .mark, .act 0 .cache, .act 0 (.send false),
          .deliver 0, .act 1 .begin, .act 1 .query] ∧
      DedupWorld.SkipsAfter (ρ := Nat) { markPolicy := .claim, storeResults := true }
        [.deliver 0, .act 0 .begin, .act 0 .query, .act 0 (.endChain none (.returned (some 7))),
          .act 0 .mark, .act 0 .cache, .act 0 (.finish .publishFailed),
          .deliver 0, .act 1 .begin, .act 1 .query, .act 1 .read, .act 1 (.finish .success),
          .act 1 (.send true)] ∧ DedupWorld.SkipsAfter (ρ := Nat) {}
        [.deliver 0, .act 0 .begin, .act 0 .query, .act 0 (.endChain (some .ack) (.returned none)),
          .act 0 .mark, .act 0 .cache, .act 0 (.finish .success),
          .deliver 0, .act 1 .begin, .act 1 .query] := by
  refine ⟨?_, ?_, ?_, ?_, ?_, ?_, ?_⟩ <;> exact skipsAfter_of_execute (by decide)

end RabbitKit
