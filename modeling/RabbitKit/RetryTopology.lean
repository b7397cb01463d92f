import Mathlib.Data.Rat.Floor
import RabbitKit.QueueDefinitions
import RabbitKit.RetryBudget

/-! # The topology of the retry router

`RetryMiddleware` publishes a copy by name: the default exchange drops it unless a queue of that
name exists. `RetryRouter` defines those queues from the same configuration. The two sides are
written apart and have to agree.

The time a copy spends in a delay queue is the configured delay times the factor of its shard,
computed with the floats of the interpreter.
-/

namespace RabbitKit

open QueueSpec RetryConfig List Nat

/-- Float arithmetic: every operation rounds the exact result, and integers beyond the
range of a float raise `OverflowError`. -/
structure FloatArithmetic where
  round : ℚ → ℚ
  overflows : ℚ → Bool
  round_mono : Monotone round
  round_round : ∀ x, round (round x) = round x
  round_neg : ∀ x, round (-x) = -round x
  round_natCast : ∀ n : Nat, n ≤ 2 ^ 53 → round n = n
  round_double : ∀ n : Nat, round (2 * round n) = 2 * round n

namespace FloatArithmetic

variable (arithmetic : FloatArithmetic)

def ofNat (n : Nat) : ℚ := arithmetic.round n

def add (x y : ℚ) : ℚ := arithmetic.round (x + y)

def mul (x y : ℚ) : ℚ := arithmetic.round (x * y)

def div (x y : ℚ) : ℚ := arithmetic.round (x / y)

/-- `-1.0 + 2.0 * i / (rest - 1)`. -/
def spread (rest i : Nat) : ℚ :=
  arithmetic.add (-1)
    (arithmetic.div (arithmetic.mul 2 (arithmetic.ofNat i)) (arithmetic.ofNat (rest - 1)))

/-- `_shard_ttl_multipliers`. -/
def shardTtlMultipliers (shards : Nat) (jitterFactor : ℚ) : List ℚ :=
  if shards = 2 then [1, arithmetic.add 1 jitterFactor]
  else 1 :: (List.range (shards - 1)).map fun i =>
    arithmetic.add 1 (arithmetic.mul jitterFactor (arithmetic.spread (shards - 1) i))

/-- `max(1, int(delay_ms * mult))`. -/
def delayTtl (delayMs : Nat) (factor : ℚ) : Except TopologyFault Nat :=
  if arithmetic.overflows (arithmetic.ofNat delayMs) ||
      arithmetic.overflows (arithmetic.mul (arithmetic.ofNat delayMs) factor) then
    .error .overflowError
  else .ok (max 1 ⌊arithmetic.mul (arithmetic.ofNat delayMs) factor⌋₊)

theorem round_zero : arithmetic.round 0 = 0 := by
  simpa using arithmetic.round_natCast 0 (zero_le _)

theorem round_one : arithmetic.round 1 = 1 := by
  simpa using arithmetic.round_natCast 1 Nat.one_le_two_pow

theorem round_two : arithmetic.round 2 = 2 := by
  simpa using arithmetic.round_natCast 2 (by norm_num)

theorem ofNat_nonneg (n : Nat) : 0 ≤ arithmetic.ofNat n := by
  rw [← arithmetic.round_zero]
  exact arithmetic.round_mono (cast_nonneg n)

theorem ofNat_mono {m n : Nat} (atMost : m ≤ n) : arithmetic.ofNat m ≤ arithmetic.ofNat n :=
  arithmetic.round_mono (cast_le.mpr atMost)

theorem round_mem {low x high : ℚ} (lowFloat : arithmetic.round low = low)
    (highFloat : arithmetic.round high = high) (bounds : low ≤ x ∧ x ≤ high) :
    low ≤ arithmetic.round x ∧ arithmetic.round x ≤ high :=
  ⟨lowFloat ▸ arithmetic.round_mono bounds.1, highFloat ▸ arithmetic.round_mono bounds.2⟩

theorem spread_mem {rest i : Nat} (several : 2 ≤ rest) (index : i < rest) :
    -1 ≤ arithmetic.spread rest i ∧ arithmetic.spread rest i ≤ 1 := by
  have atLeastOne : 1 ≤ arithmetic.ofNat (rest - 1) := by
    rw [← arithmetic.round_one, ← cast_one]
    exact arithmetic.ofNat_mono (by omega)
  have doubled : arithmetic.mul 2 (arithmetic.ofNat i) = 2 * arithmetic.ofNat i :=
    arithmetic.round_double i
  have ordered : arithmetic.ofNat i ≤ arithmetic.ofNat (rest - 1) :=
    arithmetic.ofNat_mono (by omega)
  have quotient : 0 ≤ 2 * arithmetic.ofNat i / arithmetic.ofNat (rest - 1) ∧
      2 * arithmetic.ofNat i / arithmetic.ofNat (rest - 1) ≤ 2 := by
    have nonneg := arithmetic.ofNat_nonneg i
    refine ⟨by positivity, ?_⟩
    rw [div_le_iff₀ (by linarith)]
    linarith
  have rounded : 0 ≤ arithmetic.div (arithmetic.mul 2 (arithmetic.ofNat i))
        (arithmetic.ofNat (rest - 1)) ∧
      arithmetic.div (arithmetic.mul 2 (arithmetic.ofNat i)) (arithmetic.ofNat (rest - 1)) ≤ 2 := by
    rw [doubled]
    exact arithmetic.round_mem arithmetic.round_zero arithmetic.round_two quotient
  have negOne : arithmetic.round (-1) = -1 := by rw [arithmetic.round_neg, arithmetic.round_one]
  exact arithmetic.round_mem negOne arithmetic.round_one
    ⟨by linarith [rounded.1], by linarith [rounded.2]⟩

theorem multiplier_mem {shards : Nat} {jitterFactor factor : ℚ} (several : 2 ≤ shards)
    (nonneg : 0 ≤ jitterFactor) (float : arithmetic.round jitterFactor = jitterFactor)
    (member : factor ∈ arithmetic.shardTtlMultipliers shards jitterFactor) :
    arithmetic.add 1 (-jitterFactor) ≤ factor ∧ factor ≤ arithmetic.add 1 jitterFactor := by
  have ofShift {shift : ℚ} (bounds : -jitterFactor ≤ shift ∧ shift ≤ jitterFactor) :
      arithmetic.add 1 (-jitterFactor) ≤ arithmetic.add 1 shift ∧
        arithmetic.add 1 shift ≤ arithmetic.add 1 jitterFactor :=
    ⟨arithmetic.round_mono (by linarith [bounds.1]), arithmetic.round_mono (by linarith [bounds.2])⟩
  have one : arithmetic.add 1 (-jitterFactor) ≤ 1 ∧ 1 ≤ arithmetic.add 1 jitterFactor := by
    have shifted : arithmetic.add 1 (-jitterFactor) ≤ arithmetic.add 1 0 ∧
        arithmetic.add 1 0 ≤ arithmetic.add 1 jitterFactor := ofShift ⟨by linarith, nonneg⟩
    simpa only [add, add_zero, arithmetic.round_one] using shifted
  unfold shardTtlMultipliers at member
  split at member
  · rcases mem_pair.mp member with rfl | rfl
    · exact one
    · exact ofShift ⟨by linarith, le_refl _⟩
  · rcases mem_cons.mp member with rfl | spreadOut
    · exact one
    · obtain ⟨i, index, rfl⟩ := mem_map.mp spreadOut
      have negFloat : arithmetic.round (-jitterFactor) = -jitterFactor := by
        rw [arithmetic.round_neg, float]
      have several_rest : 2 ≤ shards - 1 := by omega
      obtain ⟨atLeast, atMost⟩ := arithmetic.spread_mem several_rest (mem_range.mp index)
      exact ofShift (arithmetic.round_mem negFloat float ⟨by nlinarith, by nlinarith⟩)

theorem length_shardTtlMultipliers {shards : Nat} {jitterFactor : ℚ} (several : 2 ≤ shards) :
    (arithmetic.shardTtlMultipliers shards jitterFactor).length = shards := by
  unfold shardTtlMultipliers
  split
  next two =>
    simp [two]
  · simp only [length_cons, length_map, length_range]
    omega

end FloatArithmetic

namespace RetryConfig

variable (config : RetryConfig) (arithmetic : FloatArithmetic)

def jitter : ℚ := arithmetic.round config.jitterFactor

def multipliers : List ℚ :=
  if config.sharded then
    arithmetic.shardTtlMultipliers config.jitterShards (config.jitter arithmetic)
  else [1]

/-- `_resolve_queue_type` with the default both callers pass. -/
def resolveQueueType : RetryQueueType → Option QueueType → QueueType
  | .classic, _ => .classic
  | .quorum, _ => .quorum
  | .inherit, some .quorum => .quorum
  | .inherit, _ => .classic

/-- `_get_delay_ms`.  The index is cut to the last delay, which an empty list lacks. -/
def getDelayMs (index : Nat) : Except TopologyFault Nat :=
  match config.delays[min index (config.delays.length - 1)]? with
  | some delay => .ok (delay * 1000)
  | none => .error .indexError

/-- The arguments of a delay queue, with those of `_quorum_delay_arguments`. -/
def delayArguments (source : String) (delayType : QueueType) (ttl : Nat) : ArgumentTable :=
  let plain : ArgumentTable := (((OrderedDict.empty.set "x-message-ttl" (.number ttl)
    ).set "x-dead-letter-exchange" (.text "")
    ).set "x-dead-letter-routing-key" (.text source)
    ).set "x-queue-type" (.text delayType.value)
  if delayType = .quorum then
    ((plain.setSome "x-quorum-initial-group-size"
        (config.quorumInitialGroupSize.map fun size => .number size)
      ).setSome "x-dead-letter-strategy"
        (config.delayQueueDeadLetterStrategy.map fun strategy => .text strategy.value)
      ).setSome "x-overflow"
        (if config.delayQueueDeadLetterStrategy = some .atLeastOnce then
          some (.text "reject-publish") else none)
  else plain

def delaySpec (source : String) (delayType : QueueType) (attempt shard ttl : Nat) : QueueSpec where
  name := shardQueueName source attempt shard
  arguments := config.delayArguments source delayType ttl

def shardQueue (source : String) (delayType : QueueType) (attempt delayMs : Nat) (shard : ℚ × Nat) :
    Except TopologyFault RabbitQueue := do
  let ttl ← arithmetic.delayTtl delayMs shard.1
  (config.delaySpec source delayType attempt shard.2 ttl).construct

/-- The delay queues of one attempt. -/
def tierQueues (source : String) (sourceType : Option QueueType) (index : Nat) :
    Except TopologyFault (List RabbitQueue) := do
  let delayMs ← config.getDelayMs index
  (config.multipliers arithmetic).zipIdx.mapM
    (config.shardQueue arithmetic source (resolveQueueType config.delayQueueType sourceType)
      (index + 1) delayMs)

def isQuorumDlq (sourceType : Option QueueType) : Bool :=
  resolveQueueType config.dlqQueueType sourceType == .quorum

/-- `RetryRouter.get_delay_queue_definitions`. -/
def getDelayQueueDefinitions (source : String) (sourceType : Option QueueType)
    (brokerMajor : Option Nat) : Except TopologyFault (List RabbitQueue) := do
  let tiers ← (List.range config.maxRetries).mapM (config.tierQueues arithmetic source sourceType)
  let dlq ← dlqQueueDefinition (dlqName source) (config.isQuorumDlq sourceType) brokerMajor
    (config.quorumInitialGroupSize.map fun size => size)
  return tiers.flatten ++ [dlq]

end RetryConfig

theorem numeral_injective {m n : Nat} (same : toString m = toString n) : m = n := by
  have digits : toDigits 10 m = toDigits 10 n := by
    rw [← numeral_toList, ← numeral_toList, same]
  rw [← ofDigitChars_ten_toDigits (n := m), digits, ofDigitChars_ten_toDigits]

theorem shardQueueName_injective {source : String} {attempt attempt' shard shard' : Nat}
    (same : shardQueueName source attempt shard = shardQueueName source attempt' shard') :
    attempt = attempt' ∧ shard = shard' := by
  have tiers := delayTier_shardQueueName source attempt shard
  rw [same, delayTier_shardQueueName, Option.some_inj] at tiers
  obtain rfl := numeral_injective tiers
  refine ⟨rfl, ?_⟩
  unfold shardQueueName at same
  split at same <;> split at same
  next first second =>
    rw [first, second]
  · have lengths := congrArg (fun name => name.toList.length) same
    simp [String.toList_append] at lengths
  · have lengths := congrArg (fun name => name.toList.length) same
    simp [String.toList_append] at lengths
  · exact numeral_injective (String.append_right_inj _ |>.mp same)

theorem delayTier_dlqName (source : String) : delayTier source (dlqName source) = none := by
  have differs : ¬ (delayQueueStem source).toList.isPrefixOf (dlqName source).toList = true := by
    rw [ isPrefixOf_iff_prefix, delayQueueStem, dlqName, String.toList_append,
      String.toList_append, prefix_append_right_inj]
    decide
  rw [delayTier, if_neg differs]

theorem shardQueueName_ne_dlqName (source : String) (attempt shard : Nat) :
    shardQueueName source attempt shard ≠ dlqName source := by
  intro same
  have tier := delayTier_shardQueueName source attempt shard
  rw [same, delayTier_dlqName] at tier
  cases tier

section FallibleSteps

variable {ε α β γ : Type} {step : α → Except ε β} {inputs : List α} {outputs : List β}

theorem mem_mapM (success : inputs.mapM step = .ok outputs) :
    (∀ output ∈ outputs, ∃ input ∈ inputs, step input = .ok output) ∧
      ∀ input ∈ inputs, ∃ output ∈ outputs, step input = .ok output := by
  induction inputs generalizing outputs with
  | nil =>
    cases success
    exact ⟨nofun, nofun⟩
  | cons input inputs ih =>
    rw [mapM_cons] at success
    obtain ⟨first, stepped, afterFirst⟩ := ok_of_bind success
    obtain ⟨rest, later, afterRest⟩ := ok_of_bind afterFirst
    cases afterRest
    obtain ⟨built, mapped⟩ := ih later
    simp only [forall_mem_cons, exists_mem_cons_iff]
    exact ⟨⟨.inl stepped, fun output inRest => .inr (built output inRest)⟩,
      .inl stepped, fun other inRest => .inr (mapped other inRest)⟩

theorem exists_mapM_ok (success : ∀ input ∈ inputs, ∃ output, step input = .ok output) :
    ∃ outputs, inputs.mapM step = .ok outputs := by
  induction inputs with
  | nil => exact ⟨[], rfl⟩
  | cons head inputs ih =>
    obtain ⟨first, stepped⟩ := success head mem_cons_self
    obtain ⟨rest, later⟩ := ih fun input member => success input (mem_cons_of_mem _ member)
    refine ⟨first :: rest, ?_⟩
    rw [mapM_cons, stepped, later]
    rfl

theorem map_eq_of_mapM (success : inputs.mapM step = .ok outputs) (ofOutput : β → γ)
    (ofInput : α → γ)
    (agree : ∀ input output, step input = .ok output → ofOutput output = ofInput input) :
    outputs.map ofOutput = inputs.map ofInput := by
  induction inputs generalizing outputs with
  | nil =>
    cases success
    rfl
  | cons input inputs ih =>
    rw [mapM_cons] at success
    obtain ⟨first, stepped, afterFirst⟩ := ok_of_bind success
    obtain ⟨rest, later, afterRest⟩ := ok_of_bind afterFirst
    cases afterRest
    rw [map_cons, map_cons, agree input first stepped, ih later]

end FallibleSteps

namespace RetryConfig

variable {config : RetryConfig} {arithmetic : FloatArithmetic} {source : String}
  {sourceType : Option QueueType} {brokerMajor : Option Nat} {queues : List RabbitQueue}

def shardCount (config : RetryConfig) : Nat := if config.sharded then config.jitterShards else 1

/-- The names a configuration publishes copies to: one per attempt and shard, and the
dead-letter queue. -/
def publishTargets (config : RetryConfig) (source : String) : List String :=
  ((List.range config.maxRetries).flatMap fun index =>
    (List.range config.shardCount).map (shardQueueName source (index + 1))) ++ [dlqName source]

theorem length_multipliers : (config.multipliers arithmetic).length = config.shardCount := by
  unfold multipliers shardCount
  split
  next sharded =>
    exact arithmetic.length_shardTtlMultipliers (config.shards_valid sharded).1
  · rfl

def IsDelayQueue (config : RetryConfig) (arithmetic : FloatArithmetic) (source : String)
    (sourceType : Option QueueType) (index : Nat) (queue : RabbitQueue) : Prop :=
  ∃ delayMs shard ttl, ∃ factor ∈ config.multipliers arithmetic,
    config.getDelayMs index = .ok delayMs ∧ arithmetic.delayTtl delayMs factor = .ok ttl ∧
    queue.toQueueSpec = config.delaySpec source
      (resolveQueueType config.delayQueueType sourceType) (index + 1) shard ttl

variable {index : Nat} {queue : RabbitQueue} {factor : ℚ}

section

variable (success : config.tierQueues arithmetic source sourceType index = .ok queues)
include success

theorem isDelayQueue_of_tier
    (member : queue ∈ queues) : IsDelayQueue config arithmetic source sourceType index queue := by
  obtain ⟨delayMs, delayed, shards⟩ := ok_of_bind success
  obtain ⟨⟨factor, shard⟩, listed, built⟩ := (mem_mapM shards).1 _ member
  obtain ⟨ttl, lasts, constructed⟩ := ok_of_bind built
  exact ⟨delayMs, shard, ttl, factor, (mem_zipIdx' listed).2 ▸ getElem_mem _, delayed, lasts,
    construct_eq_ok constructed⟩

theorem names_of_tier : (queues.map fun queue => queue.name) =
      (range config.shardCount).map (shardQueueName source (index + 1)) := by
  obtain ⟨delayMs, _, shards⟩ := ok_of_bind success
  have names := map_eq_of_mapM shards (fun queue => queue.name)
    (fun shard => shardQueueName source (index + 1) shard.2) fun shard queue built => by
      obtain ⟨ttl, _, constructed⟩ := ok_of_bind built
      rw [construct_eq_ok constructed]
      rfl
  have indices : (config.multipliers arithmetic).zipIdx.map Prod.snd = range config.shardCount := by
    rw [zipIdx_map_snd, config.length_multipliers, range_eq_range']
  rw [names, ← indices, map_map]
  rfl

end

section

variable (defined : config.getDelayQueueDefinitions arithmetic source sourceType brokerMajor =
  .ok queues)
include defined

/-- The queues of the router: those of the attempts, then the dead-letter queue. -/
theorem definitions_cases : ∃ tiers dlq,
      (range config.maxRetries).mapM (config.tierQueues arithmetic source sourceType) = .ok tiers ∧
      dlq.toQueueSpec = dlqQueueSpec (dlqName source) (config.isQuorumDlq sourceType) brokerMajor
        (config.quorumInitialGroupSize.map fun size => size) ∧ queues = tiers.flatten ++ [dlq] := by
  obtain ⟨tiers, tiered, afterTiers⟩ := ok_of_bind defined
  obtain ⟨dlq, constructed, afterDlq⟩ := ok_of_bind afterTiers
  cases afterDlq
  exact ⟨tiers, dlq, tiered, construct_eq_ok constructed, rfl⟩

theorem names_of_definitions :
    (queues.map fun queue => queue.name) = config.publishTargets source := by
  obtain ⟨tiers, dlq, tiered, spec, rfl⟩ := definitions_cases defined
  have tierNames := map_eq_of_mapM tiered (map fun queue => queue.name)
    (fun index => (range config.shardCount).map (shardQueueName source (index + 1)))
    fun index queues success => names_of_tier success
  have dlqNamed : dlq.name = dlqName source := by rw [spec, name_dlqQueueSpec]
  rw [map_append, map_flatten, tierNames, publishTargets, flatMap_def]
  simp only [map_cons, map_nil, dlqNamed]

theorem definition_kinds {queue : RabbitQueue} (member : queue ∈ queues) :
    (∃ index < config.maxRetries, IsDelayQueue config arithmetic source sourceType index queue) ∨
      queue.toQueueSpec = dlqQueueSpec (dlqName source) (config.isQuorumDlq sourceType) brokerMajor
        (config.quorumInitialGroupSize.map fun size => size) := by
  obtain ⟨tiers, dlq, tiered, spec, rfl⟩ := definitions_cases defined
  rcases mem_append.mp member with inTiers | last
  · obtain ⟨tier, listed, inTier⟩ := mem_flatten.mp inTiers
    obtain ⟨index, bound, success⟩ := (mem_mapM tiered).1 _ listed
    exact .inl ⟨index, mem_range.mp bound, isDelayQueue_of_tier success inTier⟩
  · obtain rfl := mem_singleton.mp last
    exact .inr spec

end

theorem publishTargets_nodup (config : RetryConfig) (source : String) :
    (config.publishTargets source).Nodup := by
  refine .append ?_ (nodup_singleton _) ?_
  · refine nodup_flatMap.mpr ⟨fun index _ => ?_, ?_⟩
    · exact nodup_range.map fun first second same => (shardQueueName_injective same).2
    · refine nodup_range.imp fun {first second} different => ?_
      intro name inFirst inSecond
      obtain ⟨shard, _, rfl⟩ := mem_map.mp inFirst
      obtain ⟨shard', _, same⟩ := mem_map.mp inSecond
      have attempts := (shardQueueName_injective same).1
      exact different (by omega)
  · intro name delays last
    obtain ⟨index, _, inTier⟩ := mem_flatMap.mp delays
    obtain ⟨shard, _, rfl⟩ := mem_map.mp inTier
    exact shardQueueName_ne_dlqName source (index + 1) shard (mem_singleton.mp last)

theorem delayQueueFor_eq (config : RetryConfig) (runtime : RetryRuntime)
    (source messageId : String) (attempt : Nat) : ∃ shard < config.shardCount,
      config.delayQueueFor runtime source messageId attempt =
        shardQueueName source attempt shard := by
  unfold delayQueueFor shardCount
  split
  next sharded =>
    refine ⟨config.shardIndex runtime messageId, ?_, rfl⟩
    have several := (config.shards_valid sharded).1
    unfold shardIndex
    split
    · omega
    · exact mod_lt _ (by omega)
  · exact ⟨0, one_pos, by simp [shardQueueName]⟩

def lowestFactor (config : RetryConfig) (arithmetic : FloatArithmetic) : ℚ :=
  if config.sharded then arithmetic.add 1 (-config.jitter arithmetic) else 1

def highestFactor (config : RetryConfig) (arithmetic : FloatArithmetic) : ℚ :=
  if config.sharded then arithmetic.add 1 (config.jitter arithmetic) else 1

theorem factor_mem (member : factor ∈ config.multipliers arithmetic) :
    config.lowestFactor arithmetic ≤ factor ∧ factor ≤ config.highestFactor arithmetic := by
  unfold multipliers at member
  unfold lowestFactor highestFactor
  split at member
  next sharded =>
    obtain ⟨several, positive, _⟩ := config.shards_valid sharded
    have nonneg : 0 ≤ config.jitter arithmetic := by
      rw [← arithmetic.round_zero]
      exact arithmetic.round_mono positive.le
    rw [if_pos sharded, if_pos sharded]
    exact arithmetic.multiplier_mem several nonneg (arithmetic.round_round _) member
  next plain =>
    rw [if_neg plain, if_neg plain, mem_singleton.mp member]
    exact ⟨le_refl 1, le_refl 1⟩

def scaledDelay (arithmetic : FloatArithmetic) (delayMs : Nat) (factor : ℚ) : Nat :=
  max 1 ⌊arithmetic.mul (arithmetic.ofNat delayMs) factor⌋₊

theorem scaledDelay_mono (delayMs : Nat) : Monotone (scaledDelay arithmetic delayMs) := by
  intro low high ordered
  have products := mul_le_mul_of_nonneg_left ordered (arithmetic.ofNat_nonneg delayMs)
  exact max_le_max le_rfl (floor_mono (arithmetic.round_mono products))

theorem eq_scaledDelay {delayMs ttl : Nat} (lasts : arithmetic.delayTtl delayMs factor = .ok ttl) :
    ttl = scaledDelay arithmetic delayMs factor := by
  unfold FloatArithmetic.delayTtl at lasts
  split at lasts
  · cases lasts
  · cases lasts
    rfl

/-- A declared queue that holds a copy for the delay of an attempt and then returns it. -/
structure Delays (config : RetryConfig) (arithmetic : FloatArithmetic) (source : String)
    (index : Nat) (queue : RabbitQueue) : Prop where
  exchange : queue.declareArguments.get? "x-dead-letter-exchange" = some (.text "")
  returns : queue.declareArguments.get? "x-dead-letter-routing-key" = some (.text source)
  lasts : ∃ delayMs ttl : Nat, config.getDelayMs index = .ok delayMs ∧
    queue.declareArguments.get? "x-message-ttl" = some (.number ttl) ∧ 1 ≤ ttl ∧
    scaledDelay arithmetic delayMs (config.lowestFactor arithmetic) ≤ ttl ∧
    ttl ≤ scaledDelay arithmetic delayMs (config.highestFactor arithmetic)

theorem get?_delayArguments (config : RetryConfig) (source : String) (delayType : QueueType)
    (ttl : Nat) :
    (config.delayArguments source delayType ttl).get? "x-message-ttl" = some (.number ttl) ∧
    (config.delayArguments source delayType ttl).get? "x-dead-letter-exchange" = some (.text "") ∧
    (config.delayArguments source delayType ttl).get? "x-dead-letter-routing-key" =
      some (.text source) ∧ (config.delayArguments source delayType ttl).get? "x-queue-type" =
      some (.text delayType.value) := by
  unfold delayArguments
  split <;> simp

theorem get?_declareArguments_raw {spec : QueueSpec} {key : String} {value : ArgumentValue}
    (raw : spec.arguments.get? key = some value) : spec.declareArguments.get? key = some value := by
  simp [declareArguments, raw]

theorem IsDelayQueue.delays
    (delayQueue : IsDelayQueue config arithmetic source sourceType index queue) :
    Delays config arithmetic source index queue := by
  obtain ⟨delayMs, shard, ttl, factor, member, delayed, lasts, spec⟩ := delayQueue
  obtain ⟨ttlArgument, exchange, returns, _⟩ := get?_delayArguments config source
    (resolveQueueType config.delayQueueType sourceType) ttl
  obtain rfl := eq_scaledDelay lasts
  obtain ⟨atLeast, atMost⟩ := factor_mem member
  have raw : queue.arguments = config.delayArguments source
      (resolveQueueType config.delayQueueType sourceType)
      (scaledDelay arithmetic delayMs factor) := congrArg arguments spec
  rw [← raw] at ttlArgument exchange returns
  exact ⟨get?_declareArguments_raw exchange, get?_declareArguments_raw returns, delayMs, _,
    delayed, get?_declareArguments_raw ttlArgument, le_max_left _ _,
    scaledDelay_mono delayMs atLeast, scaledDelay_mono delayMs atMost⟩

/-- The queue of an attempt and a shard is among those of the router, and delays. -/
theorem delays_of_definitions {index shard : Nat}
    (defined : config.getDelayQueueDefinitions arithmetic source sourceType brokerMajor = .ok
    queues) (attempted : index < config.maxRetries) (sharded : shard < config.shardCount) :
    ∃ queue ∈ queues, queue.name = shardQueueName source (index + 1) shard ∧
      Delays config arithmetic source index queue := by
  have target : shardQueueName source (index + 1) shard ∈ queues.map fun queue => queue.name := by
    rw [names_of_definitions defined]
    exact mem_append_left _ (mem_flatMap.mpr ⟨index, mem_range.mpr attempted,
      mem_map_of_mem (mem_range.mpr sharded)⟩)
  obtain ⟨queue, member, named⟩ := mem_map.mp target
  refine ⟨queue, member, named, ?_⟩
  rcases definition_kinds defined member with ⟨other, _, delayQueue⟩ | dlq
  · -- the name fixes the attempt
    obtain ⟨_, shard', _, _, _, _, _, spec⟩ := id delayQueue
    have sameName : shardQueueName source (other + 1) shard' =
        shardQueueName source (index + 1) shard := by
      rw [← named, spec]
      rfl
    have attempts := (shardQueueName_injective sameName).1
    obtain rfl : other = index := by omega
    exact delayQueue.delays
  · refine absurd ?_ (shardQueueName_ne_dlqName source (index + 1) shard)
    rw [← named, dlq, name_dlqQueueSpec]

end RetryConfig

namespace RetryRoute

/-- What the queues of a router are for the deliveries of its route. -/
structure AgreesWithTopology (route : RetryRoute) (arithmetic : FloatArithmetic)
    (queues : List RabbitQueue) : Prop where
  distinct : (queues.map fun queue => queue.name).Nodup
  copies : ∀ (delivery : FailedDelivery) (count : Nat) (stamp : FailureStamp)
    (envelope : RetryEnvelope), count < route.config.maxRetries →
    route.config.buildRetryEnvelope route.runtime (route.consumed delivery) count stamp =
      .ok envelope →
    ∃ queue ∈ queues, queue.name = envelope.routingKey ∧
      route.config.Delays arithmetic route.source.name count queue
  terminal : ∀ delivery : FailedDelivery, ∃ queue ∈ queues,
    queue.name = dlqName route.source.name ∧
      RetryConfig.terminalQueue route.runtime (route.consumed delivery).headers = some queue.name

/-- Copies and terminal copies go to queues that the router declares, and a copy comes
back to its queue after the delay of its attempt. -/
theorem retry_routing_agrees (route : RetryRoute) (arithmetic : FloatArithmetic)
    (sourceType : Option QueueType) (brokerMajor : Option Nat) (queues : List RabbitQueue)
    (defined : route.config.getDelayQueueDefinitions arithmetic route.source.name sourceType
      brokerMajor = .ok queues) : route.AgreesWithTopology arithmetic queues := by
  have names := names_of_definitions defined
  refine ⟨names ▸ route.config.publishTargets_nodup route.source.name, ?_, ?_⟩
  · intro delivery count stamp envelope retried built
    obtain ⟨counter, builds⟩ := builds_of_success built
    obtain ⟨messageId, addressed⟩ := builds.addressed
    obtain ⟨shard, bound, named⟩ := route.config.delayQueueFor_eq route.runtime
      route.source.name messageId (count + 1)
    rw [addressed, namedSource_consumed, named]
    exact delays_of_definitions defined retried bound
  · intro delivery
    have dlq : dlqName route.source.name ∈ queues.map fun queue => queue.name := by
      rw [names]
      exact mem_append_right _ (mem_singleton_self _)
    obtain ⟨queue, member, named⟩ := mem_map.mp dlq
    refine ⟨queue, member, named, ?_⟩
    simp only [terminalQueue, sourceQueue_consumed, if_neg route.source.named, named]

def exactArithmetic : FloatArithmetic where
  round := id
  overflows _ := false
  round_mono := monotone_id
  round_round _ := rfl
  round_neg _ := rfl
  round_natCast _ _ := rfl
  round_double _ := rfl

theorem fifth_valid : 2 ≤ 3 ∧ (0 : ℚ) < 1 / 5 ∧ (1 / 5 : ℚ) < 1 := by norm_num

/-- Two attempts with three queues each, a fifth around the delay. -/
def shardedRetry : RetryRoute :=
  { untrustedRoute with
    config := { untrustedRoute.config with
      maxRetries := 2
      delays := [5, 30]
      jitterFactor := 1 / 5
      sharded := true
      jitterShards := 3
      shards_valid := fun _ => fifth_valid
      delays_valid := fun _ => le_refl 2 } }

theorem retry_routing_agrees_sharded :
    ∃ queues, shardedRetry.config.getDelayQueueDefinitions exactArithmetic "orders" none none =
        .ok queues ∧ queues.length = 7 ∧
      shardedRetry.AgreesWithTopology exactArithmetic queues := by
  have counted : (shardedRetry.config.getDelayQueueDefinitions exactArithmetic "orders" none
      none).toOption.map List.length = some 7 := by decide +kernel
  cases defined : shardedRetry.config.getDelayQueueDefinitions exactArithmetic "orders" none
      none with
  | error fault => simp [defined, Except.toOption] at counted
  | ok queues =>
    exact ⟨queues, rfl, by simpa [defined, Except.toOption] using counted,
      retry_routing_agrees shardedRetry exactArithmetic none none queues defined⟩

def singleRetry (delay : Nat) : RetryRoute :=
  { untrustedRoute with
    config := { untrustedRoute.config with
      trustRetryHeader := true
      maxRetries := 1
      delays := [delay]
      delays_valid := fun _ => le_refl 1 } }

theorem singleRetry_definitions (delay : Nat) :
    (singleRetry delay).config.getDelayQueueDefinitions exactArithmetic "orders" none none =
      .ok [⟨(singleRetry delay).config.delaySpec "orders" .classic 1 0 (max 1 (delay * 1000)), rfl⟩,
        ⟨dlqQueueSpec "orders.dlq" false none none, rfl⟩] := by
  have lasts : exactArithmetic.delayTtl (delay * 1000) 1 = .ok (max 1 (delay * 1000)) := by
    have product : exactArithmetic.mul (exactArithmetic.ofNat (delay * 1000)) 1 =
        ((delay * 1000 : Nat) : ℚ) := mul_one _
    rw [FloatArithmetic.delayTtl, product, floor_natCast]
    rfl
  have tier : (singleRetry delay).config.tierQueues exactArithmetic "orders" none 0 =
      .ok [⟨(singleRetry delay).config.delaySpec "orders" .classic 1 0
        (max 1 (delay * 1000)), rfl⟩] := by
    change (do
      let ttl ← exactArithmetic.delayTtl (delay * 1000) 1
      let queue ← ((singleRetry delay).config.delaySpec "orders" .classic 1 0 ttl).construct
      return [queue]) = _
    rw [lasts]
    rfl
  change (do
    let tier ← (singleRetry delay).config.tierQueues exactArithmetic "orders" none 0
    let dlq ← dlqQueueDefinition "orders.dlq" false none none
    return [tier].flatten ++ [dlq]) = _
  rw [tier]
  rfl

/-- A delay of zero seconds is declared as one millisecond, which no factor yields. -/
theorem zero_delay_outside_jitter : ∃ delayQueue dlq,
      (singleRetry 0).config.getDelayQueueDefinitions exactArithmetic "orders" none none =
        .ok [delayQueue, dlq] ∧ (singleRetry 0).config.getDelayMs 0 = .ok 0 ∧
      delayQueue.declareArguments.get? "x-message-ttl" = some (.number 1) ∧
      ∀ factor : ℚ, ((0 : Nat) : ℚ) * factor < 1 :=
  ⟨_, _, singleRetry_definitions 0, rfl, by decide, fun factor => by norm_num⟩

end RetryRoute

end RabbitKit
