import RabbitKit.OrderedDict

/-! # Tables that keep their first definition

A server that holds named entities answers a declaration in one of three ways: it
creates the entity, it accepts a declaration that matches what it has, or it refuses.
Nothing is ever overwritten, so the table after a list of requests is determined by
the first request that offers a value for each key.
-/

inductive TableRequest (κ ν : Type*)
  /-- The key has to be taken. -/
  | probe (key : κ)
  /-- A taken key is left as it is. -/
  | offer (key : κ) (value : ν)
  /-- A taken key has to hold a matching value. -/
  | claim (key : κ) (value : ν)

inductive TableRefusal
  | missing
  | conflicting
  deriving DecidableEq

namespace TableRequest

open List

variable {κ ν : Type*}

def key : TableRequest κ ν → κ
  | probe key => key
  | offer key _ => key
  | claim key _ => key

def value : TableRequest κ ν → Option ν
  | probe _ => none
  | offer _ value => some value
  | claim _ value => some value

variable [DecidableEq κ] (accepts : ν → ν → Bool)

/-- `accepts existing value` decides about a claim of a taken key. -/
def perform (table : OrderedDict κ ν) : TableRequest κ ν → Except TableRefusal (OrderedDict κ ν)
  | probe key => if (table.get? key).isSome then .ok table else .error .missing
  | offer key value => .ok (if (table.get? key).isSome then table else table.set key value)
  | claim key value =>
    match table.get? key with
    | none => .ok (table.set key value)
    | some existing => if accepts existing value then .ok table else .error .conflicting

def performAll (table : OrderedDict κ ν) (requests : List (TableRequest κ ν)) :
    Except TableRefusal (OrderedDict κ ν) :=
  requests.foldlM (perform accepts) table

def valueAt (key : κ) (request : TableRequest κ ν) : Option ν :=
  if request.key = key then request.value else none

def firstValue (key : κ) (requests : List (TableRequest κ ν)) : Option ν :=
  requests.findSome? (valueAt key)

variable {accepts} {table final : OrderedDict κ ν} {request : TableRequest κ ν}
  {requests : List (TableRequest κ ν)}

/-- One request: what was there stays, and the value it offers fills a gap. -/
theorem get?_perform (success : perform accepts table request = .ok final) (key : κ) :
    final.get? key = (table.get? key).or (request.valueAt key) := by
  cases request <;> simp only [perform] at success
  case probe other =>
    split at success
    · cases success
      simp [valueAt, value]
    · cases success
  case offer other value =>
    cases success
    by_cases here : other = key
    · subst here
      cases found : table.get? other <;> simp [valueAt, TableRequest.value, TableRequest.key, found]
    · split <;> simp [valueAt, TableRequest.key, here, Ne.symm here]
  case claim other value =>
    split at success
    next absent =>
      cases success
      by_cases here : other = key
      · subst here
        simp [valueAt, TableRequest.value, TableRequest.key, absent]
      · simp [valueAt, TableRequest.key, here, Ne.symm here]
    next existing found =>
      split at success
      · cases success
        by_cases here : other = key
        · subst here
          simp [found]
        · simp [valueAt, TableRequest.key, here]
      · cases success

theorem performAll_singleton :
    performAll accepts table [request] = perform accepts table request := by
  simp [performAll]

/-- For a free key it makes no difference how it is asked for. -/
theorem perform_offer_eq_claim {key : κ} {value : ν} (absent : table.get? key = none) :
    perform accepts table (offer key value) = perform accepts table (claim key value) := by
  simp [perform, absent]

theorem performAll_cons (success : performAll accepts table (request :: requests) = .ok final) :
    ∃ middle, perform accepts table request = .ok middle ∧
      performAll accepts middle requests = .ok final := by
  simp only [performAll, foldlM_cons] at success
  cases first : perform accepts table request with
  | error refusal =>
    rw [first] at success
    cases success
  | ok middle =>
    rw [first] at success
    exact ⟨middle, rfl, success⟩

section

variable (success : performAll accepts table requests = .ok final)
include success

/-- A run keeps what was there and fills each gap with the first value offered. -/
theorem get?_performAll (key : κ) :
    final.get? key = (table.get? key).or (firstValue key requests) := by
  induction requests generalizing table with
  | nil =>
    cases success
    simp [firstValue]
  | cons request requests ih =>
    obtain ⟨middle, first, later⟩ := performAll_cons success
    rw [ih later, get?_perform first key, firstValue, firstValue, findSome?_cons]
    cases table.get? key <;> cases request.valueAt key <;> rfl

theorem get?_of_get? {value : ν} {key : κ}
    (present : table.get? key = some value) : final.get? key = some value := by
  rw [get?_performAll success key, present]
  rfl

omit success in
theorem exists_of_firstValue {key : κ} {value : ν} (first : firstValue key requests = some value) :
    ∃ request ∈ requests, request.key = key ∧ request.value = some value := by
  obtain ⟨request, member, offered⟩ := exists_of_findSome?_eq_some first
  unfold valueAt at offered
  split at offered
  next here =>
    exact ⟨request, member, here, offered⟩
  · cases offered

/-- Every key that was asked about is taken in the end. -/
theorem isSome_get?_of_mem
    (member : request ∈ requests) : ∃ value, final.get? request.key = some value := by
  induction requests generalizing table with
  | nil => cases member
  | cons head requests ih =>
    obtain ⟨middle, first, later⟩ := performAll_cons success
    rcases mem_cons.mp member with rfl | inRest
    · have taken : ∃ value, middle.get? request.key = some value := by
        rw [get?_perform first, ← Option.isSome_iff_exists]
        cases request with
        | probe key =>
          simp only [perform] at first
          split at first
          next present =>
            simp only [TableRequest.key, Option.isSome_or, present, Bool.true_or]
          · cases first
        | offer key value | claim key value => simp [valueAt, TableRequest.key, TableRequest.value]
      obtain ⟨value, present⟩ := taken
      exact ⟨value, get?_of_get? later present⟩
    · exact ih later inRest

end

theorem accepts_of_claim {key : κ} {value : ν} (selfAccepted : accepts value value = true)
    (success : performAll accepts table requests = .ok final)
    (member : claim key value ∈ requests) :
    ∃ existing, final.get? key = some existing ∧ accepts existing value = true := by
  induction requests generalizing table with
  | nil => cases member
  | cons head requests ih =>
    obtain ⟨middle, first, later⟩ := performAll_cons success
    rcases mem_cons.mp member with rfl | inRest
    · have granted : ∃ existing, middle.get? key = some existing ∧
          accepts existing value = true := by
        simp only [perform] at first
        split at first
        · cases first
          exact ⟨value, by simp, selfAccepted⟩
        next existing found =>
          split at first
          next accepted =>
            cases first
            exact ⟨existing, found, accepted⟩
          · cases first
      obtain ⟨existing, present, accepted⟩ := granted
      exact ⟨existing, get?_of_get? later present, accepted⟩
    · exact ih later inRest

theorem performAll_append {more : List (TableRequest κ ν)}
    (first : performAll accepts table requests = .ok final) :
    performAll accepts table (requests ++ more) = performAll accepts final more := by
  simp only [performAll, foldlM_append] at first ⊢
  rw [first]
  rfl

end TableRequest
