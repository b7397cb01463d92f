import Mathlib.Data.List.Basic
import Mathlib.Data.List.Nodup

/-! # Insertion-ordered dictionaries

A dictionary that iterates over its keys in the order in which they were first
assigned: assigning to a key that is present keeps its position, removing it
forgets the position.  Every key occurs once, and the structure carries that
fact.
-/

structure OrderedDict (κ ν : Type*) where
  entries : List (κ × ν)
  nodupKeys : (entries.map Prod.fst).Nodup

namespace OrderedDict

open List

variable {κ ν : Type*}

def keys (dict : OrderedDict κ ν) : List κ := dict.entries.map Prod.fst

def size (dict : OrderedDict κ ν) : Nat := dict.entries.length

def empty : OrderedDict κ ν := ⟨[], List.nodup_nil⟩

instance : Inhabited (OrderedDict κ ν) := ⟨empty⟩

theorem keys_nodup (dict : OrderedDict κ ν) : dict.keys.Nodup := dict.nodupKeys

@[simp]
theorem keys_empty : (empty : OrderedDict κ ν).keys = [] := rfl

variable {dict : OrderedDict κ ν}

@[simp]
theorem length_keys (dict : OrderedDict κ ν) : dict.keys.length = dict.size := by
  simp [keys, size]

variable [DecidableEq κ]

def lookup (key : κ) : List (κ × ν) → Option ν
  | [] => none
  | entry :: rest => if entry.1 = key then some entry.2 else lookup key rest

def assign (key : κ) (value : ν) : List (κ × ν) → List (κ × ν)
  | [] => [(key, value)]
  | entry :: rest =>
    if entry.1 = key then (key, value) :: rest else entry :: assign key value rest

theorem lookup_assign (key other : κ) (value : ν) (entries : List (κ × ν)) :
    lookup other (assign key value entries) =
      if other = key then some value else lookup other entries := by
  induction entries with
  | nil => simp [assign, lookup, eq_comm]
  | cons entry rest ih =>
    by_cases here : entry.1 = key <;> by_cases same : other = key <;>
      simp_all [assign, lookup, eq_comm]

theorem map_fst_assign (key : κ) (value : ν) (entries : List (κ × ν)) :
    (assign key value entries).map Prod.fst =
      if key ∈ entries.map Prod.fst then entries.map Prod.fst
      else entries.map Prod.fst ++ [key] := by
  induction entries with
  | nil => simp [assign]
  | cons entry rest ih =>
    by_cases here : entry.1 = key
    · simp [assign, here]
    · have distinct : ¬ key = entry.1 := fun same => here same.symm
      by_cases later : key ∈ rest.map Prod.fst
      · simp only [assign, here, if_false, map_cons, ih, later, if_true,
          mem_cons, or_true]
      · simp only [assign, here, if_false, map_cons, ih, later,
          mem_cons, distinct, or_self, cons_append]

theorem lookup_filter_ne (key other : κ) (entries : List (κ × ν)) :
    lookup other (entries.filter fun entry => entry.1 ≠ key) =
      if other = key then none else lookup other entries := by
  induction entries with
  | nil => simp [lookup]
  | cons entry rest ih =>
    by_cases here : entry.1 = key
    · rw [filter_cons_of_neg (by simp [here]), ih, lookup, here]
      by_cases same : other = key
      · simp [same]
      · simp [same, Ne.symm same]
    · rw [filter_cons_of_pos (by simpa using here), lookup, lookup, ih]
      by_cases same : other = key
      · simp [same, here]
      · simp [same]

theorem lookup_isSome_iff (key : κ) (entries : List (κ × ν)) :
    (lookup key entries).isSome ↔ key ∈ entries.map Prod.fst := by
  induction entries with
  | nil => simp [lookup]
  | cons entry rest ih =>
    by_cases here : entry.1 = key
    · simp [lookup, here]
    · have distinct : ¬ key = entry.1 := fun same => here same.symm
      rw [lookup, if_neg here, ih, map_cons, mem_cons]
      simp only [distinct, false_or]

def get? (dict : OrderedDict κ ν) (key : κ) : Option ν := lookup key dict.entries

def getD (dict : OrderedDict κ ν) (key : κ) (default : ν) : ν :=
  (dict.get? key).getD default

def set (dict : OrderedDict κ ν) (key : κ) (value : ν) : OrderedDict κ ν where
  entries := assign key value dict.entries
  nodupKeys := by
    rw [map_fst_assign]
    split
    · exact dict.nodupKeys
    next fresh =>
      exact dict.nodupKeys.append (List.nodup_singleton key)
        (by simpa [List.disjoint_singleton] using fresh)

def erase (dict : OrderedDict κ ν) (key : κ) : OrderedDict κ ν where
  entries := dict.entries.filter fun entry => entry.1 ≠ key
  nodupKeys := dict.nodupKeys.sublist (List.filter_sublist.map Prod.fst)

def eraseAll (dict : OrderedDict κ ν) (removed : List κ) : OrderedDict κ ν :=
  removed.foldl erase dict

def setAll (dict : OrderedDict κ ν) (assigned : List κ) (value : ν) :
    OrderedDict κ ν :=
  assigned.foldl (fun current key => current.set key value) dict

@[simp]
theorem get?_empty (key : κ) : (empty : OrderedDict κ ν).get? key = none := rfl

section

variable (dict : OrderedDict κ ν)

@[simp]
theorem get?_set (key other : κ) (value : ν) : (dict.set key value).get? other =
      if other = key then some value else dict.get? other :=
  lookup_assign key other value dict.entries

@[simp]
theorem get?_erase (key other : κ) : (dict.erase key).get? other =
      if other = key then none else dict.get? other :=
  lookup_filter_ne key other dict.entries

@[simp]
theorem get?_eraseAll (removed : List κ) (other : κ) : (dict.eraseAll removed).get? other =
      if other ∈ removed then none else dict.get? other := by
  induction removed generalizing dict with
  | nil => simp [eraseAll]
  | cons key rest ih =>
    change ((dict.erase key).eraseAll rest).get? other = _
    rw [ih, get?_erase]
    by_cases later : other ∈ rest <;> by_cases here : other = key <;> simp [later, here]

@[simp]
theorem get?_setAll (assigned : List κ) (value : ν) (other : κ) :
    (dict.setAll assigned value).get? other =
      if other ∈ assigned then some value else dict.get? other := by
  induction assigned generalizing dict with
  | nil => simp [setAll]
  | cons key rest ih =>
    change ((dict.set key value).setAll rest value).get? other = _
    rw [ih, get?_set]
    by_cases later : other ∈ rest <;> by_cases here : other = key <;> simp [later, here]

end

def setSome (dict : OrderedDict κ ν) (key : κ) : Option ν → OrderedDict κ ν
  | some value => dict.set key value
  | none => dict

def assignAll (dict : OrderedDict κ ν) (entries : List (κ × ν)) : OrderedDict κ ν :=
  entries.foldl (fun current entry => current.set entry.1 entry.2) dict

def update (dict other : OrderedDict κ ν) : OrderedDict κ ν := dict.assignAll other.entries

@[simp]
theorem get?_setSome (dict : OrderedDict κ ν) (key other : κ) (value : Option ν) :
    (dict.setSome key value).get? other =
      if other = key then value.or (dict.get? other) else dict.get? other := by
  cases value <;> simp [setSome]

theorem get?_setSome_congr {first second : OrderedDict κ ν} {other : κ}
    (same : first.get? other = second.get? other) (key : κ) (value : Option ν) :
    (first.setSome key value).get? other = (second.setSome key value).get? other := by
  rw [get?_setSome, get?_setSome, same]

variable {entries : List (κ × ν)}

theorem get?_assignAll_of_nodup (dict : OrderedDict κ ν)
    (nodupKeys : (entries.map Prod.fst).Nodup) (key : κ) :
    (dict.assignAll entries).get? key = (lookup key entries).or (dict.get? key) := by
  induction entries generalizing dict with
  | nil => rfl
  | cons entry rest ih =>
    obtain ⟨absent, restNodup⟩ := nodup_cons.mp nodupKeys
    change ((dict.set entry.1 entry.2).assignAll rest).get? key = _
    rw [ih _ restNodup, get?_set, lookup]
    by_cases here : entry.1 = key
    · -- a key that is assigned here is not assigned again later
      have none_later : lookup key rest = none := by
        rw [← Option.not_isSome_iff_eq_none, lookup_isSome_iff]
        exact here ▸ absent
      simp [here, none_later]
    · simp [here, Ne.symm here]

@[simp]
theorem get?_update (dict other : OrderedDict κ ν) (key : κ) :
    (dict.update other).get? key = (other.get? key).or (dict.get? key) :=
  get?_assignAll_of_nodup dict other.nodupKeys key

variable {key : κ} {value : ν}

theorem get?_assignAll (found : (dict.assignAll entries).get? key = some value) :
    dict.get? key = some value ∨ (key, value) ∈ entries := by
  induction entries generalizing dict with
  | nil => exact .inl found
  | cons entry rest ih =>
    rcases ih found with assigned | later
    · rw [get?_set] at assigned
      split at assigned
      next here =>
        cases assigned
        exact .inr (here ▸ mem_cons_self)
      · exact .inl assigned
    · exact .inr (mem_cons_of_mem _ later)

theorem mem_keys_iff (dict : OrderedDict κ ν) (key : κ) :
    key ∈ dict.keys ↔ ∃ value, dict.get? key = some value := by
  rw [← Option.isSome_iff_exists]
  exact (lookup_isSome_iff key dict.entries).symm

theorem mem_of_lookup (found : lookup key entries = some value) : (key, value) ∈ entries := by
  induction entries with
  | nil => cases found
  | cons head rest ih =>
    simp only [lookup] at found
    split at found
    next here =>
      cases found
      exact here ▸ mem_cons_self
    · exact mem_cons_of_mem _ (ih found)

theorem mem_entries_of_get? (found : dict.get? key = some value) : (key, value) ∈ dict.entries :=
  mem_of_lookup found

/-- Keys occur once, so every listed entry is the one a lookup finds. -/
theorem get?_of_mem_entries {entry : κ × ν}
    (member : entry ∈ dict.entries) : dict.get? entry.1 = some entry.2 := by
  obtain ⟨entries, nodupKeys⟩ := dict
  change lookup entry.1 entries = some entry.2
  induction entries with
  | nil => cases member
  | cons head rest ih =>
    obtain ⟨absent, restNodup⟩ := nodup_cons.mp nodupKeys
    rcases mem_cons.mp member with rfl | inRest
    · simp [lookup]
    · have different : head.1 ≠ entry.1 := fun same =>
        absent (same ▸ mem_map_of_mem inRest)
      simp [lookup, different, ih restNodup inRest]

theorem mem_of_mem_assignAll {entry : κ × ν}
    (member : entry ∈ (empty.assignAll entries).entries) : entry ∈ entries :=
  (get?_assignAll (get?_of_mem_entries member)).resolve_left (by simp)

theorem get?_eq_none_iff (dict : OrderedDict κ ν) (key : κ) :
    dict.get? key = none ↔ key ∉ dict.keys := by
  rw [mem_keys_iff, not_exists, Option.eq_none_iff_forall_ne_some]

theorem keys_set (dict : OrderedDict κ ν) (key : κ) (value : ν) : (dict.set key value).keys =
      if key ∈ dict.keys then dict.keys else dict.keys ++ [key] :=
  map_fst_assign key value dict.entries

theorem size_set_le (dict : OrderedDict κ ν) (key : κ) (value : ν) :
    (dict.set key value).size ≤ dict.size + 1 := by
  rw [← length_keys, keys_set]
  split <;> simp [length_keys]

theorem keys_erase (dict : OrderedDict κ ν) (key : κ) :
    (dict.erase key).keys = dict.keys.erase key := by
  rw [dict.keys_nodup.erase_eq_filter, keys, keys, erase, filter_map]
  refine congrArg (map Prod.fst) (filter_congr fun entry _ => ?_)
  simp [bne, Bool.beq_eq_decide_eq]

theorem size_set_of_absent {dict : OrderedDict κ ν} {key : κ} (value : ν)
    (absent : dict.get? key = none) : (dict.set key value).size = dict.size + 1 := by
  rw [← length_keys, keys_set, if_neg ((dict.get?_eq_none_iff key).mp absent), length_append,
    length_keys, length_singleton]

theorem size_set_of_present {dict : OrderedDict κ ν} {key : κ} {old : ν} (value : ν)
    (present : dict.get? key = some old) : (dict.set key value).size = dict.size := by
  rw [← length_keys, keys_set, if_pos ((dict.mem_keys_iff key).mpr ⟨old, present⟩), length_keys]

theorem size_eraseAll {dict : OrderedDict κ ν} {removed : List κ} (distinct : removed.Nodup)
    (present : ∀ key ∈ removed, ∃ value, dict.get? key = some value) :
    (dict.eraseAll removed).size + removed.length = dict.size := by
  induction removed generalizing dict with
  | nil => rfl
  | cons key rest ih =>
    obtain ⟨fresh, distinct⟩ := nodup_cons.mp distinct
    have member := (dict.mem_keys_iff key).mpr (present key mem_cons_self)
    have others : ∀ other ∈ rest, ∃ value, (dict.erase key).get? other = some value := by
      intro other later
      obtain ⟨value, found⟩ := present other (mem_cons_of_mem _ later)
      have different : other ≠ key := fun same => fresh (same ▸ later)
      exact ⟨value, by rw [get?_erase, if_neg different, found]⟩
    have fewer : (dict.erase key).size + 1 = dict.size := by
      rw [← length_keys, ← length_keys, keys_erase, length_erase_of_mem member]
      exact Nat.sub_add_cancel (length_pos_of_mem member)
    have shorter := ih distinct others
    change ((dict.erase key).eraseAll rest).size + (rest.length + 1) = dict.size
    omega

theorem assign_of_not_mem
    (fresh : key ∉ entries.map Prod.fst) : assign key value entries = entries ++ [(key, value)] :=
    by
  induction entries with
  | nil => rfl
  | cons entry rest ih =>
    obtain ⟨different, later⟩ : key ≠ entry.1 ∧ key ∉ rest.map Prod.fst := by
      simpa only [map_cons, mem_cons, not_or] using fresh
    rw [assign, if_neg different.symm, ih later, cons_append]

theorem entries_set_of_not_mem
    (fresh : key ∉ dict.keys) : (dict.set key value).entries = dict.entries ++ [(key, value)] :=
  assign_of_not_mem fresh

end OrderedDict
