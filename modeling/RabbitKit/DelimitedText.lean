import Mathlib.Data.List.Basic
import Mathlib.Data.List.Count

/-! # Prefix codes and delimiter-terminated fields

A prefix code lets a reader find the first symbol of an encoded text whatever follows it, so of two
texts that start the same bytes one starts the other. Fields that each end in a delimiter can be
read back as long as the delimiter occurs in none of them.
-/

namespace DelimitedText

open List

variable {α β : Type*}

/-- The first symbol can be read off its code word and anything after it. -/
def IsPrefixCode (code : α → List β) : Prop :=
  ∀ ⦃first second : α⦄ ⦃rest rest' : List β⦄,
    code first ++ rest = code second ++ rest' → first = second

variable {code : α → List β}

/-- Of two texts whose codes start the same sequence, one starts the other. -/
theorem IsPrefixCode.split (prefixCode : IsPrefixCode code) {first second : List α}
    {rest rest' : List β} (same : first.flatMap code ++ rest = second.flatMap code ++ rest') :
    (∃ more, second = first ++ more ∧ rest = more.flatMap code ++ rest') ∨
      ∃ more, first = second ++ more ∧ rest' = more.flatMap code ++ rest := by
  induction first generalizing second with
  | nil => exact .inl ⟨second, rfl, same⟩
  | cons symbol later ih =>
    cases second with
    | nil => exact .inr ⟨symbol :: later, rfl, same.symm⟩
    | cons symbol' later' =>
      simp only [flatMap_cons, append_assoc] at same
      obtain rfl := prefixCode same
      rcases ih (append_cancel_left same) with
        ⟨more, rfl, remaining⟩ | ⟨more, rfl, remaining⟩
      · exact .inl ⟨more, rfl, remaining⟩
      · exact .inr ⟨more, rfl, remaining⟩

theorem utf8_isPrefixCode : IsPrefixCode String.utf8EncodeChar := by
  intro first second rest rest' same
  have bytes : (String.utf8EncodeChar first).toByteArray ++ rest.toByteArray =
      (String.utf8EncodeChar second).toByteArray ++ rest'.toByteArray := by
    rw [← toByteArray_append, ← toByteArray_append, same]
  have decoded := congrArg (ByteArray.utf8DecodeChar? · 0) bytes
  simpa [ByteArray.utf8DecodeChar?_utf8EncodeChar_append] using decoded

variable {delimiter : α}

/-- A split at the first delimiter against a split at any delimiter. -/
theorem split_at_first {before before' after after' : List α} (free : delimiter ∉ before)
    (same : before ++ delimiter :: after = before' ++ delimiter :: after') :
    (before' = before ∧ after' = after) ∨ ∃ between, before' = before ++ delimiter :: between ∧
        after = between ++ delimiter :: after' := by
  induction before generalizing before' with
  | nil =>
    cases before' with
    | nil => exact .inl ⟨rfl, by simpa using same.symm⟩
    | cons symbol later =>
      obtain ⟨rfl, rfl⟩ := same
      exact .inr ⟨later, rfl, rfl⟩
  | cons symbol later ih =>
    obtain ⟨different, laterFree⟩ : delimiter ≠ symbol ∧ delimiter ∉ later := by
      simpa using free
    cases before' with
    | nil =>
      simp only [nil_append, cons_append, cons.injEq] at same
      exact absurd same.1.symm different
    | cons symbol' later' =>
      simp only [cons_append, cons.injEq] at same
      obtain ⟨rfl, same⟩ := same
      rcases ih laterFree same with ⟨rfl, rfl⟩ | ⟨between, rfl, rfl⟩
      · exact .inl ⟨rfl, rfl⟩
      · exact .inr ⟨between, rfl, rfl⟩

theorem split_unique {before before' after after' : List α} (free : delimiter ∉ before)
    (free' : delimiter ∉ before')
    (same : before ++ delimiter :: after = before' ++ delimiter :: after') :
    before' = before ∧ after' = after := by
  rcases split_at_first free same with equal | ⟨between, rfl, _⟩
  · exact equal
  · simp at free'

def terminated (delimiter : α) (fields : List (List α)) : List α :=
  fields.flatMap (· ++ [delimiter])

@[simp]
theorem terminated_nil : terminated delimiter [] = [] := rfl

@[simp]
theorem terminated_cons (field : List α) (fields : List (List α)) :
    terminated delimiter (field :: fields) = field ++ delimiter :: terminated delimiter fields := by
  simp [terminated]

variable {fields others : List (List α)}

theorem getLast?_terminated (nonempty : fields ≠ []) :
    (terminated delimiter fields).getLast? = some delimiter := by
  rw [← dropLast_append_getLast nonempty]
  simp [terminated]

theorem terminated_injective
    (free : ∀ field ∈ fields, delimiter ∉ field) (free' : ∀ field ∈ others, delimiter ∉ field)
    (same : terminated delimiter fields = terminated delimiter others) : fields = others := by
  induction fields generalizing others with
  | nil =>
    cases others with
    | nil => rfl
    | cons other others => simp at same
  | cons field fields ih =>
    cases others with
    | nil => simp at same
    | cons other others =>
      simp only [terminated_cons] at same
      obtain ⟨rfl, rest⟩ := split_unique (free field (by simp)) (free' other (by simp)) same
      rw [ih (fun later member => free later (mem_cons_of_mem _ member))
        (fun later member => free' later (mem_cons_of_mem _ member)) rest.symm]

variable [DecidableEq α]

theorem length_le_count_terminated (delimiter : α) (fields : List (List α)) :
    fields.length ≤ (terminated delimiter fields).count delimiter := by
  induction fields with
  | nil => simp
  | cons field fields ih =>
    simp only [length_cons, terminated_cons, count_append, count_cons_self]
    omega

theorem count_terminated (free : ∀ field ∈ fields, delimiter ∉ field) :
    (terminated delimiter fields).count delimiter = fields.length := by
  induction fields with
  | nil => simp
  | cons field fields ih =>
    have here : field.count delimiter = 0 := count_eq_zero.mpr (free field (by simp))
    have later := ih fun other member => free other (mem_cons_of_mem _ member)
    simp [here, later]

theorem free_of_count_terminated
    (few : (terminated delimiter fields).count delimiter ≤ fields.length) :
    ∀ field ∈ fields, delimiter ∉ field := by
  induction fields with
  | nil => simp
  | cons field fields ih =>
    have enough := length_le_count_terminated delimiter fields
    simp only [terminated_cons, count_append, count_cons_self, length_cons] at few
    have here : field.count delimiter = 0 := by omega
    have later := ih (by omega)
    simpa [count_eq_zero.mp here] using later

/-- As many terminated fields found inside delimiter-free fields leave no
delimiter for what stands around them. -/
theorem terminated_inside {before after : List α}
    (free : ∀ field ∈ fields, delimiter ∉ field) (nonempty : fields ≠ [])
    (sameLength : others.length = fields.length)
    (inside : terminated delimiter fields = before ++ (terminated delimiter others ++ after)) :
    delimiter ∉ before ∧ after = [] ∧ ∀ field ∈ others, delimiter ∉ field := by
  have counted := congrArg (count delimiter) inside
  rw [count_terminated free, count_append, count_append] at counted
  have enough := length_le_count_terminated delimiter others
  refine ⟨count_eq_zero.mp (by omega), ?_, free_of_count_terminated (by omega)⟩
  by_contra remains
  have last : after.getLast? = some delimiter := by
    rw [← getLast?_terminated nonempty, inside, ← append_assoc,
      getLast?_append_of_ne_nil _ remains]
  have occurs := count_pos_iff.mpr (mem_of_getLast? last)
  omega

end DelimitedText
