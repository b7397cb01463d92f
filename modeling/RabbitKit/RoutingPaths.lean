import Mathlib.Data.List.TakeWhile
import RabbitKit.TopologyDeclaration

/-! # Named segments of a routing key

`core/path.py` binds the segments `{name}` of a route's pattern to the words of
a delivered routing key by their position.  The broker matched the key against
the binding key instead, in which each named segment is a `*`.
-/

namespace RabbitKit.RoutingPath

open List OrderedDict

abbrev Word := List Char

def words (key : String) : List Word := key.toList.splitOn '.'

/-- `_is_named`, with the name. -/
def segmentName (segment : Word) : Option Word :=
  if isNamedSegment segment then some segment.tail.dropLast else none

/-- The segments before the first `#`. -/
def fixedSegments (pattern : List Word) : List Word := pattern.takeWhile (· ≠ ['#'])

/-- The assignments of the loop, which ends at a `#` and with the words of the key. -/
def assignments (pattern actual : List Word) : List (Word × Word) :=
  ((fixedSegments pattern).zip actual).filterMap fun entry =>
    (segmentName entry.1).map (·, entry.2)

/-- `extract_path`. -/
def extractPath (actualRoutingKey pattern : String) : OrderedDict Word Word :=
  if '\x7b' ∈ pattern.toList then
    empty.assignAll (assignments (words pattern) (words actualRoutingKey))
  else empty

/-- A binding key matches a routing key; the word at a position is the one that
the `*` there matched. -/
inductive TopicMatch : List Word → List Word → List (Option Word) → Prop
  | nil : TopicMatch [] [] []
  | star {key actual matched} (word : Word) (rest : TopicMatch key actual matched) :
      TopicMatch (['*'] :: key) (word :: actual) (some word :: matched)
  | hash {key actual matched} (spanned : List Word) (rest : TopicMatch key actual matched) :
      TopicMatch (['#'] :: key) (spanned ++ actual) (none :: matched)
  | literal {key actual matched} {word : Word} (notStar : word ≠ ['*']) (notHash : word ≠ ['#'])
      (rest : TopicMatch key actual matched) :
      TopicMatch (word :: key) (word :: actual) (none :: matched)

def bindingSegment (segment : Word) : Word :=
  if isNamedSegment segment then ['*'] else segment

variable {pattern actual : List Word} {matched : List (Option Word)} {segment name : Word}

theorem of_mem_splitOn {text : List Char} (mem : segment ∈ text.splitOn '.') :
    '.' ∉ segment ∧ segment ⊆ text := by
  induction text generalizing segment with
  | nil =>
    obtain rfl : segment = [] := by simpa [splitOn_nil] using mem
    exact ⟨not_mem_nil, .refl _⟩
  | cons symbol rest ih =>
    rw [splitOn_cons_eq_if_modifyHead] at mem
    split at mem
    · rcases mem_cons.mp mem with rfl | later
      · exact ⟨not_mem_nil, nil_subset _⟩
      · exact ⟨(ih later).1, subset_cons_of_subset _ (ih later).2⟩
    · next other =>
      cases parts : rest.splitOn '.' with
      | nil => exact absurd parts (splitOn_ne_nil _ _)
      | cons first later =>
        rw [parts] at mem ih
        rcases mem_cons.mp mem with rfl | tail
        · obtain ⟨free, part⟩ := ih mem_cons_self
          refine ⟨?_, cons_subset_cons _ part⟩
          rintro (_ | ⟨_, inside⟩)
          · exact other rfl
          · exact free inside
        · obtain ⟨free, part⟩ := ih (mem_cons_of_mem _ tail)
          exact ⟨free, subset_cons_of_subset _ part⟩

theorem brace_of_named {text : List Char} (mem : segment ∈ text.splitOn '.')
    (named : isNamedSegment segment) : '\x7b' ∈ text := by
  simp only [isNamedSegment, Bool.and_eq_true, beq_iff_eq] at named
  exact (of_mem_splitOn mem).2 (mem_of_head? named.1.2)

theorem words_toBindingKey (pattern : String) :
    words (toBindingKey pattern) = (words pattern).map bindingSegment := by
  unfold toBindingKey words
  split
  · rw [String.toList_ofList]
    refine splitOn_intercalate _ ?_ (by simp)
    simp only [mem_map]
    rintro _ ⟨segment, mem, rfl⟩
    split
    · decide
    · exact (of_mem_splitOn mem).1
  · next unbraced =>
    have kept : ∀ segment ∈ pattern.toList.splitOn '.', bindingSegment segment = id segment := by
      intro segment mem
      exact if_neg fun named => unbraced (brace_of_named mem named)
    rw [map_congr_left kept, map_id]

theorem extractPath_eq (key pattern : String) :
    extractPath key pattern = empty.assignAll (assignments (words pattern) (words key)) := by
  unfold extractPath
  split
  · rfl
  · next unbraced =>
    have nothing : assignments (words pattern) (words key) = [] := by
      refine filterMap_eq_nil_iff.mpr fun entry mem => ?_
      have inside := ( takeWhile_prefix _).subset (of_mem_zip mem).1
      have unnamed : segmentName entry.1 = none :=
        if_neg fun named => unbraced (brace_of_named inside named)
      rw [unnamed, Option.map_none]
    rw [nothing]
    rfl

theorem matched_cons
    (topicMatch : TopicMatch ((segment :: pattern).map bindingSegment) actual matched)
    (fixed : segment ≠ ['#']) : ∃ word later laterMatched, actual = word :: later ∧
      TopicMatch (pattern.map bindingSegment) later laterMatched ∧
      matched = (if bindingSegment segment = ['*'] then some word else none) :: laterMatched := by
  rw [map_cons] at topicMatch
  generalize whole : bindingSegment segment = bound at topicMatch
  cases topicMatch with
  | star word rest => exact ⟨word, _, _, rfl, rest, by simp⟩
  | hash spanned rest =>
    unfold bindingSegment at whole
    split at whole
    · simp at whole
    · exact absurd whole fixed
  | literal notStar notHash rest => exact ⟨_, _, _, rfl, rest, by simp [notStar]⟩

theorem fixedSegments_cons (fixed : segment ≠ ['#']) :
    fixedSegments (segment :: pattern) = segment :: fixedSegments pattern := by
  simp [fixedSegments, fixed]

theorem assignments_cons (fixed : segment ≠ ['#']) (word : Word) :
    assignments (segment :: pattern) (word :: actual) =
      ((segmentName segment).map (·, word)).toList ++ assignments pattern actual := by
  unfold assignments
  rw [fixedSegments_cons fixed, zip_cons_cons, filterMap_cons]
  cases segmentName segment <;> rfl

theorem names_assigned (topicMatch : TopicMatch (pattern.map bindingSegment) actual matched) :
    (assignments pattern actual).map Prod.fst = (fixedSegments pattern).filterMap segmentName := by
  induction pattern generalizing actual matched with
  | nil => rfl
  | cons segment rest ih =>
    by_cases fixed : segment = ['#']
    · subst fixed
      rfl
    · obtain ⟨word, later, laterMatched, rfl, remaining, _⟩ := matched_cons topicMatch fixed
      rw [assignments_cons fixed, fixedSegments_cons fixed, filterMap_cons, map_append,
        ih remaining]
      cases segmentName segment <;> rfl

theorem get?_assignAll_of_absent {dict : OrderedDict Word Word} {entries : List (Word × Word)}
    (absent : name ∉ entries.map Prod.fst) :
    (dict.assignAll entries).get? name = dict.get? name := by
  induction entries generalizing dict with
  | nil => rfl
  | cons entry rest ih =>
    rw [map_cons, mem_cons, not_or] at absent
    rw [assignAll, foldl_cons, ← assignAll, ih absent.2, get?_set, if_neg absent.1]

theorem mem_keys_assignAll {dict : OrderedDict Word Word} {entries : List (Word × Word)} :
    name ∈ (dict.assignAll entries).keys ↔ name ∈ dict.keys ∨ name ∈ entries.map Prod.fst := by
  induction entries generalizing dict with
  | nil => simp [assignAll]
  | cons entry rest ih =>
    rw [assignAll, foldl_cons, ← assignAll, ih, mem_keys_iff, get?_set, mem_keys_iff]
    by_cases here : name = entry.1 <;> simp [here]

/-- The last of the assignments to a name decides its value. -/
theorem bound_to_matched (topicMatch : TopicMatch (pattern.map bindingSegment) actual matched)
    {index : Nat} (here : (fixedSegments pattern)[index]? = some segment)
    (named : segmentName segment = some name)
    (last : name ∉ ((fixedSegments pattern).drop (index + 1)).filterMap segmentName)
    (dict : OrderedDict Word Word) : ∃ word, matched[index]? = some (some word) ∧
      (dict.assignAll (assignments pattern actual)).get? name = some word := by
  induction pattern generalizing actual matched index dict with
  | nil => cases here
  | cons first rest ih =>
    by_cases fixed : first = ['#']
    · subst fixed
      cases here
    · obtain ⟨word, later, laterMatched, rfl, remaining, rfl⟩ := matched_cons topicMatch fixed
      rw [fixedSegments_cons fixed] at here last
      rw [assignments_cons fixed, assignAll, foldl_append, ← assignAll]
      cases index with
      | zero =>
        cases here
        refine ⟨word, ?_, ?_⟩
        · have starred : bindingSegment segment = ['*'] := by
            refine if_pos ?_
            by_contra unnamed
            simp [segmentName, unnamed] at named
          simp [starred]
        · rw [get?_assignAll_of_absent (by rwa [names_assigned remaining]), named]
          simp
      | succ index => exact ih remaining here last _

/-- A name before the first `#` is bound to the word that the `*` of its last
occurrence there matched, and without a `#` exactly the names of the pattern are bound. -/
theorem extractPath_agrees {key pattern : String}
    (topicMatch : TopicMatch (words (toBindingKey pattern)) (words key) matched) :
    (∀ index segment name, (fixedSegments (words pattern))[index]? = some segment →
      segmentName segment = some name →
      name ∉ ((fixedSegments (words pattern)).drop (index + 1)).filterMap segmentName →
      ∃ word, matched[index]? = some (some word) ∧
        (extractPath key pattern).get? name = some word) ∧
    (['#'] ∉ words pattern → ∀ name, name ∈ (extractPath key pattern).keys ↔
      name ∈ (words pattern).filterMap segmentName) := by
  rw [words_toBindingKey] at topicMatch
  rw [extractPath_eq]
  refine ⟨fun index segment name here named last => ?_, fun unspanned name => ?_⟩
  · exact bound_to_matched topicMatch here named last empty
  · have whole : fixedSegments (words pattern) = words pattern :=
      takeWhile_eq_self_iff.mpr fun segment mem =>
        decide_eq_true fun same => unspanned (same ▸ mem)
    rw [mem_keys_assignAll, names_assigned topicMatch, whole]
    simp

/-- The level of an event, with a `#` after it. -/
theorem extractPath_agrees_level :
    ∃ matched word, TopicMatch (words (toBindingKey "events.\x7blevel\x7d.#"))
        (words "events.warn.disk.full") matched ∧ matched[1]? = some (some word) ∧
      (extractPath "events.warn.disk.full" "events.\x7blevel\x7d.#").get? "level".toList =
        some word := by
  have topicMatch : TopicMatch (words (toBindingKey "events.\x7blevel\x7d.#"))
      (words "events.warn.disk.full") [none, some "warn".toList, none] :=
    .literal (by decide) (by decide)
      (.star "warn".toList (.hash ["disk".toList, "full".toList] .nil))
  obtain ⟨word, starred, bound⟩ :=
    (extractPath_agrees topicMatch).1 1 "\x7blevel\x7d".toList "level".toList
      (by decide) (by decide) (by decide)
  exact ⟨_, word, topicMatch, starred, bound⟩

/-- The first of two segments of one name is not bound to the word its `*` matched. -/
theorem extractPath_overwritten :
    TopicMatch (words (toBindingKey "\x7ba\x7d.\x7ba\x7d")) (words "x.y") [some ['x'], some ['y']] ∧
      (extractPath "x.y" "\x7ba\x7d.\x7ba\x7d").get? ['a'] = some ['y'] :=
  ⟨.star ['x'] (.star ['y'] .nil), by decide⟩

end RabbitKit.RoutingPath
