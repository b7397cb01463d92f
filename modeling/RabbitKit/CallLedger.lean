import Mathlib.Data.List.Nodup

/-! # Ledgers of operations that are performed at most once

A ledger lists who has performed an operation.  Some parties are untouched: they have not
performed it.  If every entry is made by an untouched party that is untouched no more, and nobody
becomes untouched again, then nobody is listed twice, and who is untouched is not listed.
-/

namespace CallLedger

variable {ι : Type*}

/-- No party is listed twice and no untouched one is listed. -/
structure Clean (ledger : List ι) (untouched : ι → Prop) : Prop where
  nodup : ledger.Nodup
  absent : ∀ party, untouched party → party ∉ ledger

/-- What a step may do to a ledger and to the untouched parties. -/
inductive Writes (ledger : List ι) (untouched : ι → Prop) :
    List ι → (ι → Prop) → Prop
  | nothing {fewer : ι → Prop} (narrower : ∀ party, fewer party → untouched party) :
      Writes ledger untouched ledger fewer
  | entry {fewer : ι → Prop} {writer : ι} (was : untouched writer) (now : ¬ fewer writer)
      (narrower : ∀ party, fewer party → untouched party) :
      Writes ledger untouched (ledger ++ [writer]) fewer

variable {ledger ledger' : List ι} {untouched untouched' : ι → Prop}

theorem clean_nil (untouched : ι → Prop) : Clean [] untouched :=
  ⟨List.nodup_nil, fun _ _ => List.not_mem_nil⟩

theorem Clean.writes (clean : Clean ledger untouched)
    (writes : Writes ledger untouched ledger' untouched') : Clean ledger' untouched' := by
  cases writes with
  | nothing narrower =>
    exact ⟨clean.nodup, fun party still => clean.absent party (narrower party still)⟩
  | @entry _ writer was now narrower =>
    have absent := clean.absent writer was
    constructor
    · refine List.nodup_append.mpr ⟨clean.nodup, by simp, ?_⟩
      intro party listed other last
      cases List.mem_singleton.mp last
      rintro rfl
      exact absent listed
    · intro party still listed
      rcases List.mem_append.mp listed with before | last
      · exact clean.absent party (narrower party still) before
      · cases List.mem_singleton.mp last
        exact now still

end CallLedger
