import Mathlib.Data.List.Basic
import Phrasebook.Proofs.Expander.Outcomes
import Phrasebook.Proofs.Text.Lowercase

/-! # The search for a term

Candidates that match the search term are preferred: once there is one, a pick comes to no other.
A candidate in which the term stands is among them, in upper and lower case alike, as long as the
sigmas of the term do not change their form in it (`preferred_of_standsIn`). A capital sigma that
ends a word only in the candidate is lower-cased to another letter there, and such a candidate is
overlooked (`overlooked_final_sigma`).
-/

namespace Phrasebook.Expander

open Phrasebook.Random
open Text.Lowercase (StandsIn)

variable {e : Expander} {candidates : List String} {term c : String}

/-- A single match is enough to leave out all candidates that do not match. -/
theorem eligible_eq_filter (h : e.searchTerm? = some term) (hc : c ∈ candidates)
    (matching : isMatch term c = true) :
    e.eligible candidates = candidates.filter (isMatch term) := by
  have some_match : ¬ (candidates.filter (isMatch term)).isEmpty = true := by
    rw [List.isEmpty_iff]
    exact List.ne_nil_of_mem (List.mem_filter.mpr ⟨hc, matching⟩)
  rw [eligible, h]
  exact if_neg some_match

/-- The words can pick just the eligible candidates. -/
theorem exists_run_choose_iff (key : String) (narrow : candidates.length < wordCount) :
    (∃ s : Words, ((e.choose key candidates).run s).1 = .ok c) ↔ c ∈ e.eligible candidates := by
  rw [Draw.exists_run_iff_ends (narrow_choose narrow.le), ends_choose_ok_iff, mem_eligible_iff]

theorem isMatch_of_standsIn (h : StandsIn term.toList c.toList) : isMatch term c = true :=
  Text.contains_lowercase h

/-- A candidate in which the search term stands, its sigmas unchanged, can be picked, and none can
that does not match. A term without a capital sigma stands in every candidate that holds it. -/
theorem preferred_of_standsIn (e : Expander) {term : String} (h : e.searchTerm? = some term) :
    ('Σ' ∉ term.toList → ∀ c : String, term.toList <:+: c.toList →
      StandsIn term.toList c.toList) ∧
    ∀ (candidates : List String), ∀ c ∈ candidates, StandsIn term.toList c.toList →
      isMatch term c = true ∧ c ∈ e.eligible candidates ∧
        e.eligible candidates = candidates.filter (isMatch term) ∧
        (candidates.length < wordCount → ∀ key,
          ∃ s : Words, ((e.choose key candidates).run s).1 = .ok c) := by
  constructor
  · intro sigma c
    exact Text.Lowercase.standsIn_of_infix sigma
  · intro candidates c hc stands
    have matching : isMatch term c = true := isMatch_of_standsIn stands
    have preferred := eligible_eq_filter h hc matching
    have eligible : c ∈ e.eligible candidates := by
      rw [preferred]
      exact List.mem_filter.mpr ⟨hc, matching⟩
    refine ⟨matching, eligible, preferred, ?_⟩
    intro narrow key
    exact (exists_run_choose_iff key narrow).mpr eligible

/-- The last sigma of the term ends a word by itself, and does so in front of a comma. -/
theorem preferred_of_standsIn_road :
    searchTerm? ⟨64, false, some " ΟΔΟΣ "⟩ = some "ΟΔΟΣ" ∧
      StandsIn "ΟΔΟΣ".toList "Η ΟΔΟΣ, ΕΚΕΙ".toList ∧
      eligible ⟨64, false, some " ΟΔΟΣ "⟩ ["Η ΟΔΟΣ, ΕΚΕΙ", "ΟΔΟΙ", "οδός", "οδος"] =
        ["Η ΟΔΟΣ, ΕΚΕΙ", "οδος"] ∧
      ∃ s : Words, ((choose ⟨64, false, some " ΟΔΟΣ "⟩ "k"
        ["Η ΟΔΟΣ, ΕΚΕΙ", "ΟΔΟΙ", "οδός", "οδος"]).run s).1 = .ok "Η ΟΔΟΣ, ΕΚΕΙ" := by
  have term : searchTerm? ⟨64, false, some " ΟΔΟΣ "⟩ = some "ΟΔΟΣ" := by decide +kernel
  have stands : StandsIn "ΟΔΟΣ".toList "Η ΟΔΟΣ, ΕΚΕΙ".toList := by
    refine ⟨"Η ".toList, ", ΕΚΕΙ".toList, by decide, fun xs ys eq => ?_⟩
    have split : "ΟΔΟ".toList ++ 'Σ' :: [] = xs ++ 'Σ' :: ys := eq
    obtain ⟨rfl, -, rfl⟩ := (List.append_cons_inj_of_notMem (by decide) (by decide)).mp split
    decide +kernel
  obtain ⟨-, -, preferred, picked⟩ := (preferred_of_standsIn _ term).2
    ["Η ΟΔΟΣ, ΕΚΕΙ", "ΟΔΟΙ", "οδός", "οδος"] "Η ΟΔΟΣ, ΕΚΕΙ" (by decide) stands
  refine ⟨term, stands, preferred.trans ?_, picked (by decide) "k"⟩
  decide +kernel

/-- At the end of a word a capital sigma becomes another letter than by itself, so a candidate that
holds the term as it is may be left out for another one, or for the whole list. -/
theorem overlooked_final_sigma :
    searchTerm? ⟨64, false, some "Σ"⟩ = some "Σ" ∧ "Σ".toList <:+: "ΑΣ".toList ∧
      isMatch "Σ" "ΑΣ" = false ∧
      eligible ⟨64, false, some "Σ"⟩ ["ΑΣ", "Σ"] = ["Σ"] ∧
      eligible ⟨64, false, some "Σ"⟩ ["ΑΣ", "x"] = ["ΑΣ", "x"] ∧
      ((choose ⟨64, false, some "Σ"⟩ "k" ["ΑΣ", "x"]).run (.ofArray #[4294967295])).1 =
        .ok "x" := by
  refine ⟨by decide +kernel, ⟨['Α'], [], by decide⟩, ?_, ?_, ?_, ?_⟩
  · decide +kernel
  · decide +kernel
  · decide +kernel
  · decide +kernel

end Phrasebook.Expander
