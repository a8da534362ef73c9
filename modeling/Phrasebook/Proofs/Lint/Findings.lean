import Phrasebook.Proofs.Expander.Reference

/-! # What is found

For each kind of finding, exactly when it is among the findings against a dataset.
-/

namespace Phrasebook.Lint

variable {e : Expander} {d : Dataset}

/-- The place that an origin names refers to the placeholder. -/
def RefersFrom (e : Expander) (d : Dataset) (name : String) : Origin → Prop
  | .template index => ∃ t, d.templates[index]? = some t ∧ name ∈ e.keys t
  | .asset k => e.Refers d.assets k name

theorem mem_checkKnown_iff {origin : Origin} {name : String} {f : Finding} :
    f ∈ checkKnown d origin name ↔ d.assets.contains name = false ∧
      f = .unknownPlaceholder name origin (Suggestion.suggest name d.assets.names) := by
  unfold checkKnown
  split
  · simp_all
  · simp_all

theorem mem_checkTemplate_iff {index : Nat} {t : String} {f : Finding} :
    f ∈ checkTemplate e d index t ↔ ∃ name ∈ e.keys t, d.assets.contains name = false ∧
      f = .unknownPlaceholder name (.template index) (Suggestion.suggest name d.assets.names) := by
  simp [checkTemplate, List.mem_flatMap, Expander.mem_references_iff, mem_checkKnown_iff]

theorem mem_checkAsset_iff {k : String} {candidates : List String} {f : Finding} :
    f ∈ checkAsset e d k candidates ↔ (candidates = [] ∧ f = .emptyCandidates k) ∨
      ∃ name, (∃ c ∈ candidates, name ∈ e.keys c) ∧ d.assets.contains name = false ∧
        f = .unknownPlaceholder name (.asset k) (Suggestion.suggest name d.assets.names) := by
  rw [checkAsset, List.mem_append, List.mem_flatMap]
  simp only [Expander.mem_references_iff, mem_checkKnown_iff]
  refine or_congr ?_ Iff.rfl
  by_cases h : candidates = []
  · simp [h]
  · simp [h]

/-- A finding comes from one of the five checks. -/
theorem mem_findings_iff {f : Finding} :
    f ∈ findings e d ↔
      (d.templates = [] ∧ f = .noTemplates) ∨
      (∃ index t, d.templates[index]? = some t ∧ f ∈ checkTemplate e d index t) ∨
      (∃ k candidates, d.assets.candidates? k = some candidates ∧
        f ∈ checkAsset e d k candidates) ∨
      (∃ chain ∈ (graph e d).cycles, f = .cycle chain) ∨
      ∃ name ∈ unusedNames e d, f = .unusedAsset name := by
  simp only [findings, List.mem_append, List.mem_flatMap, List.mem_map, or_assoc, Prod.exists,
    List.mem_zipIdx_iff_getElem?, Assets.candidates?_eq_some_iff]
  refine or_congr ?_ (or_congr ?_ (or_congr Iff.rfl (or_congr ?_ ?_)))
  · by_cases h : d.templates = []
    · simp [h]
    · simp [h]
  · exact exists_comm
  · simp only [eq_comm]
  · simp only [eq_comm]

theorem noTemplates_mem_findings_iff : .noTemplates ∈ findings e d ↔ d.templates = [] := by
  simp [mem_findings_iff, mem_checkTemplate_iff, mem_checkAsset_iff]

theorem emptyCandidates_mem_findings_iff {name : String} :
    .emptyCandidates name ∈ findings e d ↔ d.assets.candidates? name = some [] := by
  simp only [mem_findings_iff, mem_checkTemplate_iff, mem_checkAsset_iff, reduceCtorEq, and_false,
    or_false, exists_const, false_or, Finding.emptyCandidates.injEq]
  constructor
  · rintro ⟨k, candidates, known, rfl, rfl⟩
    exact known
  · intro known
    exact ⟨name, [], known, rfl, rfl⟩

theorem cycle_mem_findings_iff {chain : List String} :
    .cycle chain ∈ findings e d ↔ chain ∈ (graph e d).cycles := by
  simp [mem_findings_iff, mem_checkTemplate_iff, mem_checkAsset_iff]

theorem unknownPlaceholder_mem_findings_iff {name : String} {origin : Origin}
    {suggestions : List String} :
    .unknownPlaceholder name origin suggestions ∈ findings e d ↔
      d.assets.contains name = false ∧ suggestions = Suggestion.suggest name d.assets.names ∧
        RefersFrom e d name origin := by
  simp only [mem_findings_iff, mem_checkTemplate_iff, mem_checkAsset_iff, reduceCtorEq, and_false,
    or_false, exists_const, false_or, Finding.unknownPlaceholder.injEq]
  constructor
  · rintro (⟨index, t, ht, _, hk, unknown, rfl, rfl, rfl⟩ |
      ⟨k, candidates, known, _, ⟨c, hc, hk⟩, unknown, rfl, rfl, rfl⟩)
    · exact ⟨unknown, rfl, t, ht, hk⟩
    · exact ⟨unknown, rfl, candidates, c, known, hc, hk⟩
  · rintro ⟨unknown, rfl, place⟩
    cases origin with
    | template index =>
        obtain ⟨t, ht, hk⟩ := place
        exact Or.inl ⟨index, t, ht, name, hk, unknown, rfl, rfl, rfl⟩
    | asset k =>
        obtain ⟨candidates, c, known, hc, hk⟩ := place
        exact Or.inr ⟨k, candidates, known, name, ⟨c, hc, hk⟩, unknown, rfl, rfl, rfl⟩

theorem mem_usedNames_iff {name : String} :
    name ∈ usedNames e d ↔
      (∃ t ∈ d.templates, name ∈ e.keys t) ∨ ∃ k, k ≠ name ∧ e.Refers d.assets k name := by
  simp only [usedNames, List.mem_append, List.mem_flatMap, List.mem_filter, Prod.exists,
    decide_eq_true_eq, Expander.Refers, Assets.candidates?_eq_some_iff]
  refine or_congr Iff.rfl ⟨?_, ?_⟩
  · rintro ⟨k, candidates, known, ⟨c, hc, hk⟩, ne⟩
    exact ⟨k, Ne.symm ne, candidates, c, known, hc, hk⟩
  · rintro ⟨k, ne, candidates, c, known, hc, hk⟩
    exact ⟨k, candidates, known, ⟨c, hc, hk⟩, Ne.symm ne⟩

theorem unusedAsset_mem_findings_iff {name : String} :
    .unusedAsset name ∈ findings e d ↔ name ∈ d.assets.names ∧ name ∉ usedNames e d := by
  simp [mem_findings_iff, mem_checkTemplate_iff, mem_checkAsset_iff, unusedNames]

end Phrasebook.Lint
