import Phrasebook.Proofs.Assets.Pairs
import Phrasebook.Proofs.Lint.Cycles

/-! # The order of the findings

`Finding.Before` is the order in which findings are listed, and `Declared` says which findings there
are besides the cycles, both without a look at the checks that make them. The findings stand in this
order (`pairwise_findings`). Since no finding but a cycle comes before itself, the declared findings
are listed once each, and no other list of them is in order.
-/

namespace Phrasebook

namespace Finding

/-- The part of the list that a finding belongs to. -/
def part : Finding → Nat
  | noTemplates => 0
  | unknownPlaceholder _ (.template _) _ => 1
  | unknownPlaceholder _ (.asset _) _ | emptyCandidates _ => 2
  | cycle _ => 3
  | unusedAsset _ => 4

/-- The order of the list. Unknown placeholders of templates are in the order of the templates, and
those of one template ascend. What concerns assets is in the order of the assets: first that one is
empty, then its unknown placeholders. Cycles come in the order of the search. -/
def Before : Finding → Finding → Prop
  | unknownPlaceholder n (.template i) _, unknownPlaceholder m (.template j) _ =>
    i < j ∨ i = j ∧ n < m
  | unknownPlaceholder n (.asset a) _, unknownPlaceholder m (.asset b) _ => a < b ∨ a = b ∧ n < m
  | unknownPlaceholder _ (.asset a) _, emptyCandidates b => a < b
  | emptyCandidates a, unknownPlaceholder _ (.asset b) _ => a < b ∨ a = b
  | emptyCandidates a, emptyCandidates b => a < b
  | cycle _, cycle _ => True
  | unusedAsset a, unusedAsset b => a < b
  | f, g => f.part < g.part

theorem before_of_part_lt {f g : Finding} (h : f.part < g.part) : f.Before g := by
  unfold Before
  split
  all_goals simp_all [part]

theorem part_le_of_before {f g : Finding} (h : f.Before g) : f.part ≤ g.part := by
  unfold Before at h
  split at h
  case h_8 => exact Nat.le_of_lt h
  all_goals exact Nat.le_refl _

/-- The unknown placeholders of one origin ascend. -/
theorem before_unknownPlaceholder_iff {n m : String} {origin : Origin} {s s' : List String} :
    (unknownPlaceholder n origin s).Before (unknownPlaceholder m origin s') ↔ n < m := by
  cases origin with
  | template index => simp [Before]
  | asset name => simp only [Before, String.lt_irrefl, true_and, false_or]

/-- First by place, then by name. -/
theorem lex_asymm {α : Type} [LT α] [Std.Asymm (α := α) (· < ·)] {a b : α} {n m : String}
    (h : a < b ∨ a = b ∧ n < m) : ¬ (b < a ∨ b = a ∧ m < n) := by
  rcases h with lt | ⟨rfl, lt⟩
  · rintro (gt | ⟨rfl, -⟩)
    · exact Std.Asymm.asymm _ _ lt gt
    · exact Std.Asymm.asymm _ _ lt lt
  · rintro (gt | ⟨-, gt⟩)
    · exact Std.Asymm.asymm _ _ gt gt
    · exact String.lt_asymm lt gt

/-- No finding but a cycle comes before one that comes before it. -/
theorem not_before_of_before {f g : Finding} (other : f.chain? = none) (h : f.Before g) :
    ¬ g.Before f := by
  unfold Before at h
  split at h
  · exact lex_asymm h
  · exact lex_asymm h
  · rintro (gt | rfl)
    · exact String.lt_asymm h gt
    · exact String.lt_irrefl _ h
  · rcases h with lt | rfl
    · exact String.lt_asymm lt
    · exact String.lt_irrefl _
  · exact String.lt_asymm h
  · contradiction
  · exact String.lt_asymm h
  · intro h'
    exact absurd (part_le_of_before h') (Nat.not_le.mpr h)

end Finding

namespace Lint

/-- What is to be found besides the cycles: no template; a name that is referred to from a template
or an asset and is none of the assets; an asset without candidates; an asset to which no template and
no other asset refers. -/
def Declared (e : Expander) (d : Dataset) : Finding → Prop
  | .noTemplates => d.templates = []
  | .unknownPlaceholder name origin suggestions =>
    d.assets.contains name = false ∧ suggestions = Suggestion.suggest name d.assets.names ∧
      RefersFrom e d name origin
  | .emptyCandidates name => d.assets.candidates? name = some []
  | .cycle _ => False
  | .unusedAsset name =>
    name ∈ d.assets.names ∧ (∀ t ∈ d.templates, name ∉ e.keys t) ∧
      ∀ k, k ≠ name → ¬ e.Refers d.assets k name

variable {e : Expander} {d : Dataset}

theorem mem_findings_iff_declared {f : Finding} (other : f.chain? = none) :
    f ∈ findings e d ↔ Declared e d f := by
  cases f with
  | noTemplates => exact noTemplates_mem_findings_iff
  | unknownPlaceholder name origin suggestions => exact unknownPlaceholder_mem_findings_iff
  | emptyCandidates name => exact emptyCandidates_mem_findings_iff
  | cycle chain => simp [Finding.chain?] at other
  | unusedAsset name =>
      rw [unusedAsset_mem_findings_iff, mem_usedNames_iff, Declared]
      simp only [not_or, not_exists, not_and]

/-! ## The checks -/

theorem pairwise_flatMap_checkKnown {names : List String} (h : names.Pairwise (· < ·))
    (origin : Origin) : (names.flatMap (checkKnown d origin)).Pairwise Finding.Before := by
  refine List.pairwise_flatMap.mpr ⟨fun name _ => ?_, h.imp fun {n m} lt f hf g hg => ?_⟩
  · unfold checkKnown
    split
    · exact .nil
    · exact List.pairwise_singleton _ _
  · obtain ⟨-, rfl⟩ := mem_checkKnown_iff.mp hf
    obtain ⟨-, rfl⟩ := mem_checkKnown_iff.mp hg
    exact Finding.before_unknownPlaceholder_iff.mpr lt

theorem pairwise_checkTemplate (index : Nat) (t : String) :
    (checkTemplate e d index t).Pairwise Finding.Before :=
  pairwise_flatMap_checkKnown (Names.ascending_ofList _) _

theorem pairwise_checkAsset (name : String) (candidates : List String) :
    (checkAsset e d name candidates).Pairwise Finding.Before := by
  refine List.pairwise_append.mpr
    ⟨?_, pairwise_flatMap_checkKnown (Names.ascending_ofList _) _, fun f hf g hg => ?_⟩
  · split
    · exact List.pairwise_singleton _ _
    · exact .nil
  · obtain ⟨_, _, hg⟩ := List.mem_flatMap.mp hg
    obtain ⟨-, rfl⟩ := mem_checkKnown_iff.mp hg
    obtain rfl : f = .emptyCandidates name := by
      split at hf
      · exact List.mem_singleton.mp hf
      · simp at hf
    exact Or.inr rfl

/-! ## The list -/

/-- Findings in order, all of them in the first `count` parts of the list. -/
structure OrderedBelow (count : Nat) (fs : List Finding) : Prop where
  pairwise : fs.Pairwise Finding.Before
  part_lt : ∀ f ∈ fs, f.part < count

/-- The findings of the next part may follow. -/
theorem OrderedBelow.append {count : Nat} {fs gs : List Finding} (h : OrderedBelow count fs)
    (pairwise : gs.Pairwise Finding.Before) (part : ∀ g ∈ gs, g.part = count) :
    OrderedBelow (count + 1) (fs ++ gs) where
  pairwise := by
    refine List.pairwise_append.mpr ⟨h.pairwise, pairwise, fun f hf g hg => ?_⟩
    refine Finding.before_of_part_lt ?_
    rw [part g hg]
    exact h.part_lt f hf
  part_lt f hf := by
    rcases List.mem_append.mp hf with hf | hf
    · exact Nat.lt_succ_of_lt (h.part_lt f hf)
    · rw [part f hf]
      exact Nat.lt_succ_self count

theorem orderedBelow_noTemplates (d : Dataset) :
    OrderedBelow 1 (if d.templates.isEmpty then [.noTemplates] else []) := by
  split
  · exact ⟨List.pairwise_singleton _ _, by simp [Finding.part]⟩
  · exact ⟨.nil, by simp⟩

theorem pairwise_templates (e : Expander) (d : Dataset) :
    (d.templates.zipIdx.flatMap fun (t, index) => checkTemplate e d index t).Pairwise
      Finding.Before := by
  have ascending : d.templates.zipIdx.Pairwise fun x y => x.2 < y.2 := by
    rw [← List.pairwise_map, List.zipIdx_map_snd]
    exact List.pairwise_lt_range'
  refine List.pairwise_flatMap.mpr ⟨fun entry _ => pairwise_checkTemplate entry.2 entry.1,
    ascending.imp fun {x y} lt f hf g hg => ?_⟩
  obtain ⟨n, -, -, rfl⟩ := mem_checkTemplate_iff.mp hf
  obtain ⟨m, -, -, rfl⟩ := mem_checkTemplate_iff.mp hg
  exact Or.inl lt

theorem pairwise_assets (e : Expander) (d : Dataset) :
    (d.assets.entries.flatMap fun (name, candidates) => checkAsset e d name candidates).Pairwise
      Finding.Before := by
  refine List.pairwise_flatMap.mpr ⟨fun entry _ => pairwise_checkAsset entry.1 entry.2,
    d.assets.ascending.imp fun {x y} lt f hf g hg => ?_⟩
  rcases mem_checkAsset_iff.mp hf with ⟨-, rfl⟩ | ⟨n, -, -, rfl⟩
  · rcases mem_checkAsset_iff.mp hg with ⟨-, rfl⟩ | ⟨m, -, -, rfl⟩
    · exact lt
    · exact Or.inl lt
  · rcases mem_checkAsset_iff.mp hg with ⟨-, rfl⟩ | ⟨m, -, -, rfl⟩
    · exact lt
    · exact Or.inl lt

theorem pairwise_findings (e : Expander) (d : Dataset) :
    (findings e d).Pairwise Finding.Before := by
  have unused : (unusedNames e d).Pairwise (· < ·) := (d.assets.ascending_names).filter _
  have ordered : OrderedBelow 5 (findings e d) := by
    refine ((((orderedBelow_noTemplates d).append (pairwise_templates e d) ?_).append
      (pairwise_assets e d) ?_).append ?_ ?_).append ?_ ?_
    · intro f hf
      obtain ⟨entry, -, hf⟩ := List.mem_flatMap.mp hf
      obtain ⟨n, -, -, rfl⟩ := mem_checkTemplate_iff.mp hf
      rfl
    · intro f hf
      obtain ⟨entry, -, hf⟩ := List.mem_flatMap.mp hf
      rcases mem_checkAsset_iff.mp hf with ⟨-, rfl⟩ | ⟨n, -, -, rfl⟩
      · rfl
      · rfl
    · exact List.pairwise_map.mpr (List.pairwise_of_forall fun _ _ => trivial)
    · simp [Finding.part]
    · exact List.pairwise_map.mpr (unused.imp id)
    · simp [Finding.part]
  exact ordered.pairwise

theorem Declared.chain?_eq_none {f : Finding} (h : Declared e d f) : f.chain? = none := by
  cases f with
  | cycle chain => exact h.elim
  | _ => rfl

/-- The findings besides the cycles are the declared ones. They are listed once each and in order,
with the cycles at their place, and no other list of them is in order. -/
theorem findings_declared (e : Expander) (d : Dataset) :
    (findings e d).Pairwise Finding.Before ∧
    (∀ f, f.chain? = none → (f ∈ findings e d ↔ Declared e d f)) ∧
    ((findings e d).filter (·.chain?.isNone)).Nodup ∧
    ∀ fs : List Finding, fs.Pairwise Finding.Before → (∀ f, f ∈ fs ↔ Declared e d f) →
      (findings e d).filter (·.chain?.isNone) = fs := by
  have ordered := (pairwise_findings e d).filter (·.chain?.isNone)
  have asymm : ∀ f ∈ (findings e d).filter (·.chain?.isNone), ∀ g, f.Before g → ¬ g.Before f := by
    intro f hf g
    have other : f.chain? = none := Option.isNone_iff_eq_none.mp (List.mem_filter.mp hf).2
    exact Finding.not_before_of_before other
  refine ⟨pairwise_findings e d, fun f => mem_findings_iff_declared,
    nodup_of_ordered asymm ordered, fun fs hfs mem => ?_⟩
  refine eq_of_ordered asymm ordered hfs fun f => ?_
  rw [mem, List.mem_filter, Option.isNone_iff_eq_none]
  constructor
  · rintro ⟨hf, other⟩
    exact (mem_findings_iff_declared other).mp hf
  · intro h
    exact ⟨(mem_findings_iff_declared h.chain?_eq_none).mpr h, h.chain?_eq_none⟩

end Lint

end Phrasebook
