import Phrasebook.Proofs.Expander.Outcomes
import Phrasebook.Proofs.Lint.Stats
import Phrasebook.Proofs.Template.Brackets

/-! # The count of nested candidates

The numbers of a placeholder count the candidates that have both brackets. These are the candidates
with markers, which are entered when they are picked, and those with brackets that close nowhere,
which are not (`countP_hasBrackets`). So the count says what it should just where every candidate
with both brackets closes one of them (`nested_of_row`); a candidate with its brackets in the wrong
order is counted, though it refers to nothing (`nested_of_reversed_brackets`).
-/

namespace Phrasebook.Dataset

open Phrasebook.Random Phrasebook.Template

/-- A candidate that, when it is picked, is left to the handler for nested candidates. -/
def IsEntered (c : String) : Prop :=
  ∀ enter : Template → Draw ExpandError String,
    Expander.replacement enter c = enter (Template.parse c)

theorem isEntered_iff {c : String} : IsEntered c ↔ holdsMarkers c = true := by
  rw [holdsMarkers_iff]
  constructor
  · intro entered none
    -- A candidate without markers is done with, so a handler that fails is not asked.
    have failing := entered fun _ => .fail .noTemplates
    rw [Expander.replacement_eq, if_pos (Template.isLiteral_iff.mpr none)] at failing
    contradiction
  · intro markers enter
    exact Expander.replacement_of_markers markers

/-! ## Counting -/

theorem hasBrackets_of_holdsMarkers {c : String} (h : holdsMarkers c = true) :
    hasBrackets c = true := hasBrackets_of_markers (holdsMarkers_iff.mp h)

/-- Both brackets, but none that closes. -/
def isMisleading (c : String) : Bool := hasBrackets c && !holdsMarkers c

theorem countP_hasBrackets (candidates : List String) :
    candidates.countP hasBrackets =
      candidates.countP holdsMarkers + candidates.countP isMisleading := by
  induction candidates with
  | nil => rfl
  | cons c cs ih =>
      rw [List.countP_cons, List.countP_cons, List.countP_cons, ih]
      by_cases markers : holdsMarkers c = true
      · have brackets := hasBrackets_of_holdsMarkers markers
        rw [if_pos brackets, if_pos markers, if_neg (by simp [isMisleading, markers])]
        omega
      · by_cases brackets : hasBrackets c = true
        · rw [if_pos brackets, if_neg markers, if_pos (by simp [isMisleading, markers, brackets])]
          omega
        · rw [if_neg brackets, if_neg markers, if_neg (by simp [isMisleading, brackets])]
          omega

theorem countP_isMisleading_eq_zero_iff {candidates : List String} :
    candidates.countP isMisleading = 0 ↔
      ∀ c ∈ candidates, hasBrackets c = true → ClosesBracket c := by
  rw [List.countP_eq_zero]
  refine forall₂_congr fun c _ => ?_
  rw [← markers_ne_nil_iff, ← holdsMarkers_iff]
  cases hb : hasBrackets c <;> cases hm : holdsMarkers c <;> simp [isMisleading, hb, hm]

/-! ## Rows -/

variable {e : Expander} {row : PlaceholderStats}

theorem keys_eq_nil_iff {text : String} : e.keys text = [] ↔ ¬ holdsMarkers text = true := by
  rw [Expander.keys, List.map_eq_nil_iff, holdsMarkers_iff, not_not]

/-- A row refers to something just if one of its candidates has a marker. -/
theorem references_eq_nil_iff {candidates : List String}
    (references : row.references = Names.ofList (candidates.flatMap e.keys)) :
    row.references = [] ↔ candidates.countP holdsMarkers = 0 := by
  have same : row.references = [] ↔ candidates.flatMap e.keys = [] := by
    rw [references, List.eq_nil_iff_forall_not_mem, List.eq_nil_iff_forall_not_mem]
    exact forall_congr' fun name => not_congr Names.mem_ofList
  rw [same, List.flatMap_eq_nil_iff, List.countP_eq_zero]
  exact forall₂_congr fun c _ => keys_eq_nil_iff

open Command in
/-- The count of a row is that of the candidates with markers, which are those that are entered, and
of the misleading ones. Just where there are none of these, it is the count of the nested
candidates, and then it is zero just if the row refers to nothing. -/
theorem nested_of_row (d : Dataset) (r : StatsRequest) {row : PlaceholderStats}
    (h : row ∈ d.stats r.expander) :
    ∃ candidates, d.assets.candidates? row.name = some candidates ∧
      row.nested = candidates.countP holdsMarkers + candidates.countP isMisleading ∧
      (∀ c ∈ candidates, holdsMarkers c = true ↔ IsEntered c) ∧
      (row.references = [] ↔ candidates.countP holdsMarkers = 0) ∧
      (row.nested = candidates.countP holdsMarkers ↔
        ∀ c ∈ candidates, hasBrackets c = true → ClosesBracket c) ∧
      ((∀ c ∈ candidates, hasBrackets c = true → ClosesBracket c) →
        (row.nested = 0 ↔ row.references = [])) := by
  obtain ⟨candidates, known, -, nested, references⟩ := Lint.exists_candidates_of_row h
  have count : row.nested = candidates.countP holdsMarkers + candidates.countP isMisleading := by
    rw [nested, countP_hasBrackets]
  have accurate : row.nested = candidates.countP holdsMarkers ↔
      ∀ c ∈ candidates, hasBrackets c = true → ClosesBracket c := by
    rw [← countP_isMisleading_eq_zero_iff]
    omega
  have none := references_eq_nil_iff references
  refine ⟨candidates, known, count, ?_, none, accurate, ?_⟩
  · intro c _
    exact isEntered_iff.symm
  · intro closes
    rw [none, accurate.mpr closes]

/-- One candidate with markers, one without, and one with its brackets in the wrong order. -/
def turned : Dataset :=
  ⟨[], Assets.ofList [("a", ["[b] or [b]", "b", "]b["]), ("b", ["[a]", "a"]), ("c", ["]b["])]⟩

/-- The row of `a` counts a candidate too many. That of `b` does not, as its bracket closes. -/
theorem nested_of_row_turned :
    ⟨"a", 3, 2, ["b"]⟩ ∈ turned.stats (Command.StatsRequest.expander ⟨"data", false, false⟩) ∧
      2 = ["[b] or [b]", "b", "]b["].countP holdsMarkers +
        ["[b] or [b]", "b", "]b["].countP isMisleading ∧
      ⟨"b", 2, 1, ["a"]⟩ ∈ turned.stats (Command.StatsRequest.expander ⟨"data", false, true⟩) ∧
      ∀ c ∈ ["[a]", "a"], hasBrackets c = true → ClosesBracket c := by
  have mixed : ⟨"a", 3, 2, ["b"]⟩ ∈
      turned.stats (Command.StatsRequest.expander ⟨"data", false, false⟩) := by decide +kernel
  have proper : ⟨"b", 2, 1, ["a"]⟩ ∈
      turned.stats (Command.StatsRequest.expander ⟨"data", false, true⟩) := by decide +kernel
  have known_a : turned.assets.candidates? "a" = some ["[b] or [b]", "b", "]b["] := by
    decide +kernel
  have known_b : turned.assets.candidates? "b" = some ["[a]", "a"] := by decide +kernel
  obtain ⟨candidates, known, count, -⟩ := nested_of_row turned ⟨"data", false, false⟩ mixed
  obtain rfl : ["[b] or [b]", "b", "]b["] = candidates := Option.some.inj (known_a.symm.trans known)
  obtain ⟨candidates, known', -, -, -, accurate, -⟩ :=
    nested_of_row turned ⟨"data", false, true⟩ proper
  obtain rfl : ["[a]", "a"] = candidates := Option.some.inj (known_b.symm.trans known')
  exact ⟨mixed, count, proper, accurate.mp (by decide +kernel)⟩

/-- A candidate without a marker is counted, and the row refers to nothing. -/
theorem nested_of_reversed_brackets :
    ⟨"c", 1, 1, []⟩ ∈ turned.stats (Command.StatsRequest.expander ⟨"data", false, false⟩) ∧
      turned.assets.candidates? "c" = some ["]b["] ∧ (Template.parse "]b[").markers = [] ∧
      ["]b["].countP holdsMarkers = 0 := by
  refine ⟨?_, ?_, ?_, ?_⟩
  · decide +kernel
  · decide +kernel
  · decide +kernel
  · decide +kernel

end Phrasebook.Dataset
