import Phrasebook.Proofs.Expander.Locality
import Phrasebook.Proofs.Generator.Templates
import Phrasebook.Proofs.Lint.Findings

/-! # Assets that can be left out

No template leads to a placeholder that is reported as unused: whatever a template leads to is read
in a template, or in a candidate of another placeholder, and so it is used
(`mem_usedNames_of_reaches`). Such placeholders can be left out, any number of them at once, and the
generator makes the same phrases and fails in the same ways.
-/

namespace Phrasebook

open Phrasebook.Random

namespace Assets

/-- All entries but those of the given names. -/
def without (a : Assets) (names : List String) : Assets :=
  ⟨a.entries.filter fun entry => entry.1 ∉ names, a.ascending.filter _⟩

theorem find_filter_of_notMem {k : String} {names : List String} (h : k ∉ names)
    (es : List (String × List String)) :
    find k (es.filter fun entry => entry.1 ∉ names) = find k es := by
  induction es with
  | nil => rfl
  | cons entry es ih =>
      by_cases gone : entry.1 ∈ names
      · have ne : k ≠ entry.1 := fun eq => h (eq ▸ gone)
        rw [List.filter_cons_of_neg (by simpa using gone), ih, find, if_neg ne]
      · rw [List.filter_cons_of_pos (by simpa using gone), find, find, ih]

theorem candidates?_without {a : Assets} {k : String} {names : List String} (h : k ∉ names) :
    (a.without names).candidates? k = a.candidates? k :=
  find_filter_of_notMem h a.entries

end Assets

namespace Lint

theorem mem_usedNames_of_reaches {e : Expander} {d : Dataset} {t k : String}
    (ht : t ∈ d.templates) (h : d.assets.Reaches e.Reads t k) : k ∈ usedNames e d := by
  induction h with
  | here read => exact mem_usedNames_iff.mpr (Or.inl ⟨t, ht, read⟩)
  | @next k next _ leads ih =>
      -- A reference to itself makes no name used, but then the name was led to before.
      by_cases same : k = next
      · exact same ▸ ih
      · exact mem_usedNames_iff.mpr (Or.inr ⟨k, same, leads⟩)

theorem agree_without {e l : Expander} {d : Dataset} {t : String} {gone : List String}
    (same : l.optionalMarkers = e.optionalMarkers) (ht : t ∈ d.templates)
    (unused : ∀ name ∈ gone, .unusedAsset name ∈ findings l d) :
    e.Agree d.assets (d.assets.without gone) t := by
  intro k hk
  refine Assets.candidates?_without fun mem => ?_
  refine (unusedAsset_mem_findings_iff.mp (unused k mem)).2 (mem_usedNames_of_reaches ht ?_)
  rwa [Expander.reads_congr same]

end Lint

namespace Generator

/-- The generator over a dataset with fewer assets. -/
def without (g : Generator) (names : List String) : Generator :=
  { g with dataset := ⟨g.dataset.templates, g.dataset.assets.without names⟩ }

/-- Two generators come to the same outcomes on every stream, up to suggestions. -/
structure SameRuns (g g' : Generator) : Prop where
  generate : ∀ s, Draw.SameOutcome ExpandError.Alike (g.generate.run s) (g'.generate.run s)
  generateMany : ∀ count s, Draw.SameOutcome ExpandError.Alike
    ((g.generateMany count).run s) ((g'.generateMany count).run s)
  generateIndexed : ∀ index s, Draw.SameOutcome ExpandError.Alike
    ((g.generateIndexed index).run s) ((g'.generateIndexed index).run s)
  generateManyIndexed : ∀ index count s, Draw.SameOutcome ExpandError.Alike
    ((g.generateManyIndexed index count).run s) ((g'.generateManyIndexed index count).run s)

theorem inStep_batch {draw draw' : Draw ExpandError String}
    (h : draw.InStep ExpandError.Alike (fun _ => False) draw') (count : Nat) :
    (batch draw count).InStep ExpandError.Alike (fun _ => False) (batch draw' count) := by
  induction count with
  | zero => exact .done []
  | succ count ih => exact h.bind fun phrase _ => ih.bind_pure (phrase :: ·)

variable {g : Generator} {names : List String}

/-- Where a template is from does not matter, as long as it is one of the dataset's. -/
theorem inStep_generateFrom_without (agree : ∀ t ∈ g.dataset.templates,
      g.expander.Agree g.dataset.assets (g.dataset.assets.without names) t)
    {template : Draw ExpandError String}
    (own : ∀ t, template.Ends (.ok t) → t ∈ g.dataset.templates) :
    (template >>= g.generateFrom).InStep ExpandError.Alike (fun _ => False)
      (template >>= (g.without names).generateFrom) := by
  refine (Draw.InStep.refl fun err _ => .refl err).bind fun t ht => ?_
  exact (Expander.inStep_expand_of_agree (agree t (own t ht))).bind_pure g.finish

theorem inStep_generate_without (agree : ∀ t ∈ g.dataset.templates,
      g.expander.Agree g.dataset.assets (g.dataset.assets.without names) t) :
    g.generate.InStep ExpandError.Alike (fun _ => False) (g.without names).generate := by
  rw [generate_eq, generate_eq]
  exact inStep_generateFrom_without agree fun t => ends_anyTemplate_ok_iff.mp

theorem inStep_generateIndexed_without (agree : ∀ t ∈ g.dataset.templates,
      g.expander.Agree g.dataset.assets (g.dataset.assets.without names) t) (index : Nat) :
    (g.generateIndexed index).InStep ExpandError.Alike (fun _ => False)
      ((g.without names).generateIndexed index) := by
  rw [generateIndexed_eq, generateIndexed_eq]
  refine inStep_generateFrom_without agree fun t found => ?_
  exact List.mem_of_getElem? (ends_templateAt_ok_iff.mp found)

/-- An expansion depends only on the candidates of the placeholders its phrase leads to, up to
suggestions. So assets that are reported as unused make no difference to any generation. -/
theorem runs_depend_on_reached :
    (∀ (e : Expander) (a a' : Assets) (phrase : String),
      (∀ k, a.Reaches e.Reads phrase k → a'.candidates? k = a.candidates? k) →
      ∀ s, Draw.SameOutcome ExpandError.Alike ((e.expand a phrase).run s)
        ((e.expand a' phrase).run s)) ∧
    ∀ (g : Generator) (l : Expander), l.optionalMarkers = g.expander.optionalMarkers →
      ∀ gone : List String, (∀ name ∈ gone, .unusedAsset name ∈ Lint.findings l g.dataset) →
        g.SameRuns (g.without gone) := by
  refine ⟨fun e a a' phrase agree s => (Expander.inStep_expand_of_agree agree).sameOutcome s,
    fun g l same gone unused => ?_⟩
  have agree (t : String) (ht : t ∈ g.dataset.templates) :
      g.expander.Agree g.dataset.assets (g.dataset.assets.without gone) t :=
    Lint.agree_without same ht unused
  exact {
    generate := (inStep_generate_without agree).sameOutcome
    generateMany := fun count => (inStep_batch (inStep_generate_without agree) count).sameOutcome
    generateIndexed := fun index => (inStep_generateIndexed_without agree index).sameOutcome
    generateManyIndexed := fun index count =>
      (inStep_batch (inStep_generateIndexed_without agree index) count).sameOutcome }

/-- Nothing leads to `bb` or, from elsewhere, to `loop`. The `b` that the template asks for is not
there, and `bb` is suggested for it as long as it is. -/
def leftovers : Generator where
  dataset := ⟨["[a] [b]"], Assets.ofList
    [("a", ["[c]", "x"]), ("bb", ["y"]), ("c", ["z"]), ("loop", ["[loop]", "[a]"])]⟩

theorem runs_depend_on_reached_leftovers :
    Draw.SameOutcome ExpandError.Alike
        ((Expander.expand {} leftovers.dataset.assets "[a] [b]").run default)
        ((Expander.expand {} (leftovers.dataset.assets.without ["bb", "loop"]) "[a] [b]").run
          default) ∧
      leftovers.SameRuns (leftovers.without ["bb", "loop"]) := by
  have unused : ∀ name ∈ ["bb", "loop"],
      .unusedAsset name ∈ Lint.findings {} leftovers.dataset := by decide +kernel
  refine ⟨?_, runs_depend_on_reached.2 leftovers {} rfl _ unused⟩
  refine runs_depend_on_reached.1 {} leftovers.dataset.assets _ "[a] [b]" ?_ default
  exact Lint.agree_without (l := {}) rfl (by decide) unused

end Generator

end Phrasebook
