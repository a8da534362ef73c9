import Phrasebook.Proofs.Generator.Templates
import Phrasebook.Proofs.Text.Spaces

/-! # Phrases with single spaces

To collapse the spaces is the last that is done to a phrase. It makes no difference to what is drawn
and to what fails, alone or in a batch: each draw of the generator that collapses them is the draw of
the one that does not, mapped. Together with what is known of collapsed texts this says what such a
generator makes.
-/

namespace Phrasebook.Generator

open Phrasebook.Random
open Text (CollapsesTo)

/-- The same generator, with or without collapsed spaces. -/
def collapsing (g : Generator) (on : Bool) : Generator := { g with collapseSpaces := on }

/-- The second generator makes the phrases of the first one with their spaces collapsed, takes the
same words for them and fails in the same ways. -/
structure CollapsedRuns (g g' : Generator) : Prop where
  generateFrom : ∀ template s, (g'.generateFrom template).run s =
    Prod.map (Except.map Text.collapseSpaces) id ((g.generateFrom template).run s)
  generate : ∀ s, g'.generate.run s =
    Prod.map (Except.map Text.collapseSpaces) id (g.generate.run s)
  generateIndexed : ∀ index s, (g'.generateIndexed index).run s =
    Prod.map (Except.map Text.collapseSpaces) id ((g.generateIndexed index).run s)
  generateMany : ∀ count s, (g'.generateMany count).run s =
    Prod.map (Except.map (List.map Text.collapseSpaces)) id ((g.generateMany count).run s)
  generateManyIndexed : ∀ index count s, (g'.generateManyIndexed index count).run s =
    Prod.map (Except.map (List.map Text.collapseSpaces)) id
      ((g.generateManyIndexed index count).run s)

variable (g : Generator)

theorem generateFrom_collapsing (template : String) :
    (g.collapsing true).generateFrom template =
      Text.collapseSpaces <$> (g.collapsing false).generateFrom template := by
  rw [generateFrom, generateFrom, map_bind]
  rfl

/-- Where a template is from does not matter. -/
theorem bind_generateFrom_collapsing (template : Draw ExpandError String) :
    template >>= (g.collapsing true).generateFrom =
      Text.collapseSpaces <$> (template >>= (g.collapsing false).generateFrom) := by
  rw [map_bind]
  exact bind_congr (generateFrom_collapsing g)

theorem generate_collapsing :
    (g.collapsing true).generate = Text.collapseSpaces <$> (g.collapsing false).generate := by
  rw [generate_eq, generate_eq]
  exact bind_generateFrom_collapsing g (anyTemplate g.dataset.templates)

theorem generateIndexed_collapsing (index : Nat) :
    (g.collapsing true).generateIndexed index =
      Text.collapseSpaces <$> (g.collapsing false).generateIndexed index := by
  rw [generateIndexed_eq, generateIndexed_eq]
  exact bind_generateFrom_collapsing g (templateAt g.dataset.templates index)

/-- A batch of draws that are mapped is the batch of the draws, mapped one by one. -/
theorem batch_map (f : String → String) (draw : Draw ExpandError String) (count : Nat) :
    batch (f <$> draw) count = List.map f <$> batch draw count := by
  induction count with
  | zero => rfl
  | succ count ih =>
      rw [batch, batch, ih, map_bind, bind_map_left]
      refine bind_congr fun phrase => ?_
      rw [map_bind, bind_map_left]
      rfl

theorem collapsedRuns_collapsing : (g.collapsing false).CollapsedRuns (g.collapsing true) where
  generateFrom template s := by rw [generateFrom_collapsing, Draw.run_map]
  generate s := by rw [generate_collapsing, Draw.run_map]
  generateIndexed index s := by rw [generateIndexed_collapsing, Draw.run_map]
  generateMany count s := by
    rw [generateMany, generate_collapsing, batch_map, Draw.run_map, generateMany]
  generateManyIndexed index count s := by
    rw [generateManyIndexed, generateIndexed_collapsing, batch_map, Draw.run_map,
      generateManyIndexed]

/-- A text is collapsed in one way: it keeps its pieces and loses all but one space of each run. Of a
text in two parts each may be collapsed beforehand, and a collapsed text stays as it is. A generator
that collapses spaces does this to its phrases and nothing else. -/
theorem collapse_texts_and_runs :
    (∀ text collapsed : String,
      CollapsesTo text collapsed ↔ collapsed = Text.collapseSpaces text) ∧
    (∀ first second : String, Text.collapseSpaces (first ++ second) =
      Text.collapseSpaces (Text.collapseSpaces first ++ Text.collapseSpaces second)) ∧
    (∀ text : String, Text.collapseSpaces (Text.collapseSpaces text) = Text.collapseSpaces text) ∧
    ∀ g : Generator, (g.collapsing false).CollapsedRuns (g.collapsing true) :=
  ⟨fun _ _ => Text.collapsesTo_iff, Text.collapseSpaces_append, Text.collapseSpaces_collapseSpaces,
    collapsedRuns_collapsing⟩

end Phrasebook.Generator
