import Phrasebook.Generator
import Phrasebook.Proofs.Random.Ends

/-! # Templates for a phrase

A generation draws a template and makes a phrase from it, and what it does with the template does not
depend on where it is from (`generate_eq`, `generateIndexed_eq`). The template is one of the dataset's
whenever there is one.
-/

namespace Phrasebook.Generator

open Phrasebook.Random

/-- One of the templates, picked at random. -/
def anyTemplate (templates : List String) : Draw ExpandError String :=
  if h : templates = [] then .fail .noTemplates else .element templates h

/-- The template at a position. -/
def templateAt (templates : List String) (index : Nat) : Draw ExpandError String :=
  match templates[index]? with
  | some template => .done template
  | none => .fail (.templateIndexOutOfRange index templates.length)

theorem generate_eq (g : Generator) :
    g.generate = anyTemplate g.dataset.templates >>= g.generateFrom := by
  unfold generate anyTemplate
  by_cases empty : g.dataset.templates = []
  · rw [dif_pos empty, dif_pos empty]
    rfl
  · rw [dif_neg empty, dif_neg empty]

theorem generateIndexed_eq (g : Generator) (index : Nat) :
    g.generateIndexed index = templateAt g.dataset.templates index >>= g.generateFrom := by
  unfold generateIndexed templateAt
  cases g.dataset.templates[index]? with
  | none => rfl
  | some template => rfl

variable {templates : List String} {template : String} {index : Nat} {err : ExpandError}

theorem ends_anyTemplate_ok_iff :
    (anyTemplate templates).Ends (.ok template) ↔ template ∈ templates := by
  unfold anyTemplate
  split
  · rename_i empty
    simp [empty]
  · simp [Draw.ends_element_iff]

theorem ends_anyTemplate_error_iff :
    (anyTemplate templates).Ends (.error err) ↔ templates = [] ∧ err = .noTemplates := by
  unfold anyTemplate
  split
  · rename_i empty
    simp [empty]
  · rename_i present
    simp [Draw.ends_element_iff, present]

theorem ends_templateAt_ok_iff :
    (templateAt templates index).Ends (.ok template) ↔ templates[index]? = some template := by
  unfold templateAt
  cases templates[index]? with
  | none => simp
  | some found => simp [eq_comm]

end Phrasebook.Generator
