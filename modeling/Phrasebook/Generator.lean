import Phrasebook.Dataset
import Phrasebook.Expander.Expand
import Phrasebook.Text.Spaces

/-! # Generation

Phrases are made from the templates of a dataset: from one picked at random, from the one at a given
position, or from a text that the caller supplies. A batch ends at its first failure.
-/

namespace Phrasebook

/-- A dataset with the settings to make phrases from it. -/
structure Generator where
  dataset : Dataset
  expander : Expander := {}
  collapseSpaces : Bool := false

namespace Generator

open Phrasebook.Random

/-- The last touch to a phrase. -/
def finish (g : Generator) (phrase : String) : String :=
  if g.collapseSpaces then Text.collapseSpaces phrase else phrase

/-- A phrase from a text of the caller's. -/
def generateFrom (g : Generator) (template : String) : Draw ExpandError String := do
  let phrase ← g.expander.expand g.dataset.assets template
  return g.finish phrase

/-- A phrase from a template picked at random. -/
def generate (g : Generator) : Draw ExpandError String :=
  if h : g.dataset.templates = [] then .fail .noTemplates
  else do
    let template ← Draw.element g.dataset.templates h
    g.generateFrom template

/-- A phrase from the template at a position. -/
def generateIndexed (g : Generator) (index : Nat) : Draw ExpandError String :=
  match g.dataset.templates[index]? with
  | some template => g.generateFrom template
  | none => .fail (.templateIndexOutOfRange index g.dataset.templates.length)

/-- A draw made `count` times over. -/
def batch (draw : Draw ExpandError String) : (count : Nat) → Draw ExpandError (List String)
  | 0 => .done []
  | count + 1 => do
    let phrase ← draw
    let phrases ← batch draw count
    return phrase :: phrases

/-- Phrases from templates picked one by one. -/
def generateMany (g : Generator) (count : Nat) : Draw ExpandError (List String) :=
  batch g.generate count

/-- Phrases from the template at a position. -/
def generateManyIndexed (g : Generator) (index count : Nat) : Draw ExpandError (List String) :=
  batch (g.generateIndexed index) count

end Generator

end Phrasebook
