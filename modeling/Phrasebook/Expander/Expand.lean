import Phrasebook.Assets
import Phrasebook.Expander.Error
import Phrasebook.Expander.Settings
import Phrasebook.Random.Draw
import Phrasebook.Template

/-! # Expansion

Every marker of a phrase is replaced by a candidate of its placeholder. A candidate with markers of
its own is expanded by itself before it takes its place, and the text around it is not read again.
An optional marker is rolled for first; one that is dropped leaves nothing and needs no placeholder.

The recursion runs over the number of candidates that may still be entered. The chain of placeholder
names whose candidates are being expanded goes along, for the message of an expansion that nests too
deeply.
-/

namespace Phrasebook.Expander

open Phrasebook.Random

/-- A roll for an optional marker: a number from 1 to 100. -/
def roll : Draw ExpandError Nat := .pick 100 (by decide) fun i => .done (i + 1)

/-- Picks a candidate of the placeholder `key`. -/
def choose (e : Expander) (key : String) (candidates : List String) : Draw ExpandError String :=
  if h : e.eligible candidates = [] then .fail (.emptyChoice key)
  else .element (e.eligible candidates) h

/-- What takes the place of a chosen candidate: the candidate itself, unless it has markers. -/
def replacement (enter : Template → Draw ExpandError String) (candidate : String) :
    Draw ExpandError String :=
  if Template.hasBrackets candidate then
    let t := Template.parse candidate
    if t.isLiteral then .done candidate else enter t
  else
    .done candidate

/-- Replaces a placeholder; `enter` expands a chosen candidate that has markers. -/
def substitute (e : Expander) (assets : Assets)
    (enter : String → Template → Draw ExpandError String) (key : String) :
    Draw ExpandError String :=
  match assets.candidates? key with
  | none => .fail (.placeholderNotFound key (Suggestion.suggest key assets.names))
  | some candidates => do
    let candidate ← e.choose key candidates
    replacement (enter key) candidate

def resolve (e : Expander) (assets : Assets)
    (enter : String → Template → Draw ExpandError String) (m : Marker) :
    Draw ExpandError String :=
  match e.optional? m with
  | some o => do
    let n ← roll
    if o.chance < n then .done "" else e.substitute assets enter o.key
  | none => e.substitute assets enter m.name

/-- Replaces the markers among segments, from left to right, and joins the results. -/
def fill (e : Expander) (assets : Assets)
    (enter : String → Template → Draw ExpandError String) :
    List Segment → Draw ExpandError String
  | [] => .done ""
  | .literal text :: rest => do
    let tail ← fill e assets enter rest
    return text ++ tail
  | .marker m :: rest => do
    let head ← e.resolve assets enter m
    let tail ← fill e assets enter rest
    return head ++ tail

/-- Expands a template inside the candidates named by `chain`; `room` more may be entered. -/
def expandWithin (e : Expander) (assets : Assets) :
    (room : Nat) → (chain : List String) → Template → Draw ExpandError String
  | 0, chain, t =>
    e.fill assets (fun key _ => .fail (.maxDepthExceeded e.depthLimit (chain ++ [key])))
      t.segments
  | room + 1, chain, t =>
    e.fill assets (fun key => expandWithin e assets room (chain ++ [key])) t.segments

/-- Expands every marker of a phrase. -/
def expand (e : Expander) (assets : Assets) (phrase : String) : Draw ExpandError String :=
  e.expandWithin assets e.depthLimit [] (Template.parse phrase)

end Phrasebook.Expander
