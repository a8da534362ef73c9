import Phrasebook.Proofs.Expander.Machine
import Phrasebook.Proofs.Template.Brackets

/-! # Shortcuts of an expansion

A candidate that is picked is tested twice before it is entered: without both brackets it is not even
read, and if it reads as literal text it stands for itself. Neither test is needed. To say so the
expansion is written once more, with each test made or left out at will, and with a context that goes
along from segment to segment: it is entered before a candidate with markers and left behind it.

Where a test is left out, literal text is expanded like any other. It comes out as it is, with no pick
made and with the context as it was (`fillIn_of_isLiteral`), so `placeIn` does with a candidate what
`replacement` does. `fillIn_eq` carries this through the nesting, by the room that is left: whatever
is entered is left again, and the context in the end is the one in the beginning.
-/

namespace Phrasebook.Expander

open Phrasebook.Random
open Template (parse hasBrackets)

/-! ## Expansion in a context -/

/-- The tests that spare a candidate its expansion. -/
structure Shortcuts where
  /-- A candidate without both brackets is not read. -/
  brackets : Bool
  /-- A candidate that reads as literal text is not expanded. -/
  literal : Bool

/-- The placeholders whose candidates are being expanded, the outermost first. -/
structure Context (depth : Nat) where
  chain : List String
  length_chain : chain.length = depth

namespace Context

variable {depth : Nat}

/-- No candidate has been entered yet. -/
def start : Context 0 := ⟨[], rfl⟩

/-- Goes into a candidate of a placeholder. -/
def enter (ctx : Context depth) (key : String) : Context (depth + 1) :=
  ⟨ctx.chain ++ [key], by rw [List.length_append, ctx.length_chain]; rfl⟩

/-- Goes out of the innermost candidate. -/
def leave (ctx : Context (depth + 1)) : Context depth :=
  ⟨ctx.chain.dropLast, by rw [List.length_dropLast, ctx.length_chain]; rfl⟩

@[simp]
theorem leave_enter (ctx : Context depth) (key : String) : (ctx.enter key).leave = ctx := by
  simp [enter, leave]

end Context

theorem markers_cons_marker (m : Marker) (rest : List Segment) :
    (Template.mk (.marker m :: rest)).markers = m :: (Template.mk rest).markers := rfl

mutual

/-- Replaces the markers among segments, from left to right, and hands the context on. -/
def fillIn (e : Expander) (a : Assets) (sc : Shortcuts) {depth : Nat} (ctx : Context depth) :
    List Segment → Draw ExpandError (String × Context depth)
  | [] => return ("", ctx)
  | .literal text :: rest => do
    let (tail, ctx) ← e.fillIn a sc ctx rest
    return (text ++ tail, ctx)
  | .marker m :: rest => do
    let choice ← e.drawn a m
    let (head, ctx) ← e.placeIn a sc ctx (e.key m) choice
    let (tail, ctx) ← e.fillIn a sc ctx rest
    return (head ++ tail, ctx)
-- Literal text is expanded at the same depth, but it has no markers; every other candidate is deeper.
termination_by segs => (e.depthLimit - depth, 2 * (Template.mk segs).markers.length, segs.length)
decreasing_by
  · exact .right _ (.right _ (Nat.lt_succ_self rest.length))
  · refine .right _ (.left _ _ ?_)
    rw [markers_cons_marker, List.length_cons]
    omega
  · refine .right _ (.left _ _ ?_)
    rw [markers_cons_marker, List.length_cons]
    omega

/-- What takes the place of a marker, by what was drawn for it. -/
def placeIn (e : Expander) (a : Assets) (sc : Shortcuts) {depth : Nat} (ctx : Context depth)
    (key : String) : Option String → Draw ExpandError (String × Context depth)
  | none => return ("", ctx)
  | some c =>
    if sc.brackets && !hasBrackets c then return (c, ctx)
    else if (parse c).isLiteral then
      if sc.literal then return (c, ctx) else e.fillIn a sc ctx (parse c).segments
    else if depth < e.depthLimit then do
      let (text, inside) ← e.fillIn a sc (ctx.enter key) (parse c).segments
      return (text, inside.leave)
    else .fail (.maxDepthExceeded e.depthLimit (ctx.chain ++ [key]))
termination_by (e.depthLimit - depth, 1, 0)
decreasing_by
  · have none : (parse c).markers = [] := Template.isLiteral_iff.mp ‹_›
    refine .right _ (.left _ _ ?_)
    simp only [none, List.length_nil]
    omega
  · refine .left _ _ ?_
    omega

end

/-- Expands every marker of a phrase, with the tests given. -/
def expandBy (e : Expander) (a : Assets) (sc : Shortcuts) (phrase : String) :
    Draw ExpandError String :=
  Prod.fst <$> e.fillIn a sc .start (parse phrase).segments

variable {e : Expander} {a : Assets} {sc : Shortcuts} {depth : Nat} {c : String}

/-! ## Literal text -/

/-- Literal text is a single segment, unless it is empty. -/
theorem segments_of_isLiteral (h : (parse c).isLiteral = true) :
    c = "" ∧ (parse c).segments = [] ∨ (parse c).segments = [.literal c] := by
  rcases Template.segments_of_markers_eq_nil (Template.isLiteral_iff.mp h) with none | one
  · have segmentation := Template.parse_isSegmentation c
    rw [none] at segmentation
    exact Or.inl ⟨Template.isSegmentation_nil_iff.mp segmentation, none⟩
  · exact Or.inr one

theorem fill_of_isLiteral {enter : String → Template → Draw ExpandError String}
    (h : (parse c).isLiteral = true) : e.fill a enter (parse c).segments = .done c := by
  rcases segments_of_isLiteral h with ⟨rfl, none⟩ | one
  · rw [none, fill]
  · rw [one, fill, fill]
    exact congrArg Draw.done String.append_empty

theorem fillIn_of_isLiteral (h : (parse c).isLiteral = true) (ctx : Context depth) :
    e.fillIn a sc ctx (parse c).segments = .done (c, ctx) := by
  rcases segments_of_isLiteral h with ⟨rfl, none⟩ | one
  · rw [none, fillIn]
    rfl
  · rw [one, fillIn, fillIn, pure_bind]
    exact congrArg (fun text => Draw.done (text, ctx)) String.append_empty

/-! ## Candidates -/

theorem placeIn_of_isLiteral (h : (parse c).isLiteral = true) (ctx : Context depth)
    (key : String) : e.placeIn a sc ctx key (some c) = .done (c, ctx) := by
  rw [placeIn, if_pos h, fillIn_of_isLiteral h]
  split
  · rfl
  · split
    · rfl
    · rfl

/-- No test spares a candidate with markers its expansion. -/
theorem placeIn_of_markers (h : (parse c).markers ≠ []) (ctx : Context depth) (key : String) :
    e.placeIn a sc ctx key (some c) =
      if depth < e.depthLimit then do
        let (text, inside) ← e.fillIn a sc (ctx.enter key) (parse c).segments
        return (text, inside.leave)
      else .fail (.maxDepthExceeded e.depthLimit (ctx.chain ++ [key])) := by
  have read : ¬ (sc.brackets && !hasBrackets c) = true := by
    simp [Template.hasBrackets_of_markers h]
  rw [placeIn, if_neg read, if_neg (mt Template.isLiteral_iff.mp h)]

/-- Where candidates with markers are handled alike, so is whatever is drawn for a marker. -/
theorem placeIn_eq {enter : String → Template → Draw ExpandError String} {ctx : Context depth}
    (inner : ∀ key c, (parse c).markers ≠ [] →
      e.placeIn a sc ctx key (some c) = (·, ctx) <$> enter key (parse c))
    (key : String) (choice : Option String) :
    e.placeIn a sc ctx key choice =
      (·, ctx) <$> choice.elim (.done "") (replacement (enter key)) := by
  cases choice with
  | none =>
      rw [placeIn]
      rfl
  | some c =>
      rw [Option.elim_some, replacement_eq]
      by_cases literal : (parse c).isLiteral = true
      · rw [if_pos literal, placeIn_of_isLiteral literal]
        rfl
      · rw [if_neg literal, inner key c (mt Template.isLiteral_iff.mpr literal)]

/-! ## The whole expansion -/

theorem fillIn_eq_fill {enter : String → Template → Draw ExpandError String} {ctx : Context depth}
    (inner : ∀ key c, (parse c).markers ≠ [] →
      e.placeIn a sc ctx key (some c) = (·, ctx) <$> enter key (parse c))
    (segs : List Segment) : e.fillIn a sc ctx segs = (·, ctx) <$> e.fill a enter segs := by
  induction segs with
  | nil =>
      rw [fillIn, fill]
      rfl
  | cons seg segs ih =>
      cases seg with
      | literal text => simp only [fillIn, fill, ih, bind_map_left, map_bind, map_pure]
      | marker m =>
          simp only [fillIn, fill, resolve_eq, placeIn_eq inner, ih, bind_assoc, bind_map_left,
            map_bind, map_pure]

/-- In a context the expansion does what it does with the chain and the room of the context, and the
context comes out as it went in. -/
theorem fillIn_eq {room : Nat} (left : e.depthLimit - depth = room) (ctx : Context depth)
    (segs : List Segment) :
    e.fillIn a sc ctx segs = (·, ctx) <$> e.fill a (e.entering a room ctx.chain) segs := by
  induction room generalizing depth segs with
  | zero =>
      have full : ¬ depth < e.depthLimit := by omega
      refine fillIn_eq_fill (fun key c markers => ?_) segs
      rw [placeIn_of_markers markers, if_neg full]
      rfl
  | succ room ih =>
      have free : depth < e.depthLimit := by omega
      refine fillIn_eq_fill (fun key c markers => ?_) segs
      have inside := ih (by omega) (ctx.enter key) (parse c).segments
      rw [placeIn_of_markers markers, if_pos free, inside, entering, expandWithin_eq]
      simp only [bind_map_left, Context.leave_enter]
      rfl

theorem expandBy_eq (e : Expander) (a : Assets) (sc : Shortcuts) (phrase : String) :
    e.expandBy a sc phrase = e.expand a phrase := by
  rw [expandBy, fillIn_eq (Nat.sub_zero _) .start, expand, expandWithin_eq, Functor.map_map]
  exact id_map _

/-- The test for brackets misses no marker. A text that it turns away, or that reads as literal, is
expanded to itself in every context: no word is taken, and the context comes out as it went in. So an
expansion does not depend on the tests it makes. Without the test for brackets, or without both, it is
the same draw, and the same on every stream. -/
theorem expandBy_any_shortcuts :
    (∀ c, (parse c).markers ≠ [] → hasBrackets c = true) ∧
    (∀ c, hasBrackets c = false ∨ (parse c).isLiteral = true →
      ∀ (e : Expander) (a : Assets) (s : Words),
        (∀ room chain, (e.expandWithin a room chain (parse c)).run s = (.ok c, s)) ∧
        ∀ (sc : Shortcuts) (depth : Nat) (ctx : Context depth),
          (e.fillIn a sc ctx (parse c).segments).run s = (.ok (c, ctx), s)) ∧
    ∀ (e : Expander) (a : Assets) (sc : Shortcuts) (phrase : String),
      e.expandBy a sc phrase = e.expand a phrase := by
  refine ⟨fun c => Template.hasBrackets_of_markers, fun c spared e a s => ?_, expandBy_eq⟩
  have literal : (parse c).isLiteral = true := by
    rcases spared with brackets | literal
    · exact Template.isLiteral_of_not_hasBrackets (Bool.eq_false_iff.mp brackets)
    · exact literal
  constructor
  · intro room chain
    rw [expandWithin_eq, fill_of_isLiteral literal, Draw.run_done]
  · intro sc depth ctx
    rw [fillIn_of_isLiteral literal, Draw.run_done]

/-- Candidates whose brackets open no marker. -/
def strays : Assets := Assets.ofList [("a", ["] [x\n]", "]["])]

/-- Both brackets are there, the closing one in front or on the next line, so the candidate is read
but not entered. Nothing may be entered here, and without the tests nothing is. -/
theorem expandBy_any_shortcuts_strays :
    (parse "][a]").markers ≠ [] ∧ hasBrackets "][a]" = true ∧
      (parse "] [x\n]").isLiteral = true ∧ hasBrackets "] [x\n]" = true ∧
      (expandWithin ⟨0, false, none⟩ strays 0 ["a"] (parse "] [x\n]")).run default =
        (.ok "] [x\n]", default) ∧
      (fillIn ⟨0, false, none⟩ strays ⟨false, false⟩ (Context.start.enter "a")
        (parse "] [x\n]").segments).run default =
          (.ok ("] [x\n]", Context.start.enter "a"), default) ∧
      ((expandBy ⟨0, false, none⟩ strays ⟨false, false⟩ "[a]").run default).1 =
        .ok "] [x\n]" := by
  have markers : (parse "][a]").markers ≠ [] := by decide +kernel
  have literal : (parse "] [x\n]").isLiteral = true := by decide +kernel
  obtain ⟨brackets, spared, same⟩ := expandBy_any_shortcuts
  obtain ⟨within, inContext⟩ := spared _ (Or.inr literal) ⟨0, false, none⟩ strays default
  refine ⟨markers, brackets _ markers, literal, by decide +kernel, within 0 ["a"],
    inContext ⟨false, false⟩ 1 (Context.start.enter "a"), ?_⟩
  rw [same]
  decide +kernel

end Phrasebook.Expander
