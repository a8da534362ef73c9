import Phrasebook.Marker

/-! # Templates

A template is a text cut into literal text and markers. A marker opens with `[` and closes with the
first `]` behind it, on the same line. Everything else is literal, also a `[` that never closes, so
every text has a reading and no reading loses a character.
-/

namespace Phrasebook

/-- A piece of a template. -/
inductive Segment where
  /-- Text that stands for itself. -/
  | literal (text : String)
  /-- A substitution point. -/
  | marker (m : Marker)
  deriving Repr, DecidableEq, Inhabited

namespace Segment

/-- The marker of a segment, unless it is literal. -/
def marker? : Segment → Option Marker
  | literal _ => none
  | marker m => some m

/-- The text of which the segment was read. -/
def render : Segment → String
  | literal text => text
  | marker m => "[" ++ m.name ++ "]"

end Segment

/-- A text cut into segments. -/
structure Template where
  segments : List Segment
  deriving Repr, DecidableEq, Inhabited

namespace Template

/-- A name runs up to the first `]` or line break. -/
def isNameChar (c : Char) : Bool := c != ']' && c != '\n'

/-- The marker that the text begins with, and the text behind it. -/
def markerAt? : List Char → Option (Marker × List Char)
  | '[' :: cs =>
    match cs.dropWhile isNameChar with
    | ']' :: rest => some (⟨String.ofList (cs.takeWhile isNameChar)⟩, rest)
    | _ => none
  | _ => none

/-- The longest beginning in which no marker opens, and the text behind it. -/
def literalRun : List Char → List Char × List Char
  | [] => ([], [])
  | c :: cs =>
    if (markerAt? (c :: cs)).isSome then
      ([], c :: cs)
    else
      let (run, rest) := literalRun cs
      (c :: run, rest)

theorem length_dropWhile_le (p : Char → Bool) (cs : List Char) :
    (cs.dropWhile p).length ≤ cs.length :=
  (List.dropWhile_sublist p).length_le

/-- A marker takes at least one character. -/
theorem length_lt_of_markerAt? {cs rest : List Char} {m : Marker}
    (h : markerAt? cs = some (m, rest)) : rest.length < cs.length := by
  unfold markerAt? at h
  split at h
  · rename_i cs
    split at h
    · rename_i tail hd
      simp only [Option.some.injEq, Prod.mk.injEq] at h
      have hl := length_dropWhile_le isNameChar cs
      rw [hd, h.2] at hl
      simp only [List.length_cons] at hl ⊢
      omega
    · contradiction
  · contradiction

theorem length_literalRun_le (cs : List Char) : (literalRun cs).2.length ≤ cs.length := by
  induction cs with
  | nil => simp [literalRun]
  | cons c cs ih =>
      unfold literalRun
      split
      · simp
      · simp only [List.length_cons]
        omega

/-- Cuts a text into segments. Where no marker opens, a literal takes at least one character. -/
def scan (cs : List Char) : List Segment :=
  match _h : markerAt? cs with
  | some (m, rest) => .marker m :: scan rest
  | none =>
    match cs with
    | [] => []
    | c :: cs =>
      let run := literalRun cs
      .literal (String.ofList (c :: run.1)) :: scan run.2
termination_by cs.length
decreasing_by
  · exact length_lt_of_markerAt? ‹_›
  · have := length_literalRun_le cs
    simp only [List.length_cons]
    omega

@[simp]
theorem scan_nil : scan [] = [] := by
  rw [scan]
  rfl

theorem scan_of_marker {cs rest : List Char} {m : Marker} (h : markerAt? cs = some (m, rest)) :
    scan cs = .marker m :: scan rest := by
  rw [scan]
  split
  · simp_all
  · simp_all

theorem scan_of_literal {c : Char} {cs : List Char} (h : markerAt? (c :: cs) = none) :
    scan (c :: cs) =
      .literal (String.ofList (c :: (literalRun cs).1)) :: scan (literalRun cs).2 := by
  rw [scan]
  split
  · simp_all
  · rfl

/-- The segments of a text. -/
def parse (text : String) : Template := ⟨scan text.toList⟩

/-- The text of which a template was read. -/
def render (t : Template) : String := String.join (t.segments.map Segment.render)

/-- The markers, from left to right. -/
def markers (t : Template) : List Marker := t.segments.filterMap Segment.marker?

/-- A template without markers. -/
def isLiteral (t : Template) : Bool := t.markers.isEmpty

/-- A quick test before a text is read: only a text with both brackets can hold a marker. -/
def hasBrackets (text : String) : Bool := text.toList.contains '[' && text.toList.contains ']'

end Template

end Phrasebook
