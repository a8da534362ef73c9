import Phrasebook.Text.Width.Sequence

/-! # Widths

The number of terminal columns that a line of text takes.
-/

namespace Phrasebook.Text

/-- The columns of the characters of a line, and what they are to a character in front. -/
def measure (line : List Char) : Int × Following :=
  line.foldr (fun c (columns, f) => let (own, f) := place c f; (own + columns, f)) (0, {})

/-- The number of columns of a line. -/
def width (line : String) : Nat := (measure line.toList).1.toNat

end Phrasebook.Text
