/-! # Edit distance

The least number of single-character insertions, deletions and substitutions between two texts. The
distances from one text to every ending of another are kept as a row, the longest ending first; one
more character in front of the first text turns a row into the next one.
-/

namespace Phrasebook.Text

/-- The least of three numbers. -/
def least (a b c : Nat) : Nat := min (min a b) c

/-- The row of `x :: xs` from the row of `xs`, where `ys` is the other text: the last character of
the first text is deleted, a character of the other one inserted, or the two stand over each other.
-/
def nextRow (x : Char) : List Char → List Nat → List Nat
  | y :: ys, here :: below :: rest =>
    let tail := nextRow x ys (below :: rest)
    least (here + 1) (tail.headD 0 + 1) (below + if x = y then 0 else 1) :: tail
  | _, row => row.map (· + 1)

/-- The distances from nothing to every ending of a text: all of it has to be inserted. -/
def emptyRow : List Char → List Nat
  | [] => [0]
  | _ :: ys => (ys.length + 1) :: emptyRow ys

/-- The distances from `xs` to every ending of `ys`. -/
def distanceRow (ys : List Char) : List Char → List Nat
  | [] => emptyRow ys
  | x :: xs => nextRow x ys (distanceRow ys xs)

/-- The least number of edits between two texts. -/
def editDistance (s t : String) : Nat := (distanceRow t.toList s.toList).headD 0

end Phrasebook.Text
