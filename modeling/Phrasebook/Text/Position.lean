/-! # Positions in a text

A place in a text as a line, counted from one, and a column, which is the number of bytes between
the start of the line and the place.
-/

namespace Phrasebook.Text

/-- A line, counted from one, and the number of bytes in front of the place on that line. -/
structure Position where
  line : Nat
  column : Nat
  deriving Repr, DecidableEq, Inhabited

namespace Position

/-- The start of a text. -/
def start : Position := ⟨1, 0⟩

/-- The position behind a character. -/
def step (p : Position) (c : Char) : Position :=
  if c = '\n' then ⟨p.line + 1, 0⟩ else ⟨p.line, p.column + c.utf8Size⟩

/-- The position `offset` bytes on; a place inside a character belongs to the character's line. -/
def advance (p : Position) (offset : Nat) : List Char → Position
  | [] => p
  | c :: cs =>
    if offset < c.utf8Size then ⟨p.line, p.column + offset⟩
    else advance (p.step c) (offset - c.utf8Size) cs

/-- The position of a byte offset. -/
def ofOffset (text : String) (offset : Nat) : Position := start.advance offset text.toList

end Position

end Phrasebook.Text
