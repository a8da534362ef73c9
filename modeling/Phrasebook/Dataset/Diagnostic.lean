import Phrasebook.Dataset.Load

/-! # Diagnostics

A report on a dataset that cannot be loaded, with a label on the byte at which reading its text
stopped. A position counts the bytes that were taken, so the label is on the last of them; an offset
behind the end of the text is moved to the end.
-/

namespace Phrasebook

/-- A mark on some bytes of a text. -/
structure Label where
  offset : Nat
  length : Nat
  text : String
  deriving Repr, DecidableEq, Inhabited

/-- A report on a text. -/
structure Diagnostic where
  message : String
  code : String
  help : String
  labels : List Label
  deriving Repr, DecidableEq, Inhabited

namespace Diagnostic

/-- The number of bytes in the first `n` lines of a text, with their line breaks. -/
def bytesOfLines : (n : Nat) → List Char → Nat
  | 0, _ => 0
  | _ + 1, [] => 0
  | n + 1, c :: cs => c.utf8Size + bytesOfLines (if c = '\n' then n else n + 1) cs

/-- The byte that a position points at. The sum is kept in a word of 64 bits. -/
def byteOffset (text : String) (p : Text.Position) : Nat :=
  min ((bytesOfLines (p.line - 1) text.toList + (p.column - 1)) % Nat.pow 2 64) text.utf8ByteSize

/-- The report on a dataset that cannot be loaded, whose file has this text. -/
def ofLoadError (text : String) (e : LoadError) : Diagnostic :=
  let (offset, detail) :=
    match e with
    | .parse _ position detail => (byteOffset text position, detail)
    | .io .. => (0, e.message)
  { message := "invalid dataset: " ++ detail
    code := "phrasegen::dataset"
    help := "a dataset is a JSON object with a \"templates\" array and an \"assets\" object"
    labels := [⟨offset, if offset < text.utf8ByteSize then 1 else 0, "here"⟩] }

end Diagnostic

end Phrasebook
