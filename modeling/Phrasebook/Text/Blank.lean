import Phrasebook.Text.Ranges

/-! # Blank characters

The white space of Unicode, and the removal of white space around a text.
-/

namespace Phrasebook.Text

/-- The characters with the property White_Space. -/
def blank : Ranges :=
  [(0x09, 0x0D), (0x20, 0x20), (0x85, 0x85), (0xA0, 0xA0), (0x1680, 0x1680), (0x2000, 0x200A),
    (0x2028, 0x2029), (0x202F, 0x202F), (0x205F, 0x205F), (0x3000, 0x3000)]

/-- Drops the characters of a class from both ends. -/
def stripBoth (p : Char → Bool) (cs : List Char) : List Char :=
  ((cs.dropWhile p).reverse.dropWhile p).reverse

/-- The text without the white space around it. -/
def trim (text : String) : String := String.ofList (stripBoth blank.has text.toList)

end Phrasebook.Text
