import Phrasebook.Text.Extending
import Phrasebook.Text.Unprintable

/-! # Revealed text

A text in quotes in which every character can be seen: what does not print, what attaches to the
character before it, and what shows nothing, is written as an escape.
-/

namespace Phrasebook.Text

/-- A character by its code point. -/
def codePointEscape (c : Char) : List Char :=
  '\\' :: 'u' :: '\x7b' :: (Nat.toDigits 16 c.toNat ++ ['\x7d'])

/-- A character in such a form that it can be seen. -/
def revealChar (c : Char) : List Char :=
  match c with
  | '"' => ['\\', '"']
  | '\\' => ['\\', '\\']
  | '\n' => ['\\', 'n']
  | '\r' => ['\\', 'r']
  | '\t' => ['\\', 't']
  | '\x00' => ['\\', '0']
  | c =>
    if extending.has c || fillers.has c || unprintable.has c then codePointEscape c else [c]

/-- A text in quotes, with every character to be seen. -/
def reveal (text : List Char) : String :=
  String.ofList ('"' :: (text.flatMap revealChar ++ ['"']))

end Phrasebook.Text
