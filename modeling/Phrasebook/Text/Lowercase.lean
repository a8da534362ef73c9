import Phrasebook.Text.Lowercase.Cased
import Phrasebook.Text.Lowercase.Mapping

/-! # Lower case

The full lower-case form of a text. Two characters need more than a table: `İ` becomes `i` with a
dot above, and a capital sigma becomes `ς` at the end of a word and `σ` elsewhere. A sigma ends a
word if the nearest character before it that is not case-ignorable is a cased letter and the
nearest one behind it is not.
-/

namespace Phrasebook.Text

namespace Lowercase

/-- The lower-case form of a character that does not depend on its neighbours. -/
def char (c : Char) : Char :=
  if c.toNat < 0x80 then
    c.toLower
  else
    match mapping.findSome? (·.image? c.toNat) with
    | some n => Char.ofNat n
    | none => c

/-- Whether the nearest character that is not case-ignorable is a cased letter. -/
def startsCased (cs : List Char) : Bool :=
  match cs.dropWhile caseIgnorable.has with
  | c :: _ => cased.has c
  | [] => false

/-- Lower-cases a text of which `before` has been read, its last character first. -/
def lowerAfter (before : List Char) : List Char → List Char
  | [] => []
  | c :: cs =>
    let rest := lowerAfter (c :: before) cs
    if c = 'Σ' then
      (if startsCased before && !startsCased cs then 'ς' else 'σ') :: rest
    else if c = 'İ' then
      'i' :: '\u0307' :: rest
    else
      char c :: rest

end Lowercase

/-- The text in lower case. -/
def lowercase (text : String) : String := String.ofList (Lowercase.lowerAfter [] text.toList)

/-- Whether `part` stands somewhere in `text`. -/
def contains (part text : List Char) : Bool :=
  part.isPrefixOf text ||
    match text with
    | [] => false
    | _ :: rest => contains part rest

end Phrasebook.Text
