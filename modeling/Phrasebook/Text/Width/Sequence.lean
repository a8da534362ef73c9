import Phrasebook.Text.Emoji
import Phrasebook.Text.Width.Character

/-! # Widths of sequences

Some characters are drawn together and then take fewer columns, or more, than they would one by one:
the parts of a picture, letters that run into one, and a character with a selector behind it. A text
is measured from its end, and all that counts of what follows a character is kept as a `Following`.
`place` gives the columns of a character in front of what follows it.
-/

namespace Phrasebook.Text

/-- The beginning of what follows a character, if the character may be drawn together with it. -/
inductive Tail where
  /-- Nothing that it could be drawn together with. -/
  | other
  | picture
  | tone
  | letter
  | letters
  /-- A joiner and a picture. -/
  | joined
  /-- A key cap, a joiner and a picture. -/
  | joinedKey
  /-- One regional letter, a joiner and a picture. -/
  | joinedLetter
  /-- More regional letters, an even number of them or an odd one, a joiner and a picture. -/
  | joinedLetters (even : Bool)
  /-- Tags for so many letters, the end of the tags, a joiner and a picture. -/
  | letterTags (count : Nat)
  /-- Tags for so many digits, and perhaps for letters behind them, with the same end. -/
  | digitTags (count : Nat)
  /-- The Kirat Rai vowel sign E. -/
  | vowelE
  /-- The Kirat Rai vowel sign AI, perhaps as two signs E. -/
  | vowelAi
  | alef
  /-- The Hebrew letter lamed, perhaps behind a joiner. -/
  | lamed (joined : Bool)
  /-- The Buginese letter ya, perhaps behind a joiner. -/
  | ya (joined : Bool)
  /-- The Buginese vowel sign I, a joiner and the letter ya. -/
  | signYa
  /-- A Tifinagh consonant, perhaps behind a joiner. -/
  | consonant (joined : Bool)
  /-- The mark that joins Tifinagh consonants, and such a consonant. -/
  | joinedConsonant
  /-- A Lisu tone letter of the second row. -/
  | toneLetter
  /-- The Old Turkic letter I, perhaps behind a joiner. -/
  | orkhonI (joined : Bool)
  /-- A Khmer letter that may stand below another one. -/
  | subscript
  deriving Repr, DecidableEq, Inhabited

/-! ## Letters that are drawn together -/

def lam : Ranges := [
    (0x0644, 0x0644), (0x06B5, 0x06B8), (0x076A, 0x076A), (0x08A6, 0x08A6), (0x08C7, 0x08C7)]

def alef : Ranges := [
    (0x0622, 0x0623), (0x0625, 0x0625), (0x0627, 0x0627), (0x0671, 0x0673), (0x0675, 0x0675),
    (0x0773, 0x0774), (0x0870, 0x0882)]

/-- Khmer letters that may stand below another one. -/
def subscripts : Ranges := [
    (0x1780, 0x1782), (0x1784, 0x1787), (0x1789, 0x178C), (0x178E, 0x1793), (0x1795, 0x1798),
    (0x179B, 0x179D), (0x17A0, 0x17A0), (0x17A2, 0x17A2), (0x17A7, 0x17A7), (0x17AB, 0x17AC),
    (0x17AF, 0x17AF)]

def consonants : Ranges := [(0x2D31, 0x2D65), (0x2D6F, 0x2D6F)]

def firstTones : Ranges := [(0xA4F8, 0xA4FB)]

def secondTones : Ranges := [(0xA4FC, 0xA4FD)]

/-- Marks that do not show and may stand anywhere in letters that are drawn together. -/
def unseenMarks : Ranges := [
    (0x034F, 0x034F), (0x17B4, 0x17B5), (0x180B, 0x180D), (0x180F, 0x180F), (0xFE00, 0xFE0F),
    (0xE0100, 0xE01EF)]

/-- Quotation marks that a selector makes wide. -/
def quotationMarks : Ranges := [(0x2018, 0x2019), (0x201C, 0x201D)]

/-- The character that makes the quotation mark before it wide. -/
def wideSelector : Char := '\uFE01'

namespace Tail

/-- What a character is to the one in front of it, if it is not drawn together with the next. -/
def ofChar (c : Char) : Tail :=
  if regional.has c then letter
  else if tones.has c then tone
  else if pictures.has c then picture
  else if Text.alef.has c then alef
  else if subscripts.has c then subscript
  else if consonants.has c then consonant false
  else if secondTones.has c then toneLetter
  else
    match c with
    | '\u05DC' => lamed false
    | '\u1A10' => ya false
    | '𐰃' => orkhonI false
    | '𖵧' => vowelE
    | '𖵨' => vowelAi
    | _ => other

/-- Whether a picture stands there behind a joiner, perhaps with a key cap in front. -/
def isJoined : Tail → Bool
  | joined | joinedKey => true
  | _ => false

/-- Whether a letter stands there that may be drawn together with others. -/
def isLetter : Tail → Bool
  | alef | lamed _ | ya _ | signYa | consonant _ | joinedConsonant | toneLetter | orkhonI _
  | subscript => true
  | _ => false

/-- Whether joiners and unseen marks may stand in front of it. An alef has a rule of its own. -/
def isLoose (t : Tail) : Bool := t.isLetter && t != alef

/-- The same behind a joiner. -/
def withJoiner : Tail → Tail
  | lamed _ => lamed true
  | ya _ => ya true
  | consonant _ => consonant true
  | orkhonI _ => orkhonI true
  | t => t

/-- Puts a character in front of a picture that may be joined to the one before. -/
def extendPicture (c : Char) : Option (Int × Tail) :=
  if c = joiner then some (0, joined) else none

/-- Puts a character in front of a joiner and a picture. -/
def extendJoined (c : Char) : Option (Int × Tail) :=
  if c = keycap then some (0, joinedKey)
  else if regional.has c then some (1, joinedLetter)
  else if tones.has c then some (0, tone)
  else if c = endTag then some (0, letterTags 0)
  else if pictures.has c then some (0, picture)
  else none

/-- Puts a character in front of tags for `count` letters. -/
def extendLetterTags (count : Nat) (c : Char) : Option (Int × Tail) :=
  if Text.letterTags.has c && count < 6 then some (0, letterTags (count + 1))
  else if Text.digitTags.has c && count < 5 then some (0, digitTags 1)
  else if c = blackFlag && 3 ≤ count then some (0, picture)
  else none

/-- Puts a character in front of tags for `count` digits. -/
def extendDigitTags (count : Nat) (c : Char) : Option (Int × Tail) :=
  if Text.digitTags.has c && count < 3 then some (0, digitTags (count + 1))
  else if c = blackFlag && count = 3 then some (0, picture)
  else none

/-- Puts a character in front of a letter or a picture with which it is drawn together: the columns
that this adds, and what both are to the character before. -/
def combine (t : Tail) (c : Char) : Option (Int × Tail) :=
  match t with
  | picture => extendPicture c
  | tone => if tonable.has c then some (0, picture) else extendPicture c
  | letter => if regional.has c then some (1, letters) else none
  | letters => if regional.has c then some (1, letters) else extendPicture c
  | joined => extendJoined c
  | joinedLetter => if regional.has c then some (-1, joinedLetters true) else none
  | joinedLetters even =>
    if regional.has c then some (if even then 3 else -1, joinedLetters !even) else extendPicture c
  | letterTags count => extendLetterTags count c
  | digitTags count => extendDigitTags count c
  | vowelE =>
    match c with
    | '𖵣' | '𖵩' => some (0, other)
    | '𖵧' => some (0, vowelAi)
    | '𖵨' => some (1, vowelE)
    | _ => none
  | vowelAi => if c = '𖵣' then some (0, other) else none
  | alef =>
    if lam.has c then some (0, other) else if isTransparent c then some (0, alef) else none
  | lamed true => if c = '\u05D0' then some (0, other) else none
  | ya true => if c = '\u1A17' then some (0, signYa) else none
  | signYa => if c = '\u1A15' then some (0, other) else none
  | consonant behindJoiner =>
    if c = consonantJoiner then some (1, joinedConsonant)
    else if behindJoiner && consonants.has c then some (0, other)
    else none
  | joinedConsonant => if consonants.has c then some (-1, other) else none
  | toneLetter => if firstTones.has c then some (0, other) else none
  | orkhonI true => if c = '𐰲' then some (0, other) else none
  | subscript => if c = '\u17D2' then some (-1, other) else none
  | _ => none

/-- Puts a character in front, drawn together with what follows or not. -/
def extend (t : Tail) (c : Char) : Int × Tail :=
  if t.isLoose && c == joiner then (0, t.withJoiner)
  else if t.isLoose && unseenMarks.has c then (0, t)
  else (t.combine c).getD (charWidth c, ofChar c)

end Tail

/-! ## Selectors -/

/-- What follows a character: the selectors that apply to it, and what stands behind them. -/
structure Following where
  tail : Tail := .other
  /-- The picture selector follows. -/
  asPicture : Bool := false
  /-- The text selector follows. -/
  asText : Bool := false
  /-- The selector for wide quotation marks follows. -/
  asWide : Bool := false
  deriving Repr, DecidableEq, Inhabited

namespace Following

/-- Puts the picture selector in front. Letters and joined pictures are still reached behind it. -/
def selectPicture (f : Following) : Following :=
  if f.tail.isLetter || f.tail.isJoined then { f with asPicture := true } else { asPicture := true }

/-- Takes the picture selector away from a character that it does not apply to. -/
def dropPicture (f : Following) : Following :=
  if !f.asPicture then f else if f.tail.isLetter then { f with asPicture := false } else {}

/-- Puts the text selector in front. -/
def selectText (f : Following) : Following :=
  if f.tail.isLetter then { f with asText := true } else { asText := true }

/-- Puts the selector for wide quotation marks in front. -/
def selectWide (f : Following) : Following :=
  if f.tail.isLetter then { f with asWide := true } else { asWide := true }

end Following

/-- The columns of a character that the picture selector does not apply to, and what follows the
character before it. -/
def placePlain (c : Char) (f : Following) : Int × Following :=
  if c.toNat < 0xA1 then (1, {})
  else if c = pictureSelector then (0, f.selectPicture)
  else if c = textSelector then (0, f.selectText)
  else if c = wideSelector then (0, f.selectWide)
  else if f.asText && textSelectable.has c then (1, {})
  else if f.asWide && quotationMarks.has c then (2, {})
  else
    let (columns, tail) := f.tail.extend c
    (columns, { tail })

/-- The columns of a character in front of what follows it, and what follows the one before. The
number is negative where a character takes back a column that was counted. -/
def place (c : Char) (f : Following) : Int × Following :=
  if f.asPicture && pictureSelectable.has c then
    (if f.tail.isJoined then 0 else 2, { tail := .picture })
  else
    placePlain c f.dropPicture

end Phrasebook.Text
