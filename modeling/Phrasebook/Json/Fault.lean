import Phrasebook.Text.Position

/-! # Faults in a JSON text

Why a text cannot be read, and where reading stopped. The place is kept as the number of bytes that
were still to be read, which no reader has to count along the way; the whole text turns it into a
line and a column.
-/

namespace Phrasebook.Json

/-- Why a text cannot be read. -/
inductive Cause where
  | endInList
  | endInObject
  | endInString
  | endInValue
  | expectedColon
  | expectedListCommaOrEnd
  | expectedObjectCommaOrEnd
  | expectedIdent
  | expectedValue
  | invalidEscape
  | invalidNumber
  | numberOutOfRange
  | controlCharacter
  | keyNotString
  | loneSurrogate
  | unfinishedSurrogatePair
  | trailingComma
  | trailingCharacters
  /-- A value of one kind stands where another is expected. -/
  | invalidType (found expected : String)
  | invalidLength (length : Nat) (expected : String)
  | missingField (name : String)
  | duplicateField (name : String)
  deriving Repr, DecidableEq, Inhabited

namespace Cause

def message : Cause → String
  | endInList => "EOF while parsing a list"
  | endInObject => "EOF while parsing an object"
  | endInString => "EOF while parsing a string"
  | endInValue => "EOF while parsing a value"
  | expectedColon => "expected `:`"
  | expectedListCommaOrEnd => "expected `,` or `]`"
  | expectedObjectCommaOrEnd => "expected `,` or `\x7d`"
  | expectedIdent => "expected ident"
  | expectedValue => "expected value"
  | invalidEscape => "invalid escape"
  | invalidNumber => "invalid number"
  | numberOutOfRange => "number out of range"
  | controlCharacter => "control character (\\u0000-\\u001F) found while parsing a string"
  | keyNotString => "key must be a string"
  | loneSurrogate => "lone leading surrogate in hex escape"
  | unfinishedSurrogatePair => "unexpected end of hex escape"
  | trailingComma => "trailing comma"
  | trailingCharacters => "trailing characters"
  | invalidType found expected => "invalid type: " ++ found ++ ", expected " ++ expected
  | invalidLength length expected =>
    "invalid length " ++ toString length ++ ", expected " ++ expected
  | missingField name => "missing field `" ++ name ++ "`"
  | duplicateField name => "duplicate field `" ++ name ++ "`"

end Cause

/-- The number of bytes that characters take. -/
def byteCount (cs : List Char) : Nat := cs.foldl (fun count c => count + c.utf8Size) 0

/-- A cause, and the number of bytes that were left when reading stopped. -/
structure Fault where
  cause : Cause
  left : Nat
  deriving Repr, DecidableEq, Inhabited

namespace Fault

/-- A fault in front of the characters that are left. -/
def before (cause : Cause) (cs : List Char) : Fault := ⟨cause, byteCount cs⟩

/-- A fault just behind the first byte that is left, if there is one. -/
def inside (cause : Cause) (cs : List Char) : Fault := ⟨cause, byteCount cs - 1⟩

/-- The line and column at which reading a text stopped. -/
def position (f : Fault) (text : String) : Text.Position :=
  Text.Position.ofOffset text (text.utf8ByteSize - f.left)

/-- The text of a fault in a text. -/
def message (f : Fault) (text : String) : String :=
  let p := f.position text
  f.cause.message ++ " at line " ++ toString p.line ++ " column " ++ toString p.column

end Fault

end Phrasebook.Json
