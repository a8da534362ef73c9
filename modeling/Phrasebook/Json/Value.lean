import Phrasebook.Json.Quoted

/-! # Writing values

The values that are written as JSON, in a compact form without any blank character and in a pretty
form with one member to a line, indented by two spaces a level.
-/

namespace Phrasebook.Json

/-- A value to be written. Members of an object keep their order. -/
inductive Value where
  | bool (b : Bool)
  | number (n : Nat)
  | string (text : String)
  | list (items : List Value)
  | object (members : List (String × Value))
  deriving Inhabited

namespace Value

def strings (texts : List String) : Value := .list (texts.map .string)

/-- The word for a truth value. -/
def boolText (b : Bool) : List Char := (if b then "true" else "false").toList

/-! ## The compact form -/

mutual

/-- Writes a value without blank characters. -/
def compact : Value → List Char
  | bool b => boolText b
  | number n => Nat.toDigits 10 n
  | string text => quote text
  | list items => '[' :: (compactItems items ++ [']'])
  | object members => '\x7b' :: (compactMembers members ++ ['\x7d'])

/-- Writes the elements of a list. -/
def compactItems : List Value → List Char
  | [] => []
  | [v] => compact v
  | v :: vs => compact v ++ ',' :: compactItems vs

/-- Writes the members of an object. -/
def compactMembers : List (String × Value) → List Char
  | [] => []
  | [(name, v)] => quote name ++ ':' :: compact v
  | (name, v) :: ms => quote name ++ ':' :: (compact v ++ ',' :: compactMembers ms)

end

/-! ## The pretty form -/

/-- A line break and the indentation behind it. -/
def lineBreak (level : Nat) : List Char := '\n' :: List.replicate (2 * level) ' '

mutual

/-- Writes a value at a level of indentation; an empty list or object takes no lines of its own. -/
def prettyAt (level : Nat) : Value → List Char
  | bool b => boolText b
  | number n => Nat.toDigits 10 n
  | string text => quote text
  | list [] => ['[', ']']
  | list (v :: vs) => '[' :: (prettyItems (level + 1) (v :: vs) ++ lineBreak level ++ [']'])
  | object [] => ['\x7b', '\x7d']
  | object (m :: ms) =>
    '\x7b' :: (prettyMembers (level + 1) (m :: ms) ++ lineBreak level ++ ['\x7d'])

/-- Writes the elements of a list, each on a line of its own. -/
def prettyItems (level : Nat) : List Value → List Char
  | [] => []
  | [v] => lineBreak level ++ prettyAt level v
  | v :: vs => lineBreak level ++ prettyAt level v ++ ',' :: prettyItems level vs

/-- Writes the members of an object, each on a line of its own. -/
def prettyMembers (level : Nat) : List (String × Value) → List Char
  | [] => []
  | [(name, v)] => lineBreak level ++ quote name ++ ':' :: ' ' :: prettyAt level v
  | (name, v) :: ms =>
    lineBreak level ++ quote name ++
      ':' :: ' ' :: (prettyAt level v ++ ',' :: prettyMembers level ms)

end

/-- The compact text of a value. -/
def toCompact (v : Value) : String := String.ofList v.compact

/-- The pretty text of a value. -/
def toPretty (v : Value) : String := String.ofList (v.prettyAt 0)

end Value

end Phrasebook.Json
