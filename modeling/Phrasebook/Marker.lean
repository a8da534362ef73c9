/-! # Markers

A marker is a substitution point, known by the text between its brackets. Its name may also be read
as an optional marker `key?NN`: the part after the last `?` is then the chance, in percent, that the
marker is kept. The chance has at most three ASCII digits and is never above 100.
-/

namespace Phrasebook

/-- A substitution point, known by the text between its brackets. -/
structure Marker where
  name : String
  deriving Repr, DecidableEq, Inhabited

/-- A marker read as `key?NN`: it is kept in `chance` of a hundred cases and dropped in the others.
-/
structure OptionalMarker where
  key : String
  chance : Nat
  deriving Repr, DecidableEq, Inhabited

namespace OptionalMarker

/-- The chance of a marker that gives no digits. -/
def defaultChance : Nat := 50

/-- A suffix has at most this many digits. -/
def maxDigits : Nat := 3

/-- The text before and after the last `?`. -/
def splitLast : List Char → Option (List Char × List Char)
  | [] => none
  | c :: cs =>
    match splitLast cs with
    | some (key, suffix) => some (c :: key, suffix)
    | none => if c = '?' then some ([], cs) else none

/-- The value of a row of decimal digits. -/
def digitsValue (digits : List Char) : Nat :=
  digits.foldl (fun value d => 10 * value + (d.toNat - '0'.toNat)) 0

/-- The chance that a suffix stands for, if it is a suffix. -/
def chance? (suffix : List Char) : Option Nat :=
  if suffix.length ≤ maxDigits ∧ suffix.all Char.isDigit then
    some (if suffix.isEmpty then defaultChance else min 100 (digitsValue suffix))
  else
    none

end OptionalMarker

namespace Marker

open OptionalMarker in
/-- Reads the name as `key?` or `key?NN`; the key may not be empty. -/
def asOptional (m : Marker) : Option OptionalMarker :=
  match splitLast m.name.toList with
  | some (key, suffix) =>
    if key.isEmpty then none else (chance? suffix).map fun chance => ⟨String.ofList key, chance⟩
  | none => none

end Marker

end Phrasebook
