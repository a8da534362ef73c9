import Phrasebook.Decimal.Shortest
import Phrasebook.Json.Fault

/-! # Numbers

Number literals of a JSON text, their values and the texts of these values. A literal without
fraction and exponent is an integer if it fits into 64 bits; every other one is a double-precision
number. Such a number is found from the leading digits that fit into 64 bits and a power of ten.
-/

namespace Phrasebook.Json

/-! ## Literals -/

/-- The parts of a number literal behind its sign. -/
structure Literal where
  whole : List Char
  fraction : List Char := []
  /-- The sign, `true` for a negative one, and the digits of the exponent. -/
  exponent : Option (Bool × List Char) := none
  deriving Repr, DecidableEq, Inhabited

/-- The digits at the front, and what is behind them. -/
def digits (cs : List Char) : List Char × List Char :=
  (cs.takeWhile Char.isDigit, cs.dropWhile Char.isDigit)

/-- The sign of an exponent, `true` for a negative one, and what is behind it. -/
def exponentSign : List Char → Bool × List Char
  | '+' :: cs => (false, cs)
  | '-' :: cs => (true, cs)
  | cs => (false, cs)

/-- Reads an exponent behind its letter. A text that ends too early has the fault `atEnd`. -/
def exponentDigits (atEnd : Cause) (cs : List Char) :
    Except Fault (Option (Bool × List Char) × List Char) :=
  match digits (exponentSign cs).2 with
  | ([], []) => .error (.before atEnd [])
  | ([], rest) => .error (.inside .invalidNumber rest)
  | (ds, rest) => .ok (some ((exponentSign cs).1, ds), rest)

/-- Reads the exponent of a literal, if there is one. -/
def scanExponent (atEnd : Cause) : List Char → Except Fault (Option (Bool × List Char) × List Char)
  | 'e' :: cs => exponentDigits atEnd cs
  | 'E' :: cs => exponentDigits atEnd cs
  | cs => .ok (none, cs)

/-- Reads the fraction of a literal, if there is one. -/
def scanFraction (atEnd : Cause) : List Char → Except Fault (List Char × List Char)
  | '.' :: cs =>
    match digits cs with
    | ([], []) => .error (.before atEnd [])
    | ([], rest) => .error (.inside .invalidNumber rest)
    | (ds, rest) => .ok (ds, rest)
  | cs => .ok ([], cs)

/-- Reads the digits in front of the point; a zero stands alone. -/
def scanWhole (atEnd : Cause) : List Char → Except Fault (List Char × List Char)
  | [] => .error (.before atEnd [])
  | '0' :: cs =>
    match digits cs with
    | ([], _) => .ok (['0'], cs)
    | _ => .error (.inside .invalidNumber cs)
  | cs =>
    match digits cs with
    | ([], _) => .error (.inside .invalidNumber cs)
    | (ds, rest) => .ok (ds, rest)

/-- Reads a literal behind its sign. -/
def scanLiteral (atEnd : Cause) (cs : List Char) : Except Fault (Literal × List Char) := do
  let (whole, rest) ← scanWhole atEnd cs
  let (fraction, rest) ← scanFraction atEnd rest
  let (exponent, rest) ← scanExponent atEnd rest
  return (⟨whole, fraction, exponent⟩, rest)

/-! ## Values -/

/-- The value of a number literal. -/
inductive Number where
  | integer (n : Int)
  | float (x : Float)

/-- The greatest number of 64 bits. -/
def greatestWord : Nat := Nat.pow 2 64 - 1

/-- The greatest exponent that is counted. -/
def greatestExponent : Nat := Nat.pow 2 31 - 1

/-- Appends digits to a number while it stays within a limit; the others are left over. -/
def appendDigits (limit : Nat) (n : Nat) : List Char → Nat × List Char
  | [] => (n, [])
  | d :: ds =>
    let next := 10 * n + (d.toNat - '0'.toNat)
    if limit < next then (n, d :: ds) else appendDigits limit next ds

/-- The powers of ten that double precision has. -/
def greatestPower : Nat := 308

/-- A power of ten in double precision. -/
def powerOfTen (k : Nat) : Float := Float.ofScientific 1 false k

/-- Divides by a power of ten, in steps that double precision has. -/
def divideByPower (x : Float) (k : Nat) : Float :=
  if k ≤ greatestPower then x / powerOfTen k
  else if x == 0 then x
  else divideByPower (x / powerOfTen greatestPower) (k - greatestPower)
termination_by k
decreasing_by
  simp only [greatestPower] at *
  omega

/-- A whole number times a power of ten, unless it is too great. -/
def scaleByPower? (n : Nat) (exponent : Int) : Option Float :=
  let x := (UInt64.ofNat n).toFloat
  if exponent < 0 then
    some (divideByPower x (-exponent).toNat)
  else if exponent.toNat ≤ greatestPower then
    let y := x * powerOfTen exponent.toNat
    if y.isInf then none else some y
  else if n = 0 then
    some x
  else
    none

namespace Literal

/-- The leading digits that fit into 64 bits, and the power of ten that goes with them. -/
def significand (l : Literal) : Nat × Int :=
  let (n, dropped) := appendDigits greatestWord 0 l.whole
  let (m, dropped') := appendDigits greatestWord n l.fraction
  (m, (dropped.length : Int) - ((l.fraction.length : Int) - dropped'.length))

/-- The value in double precision of a literal in front of `rest`. -/
def float (l : Literal) (rest : List Char) : Except Fault Float :=
  let (n, shift) := l.significand
  let (negative, ds) := l.exponent.getD (false, [])
  let (exponent, excess) := appendDigits greatestExponent 0 ds
  if excess.isEmpty then
    match scaleByPower? n (if negative then shift - exponent else shift + exponent) with
    | some x => .ok x
    | none => .error (.before .numberOutOfRange rest)
  else if n ≠ 0 ∧ !negative then
    .error ⟨.numberOutOfRange, excess.length - 1 + byteCount rest⟩
  else
    .ok 0

/-- The value of an integer that fits into 64 bits. -/
def integer? (l : Literal) (negative : Bool) : Option Int :=
  if l.fraction.isEmpty ∧ l.exponent.isNone then
    match appendDigits greatestWord 0 l.whole with
    | (n, []) =>
      if !negative then some n
      else if 0 < n ∧ n ≤ Nat.pow 2 63 then some (-n)
      else none
    | _ => none
  else
    none

/-- The value of a literal with its sign, in front of `rest`. -/
def value (l : Literal) (negative : Bool) (rest : List Char) : Except Fault Number :=
  match l.integer? negative with
  | some n => .ok (.integer n)
  | none => (l.float rest).map fun x => .float (if negative then -x else x)

end Literal

/-- Reads a number behind its sign. -/
def readNumber (negative : Bool) (cs : List Char) : Except Fault (Number × List Char) := do
  let (l, rest) ← scanLiteral .endInValue cs
  let x ← l.value negative rest
  return (x, rest)

/-! ## Texts -/

/-- The positive binary fraction with these bits. -/
def binaryOfBits (bits : UInt64) : Decimal.Binary :=
  let mantissa : Nat := bits.toNat % Nat.pow 2 52
  let exponent : Nat := bits.toNat / Nat.pow 2 52 % Nat.pow 2 11
  if exponent = 0 then ⟨mantissa, -1074, false⟩
  else ⟨Nat.pow 2 52 + mantissa, (exponent : Int) - 1075, mantissa = 0 ∧ 1 < exponent⟩

/-- The least and the greatest decimal exponent of a number that is written without an exponent. -/
def positional : Int × Int := (-5, 15)

/-- A decimal with a point and at least one digit on either side of it, or with an exponent. -/
def decimalText (d : Decimal) : String :=
  let ds := Nat.toDigits 10 d.digits
  let top := d.exponent + ds.length - 1
  let zeros (n : Int) := List.replicate n.toNat '0'
  String.ofList <|
    if positional.1 ≤ top ∧ top ≤ positional.2 then
      if 0 ≤ d.exponent then ds ++ zeros d.exponent ++ ['.', '0']
      else if 0 ≤ top then ds.take (top + 1).toNat ++ '.' :: ds.drop (top + 1).toNat
      else '0' :: '.' :: (zeros (-top - 1) ++ ds)
    else
      let mantissa := match ds with
        | [d] => [d]
        | d :: ds => d :: '.' :: ds
        | [] => []
      mantissa ++ 'e' :: (if top < 0 then '-' else '+') :: Nat.toDigits 10 top.natAbs

/-- The text of a number in double precision. -/
def floatText (x : Float) : String :=
  let bits := x.toBits
  let sign := if bits.toNat / Nat.pow 2 63 = 1 then "-" else ""
  let magnitude := UInt64.ofNat (bits.toNat % Nat.pow 2 63)
  sign ++ if magnitude = 0 then "0.0" else decimalText (Decimal.shortest (binaryOfBits magnitude))

namespace Number

/-- What a number is called where it is not expected. -/
def describe : Number → String
  | integer n => "integer `" ++ toString n ++ "`"
  | float x => "floating point `" ++ floatText x ++ "`"

end Number

end Phrasebook.Json
