/-! # Shortest decimals

The shortest decimal that reads back as a given binary fraction, of the shortest ones the nearest,
and of two equally near ones the one with an even last digit. The fraction is `m * 2 ^ q`; the reals
that round to it form an interval around it, with its ends if `m` is even. A grid of decimals with
`n` digits has a point in the interval only if one of the two points next to the value lies in it,
so those two are tried, for `n` from 1 to 17.
-/

namespace Phrasebook

/-- A decimal `digits * 10 ^ exponent`. -/
structure Decimal where
  digits : Nat
  exponent : Int
  deriving Repr, DecidableEq, Inhabited

namespace Decimal

/-- A positive binary fraction `m * 2 ^ q`; `narrow` if the one below it is only half as far away.
-/
structure Binary where
  m : Nat
  q : Int
  narrow : Bool

/-- A positive quotient of natural numbers. -/
structure Quotient where
  num : Nat
  den : Nat

namespace Quotient

/-- A number times a power of a base. -/
def ofPower (n base : Nat) (exponent : Int) : Quotient :=
  if 0 ≤ exponent then ⟨n * Nat.pow base exponent.toNat, 1⟩
  else ⟨n, Nat.pow base (-exponent).toNat⟩

/-- Whether the first quotient is less than the second. -/
def lt (x y : Quotient) : Bool := x.num * y.den < y.num * x.den

/-- The distance between two quotients. -/
def distance (x y : Quotient) : Quotient :=
  let a := x.num * y.den
  let b := y.num * x.den
  ⟨if a ≤ b then b - a else a - b, x.den * y.den⟩

end Quotient

namespace Binary

/-- A number of quarters of the last place. -/
def quarters (x : Binary) (n : Nat) : Quotient := .ofPower n 2 (x.q - 2)

/-- The value itself. -/
def value (x : Binary) : Quotient := x.quarters (4 * x.m)

/-- Whether a quotient rounds to the fraction. -/
def catches (x : Binary) (y : Quotient) : Bool :=
  let low := x.quarters (4 * x.m - if x.narrow then 1 else 2)
  let high := x.quarters (4 * x.m + 2)
  if x.m % 2 = 0 then !y.lt low && !high.lt y else low.lt y && y.lt high

end Binary

def value (d : Decimal) : Quotient := .ofPower d.digits 10 d.exponent

/-- Drops zeros at the end, at most `fuel` of them. -/
def strip : (fuel : Nat) → Decimal → Decimal
  | 0, d => d
  | fuel + 1, d =>
    if d.digits ≠ 0 ∧ d.digits % 10 = 0 then strip fuel ⟨d.digits / 10, d.exponent + 1⟩ else d

/-- The greatest `k` at or below a start such that `10 ^ k` is at most the value, searched
downwards. -/
def leading (x : Quotient) : (fuel : Nat) → (k : Int) → Int
  | 0, k => k
  | fuel + 1, k => if x.lt (.ofPower 1 10 k) then leading x fuel (k - 1) else k

/-- The decimal exponents of double precision lie between this bound and its negative. -/
def exponentBound : Nat := 330

/-- The points next to the value on the grid of decimals with this exponent. -/
def neighbours (x : Quotient) (exponent : Int) : List Decimal :=
  let unit := Quotient.ofPower 1 10 exponent
  let floor := x.num * unit.den / (x.den * unit.num)
  [⟨floor, exponent⟩, ⟨floor + 1, exponent⟩]

/-- The nearer of two neighbours; in a tie, the one whose last digit is even. -/
def nearer (x : Quotient) (c d : Decimal) : Decimal :=
  if (x.distance c.value).lt (x.distance d.value) then c
  else if (x.distance d.value).lt (x.distance c.value) then d
  else if c.digits % 2 = 0 then c
  else d

/-- The shortest decimal with at least `n` digits that reads back as the fraction. -/
def shortestFrom (x : Binary) (top : Int) : (fuel n : Nat) → Decimal
  | 0, n => ⟨x.value.num / x.value.den, n⟩
  | fuel + 1, n =>
    match (neighbours x.value (top - n + 1)).filter fun d => x.catches d.value with
    | [] => shortestFrom x top fuel (n + 1)
    | d :: ds => ds.foldl (nearer x.value) d

/-- The shortest decimal that reads back as the fraction. -/
def shortest (x : Binary) : Decimal :=
  let top := leading x.value (2 * exponentBound) exponentBound
  (shortestFrom x top 17 1).strip 17

end Decimal

end Phrasebook
