/-!
# Finite 64-bit floats

Every finite float is a whole multiple of the smallest positive one, `2 ^ -1074`. A float is
kept as that multiple and a sign, so that its value is exact, two floats with one value and
one sign are the same datum, and all arithmetic is on natural numbers.
-/

namespace SiteSearch.Decimal

/-- A finite 64-bit float. -/
structure Binary64 where
  /-- The sign, which zero has too. -/
  negative : Bool
  /-- The magnitude, in units of `2 ^ -1074`. -/
  magnitude : Nat
  deriving DecidableEq, Repr, Inhabited

/-- How many of the smallest units make one. -/
def unitsPerOne : Nat := Nat.pow 2 1074

/-- Where the finite floats end, in units: `2 ^ 1024`. -/
def overflowUnits : Nat := Nat.pow 2 2098

/-- The whole number nearest to a quotient; a tie goes to the even one. -/
def roundHalfEven (num den : Nat) : Nat :=
  let q := num / den
  let r := num % den
  if 2 * r < den then q else if den < 2 * r then q + 1 else q + q % 2

/-- The distance between neighbouring floats at a magnitude of so many units. -/
def spacing (units : Nat) : Nat := Nat.pow 2 (units.log2 - 52)

/-- The float magnitude nearest to `num / den`, in units; none past the largest float. -/
def nearest? (num den : Nat) : Option Nat :=
  let scaled := num * unitsPerOne
  let gap := spacing (scaled / den)
  let units := roundHalfEven scaled (den * gap) * gap
  if units < overflowUnits then some units else none

/--
The float magnitude nearest to `digits * 10 ^ exponent`. Exponents that settle the answer
by themselves are told apart first, so that no power of ten is larger than it need be.
-/
def nearestDecimal? (digits : Nat) (exponent : Int) : Option Nat :=
  if digits = 0 then some 0
  else match exponent with
    | .ofNat e => if 310 < e then none else nearest? (digits * Nat.pow 10 e) 1
    | .negSucc e => if digits.log2 + 400 < e then some 0 else nearest? digits (Nat.pow 10 (e + 1))

namespace Binary64

/-- The integer that a float is, if it is one. -/
def toInt? (x : Binary64) : Option Int :=
  if x.magnitude % unitsPerOne = 0 then
    let n : Int := x.magnitude / unitsPerOne
    some (if x.negative then -n else n)
  else none

/-- The float is zero, of either sign. -/
def isZero (x : Binary64) : Bool := x.magnitude == 0

/-- The whole number nearest to the magnitude; a half goes up. -/
def roundHalfUp (x : Binary64) : Nat := (2 * x.magnitude + unitsPerOne) / (2 * unitsPerOne)

end Binary64

end SiteSearch.Decimal
