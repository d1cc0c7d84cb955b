import SiteSearch.Decimal.Binary64

/-!
# The shortest decimal of a float

A float stands for the interval of numbers that round to it. Its shortest decimal is the one
with the fewest digits in that interval, and of those the one nearest to the float. On the
grid of decimals with a given number of digits only the two neighbours of the float can be
the answer, so the grids are tried from the coarsest to the finest, with exact arithmetic.
Seventeen digits always suffice. Where a float lies half-way between its two neighbours, the
format that prints it chooses.
-/

namespace SiteSearch.Decimal

/-- Which of two equally near decimals is taken. -/
inductive Tie where
  /-- The one whose last digit is even. -/
  | toEven
  /-- The larger one. -/
  | up
  deriving DecidableEq, Repr

/-- A positive decimal: `digits * 10 ^ exponent`. -/
structure Scaled where
  digits : Nat
  exponent : Int
  deriving DecidableEq, Repr

/-- The same decimal without zeros at the end of its digits; `fuel` bounds their number. -/
def Scaled.stripZeros : (fuel : Nat) → Scaled → Scaled
  | 0, s => s
  | fuel + 1, s =>
    if s.digits % 10 = 0 then stripZeros fuel ⟨s.digits / 10, s.exponent + 1⟩ else s

/-- The exponent of the leading digit of a positive float of so many units. -/
def leadingExponent (units : Nat) : Int :=
  if unitsPerOne ≤ units then
    ((Nat.toDigits 10 (units / unitsPerOne)).length : Int) - 1
  else
    match (List.range 325).find? fun k => unitsPerOne ≤ units * Nat.pow 10 k with
    | some k => -(k : Int)
    | none => -324

/--
The better of the float's two neighbours on the grid of multiples of `10 ^ exponent`, if one
of them rounds to the float. The ends of the interval count when the float's own last binary
digit is even; below a power of two the interval is half as wide.
-/
def onGrid? (tie : Tie) (units : Nat) (exponent : Int) : Option Scaled :=
  let gap := spacing units
  let up : Nat := Nat.pow 10 (-exponent).toNat
  let den : Nat := unitsPerOne * Nat.pow 10 exponent.toNat
  let num := units * up
  let closed := units / gap % 2 == 0
  let above := 2 * gap * up
  let below := if units == Nat.pow 2 units.log2 && 1 < gap then gap * up else above
  let floor := num / den
  let rest := num % den
  let inside (distance reach : Nat) : Bool :=
    4 * distance < reach || (closed && 4 * distance == reach)
  let low := 0 < floor && inside rest below
  let high := inside (den - rest) above
  let down := 2 * rest < den || (2 * rest == den && tie == .toEven && floor % 2 == 0)
  if low && (!high || down) then some ⟨floor, exponent⟩
  else if high then some ⟨floor + 1, exponent⟩
  else none

/-- The shortest decimal that reads back as a positive float of so many units. -/
def shortest (tie : Tie) (units : Nat) : Scaled :=
  let lead := leadingExponent units
  match (List.range 17).findSome? fun (n : Nat) => onGrid? tie units (lead - n) with
  | some s => s.stripZeros 400
  | none => ⟨units, -1074⟩

end SiteSearch.Decimal
