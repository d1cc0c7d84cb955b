import SiteSearch.Decimal.Shortest

/-!
# Floats as text

A layout says when a float is written out in full and when with an exponent, and whether a
whole number shows a fraction. The digits are always the shortest ones that read back.
-/

namespace SiteSearch.Decimal

/-- How a format writes its floats. -/
structure Layout where
  /-- The exponents of the leading digit that are written out in full. -/
  inFull : Int → Bool
  /-- A number written in full always has a fraction, if only `.0`. -/
  wholeFraction : Bool
  /-- Which of two equally short and near decimals is written. -/
  tie : Tie

/-- Digits with the point after the first `point` of them, zeros filling the gaps. -/
def placePoint (wholeFraction : Bool) (digits : List Char) (point : Int) : List Char :=
  let size : Int := digits.length
  if point ≤ 0 then '0' :: '.' :: (List.replicate (-point).toNat '0' ++ digits)
  else if point < size then digits.take point.toNat ++ '.' :: digits.drop point.toNat
  else digits ++ List.replicate (point - size).toNat '0' ++
    (if wholeFraction then ['.', '0'] else [])

/-- One digit, a fraction if there are more, and a signed exponent. -/
def withExponent (digits : List Char) (lead : Int) : List Char :=
  let fraction := match digits.drop 1 with
    | [] => []
    | rest => '.' :: rest
  let sign := if lead < 0 then '-' else '+'
  digits.take 1 ++ fraction ++ 'e' :: sign :: Nat.toDigits 10 lead.natAbs

/-- The text of a float in a layout. -/
def Layout.write (layout : Layout) (x : Binary64) : List Char :=
  let magnitude :=
    if x.magnitude = 0 then placePoint layout.wholeFraction ['0'] 1
    else
      let s := shortest layout.tie x.magnitude
      let digits := Nat.toDigits 10 s.digits
      let lead := s.exponent + digits.length - 1
      if layout.inFull lead then placePoint layout.wholeFraction digits (lead + 1)
      else withExponent digits lead
  if x.negative then '-' :: magnitude else magnitude

/-- Written out in full at every size, and whole numbers without a fraction. -/
def Layout.plain : Layout := ⟨fun _ => true, false, .up⟩

end SiteSearch.Decimal
