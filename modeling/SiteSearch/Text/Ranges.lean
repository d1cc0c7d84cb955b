/-!
# Classes of characters

A class of characters is kept as the inclusive ranges of its code points, in ascending order.
The tables of this library are those of Unicode 17.
-/

namespace SiteSearch.Text

/-- Inclusive ranges of code points, in ascending order. -/
abbrev Ranges := Array (Nat × Nat)

/-- The character lies in one of the ranges. -/
def Ranges.has (ranges : Ranges) (c : Char) : Bool :=
  ranges.any fun (low, high) => low ≤ c.toNat && c.toNat ≤ high

end SiteSearch.Text
