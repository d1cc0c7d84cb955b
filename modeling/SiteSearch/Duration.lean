/-!
# Durations

A span of time, exact to the nanosecond. In text it is a number of the largest unit, from
seconds down, that it holds at least one of.
-/

namespace SiteSearch

/-- A span of time. -/
structure Duration where
  nanoseconds : Nat
  deriving DecidableEq, Repr

namespace Duration

/-- So many seconds. -/
def ofSeconds (n : Nat) : Duration := ⟨n * 1000000000⟩

def seconds (d : Duration) : Nat := d.nanoseconds / 1000000000

def milliseconds (d : Duration) : Nat := d.nanoseconds / 1000000

/-- A rest below `10 ^ places` as the digits after a point, without zeros at their end. -/
def fraction (places rest : Nat) : List Char :=
  let digits := Nat.toDigits 10 rest
  let padded := List.replicate (places - digits.length) '0' ++ digits
  match (padded.reverse.dropWhile (· == '0')).reverse with
  | [] => []
  | kept => '.' :: kept

/-- The number of units of `10 ^ places` nanoseconds. -/
def inUnits (d : Duration) (places : Nat) (unit : String) : String :=
  toString (d.nanoseconds / Nat.pow 10 places) ++
    .ofList (fraction places (d.nanoseconds % Nat.pow 10 places)) ++ unit

def text (d : Duration) : String :=
  if 1000000000 ≤ d.nanoseconds then d.inUnits 9 "s"
  else if 1000000 ≤ d.nanoseconds then d.inUnits 6 "ms"
  else if 1000 ≤ d.nanoseconds then d.inUnits 3 "µs"
  else toString d.nanoseconds ++ "ns"

end Duration

end SiteSearch
