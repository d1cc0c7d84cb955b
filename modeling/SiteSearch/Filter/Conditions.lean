import SiteSearch.Filter.Quoted

/-!
# Reading filters back

A filter is read from left to right. Outside quotes ` AND ` separates conditions; a quote
opens a value, in which a backslash makes the next character a plain one and the next quote
without a backslash ends the value. A filter that ends within a value is malformed.
-/

namespace SiteSearch.Filter

/-- Where a reader of a filter stands. -/
inductive Quoting where
  | outside
  | inside
  /-- Just after a backslash inside quotes. -/
  | escaped
  deriving DecidableEq, Repr

/-- Where a reader stands after one more character. -/
def Quoting.next : Quoting → Char → Quoting
  | .outside, c => if c = '"' then .inside else .outside
  | .inside, c => if c = '"' then .outside else if c = '\\' then .escaped else .inside
  | .escaped, _ => .inside

/-- What separates conditions. -/
def separator : List Char := [' ', 'A', 'N', 'D', ' ']

/-- A character put before the first of some texts. -/
def consFirst (c : Char) : List (List Char) → List (List Char)
  | [] => [[c]]
  | part :: parts => (c :: part) :: parts

/-- The conditions in a text whose first `passed` characters belong to a separator. -/
def conditionsFrom? : Quoting → (passed : Nat) → List Char → Option (List (List Char))
  | .outside, _, [] => some [[]]
  | _, _, [] => none
  | quoting, passed + 1, _ :: cs => conditionsFrom? quoting passed cs
  | .outside, 0, c :: cs =>
    if separator.isPrefixOf (c :: cs) then
      (conditionsFrom? .outside (separator.length - 1) cs).map ([] :: ·)
    else (conditionsFrom? (Quoting.outside.next c) 0 cs).map (consFirst c)
  | quoting, 0, c :: cs => (conditionsFrom? (quoting.next c) 0 cs).map (consFirst c)

/-- The conditions of a filter; none if it ends within a value. -/
def conditions? (filter : String) : Option (List String) :=
  (conditionsFrom? .outside 0 filter.toList).map (·.map String.ofList)

end SiteSearch.Filter
