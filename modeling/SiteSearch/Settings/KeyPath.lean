import SiteSearch.Text.Integer

/-!
# Paths of keys

A key of a source may be a path: a name, and steps from the value of that name into its parts.
A point and a name step into a member of a table, an index between brackets into an element of
a sequence. A key that cannot be read as a path is a name all the same.
-/

namespace SiteSearch.Settings

open SiteSearch.Text

/-- A step from a value into one of its parts. -/
inductive Step where
  | member (name : String)
  | element (index : Int64)
  deriving DecidableEq, Repr

/-- A key: a name, and the steps from its value. -/
structure KeyPath where
  root : String
  steps : List Step
  deriving DecidableEq, Repr

namespace KeyPath

def isNameChar (c : Char) : Bool := c.isAlphanum || c == '_' || c == '-' || c == ' '

/-- A blank beside an index. -/
def isSpace (c : Char) : Bool := c == ' ' || c == '\t'

/-- The index between brackets: an integer of 64 bits, with no sign but a minus. -/
def readIndex? (cs : List Char) : Option Int64 :=
  let digits := ((cs.dropWhile isSpace).reverse.dropWhile isSpace).reverse
  if digits.head? = some '+' then none else readInt? digits >>= fitInt64?

/-- The steps that a text spells. -/
def readSteps? (cs : List Char) : Option (List Step) :=
  match cs with
  | [] => some []
  | '.' :: rest =>
    match rest.takeWhile isNameChar with
    | [] => none
    | name => (readSteps? (rest.dropWhile isNameChar)).map (.member (.ofList name) :: ·)
  | '[' :: rest => do
    let index ← readIndex? (rest.takeWhile (· != ']'))
    if rest.contains ']' then
      return .element index :: (← readSteps? ((rest.dropWhile (· != ']')).drop 1))
    else none
  | _ => none
termination_by cs.length
decreasing_by
  · have := (List.dropWhile_suffix isNameChar (l := rest)).length_le
    simp only [List.length_cons]
    omega
  · have := (List.dropWhile_suffix (· != ']') (l := rest)).length_le
    simp only [List.length_cons, List.length_drop]
    omega

/-- The path that a text spells. -/
def read? (s : String) : Option KeyPath :=
  match s.toList.takeWhile isNameChar with
  | [] => none
  | root => (readSteps? (s.toList.dropWhile isNameChar)).map (⟨.ofList root, ·⟩)

/-- The path of a key, which is a name if it spells no path. -/
def ofKey (key : String) : KeyPath := (read? key).getD ⟨key, []⟩

end KeyPath

end SiteSearch.Settings
