import SiteSearch.Text.Shown
import SiteSearch.Json.Basic

/-!
# Inspecting JSON

For logs, a value is written with the kind of each part before it, and the members of objects
in ascending order of name.
-/

namespace SiteSearch.Json

open SiteSearch.Text

mutual

/-- The value with the members of every object in ascending order of name, each name once. -/
def ordered : Json → Json
  | .array elements => .array (orderedElements elements)
  | .object members => .object (Members.sorted (orderedMembers members))
  | json => json

def orderedElements : List Json → List Json
  | [] => []
  | e :: es => ordered e :: orderedElements es

def orderedMembers : List (String × Json) → List (String × Json)
  | [] => []
  | (name, value) :: ms => (name, ordered value) :: orderedMembers ms

end

mutual

/-- A value whose members are in order, for logs. -/
def inspectOrdered : Json → String
  | .null => "Null"
  | .bool b => "Bool(" ++ (if b then "true" else "false") ++ ")"
  | .number n => "Number(" ++ n.text ++ ")"
  | .string s => "String(" ++ shown s ++ ")"
  | .array [] => "Array []"
  | .array (e :: es) => "Array [" ++ inspectOrdered e ++ inspectElements es ++ "]"
  | .object [] => "Object \x7b\x7d"
  | .object ((n, v) :: ms) =>
    "Object \x7b" ++ shown n ++ ": " ++ inspectOrdered v ++ inspectMembers ms ++ "\x7d"

/-- Further elements, each after a comma. -/
def inspectElements : List Json → String
  | [] => ""
  | e :: es => ", " ++ inspectOrdered e ++ inspectElements es

/-- Further members, each after a comma. -/
def inspectMembers : List (String × Json) → String
  | [] => ""
  | (n, v) :: ms => ", " ++ shown n ++ ": " ++ inspectOrdered v ++ inspectMembers ms

end

/-- A value for logs. -/
def inspect (json : Json) : String := inspectOrdered (ordered json)

end SiteSearch.Json
