import SiteSearch.Settings.Value

/-!
# Tables in TOML

Where the entries of a file go. A table may be opened by a header, or come into being because a
header or keys joined by points lead through it; an array of tables gets one more table with each
header of its own. No place can be taken twice. A header may still open a table that others only
led through; keys may lead through such a table too, but through no table that was opened.
-/

namespace SiteSearch.Settings.Toml

/-- A step to what a table or an array of tables holds. -/
inductive Part where
  | name (name : String)
  | element (index : Nat)
  deriving DecidableEq, Repr

/-- A place, given by the parts that lead to it from the table that all is in. -/
abbrev Place := List Part

/-- How a table came into being. -/
inductive Origin where
  /-- A header opened it. -/
  | opened
  /-- A header led through it. -/
  | passed
  /-- Keys joined by points led through it. -/
  | pointed
  deriving DecidableEq, Repr

/-- What stands at a place. -/
inductive Node where
  | value (value : Value)
  | table (origin : Origin)
  /-- An array of tables. -/
  | tables (count : Nat)
  deriving DecidableEq, Repr

/-- What stands where; the table that all is in and the elements of arrays have no entry. -/
abbrev Nodes := List (Place × Node)

namespace Nodes

def get? (nodes : Nodes) (place : Place) : Option Node := nodes.lookup place

/-- A node in the place of what was there. -/
def put (place : Place) (node : Node) : Nodes → Nodes
  | [] => [(place, node)]
  | (p, n) :: rest => if p = place then (place, node) :: rest else (p, n) :: put place node rest

/-- Goes from a table to the one that keys lead to, and makes the tables that are missing on the
way. Of an array it goes to the last table. -/
def follow? (missing : Origin) (place : Place) : (keys : List String) → Nodes →
    Option (Place × Nodes)
  | [], nodes => some (place, nodes)
  | key :: keys, nodes =>
    let next := place ++ [.name key]
    match nodes.get? next with
    | none => follow? missing next keys (nodes.put next (.table missing))
    | some (.value _) => none
    | some (.tables count) => follow? missing (next ++ [.element (count - 1)]) keys nodes
    | some (.table origin) =>
      if missing = .pointed ∧ origin = .opened then none else follow? missing next keys nodes

/-- A value under the last key in the table that the other keys lead to. If there are others, this
must be a table that keys led to before. -/
def addValue? (place : Place) (keys : List String) (value : Value) (nodes : Nodes) :
    Option Nodes :=
  match keys.getLast? with
  | none => none
  | some key =>
    match follow? .pointed place keys.dropLast nodes with
    | none => none
    | some (table, nodes) =>
      let isPointed := nodes.get? table == some (.table .pointed)
      let last := table ++ [.name key]
      if isPointed = keys.dropLast.isEmpty ∨ (nodes.get? last).isSome then none
      else some (nodes.put last (.value value))

/-- Opens a table, and tells its place. -/
def openTable? (keys : List String) (nodes : Nodes) : Option (Place × Nodes) :=
  match keys.getLast? with
  | none => none
  | some key =>
    match follow? .passed [] keys.dropLast nodes with
    | none => none
    | some (table, nodes) =>
      let last := table ++ [.name key]
      match nodes.get? last with
      | none | some (.table .passed) => some (last, nodes.put last (.table .opened))
      | some _ => none

/-- Opens one more table of an array, and tells its place. -/
def openElement? (keys : List String) (nodes : Nodes) : Option (Place × Nodes) :=
  match keys.getLast? with
  | none => none
  | some key =>
    match follow? .passed [] keys.dropLast nodes with
    | none => none
    | some (table, nodes) =>
      let last := table ++ [.name key]
      match nodes.get? last with
      | none => some (last ++ [.element 0], nodes.put last (.tables 1))
      | some (.tables count) =>
        some (last ++ [.element count], nodes.put last (.tables (count + 1)))
      | some _ => none

/-- Something stands below a name. -/
def hasBelow (nodes : Nodes) (name : String) : Bool :=
  nodes.any fun
    | (.name other :: _ :: _, _) => other == name
    | _ => false

/-- What stands under the names of the table that all is in. -/
def entries (nodes : Nodes) : List (String × Value) :=
  nodes.filterMap fun
    | ([.name name], .value value) => some (name, value)
    | ([.name name], .table _) => some (name, .table (nodes.hasBelow name))
    | ([.name name], .tables _) => some (name, .sequence)
    | _ => none

end Nodes

end SiteSearch.Settings.Toml
