import SiteSearch.Settings.Toml.Scalar
import SiteSearch.Settings.Toml.Tables
import SiteSearch.Settings.Toml.Text

/-!
# Files in TOML

A file is read a line at a time: a header that opens a table, a key with its value, or nothing but
a comment. A value that is an array or a text may go over several lines. Of arrays and inline tables
it is only asked whether they are well formed, for no setting takes one.
-/

namespace SiteSearch.Settings.Toml

/-- What follows the line, of which nothing is left but blanks and a comment. -/
def endLine? (cs : List Char) : Option (List Char) :=
  let rest := match skipSpaces cs with
    | '#' :: cs => cs.dropWhile fun c => !isControl c
    | cs => cs
  match rest with
  | [] => some []
  | '\n' :: rest => some rest
  | _ => none

/-- What follows blanks, comments and ends of lines, which may stand between the elements of an
array. -/
def skipGaps : (inComment : Bool) → List Char → List Char
  | _, [] => []
  | inComment, c :: cs =>
    if c == '\n' then skipGaps false cs
    else if inComment then if isControl c then c :: cs else skipGaps true cs
    else if isSpace c then skipGaps false cs
    else if c == '#' then skipGaps true cs
    else c :: cs

section Values

variable (value? : List Char → Option (Value × List Char))

/-- An element of an array, or the end of the array. -/
def nextElement? (_ : Unit) (cs : List Char) : Option (Unit × List Char × Bool) :=
  match skipGaps false cs with
  | ']' :: rest => some ((), rest, false)
  | cs =>
    (value? cs).bind fun (_, rest) =>
      match skipGaps false rest with
      | ',' :: rest => some ((), rest, true)
      | ']' :: rest => some ((), rest, false)
      | _ => none

/-- Keys and the value they have. -/
def readBinding? (cs : List Char) : Option ((List String × Value) × List Char) :=
  match readKeys? cs with
  | some (keys, '=' :: rest) => (value? (skipSpaces rest)).map fun (value, rest) =>
      ((keys, value), rest)
  | _ => none

/-- An entry of an inline table. -/
def nextMember? (nodes : Nodes) (cs : List Char) : Option (Nodes × List Char × Bool) := do
  let ((keys, value), rest) ← readBinding? value? cs
  let nodes ← nodes.addValue? [] keys value
  match skipSpaces rest with
  | ',' :: rest => some (nodes, rest, true)
  | '}' :: rest => some (nodes, rest, false)
  | _ => none

end Values

/-- A value in which arrays and inline tables are nested to some depth at most. -/
def readValue? : (depth : Nat) → List Char → Option (Value × List Char)
  | depth + 1, '[' :: cs =>
    (readItems? (nextElement? (readValue? depth)) 0 () cs).map fun (_, rest) => (.sequence, rest)
  | depth + 1, '{' :: cs =>
    match skipSpaces cs with
    | '}' :: rest => some (.table false, rest)
    | cs =>
      (readItems? (nextMember? (readValue? depth)) 0 [] cs).map fun (_, rest) => (.table true, rest)
  | _, cs =>
    match readText? cs with
    | some (text, rest) => some (.text text, rest)
    | none => readScalar? cs

/-- What a file has given so far, and the table that is open. -/
structure Contents where
  nodes : Nodes
  place : Place

/-- A line, or as many as its value takes. -/
def nextLine? (contents : Contents) (cs : List Char) : Option (Contents × List Char × Bool) := do
  match endLine? cs with
  | some rest => some (contents, rest, !rest.isEmpty)
  | none =>
    let (contents, rest) ← match skipSpaces cs with
      | '[' :: '[' :: cs =>
        match readKeys? cs with
        | some (keys, ']' :: ']' :: rest) =>
          (contents.nodes.openElement? keys).map fun (place, nodes) => (⟨nodes, place⟩, rest)
        | _ => none
      | '[' :: cs =>
        match readKeys? cs with
        | some (keys, ']' :: rest) =>
          (contents.nodes.openTable? keys).map fun (place, nodes) => (⟨nodes, place⟩, rest)
        | _ => none
      | cs =>
        (readBinding? (readValue? (depthLimit - 1)) cs).bind fun ((keys, value), rest) =>
          (contents.nodes.addValue? contents.place keys value).map fun nodes =>
            (⟨nodes, contents.place⟩, rest)
    let rest ← endLine? rest
    some (contents, rest, !rest.isEmpty)

/-- The entries of a file, sections as tables; none if the file is not well formed. -/
def read? (text : String) : Option (List (String × Value)) :=
  match joinLineEnds text.toList with
  | [] => some []
  | cs => (readItems? nextLine? 0 ⟨[], []⟩ cs).map fun (contents, _) => contents.nodes.entries

end SiteSearch.Settings.Toml
