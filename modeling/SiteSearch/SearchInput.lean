import SiteSearch.Decimal.Literal
import SiteSearch.Options
import SiteSearch.Json.Decode
import SiteSearch.Json.Reader

/-!
# Search input

What a form sends: a query and the options picked beside it. Forms are loose with types, so
numbers may arrive as text and switches as numbers. What cannot be read counts as not given,
but texts must be texts.
-/

namespace SiteSearch

open SiteSearch.Text SiteSearch.Decimal

/-- A value of a form. -/
inductive Loose where
  | flag (value : Bool)
  | integer (value : Int64)
  | float (value : Binary64)
  | text (value : String)
  /-- An array or an object. -/
  | other
  deriving DecidableEq, Repr

namespace Loose

/-- The value of a form that JSON other than null holds. An integer beyond 64 bits with a sign
is kept as the nearest float. -/
def ofJson : Json → Loose
  | .bool b => .flag b
  | .number (.integer n) =>
    match fitInt64? n with
    | some n => .integer n
    | none => .float ⟨n < 0, (nearest? n.natAbs 1).getD 0⟩
  | .number (.float x) => .float x
  | .string s => .text s
  | _ => .other

/-- The integer that a float is, if it is one and smaller than `2 ^ 63` in magnitude. -/
def wholeNumber? (x : Binary64) : Option Int64 :=
  (x.toInt?.filter fun n => n.natAbs < 0x8000000000000000).map .ofInt

/-- The integer that a value denotes. Text may be an integer literal or a float literal, with
blanks around it. -/
def toInt? : Loose → Option Int64
  | .integer n => some n
  | .float x => wholeNumber? x
  | .text s =>
    let s := trimBlanks s
    (readInt64? s).or <| match readFloat? s with
      | some (.finite x) => wholeNumber? x
      | _ => none
  | .flag _ | .other => none

/-- Whether a value switches something on. -/
def isOn : Loose → Bool
  | .flag b => b
  | .integer n => n == 1
  | .float x => x.toInt? == some 1
  | .text s => trimBlanks s == "1" || trimBlanks s == "true"
  | .other => false

end Loose

/-- What a form sends. -/
structure SearchInput where
  query : String := ""
  limit : Option Loose := none
  typeFilter : Option String := none
  doctype : Option String := none
  year : Option Loose := none
  sort : Option String := none
  exactMatch : Option Loose := none
  deriving DecidableEq, Repr

/-- Why an input cannot be read. -/
inductive InputError where
  | notJson
  | shape (error : Json.ShapeError)
  deriving DecidableEq, Repr

namespace SearchInput

/-- A loose value, or null. -/
def decodeLoose (json : Json) : Except Json.ShapeError (Option Loose) :=
  Json.decodeOptional (fun json => .ok (Loose.ofJson json)) json

/-- A text, or null. -/
def decodeText (json : Json) : Except Json.ShapeError (Option String) :=
  Json.decodeOptional Json.decodeString json

/-- The fields by name, in their order; each may be left out. -/
def fields : List (Json.Field SearchInput) := [
  .of "query" Json.decodeString (fun v input => { input with query := v }) false,
  .of "limit" decodeLoose (fun v input => { input with limit := v }) false,
  .of "type" decodeText (fun v input => { input with typeFilter := v }) false,
  .of "doctype" decodeText (fun v input => { input with doctype := v }) false,
  .of "year" decodeLoose (fun v input => { input with year := v }) false,
  .of "sort" decodeText (fun v input => { input with sort := v }) false,
  .of "exactMatch" decodeLoose (fun v input => { input with exactMatch := v }) false]

def shape : Json.RecordShape SearchInput := ⟨"SearchInput", fields, {}⟩

def ofJson (json : Json) : Except InputError SearchInput := (shape.decode json).mapError .shape

/-- An input from JSON text. In text a field must not be repeated, and an array must end with
the last field. -/
def ofText (text : String) : Except InputError SearchInput :=
  match Json.readWanted? (fun name => shape.fields.any (·.name == name)) text with
  | none => .error .notJson
  | some json =>
    match shape.decode json with
    | .error (.invalidLength _ _) => .error .notJson
    | result => result.mapError .shape

/-- The options of an input; `defaultLimit` counts when it gives no limit. -/
def toOptions (input : SearchInput) (defaultLimit : UInt32) : SearchOptions where
  typeFilter := input.typeFilter
  doctype := input.doctype
  year := (input.year.bind Loose.toInt?).bind fun y => fitInt32? y.toInt
  sort := (input.sort.bind SortOrder.ofName?).getD .standard
  exact := input.exactMatch.any Loose.isOn
  limit := (input.limit.bind Loose.toInt?).getD (.ofNat defaultLimit.toNat)

end SearchInput

end SiteSearch
