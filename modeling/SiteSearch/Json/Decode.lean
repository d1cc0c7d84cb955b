import SiteSearch.Text.Shown
import SiteSearch.Json.Basic

/-!
# Values of a given shape

Reads the scalars and records that the library takes from JSON. A record is an object, whose
members are looked up by name and whose unknown members are passed over, or an array with the
fields in their order. What does not fit is refused with the cause, and the first cause in
the order of the members wins.
-/

namespace SiteSearch.Json

open SiteSearch.Text SiteSearch.Decimal

/-- What stood where something else was due. -/
inductive Found where
  | null
  | boolean (value : Bool)
  | integer (value : Int)
  | float (value : Binary64)
  | string (value : String)
  | sequence
  | map
  deriving DecidableEq, Repr

/-- Why a value does not have a shape. -/
inductive ShapeError where
  | invalidType (found : Found) (expected : String)
  | invalidValue (found : Found) (expected : String)
  | missingField (name : String)
  | duplicateField (name : String)
  | invalidLength (length : Nat) (expected : String)
  deriving DecidableEq, Repr

/-- What kind of thing a value is, and the value itself for a scalar. -/
def found : Json → Found
  | .null => .null
  | .bool b => .boolean b
  | .number (.integer n) => .integer n
  | .number (.float x) => .float x
  | .string s => .string s
  | .array _ => .sequence
  | .object _ => .map

/-- What was found, in words. -/
def Found.describe : Found → String
  | .null => "null"
  | .boolean b => "boolean `" ++ (if b then "true" else "false") ++ "`"
  | .integer n => "integer `" ++ toString n ++ "`"
  | .float x => "floating point `" ++ (Number.float x).text ++ "`"
  | .string s => "string " ++ shown s
  | .sequence => "sequence"
  | .map => "map"

/-- The cause in words. -/
def ShapeError.message : ShapeError → String
  | .invalidType found expected => "invalid type: " ++ found.describe ++ ", expected " ++ expected
  | .invalidValue found expected =>
    "invalid value: " ++ found.describe ++ ", expected " ++ expected
  | .missingField name => "missing field `" ++ name ++ "`"
  | .duplicateField name => "duplicate field `" ++ name ++ "`"
  | .invalidLength length expected =>
    "invalid length " ++ toString length ++ ", expected " ++ expected

/-! ## Scalars -/

/-- A value of another type than the one that was due. -/
def unexpected {α : Type} (json : Json) (expected : String) : Except ShapeError α :=
  .error (.invalidType json.found expected)

def decodeString : Json → Except ShapeError String
  | .string s => .ok s
  | json => json.unexpected "a string"

def decodeBool : Json → Except ShapeError Bool
  | .bool b => .ok b
  | json => json.unexpected "a boolean"

/-- A natural number below a bound, which `expected` names. -/
def decodeBelow (bound : Nat) (expected : String) : Json → Except ShapeError Nat
  | .number (.integer n) =>
    if 0 ≤ n ∧ n < bound then .ok n.toNat else .error (.invalidValue (.integer n) expected)
  | json => json.unexpected expected

/-- An unsigned word of 32 bits. -/
def decodeUInt32 (json : Json) : Except ShapeError UInt32 :=
  (decodeBelow 0x100000000 "u32" json).map .ofNat

/-- An unsigned word of 64 bits. -/
def decodeUInt64 (json : Json) : Except ShapeError UInt64 :=
  (decodeBelow 0x10000000000000000 "u64" json).map .ofNat

/-- Null, or a value of a given shape. -/
def decodeOptional {α : Type} (decode : Json → Except ShapeError α) :
    Json → Except ShapeError (Option α)
  | .null => .ok none
  | json => (decode json).map some

/-! ## Records -/

/-- A field of a record. -/
structure Field (α : Type) where
  name : String
  /-- Takes the field's value into a record. -/
  set : Json → α → Except ShapeError α
  /-- The record has no value for the field unless one is given. -/
  required : Bool

/-- A field that is given a value of some shape. -/
def Field.of {α β : Type} (name : String) (decode : Json → Except ShapeError β)
    (put : β → α → α) (required : Bool) : Field α :=
  ⟨name, fun json record => (decode json).map (put · record), required⟩

/-- A record type. -/
structure RecordShape (α : Type) where
  /-- What a message calls the type. -/
  name : String
  fields : List (Field α)
  /-- The record whose fields have their defaults. -/
  blank : α

namespace RecordShape

variable {α : Type} (shape : RecordShape α)

/-- Members taken one after the other; `seen` holds the names of the fields given so far. -/
def takeMembers : Members → (seen : List String) → α → Except ShapeError (α × List String)
  | [], seen, record => .ok (record, seen)
  | (name, value) :: rest, seen, record =>
    match shape.fields.find? (·.name == name) with
    | none => takeMembers rest seen record
    | some field =>
      if seen.contains name then .error (.duplicateField name)
      else match field.set value record with
        | .error e => .error e
        | .ok record => takeMembers rest (name :: seen) record

/-- Elements taken as the fields in their order; `index` counts those before. -/
def takeElements : List (Field α) → (index : Nat) → List Json → α → Except ShapeError α
  | [], _, [], record => .ok record
  | [], index, _ :: rest, _ =>
    .error (.invalidLength (index + 1 + rest.length) "fewer elements in array")
  | field :: fields, index, [], record =>
    if field.required then
      .error (.invalidLength index
        ("struct " ++ shape.name ++ " with " ++ toString shape.fields.length ++ " elements"))
    else takeElements fields (index + 1) [] record
  | field :: fields, index, value :: rest, record =>
    match field.set value record with
    | .error e => .error e
    | .ok record => takeElements fields (index + 1) rest record

def decode : Json → Except ShapeError α
  | .object members =>
    match shape.takeMembers members [] shape.blank with
    | .error e => .error e
    | .ok (record, seen) =>
      match shape.fields.find? fun field => field.required && !seen.contains field.name with
      | some field => .error (.missingField field.name)
      | none => .ok record
  | .array elements => shape.takeElements shape.fields 0 elements shape.blank
  | json => json.unexpected ("struct " ++ shape.name)

end RecordShape

end SiteSearch.Json
