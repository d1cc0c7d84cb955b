import SiteSearch.Text.Integer
import SiteSearch.Text.LetterCase
import SiteSearch.Text.Shown
import SiteSearch.Decimal.Layout
import SiteSearch.Decimal.Literal

/-!
# Values of settings

The sources of settings give values of several kinds, and each field takes any kind that it
can make sense of: switches may be words or numbers, numbers may be text, and text may be any
scalar. Of an array or a table only its kind matters, for no field takes one.
-/

namespace SiteSearch.Settings

open SiteSearch.Text SiteSearch.Decimal

/-- A value that a source gives. -/
inductive Value where
  /-- Nothing, given on purpose. -/
  | unit
  | boolean (value : Bool)
  | integer (value : Int64)
  | float (value : Extended)
  | text (value : String)
  | sequence
  | table (hasEntries : Bool)
  deriving DecidableEq, Repr

/-- A value that a field cannot take. -/
inductive Unfit where
  | value (value : Value)
  /-- A number beyond the width of the field. -/
  | wide (value : UInt64)
  deriving DecidableEq, Repr

/-- A float in full, however long. -/
def floatText : Extended → String
  | .finite x => .ofList (Layout.plain.write x)
  | .infinity false => "inf"
  | .infinity true => "-inf"
  | .nan => "NaN"

def boolText (b : Bool) : String := if b then "true" else "false"

def Value.describe : Value → String
  | .unit => "unit value"
  | .boolean b => "boolean `" ++ boolText b ++ "`"
  | .integer n => "64-bit integer `" ++ toString n.toInt ++ "`"
  | .float x => "floating point `" ++ floatText x ++ "`"
  | .text s => "string " ++ shown s
  | .sequence => "sequence"
  | .table _ => "map"

def Unfit.describe : Unfit → String
  | .value v => v.describe
  | .wide n => "64-bit unsigned integer `" ++ toString n.toNat ++ "`"

/-- Why a field cannot take a value. -/
structure Mismatch where
  found : Unfit
  /-- What would have done. -/
  expected : String
  /-- The source of the value is told with the complaint. -/
  tellsOrigin : Bool
  deriving DecidableEq, Repr

namespace Value

/-- The complaint that a value is of a kind that will not do. Tables have no single source. -/
def mismatch {α : Type} (v : Value) (expected : String) : Except Mismatch α :=
  let isTable := match v with
    | .table _ => true
    | _ => false
  .error ⟨.value v, expected, !isTable⟩

def toText : Value → Except Mismatch String
  | .text s => .ok s
  | .boolean b => .ok (boolText b)
  | .integer n => .ok (toString n.toInt)
  | .float x => .ok (floatText x)
  | v => v.mismatch "a string"

/-- What a number says of a switch: all but zero switch it on. -/
def floatIsOn : Extended → Bool
  | .finite x => !x.isZero
  | _ => true

def toSwitch : Value → Except Mismatch Bool
  | .boolean b => .ok b
  | .integer n => .ok (n != 0)
  | .float x => .ok (floatIsOn x)
  | .text s =>
    let word := lower s
    if word ∈ ["1", "true", "on", "yes"] then .ok true
    else if word ∈ ["0", "false", "off", "no"] then .ok false
    else (Value.text word).mismatch "a boolean"
  | v => v.mismatch "a boolean"

/-- The natural number of 64 bits nearest to a float, a half going up. -/
def clampFloat : Extended → UInt64
  | .finite x => if x.negative then 0 else .ofNat (min x.roundHalfUp 0xffffffffffffffff)
  | .infinity false => .ofNat 0xffffffffffffffff
  | .infinity true => 0
  | .nan => 0

/-- The value of a field that holds a natural number of 64 bits. -/
def toCount : Value → Except Mismatch UInt64
  | .integer n =>
    if 0 ≤ n.toInt then .ok (.ofNat n.toInt.toNat)
    else (Value.integer n).mismatch "an unsigned 64 bit or less integer"
  | .boolean b => .ok (if b then 1 else 0)
  | .float x => .ok (clampFloat x)
  | .text s =>
    let word := lower s
    if word ∈ ["true", "on", "yes"] then .ok 1
    else if word ∈ ["false", "off", "no"] then .ok 0
    else match readUInt64? s with
      | some n => .ok n
      | none => (Value.text s).mismatch "an integer"
  | v => v.mismatch "an integer"

/-- The value of a field that holds a natural number of 32 bits. -/
def toShortCount (v : Value) : Except Mismatch UInt32 :=
  match v.toCount with
  | .error e => .error e
  | .ok n =>
    if n.toNat < 0x100000000 then .ok n.toUInt32
    else .error ⟨.wide n, "an unsigned 32 bit integer", false⟩

end Value

end SiteSearch.Settings
