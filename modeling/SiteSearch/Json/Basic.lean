import SiteSearch.Text.Integer
import SiteSearch.Decimal.Layout

/-!
# JSON values

A number is an integer when it was written as one and fits 64 bits, with or without a sign,
and a float otherwise; the two are never confused, so `1` and `1.0` differ. The members of
an object are kept as a list. Objects that were read, or that come from outside, have their
members in ascending order of name, each name once; objects that the library builds have the
order in which they are written.
-/

namespace SiteSearch

open SiteSearch.Decimal

inductive Number where
  | integer (value : Int)
  | float (value : Binary64)
  deriving DecidableEq, Repr

inductive Json where
  | null
  | bool (value : Bool)
  | number (value : Number)
  | string (value : String)
  | array (elements : List Json)
  | object (members : List (String × Json))
  deriving Inhabited

namespace Number

/-- Floats are written out in full from `0.00001` up to sixteen digits, and show a fraction. -/
def layout : Layout := ⟨fun e => -5 ≤ e && e ≤ 15, true, .toEven⟩

def text : Number → String
  | .integer n => toString n
  | .float x => .ofList (layout.write x)

/-- The number as a signed word of 64 bits: integers that fit one, and no float. -/
def toInt64? : Number → Option Int64
  | .integer n => Text.fitInt64? n
  | .float _ => none

/-- The number as an unsigned word of 64 bits: integers that fit one, and no float. -/
def toUInt64? : Number → Option UInt64
  | .integer n => if 0 ≤ n ∧ n < 0x10000000000000000 then some (.ofNat n.toNat) else none
  | .float _ => none

end Number

namespace Json

abbrev Members := List (String × Json)

/-- The value under a name. -/
def Members.get? (members : Members) (name : String) : Option Json := members.lookup name

/-- A member put in its place by name; a value already there is replaced. -/
def Members.insert (name : String) (value : Json) : Members → Members
  | [] => [(name, value)]
  | (n, v) :: rest =>
    if name < n then (name, value) :: (n, v) :: rest
    else if name = n then (name, value) :: rest
    else (n, v) :: Members.insert name value rest

/-- Members in ascending order of name; of several under one name the last one stays. -/
def Members.sorted (members : Members) : Members :=
  members.foldl (fun sorted member => sorted.insert member.1 member.2) []

def ofInt (n : Int) : Json := .number (.integer n)

def ofNat (n : Nat) : Json := .number (.integer n)

def ofStrings (texts : List String) : Json := .array (texts.map .string)

/-- The members of an object; other values have none. -/
def members : Json → Members
  | .object members => members
  | _ => []

/-- The member of an object under a name. -/
def get? (json : Json) (name : String) : Option Json := json.members.get? name

def elements? : Json → Option (List Json)
  | .array elements => some elements
  | _ => none

def text? : Json → Option String
  | .string s => some s
  | _ => none

/-- The value as an unsigned word of 64 bits. -/
def toUInt64? : Json → Option UInt64
  | .number n => n.toUInt64?
  | _ => none

end Json

end SiteSearch
