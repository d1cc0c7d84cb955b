import SiteSearch.Text.Ascii
import SiteSearch.Decimal.Binary64

/-!
# Float literals

The free form of a float in text: an optional sign, then either a name for an infinity or
for what is not a number, or digits with an optional point among or around them and an
optional exponent. The value is the float nearest to the number written.
-/

namespace SiteSearch.Decimal

open SiteSearch.Text

/-- A 64-bit float, finite or not. -/
inductive Extended where
  | finite (x : Binary64)
  | infinity (negative : Bool)
  | nan
  deriving DecidableEq, Repr

/-- An exponent: `e` in either case, an optional sign, and one digit or more. -/
def readExponent? : List Char → Option Int
  | [] => some 0
  | c :: cs =>
    if c.toLower ≠ 'e' then none
    else match cs with
      | '-' :: ds => natural? ds |>.map fun n => -(n : Int)
      | '+' :: ds => natural? ds |>.map fun n => (n : Int)
      | ds => natural? ds |>.map fun n => (n : Int)
where
  natural? (ds : List Char) : Option Nat :=
    if ds ≠ [] ∧ ds.all Char.isDigit then some (digitsValue ds) else none

/-- The magnitude of a number with a point and an exponent. -/
def readMagnitude? (cs : List Char) : Option (Nat × Int) :=
  let whole := cs.takeWhile Char.isDigit
  let rest := cs.dropWhile Char.isDigit
  let (fraction, tail) := match rest with
    | '.' :: ds => (ds.takeWhile Char.isDigit, ds.dropWhile Char.isDigit)
    | _ => ([], rest)
  if whole.isEmpty && fraction.isEmpty then none
  else (readExponent? tail).map fun e => (digitsValue (whole ++ fraction), e - fraction.length)

/-- The float that a literal without its sign denotes. -/
def readUnsigned? (negative : Bool) (cs : List Char) : Option Extended :=
  match asciiLower cs with
  | ['i', 'n', 'f'] => some (.infinity negative)
  | ['i', 'n', 'f', 'i', 'n', 'i', 't', 'y'] => some (.infinity negative)
  | ['n', 'a', 'n'] => some .nan
  | _ => (readMagnitude? cs).map fun (digits, exponent) =>
    match nearestDecimal? digits exponent with
    | some units => .finite ⟨negative, units⟩
    | none => .infinity negative

def readFloat? (s : String) : Option Extended :=
  match s.toList with
  | '-' :: cs => readUnsigned? true cs
  | '+' :: cs => readUnsigned? false cs
  | cs => readUnsigned? false cs

end SiteSearch.Decimal
