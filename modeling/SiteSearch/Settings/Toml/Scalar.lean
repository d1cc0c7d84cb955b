import SiteSearch.Decimal.Literal
import SiteSearch.Settings.Value
import SiteSearch.Text.Integer

/-!
# Numbers, booleans and dates in TOML

A value that is no text, no array and no table is a word of letters, digits and a few signs.
Underscores may stand between the digits of a number. Dates and times count as texts, written the
same way whatever way they were spelled.
-/

namespace SiteSearch.Settings.Toml

open SiteSearch.Text SiteSearch.Decimal

/-- A character of a word. -/
def isWordPart (c : Char) : Bool := c.isAlphanum || ['_', '+', '-', '.', ':'].contains c

/-! ## Numbers -/

/-- Digits without the underscores that may stand between two of them. -/
def dropUnderscores? (isDigit : Char → Bool) : (afterDigit : Bool) → List Char → Option (List Char)
  | _, [] => some []
  | true, '_' :: c :: cs =>
    if isDigit c then (dropUnderscores? isDigit true cs).map (c :: ·) else none
  | _, c :: cs =>
    if c = '_' then none else (dropUnderscores? isDigit (isDigit c) cs).map (c :: ·)

def dropSign : List Char → List Char
  | '-' :: cs => cs
  | '+' :: cs => cs
  | cs => cs

/-- An integer with a sign: no zero stands before another digit. -/
def readDecimal? (cs : List Char) : Option Int64 :=
  let digits := dropSign cs
  if digits.head? = some '0' ∧ 1 < digits.length then none
  else readInt? cs >>= fitInt64?

/-- An integer in another base, as its sign says. -/
def readBased? (base : Nat) (cs : List Char) : Option Int64 :=
  if cs = [] then none
  else
    (cs.foldl (fun n c => n.bind fun n =>
      (hexDigit? c).bind fun d => if d < base then some (base * n + d) else none) (some 0)).bind
      fun n => fitInt64? n

/-- A float: digits before any point or exponent, and digits after a point. One that is too large
is refused, unless it is negative. -/
def readFloat? (cs : List Char) : Option Extended :=
  let digits := dropSign cs
  let whole := digits.takeWhile Char.isDigit
  let rest := digits.dropWhile Char.isDigit
  let wellFormed := match rest with
    | '.' :: c :: _ => c.isDigit
    | c :: _ => c == 'e' || c == 'E'
    | [] => false
  if digits = ['i', 'n', 'f'] then some (.infinity (cs.head? == some '-'))
  else if digits = ['n', 'a', 'n'] then some .nan
  else if whole = [] ∨ (whole.head? = some '0' ∧ 1 < whole.length) ∨ !wellFormed then none
  else match Decimal.readFloat? (.ofList cs) with
    | some (.infinity false) => none
    | x? => x?

/-! ## Dates and times -/

/-- The digits are those of a number below a bound. -/
def isBelow (bound : Nat) (digits : List Char) : Bool := (readDigits? digits).any (· < bound)

def daysOfMonth (year month : Nat) : Nat :=
  if month = 2 then
    if year % 4 = 0 ∧ (year % 100 ≠ 0 ∨ year % 400 = 0) then 29 else 28
  else if month ∈ [4, 6, 9, 11] then 30 else 31

def isDate : List Char → Bool
  | [y₁, y₂, y₃, y₄, '-', m₁, m₂, '-', d₁, d₂] =>
    match readDigits? [y₁, y₂, y₃, y₄], readDigits? [m₁, m₂], readDigits? [d₁, d₂] with
    | some year, some month, some day =>
      0 < month && month ≤ 12 && 0 < day && day ≤ daysOfMonth year month
    | _, _, _ => false
  | _ => false

/-- A fraction of a second as it is written: nine digits at most, and no zero at the end. -/
def fractionText (digits : List Char) : List Char :=
  match ((digits.take 9).reverse.dropWhile (· == '0')).reverse with
  | [] => []
  | digits => '.' :: digits

/-- A time as it is written, and what follows it. A minute may have a leap second. -/
def readTime? : List Char → Option (List Char × List Char)
  | h₁ :: h₂ :: ':' :: m₁ :: m₂ :: ':' :: s₁ :: s₂ :: rest =>
    let clock := [h₁, h₂, ':', m₁, m₂, ':', s₁, s₂]
    if isBelow 24 [h₁, h₂] && isBelow 60 [m₁, m₂] && isBelow 61 [s₁, s₂] then
      match rest with
      | '.' :: rest =>
        match rest.takeWhile Char.isDigit with
        | [] => none
        | digits => some (clock ++ fractionText digits, rest.dropWhile Char.isDigit)
      | rest => some (clock, rest)
    else none
  | _ => none

/-- An offset from universal time as it is written, if there is one. Zero is written with a plus. -/
def readOffset? : List Char → Option (List Char)
  | [] => some []
  | ['Z'] => some ['Z']
  | ['z'] => some ['Z']
  | [sign, h₁, h₂, ':', m₁, m₂] =>
    if (sign == '+' || sign == '-') && isBelow 24 [h₁, h₂] && isBelow 60 [m₁, m₂] then
      let sign := if [h₁, h₂, m₁, m₂].all (· == '0') then '+' else sign
      some [sign, h₁, h₂, ':', m₁, m₂]
    else none
  | _ => none

/-- A date, a time, or both with an offset that may be missing. -/
def readMoment? (cs : List Char) : Option String :=
  let date := cs.take 10
  if isDate date then
    match cs.drop 10 with
    | [] => some (.ofList date)
    | delimiter :: cs =>
      if delimiter == 'T' || delimiter == 't' then do
        let (time, rest) ← readTime? cs
        return .ofList (date ++ 'T' :: time ++ (← readOffset? rest))
      else none
  else match readTime? cs with
    | some (time, []) => some (.ofList time)
    | _ => none

/-! ## Words -/

/-- The value of a word. -/
def readWord? (cs : List Char) : Option Value :=
  match cs with
  | ['t', 'r', 'u', 'e'] => some (.boolean true)
  | ['f', 'a', 'l', 's', 'e'] => some (.boolean false)
  | '0' :: 'x' :: ds =>
    (dropUnderscores? (hexDigit? · |>.isSome) false ds >>= readBased? 16).map .integer
  | '0' :: 'o' :: ds => (dropUnderscores? Char.isDigit false ds >>= readBased? 8).map .integer
  | '0' :: 'b' :: ds => (dropUnderscores? Char.isDigit false ds >>= readBased? 2).map .integer
  | _ =>
    let number? := (dropUnderscores? Char.isDigit false cs).bind fun cs =>
      ((readDecimal? cs).map Value.integer).or ((readFloat? cs).map Value.float)
    number?.or ((readMoment? cs).map Value.text)

/-- The value of the word at the front, and what follows it. A blank may stand between a date and a
time. -/
def readScalar? (cs : List Char) : Option (Value × List Char) :=
  let word := cs.takeWhile isWordPart
  let rest := cs.dropWhile isWordPart
  match rest with
  | ' ' :: c :: more =>
    if isDate word && c.isDigit then
      let time := (c :: more).takeWhile isWordPart
      (readMoment? (word ++ 'T' :: time)).map (.text ·, (c :: more).dropWhile isWordPart)
    else (readWord? word).map (·, rest)
  | _ => (readWord? word).map (·, rest)

end SiteSearch.Settings.Toml
