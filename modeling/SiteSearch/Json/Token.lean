import SiteSearch.Json.Basic

/-!
# JSON tokens

A text is cut into tokens by a machine that takes one character at a time. Letters and the
characters of numbers are gathered greedily and judged as a whole when the run ends, which
refuses the same texts as judging each character: no two values may stand side by side.

Numbers. An integer is exact if it fits 64 bits, signed or unsigned; `-0` is a float. The
digits of a float are gathered into a word of 64 bits; from the first that does not fit on,
those before the point only shift the exponent, and the point gives those after it another
try. The word is rounded to a float and scaled by a power of ten, rounded again. A number past
the largest float has no value.

Strings. A character below U+0020 must be escaped. A surrogate that is not half of a pair
leaves a string without a text.

Numbers without a value and strings without a text are tokens all the same, so that a reader
can pass over them.
-/

namespace SiteSearch.Json

open SiteSearch.Decimal SiteSearch.Text

/-- The lexical items of a JSON text. -/
inductive Token where
  | openArray
  | closeArray
  | openObject
  | closeObject
  | comma
  | colon
  | text (s : String)
  /-- A string without a text. -/
  | brokenText
  | scalar (value : Json)
  /-- A number without a value. -/
  | hugeNumber

/-! ## Numbers -/

/-- Where the digits of a float stand after some of them were gathered. -/
structure Gathered where
  /-- The digits so far, as far as they fit a word of 64 bits. -/
  word : Nat
  /-- The power of ten that the word is to be scaled by. -/
  exponent : Int
  /-- A digit on this side of the point did not fit. -/
  full : Bool

/-- The numbers below this one fit a word of 64 bits. -/
def wordLimit : Nat := 0x10000000000000000

/-- One more digit before the point. -/
def Gathered.whole (g : Gathered) (c : Char) : Gathered :=
  let word := 10 * g.word + digitValue c
  if g.full || wordLimit ≤ word then ⟨g.word, g.exponent + 1, true⟩
  else ⟨word, g.exponent, false⟩

/-- One more digit after the point. -/
def Gathered.fraction (g : Gathered) (c : Char) : Gathered :=
  let word := 10 * g.word + digitValue c
  if g.full || wordLimit ≤ word then ⟨g.word, g.exponent, true⟩
  else ⟨word, g.exponent - 1, false⟩

/-- A float magnitude times or over a power of ten, the power rounded and the result too. -/
def scaleOnce? (units : Nat) : Int → Option Nat
  | .ofNat e =>
    (nearest? (Nat.pow 10 e) 1).bind fun power =>
      nearest? (units * power) (unitsPerOne * unitsPerOne)
  | .negSucc e => (nearest? (Nat.pow 10 (e + 1)) 1).bind fun power => nearest? units power

/--
The float magnitude of a gathered number: the word rounded, then scaled in one step. Powers
beyond the largest that is a float take two steps down and are refused on the way up.
-/
def Gathered.units? (g : Gathered) : Option Nat :=
  (nearest? g.word 1).bind fun units =>
    if units = 0 then some 0
    else if 308 < g.exponent then none
    else if -308 ≤ g.exponent then scaleOnce? units g.exponent
    else if -616 ≤ g.exponent then
      (scaleOnce? units (-308)).bind fun units => scaleOnce? units (g.exponent + 308)
    else some 0

/-- The parts of a number's text. -/
structure NumberText where
  negative : Bool
  whole : List Char
  fraction : Option (List Char)
  exponent : Option Int

/-- The exponent of a number, if it has one; nothing may follow it. -/
def readExponent? : List Char → Option (Option Int)
  | [] => some none
  | c :: cs =>
    if c.toLower ≠ 'e' then none
    else match cs with
      | '-' :: ds => (readDigits? ds).map fun n => some (-(n : Int))
      | '+' :: ds => (readDigits? ds).map fun n => some (n : Int)
      | ds => (readDigits? ds).map fun n => some (n : Int)

/-- The parts of a number: no sign but a minus, no zero before another digit, and at least
one digit in each part. -/
def NumberText.read? (cs : List Char) : Option NumberText :=
  let (negative, cs) := match cs with
    | '-' :: cs => (true, cs)
    | cs => (false, cs)
  let whole := cs.takeWhile Char.isDigit
  let rest := cs.dropWhile Char.isDigit
  if whole = [] ∨ (whole.head? = some '0' ∧ 1 < whole.length) then none
  else match rest with
    | '.' :: cs =>
      let fraction := cs.takeWhile Char.isDigit
      if fraction = [] then none
      else (readExponent? (cs.dropWhile Char.isDigit)).map (⟨negative, whole, some fraction, ·⟩)
    | rest => (readExponent? rest).map (⟨negative, whole, none, ·⟩)

def NumberText.value? (t : NumberText) : Option Number :=
  let n := digitsValue t.whole
  let float : Option Number :=
    let g := t.whole.foldl Gathered.whole ⟨0, 0, false⟩
    let g := (t.fraction.getD []).foldl Gathered.fraction { g with full := false }
    let g := { g with exponent := g.exponent + t.exponent.getD 0 }
    g.units?.map fun units => .float ⟨t.negative, units⟩
  if t.fraction.isSome || t.exponent.isSome then float
  else if t.negative then
    if 0 < n ∧ 2 * n ≤ wordLimit then some (.integer (-n)) else float
  else if n < wordLimit then some (.integer n) else float

def readNumber? (cs : List Char) : Option Token :=
  (NumberText.read? cs).map fun t =>
    match t.value? with
    | some n => .scalar (.number n)
    | none => .hugeNumber

/-! ## Strings -/

/-- A part of a string: a character, or a surrogate given by number. -/
inductive Piece where
  | char (c : Char)
  | half (value : Nat)

/-- What an escape by number stands for. -/
def Piece.ofNat (value : Nat) : Piece :=
  if 0xd800 ≤ value ∧ value < 0xe000 then .half value else .char (.ofNat value)

/-- The character of a pair of surrogates. -/
def pairChar? (high low : Nat) : Option Char :=
  if high < 0xdc00 ∧ 0xdc00 ≤ low then
    some (.ofNat (0x10000 + (high - 0xd800) * 0x400 + (low - 0xdc00)))
  else none

/-- The text of a string whose parts are given last first, put before what follows it; none if
a surrogate is not half of a pair. -/
def joinPieces? (after : List Char) : List Piece → Option (List Char)
  | [] => some after
  | .char c :: run => joinPieces? (c :: after) run
  | .half low :: .half high :: run =>
    match pairChar? high low with
    | some c => joinPieces? (c :: after) run
    | none => none
  | .half _ :: _ => none

/-- The token of a string whose parts are given last first. -/
def textToken (run : List Piece) : Token :=
  match joinPieces? [] run with
  | some cs => .text (.ofList cs)
  | none => .brokenText

/-! ## The machine -/

/-- What a machine that reads tokens is in the middle of. Runs are held last first. -/
inductive Reading where
  | gap
  | string (run : List Piece)
  /-- The character after a backslash. -/
  | escape (run : List Piece)
  /-- An escape by number, with its value so far and the digits still due. -/
  | unicode (run : List Piece) (value due : Nat)
  | number (run : List Char)
  | letters (run : List Char)

/-- The characters that stand for themselves or for a control character after a backslash. -/
def shortEscape? : Char → Option Char
  | '"' => some '"'
  | '\\' => some '\\'
  | '/' => some '/'
  | 'b' => some '\x08'
  | 'f' => some '\x0c'
  | 'n' => some '\n'
  | 'r' => some '\r'
  | 't' => some '\t'
  | _ => none

def isNumberChar (c : Char) : Bool :=
  c.isDigit || c == '-' || c == '+' || c == '.' || c == 'e' || c == 'E'

/-- The value that a run of letters names. -/
def readLetters? (cs : List Char) : Option Json :=
  match String.ofList cs with
  | "null" => some .null
  | "true" => some (.bool true)
  | "false" => some (.bool false)
  | _ => none

/-- One character between tokens. -/
def stepGap? (c : Char) : Option (Reading × List Token) :=
  match c with
  | ' ' | '\n' | '\r' | '\t' => some (.gap, [])
  | '[' => some (.gap, [.openArray])
  | ']' => some (.gap, [.closeArray])
  | '\x7b' => some (.gap, [.openObject])
  | '\x7d' => some (.gap, [.closeObject])
  | ',' => some (.gap, [.comma])
  | ':' => some (.gap, [.colon])
  | '"' => some (.string [], [])
  | c =>
    if c.isDigit || c == '-' then some (.number [c], [])
    else if c.isAlpha then some (.letters [c], [])
    else none

/-- The tokens of what is being read, if it may end here. -/
def Reading.finish? : Reading → Option (List Token)
  | .gap => some []
  | .number run => (readNumber? run.reverse).map ([·])
  | .letters run => (readLetters? run.reverse).map fun v => [.scalar v]
  | _ => none

/-- One character of a text. -/
def Reading.step? (reading : Reading) (c : Char) : Option (Reading × List Token) :=
  match reading with
  | .gap => stepGap? c
  | .string run =>
    if c = '"' then some (.gap, [textToken run])
    else if c = '\\' then some (.escape run, [])
    else if c.toNat < 0x20 then none
    else some (.string (.char c :: run), [])
  | .escape run =>
    if c = 'u' then some (.unicode run 0 4, [])
    else (shortEscape? c).map fun d => (.string (.char d :: run), [])
  | .unicode run value due =>
    (hexDigit? c).map fun digit =>
      let value := 16 * value + digit
      if due ≤ 1 then (.string (.ofNat value :: run), []) else (.unicode run value (due - 1), [])
  | .number run =>
    if isNumberChar c then some (.number (c :: run), [])
    else do
      let tokens ← Reading.finish? (.number run)
      let (reading, more) ← stepGap? c
      return (reading, tokens ++ more)
  | .letters run =>
    if c.isAlpha then some (.letters (c :: run), [])
    else do
      let tokens ← Reading.finish? (.letters run)
      let (reading, more) ← stepGap? c
      return (reading, tokens ++ more)

/-- The tokens of a text of which some has been read. -/
def tokensFrom? : Reading → List Char → Option (List Token)
  | reading, [] => reading.finish?
  | reading, c :: cs =>
    match reading.step? c with
    | none => none
    | some (reading, tokens) => (tokensFrom? reading cs).map (tokens ++ ·)

def tokens? (cs : List Char) : Option (List Token) := tokensFrom? .gap cs

end SiteSearch.Json
