import SiteSearch.Text.LetterCase
import SiteSearch.Text.Percent
import SiteSearch.Text.Punycode

/-!
# Hosts

The host of an address is a name, or a number of 32 or 128 bits. A number of 32 bits is four
parts between points, or fewer, the last part then taking the place of those that are left
out; each part may be octal or hexadecimal. A number of 128 bits stands in brackets, in eight
parts between colons, and two colons stand for as many zeros as are missing.
-/

namespace SiteSearch.Engine

open SiteSearch.Text

inductive Host where
  | name (name : String)
  /-- A number of 32 bits. -/
  | short (number : Nat)
  /-- A number of 128 bits in parts of 16. -/
  | long (parts : List Nat)
  deriving DecidableEq, Repr

namespace Host

/-! ## Numbers of 32 bits -/

/-- The number that digits of a base denote. -/
def digitsIn? (base : Nat) (cs : List Char) : Option Nat :=
  cs.foldl (fun n c => n.bind fun n => (hexDigit? c).bind fun d =>
    if d < base then some (base * n + d) else none) (some 0)

/-- A part of a number of 32 bits: hexadecimal after `0x`, octal after another `0`. -/
def readPart? (cs : List Char) : Option Nat :=
  match cs with
  | [] => none
  | '0' :: 'x' :: ds => digitsIn? 16 ds
  | '0' :: 'X' :: ds => digitsIn? 16 ds
  | '0' :: d :: ds => digitsIn? 8 (d :: ds)
  | ds => digitsIn? 10 ds

/-- The parts of a name between points, without an empty one at the end. -/
def nameParts (cs : List Char) : List (List Char) :=
  let parts := cs.splitOn '.'
  if 1 < parts.length ∧ parts.getLast? = some [] then parts.dropLast else parts

/-- A name whose last part is a number, or just digits, is to be read as a number. -/
def isNumeric (cs : List Char) : Bool :=
  match (nameParts cs).getLast? with
  | none => false
  | some part => part != [] && (part.all Char.isDigit || (readPart? part).isSome)

/-- The number of 32 bits that parts make: each of the first takes eight bits, and the last all
that is left. -/
def joinParts? : (room : Nat) → List Nat → Option Nat
  | _, [] => none
  | room, [last] => if last < room then some last else none
  | room, part :: parts =>
    if part ≤ 255 then (joinParts? (room / 256) parts).map (part * (room / 256) + ·) else none

/-- The number of 32 bits that a name spells. -/
def readShort? (cs : List Char) : Option Nat :=
  let parts := nameParts cs
  if 4 < parts.length then none else parts.mapM readPart? >>= joinParts? 0x100000000

/-- A number of 32 bits in four parts. -/
def shortText (n : Nat) : String :=
  ".".intercalate ([n / 0x1000000, n / 0x10000 % 256, n / 256 % 256, n % 256].map toString)

/-! ## Numbers of 128 bits -/

/-- One of four decimal parts, with no needless zero before it. -/
def readOctet? (cs : List Char) : Option Nat :=
  if cs = [] ∨ 3 < cs.length ∨ (cs.head? = some '0' ∧ 1 < cs.length) then none
  else (digitsIn? 10 cs).filter (· ≤ 255)

/-- The last 32 bits of a number, in four decimal parts. -/
def readTail? (cs : List Char) : Option (List Nat) := do
  match ← (cs.splitOn '.').mapM readOctet? with
  | [a, b, c, d] => return [256 * a + b, 256 * c + d]
  | _ => none

/-- A part of 16 bits. -/
def readGroup? (cs : List Char) : Option Nat :=
  if cs = [] ∨ 4 < cs.length then none else digitsIn? 16 cs

/-- Parts of 16 bits; the last two may be given by four decimal parts. -/
def readGroups? : List (List Char) → Option (List Nat)
  | [] => some []
  | [group] => ((readGroup? group).map ([·])).or (readTail? group)
  | group :: groups => do return (← readGroup? group) :: (← readGroups? groups)

/-- What stands before and after the first two colons. -/
def splitAtGap? : List Char → Option (List Char × List Char)
  | [] => none
  | ':' :: ':' :: cs => some ([], cs)
  | c :: cs => (splitAtGap? cs).map fun (before, after) => (c :: before, after)

/-- The parts between single colons. -/
def groups (cs : List Char) : List (List Char) := if cs = [] then [] else cs.splitOn ':'

/-- The number of 128 bits that a text spells. -/
def readLong? (cs : List Char) : Option (List Nat) :=
  match splitAtGap? cs with
  | none => (readGroups? (groups cs)).filter (·.length = 8)
  | some (before, after) => do
    let first ← (groups before).mapM readGroup?
    let last ← readGroups? (groups after)
    if first.length + last.length ≤ 7 then
      return first ++ List.replicate (8 - first.length - last.length) 0 ++ last
    else none

/-- How many zeros a list starts with. -/
def zeros (parts : List Nat) : Nat := (parts.takeWhile (· == 0)).length

/-- A number of 128 bits, the first of its longest runs of two zeros or more left out. -/
def longText (parts : List Nat) : String :=
  let written (parts : List Nat) : String :=
    ":".intercalate (parts.map fun n => .ofList (Nat.toDigits 16 n))
  let longest := (List.range 8).foldl (fun n i => max n (zeros (parts.drop i))) 0
  match (List.range 8).find? fun i => zeros (parts.drop i) == longest with
  | some i =>
    if 2 ≤ longest then written (parts.take i) ++ "::" ++ written (parts.drop (i + longest))
    else written parts
  | none => written parts

/-! ## Hosts -/

/-- A character that no host may hold, whatever the scheme. -/
def isForbidden (c : Char) : Bool :=
  c.toNat == 0 || c == '\t' || c == '\n' || c == '\r' || c == ' ' || c == '#' || c == '/' ||
    c == ':' || c == '<' || c == '>' || c == '?' || c == '@' || c == '[' || c == '\\' || c == ']' ||
    c == '^' || c == '|'

/-- A control character of ASCII. -/
def isControl (c : Char) : Bool := c.toNat < 0x20 || c.toNat == 0x7f

def readBracketed? (cs : List Char) : Option Host :=
  match cs.reverse with
  | ']' :: inside => (readLong? inside.reverse).map .long
  | _ => none

/-- The host of an address whose scheme is known: escapes in it stand for characters, names
count in small letters and in ASCII, and what looks like a number must be one. -/
def read? (cs : List Char) : Option Host :=
  match cs with
  | '[' :: cs => readBracketed? cs
  | cs => do
    let given := Punycode.name ((← percentDecode? cs).toList.flatMap smalls)
    if given = [] ∨ given.any (fun c => isForbidden c || isControl c || c == '%') then none
    else if isNumeric given then (readShort? given).map .short
    else return .name (.ofList given)

/-- The host of any other address, whose name is kept as it is written. -/
def readOpaque? (cs : List Char) : Option Host :=
  match cs with
  | '[' :: cs => readBracketed? cs
  | cs =>
    if cs.any isForbidden then none
    else some (.name (.ofList (percentEncode (fun c => !isControl c) cs)))

def text : Host → String
  | .name given => given
  | .short n => shortText n
  | .long parts => "[" ++ longText parts ++ "]"

end Host

end SiteSearch.Engine
