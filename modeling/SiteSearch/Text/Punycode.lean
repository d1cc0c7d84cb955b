import SiteSearch.Text.Ascii

/-!
# Labels in ASCII

A label of a host name is written in ASCII: its characters of ASCII come first, and after a
hyphen the others are told by a sequence of numbers. Each number says how many steps lie
between one insertion and the next, when every code point from 128 on is tried at every place
in turn. Numbers are written in base 36 with a threshold for each digit that depends on the
numbers before.
-/

namespace SiteSearch.Text.Punycode

/-- A digit of base 36. -/
def digit (n : Nat) : Char := if n < 26 then .ofNat ('a'.toNat + n) else .ofNat ('0'.toNat + n - 26)

def threshold (bias position : Nat) : Nat :=
  if position ≤ bias then 1 else if bias + 26 ≤ position then 26 else position - bias

/-- The digits of a number from a position on; `fuel` bounds how many there are. -/
def digits (bias : Nat) : (fuel position : Nat) → Nat → List Char
  | 0, _, _ => []
  | fuel + 1, position, n =>
    let t := threshold bias position
    if n < t then [digit n]
    else digit (t + (n - t) % (36 - t)) :: digits bias fuel (position + 36) ((n - t) / (36 - t))

/-- A number in full. -/
def number (bias n : Nat) : List Char := digits bias (n.log2 + 2) 36 n

/-- The bias once a number has been brought down to at most 455. -/
def settle : (fuel bias : Nat) → Nat → Nat
  | fuel + 1, bias, n =>
    if 455 < n then settle fuel (bias + 36) (n / 35) else bias + 36 * n / (n + 38)
  | 0, bias, n => bias + 36 * n / (n + 38)

/-- The bias for the number after one that was written when so many characters were there. -/
def nextBias (n count : Nat) (isFirst : Bool) : Nat :=
  let n := if isFirst then n / 700 else n / 2
  let n := n + n / count
  settle n.log2 0 n

/-- What has been written. -/
structure State where
  /-- The steps since the last insertion. -/
  steps : Nat
  bias : Nat
  /-- How many characters are there. -/
  count : Nat
  isFirst : Bool
  /-- The code point that is tried next. -/
  next : Nat
  text : List Char

/-- A character of the label passed while a code point is tried. -/
def State.pass (tried : Nat) (s : State) (c : Char) : State :=
  if c.toNat < tried then { s with steps := s.steps + 1 }
  else if c.toNat = tried then
    { s with
      steps := 0
      bias := nextBias s.steps (s.count + 1) s.isFirst
      count := s.count + 1
      isFirst := false
      text := s.text ++ number s.bias s.steps }
  else s

/-- All insertions of a code point. -/
def State.try (label : List Char) (s : State) (tried : Nat) : State :=
  let s := { s with steps := s.steps + (tried - s.next) * (s.count + 1) }
  let s := label.foldl (State.pass tried) s
  { s with steps := s.steps + 1, next := tried + 1 }

/-- A number put in its place in an ascending list, once. -/
def insert (n : Nat) : List Nat → List Nat
  | [] => [n]
  | m :: rest => if n < m then n :: m :: rest else if n = m then m :: rest else m :: insert n rest

/-- A label without its mark. -/
def encode (label : List Char) : List Char :=
  let plain := label.filter fun c => c.toNat < 0x80
  let others := label.filter fun c => 0x80 ≤ c.toNat
  let tried := others.foldl (fun sorted c => insert c.toNat sorted) []
  let start : State := ⟨0, 72, plain.length, true, 0x80, []⟩
  plain ++ (if plain = [] then [] else ['-']) ++ (tried.foldl (State.try label) start).text

/-- A label in ASCII: one that is not is marked. -/
def label (cs : List Char) : List Char :=
  if cs.all fun c => c.toNat < 0x80 then cs else ['x', 'n', '-', '-'] ++ encode cs

/-- A host name in ASCII. -/
def name (cs : List Char) : List Char := ['.'].intercalate ((cs.splitOn '.').map label)

end SiteSearch.Text.Punycode
