import SiteSearch.Text.Ascii

/-!
# Integers written in decimal

An integer literal is an optional sign and one digit or more, nothing before, between or
after them. Which values are allowed is the reader's business: the readers for fixed widths
refuse what does not fit.
-/

namespace SiteSearch.Text

/-- One digit or more, and their value. -/
def readDigits? (cs : List Char) : Option Nat :=
  if cs ≠ [] ∧ cs.all Char.isDigit then some (digitsValue cs) else none

/-- A natural number, which may carry a plus sign. -/
def readNat? : List Char → Option Nat
  | '+' :: cs => readDigits? cs
  | cs => readDigits? cs

/-- An integer with an optional sign. -/
def readInt? : List Char → Option Int
  | '-' :: cs => (readDigits? cs).map fun n => -(n : Int)
  | cs => (readNat? cs).map fun n => (n : Int)

/-- The integer as a word of 64 bits, if it fits one. -/
def fitInt64? (n : Int) : Option Int64 :=
  if -0x8000000000000000 ≤ n ∧ n < 0x8000000000000000 then some (.ofInt n) else none

/-- The integer as a word of 32 bits, if it fits one. -/
def fitInt32? (n : Int) : Option Int32 :=
  if -0x80000000 ≤ n ∧ n < 0x80000000 then some (.ofInt n) else none

/-- An integer literal that fits 64 bits. -/
def readInt64? (s : String) : Option Int64 := readInt? s.toList >>= fitInt64?

/-- An integer literal that fits 32 bits. -/
def readInt32? (s : String) : Option Int32 := readInt? s.toList >>= fitInt32?

/-- A literal of a natural number that fits 64 bits. -/
def readUInt64? (s : String) : Option UInt64 :=
  (readNat? s.toList).bind fun n => if n < 0x10000000000000000 then some (.ofNat n) else none

theorem toInt_of_fitInt64? {n : Int} {w : Int64} (h : fitInt64? n = some w) : w.toInt = n := by
  simp only [fitInt64?] at h
  split at h
  · rename_i hn
    obtain rfl := Option.some.inj h
    exact Int64.toInt_ofInt_of_le (by omega) (by omega)
  · simp at h

theorem fitInt64?_toInt (w : Int64) : fitInt64? w.toInt = some w := by
  rw [fitInt64?, if_pos ⟨w.le_toInt, w.toInt_lt⟩, Int64.ofInt_toInt]

end SiteSearch.Text
