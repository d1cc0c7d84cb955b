import SiteSearch.Text.Ascii

/-!
# Percent escapes

Where only some characters may stand for themselves, the others are written byte by byte, each
byte as a percent sign and two hexadecimal digits.
-/

namespace SiteSearch.Text

/-- A byte by its number. -/
def percentByte (b : UInt8) : List Char :=
  let digit (n : Nat) := (Nat.digitChar n).toUpper
  ['%', digit (b.toNat / 16), digit (b.toNat % 16)]

/-- A text with all characters escaped but those of ASCII that are kept. -/
def percentEncode (isKept : Char → Bool) (cs : List Char) : List Char :=
  cs.flatMap fun c =>
    if c.toNat < 0x80 && isKept c then [c] else (String.utf8EncodeChar c).flatMap percentByte

/-- The bytes of a text with escapes. A percent sign that starts no escape stands for itself. -/
def percentBytes : List Char → List UInt8
  | [] => []
  | '%' :: a :: b :: cs =>
    match hexDigit? a, hexDigit? b with
    | some high, some low => .ofNat (16 * high + low) :: percentBytes cs
    | _, _ => '%'.toUInt8 :: percentBytes (a :: b :: cs)
  | c :: cs => String.utf8EncodeChar c ++ percentBytes cs

/-- The text that a text with escapes stands for, if its bytes are one. -/
def percentDecode? (cs : List Char) : Option String :=
  String.fromUTF8? ⟨(percentBytes cs).toArray⟩

end SiteSearch.Text
