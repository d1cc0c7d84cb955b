import Mathlib.Data.List.TakeWhile
import SiteSearch.Decimal.Literal
import SiteSearch.Proofs.Text.Ascii
import SiteSearch.Proofs.Text.Literals

/-!
# Float literals

The grammar of floats in text, and that a text is read as a float exactly when it is a literal of it
(`readFloat?_eq_some_iff`). Every integer literal is one of these too, so a text that is no float
literal is no number at all.
-/

namespace SiteSearch.Decimal

open SiteSearch.Text

/-! ## Grammar -/

/-- Digits with or without a point: the number that all of them make, and how many of them stand
after the point. -/
inductive Mantissa : List Char → (digits scale : Nat) → Prop where
  | whole {ds : List Char} (h : IsNumeral ds) : Mantissa ds (digitsValue ds) 0
  | pointed {ws fs : List Char} (h : IsNumeral (ws ++ fs)) :
      Mantissa (ws ++ '.' :: fs) (digitsValue (ws ++ fs)) fs.length

/-- What may come after the digits, and the exponent that it states. -/
inductive ExponentPart : List Char → Int → Prop where
  | absent : ExponentPart [] 0
  | small {cs : List Char} {e : Int} (h : IntegerLiteral cs e) : ExponentPart ('e' :: cs) e
  | capital {cs : List Char} {e : Int} (h : IntegerLiteral cs e) : ExponentPart ('E' :: cs) e

/-- The number `digits * 10 ^ exponent`, written out. -/
inductive DecimalLiteral : List Char → (digits : Nat) → (exponent : Int) → Prop where
  | intro {ms es : List Char} {digits scale : Nat} {e : Int} (mantissa : Mantissa ms digits scale)
      (exponent : ExponentPart es e) : DecimalLiteral (ms ++ es) digits (e - scale)

/-- A literal of a float whose sign is known. -/
inductive UnsignedLiteral (negative : Bool) : List Char → Extended → Prop where
  | inf {cs : List Char} (h : asciiLower cs = ['i', 'n', 'f']) :
      UnsignedLiteral negative cs (.infinity negative)
  | infinity {cs : List Char} (h : asciiLower cs = ['i', 'n', 'f', 'i', 'n', 'i', 't', 'y']) :
      UnsignedLiteral negative cs (.infinity negative)
  | nan {cs : List Char} (h : asciiLower cs = ['n', 'a', 'n']) : UnsignedLiteral negative cs .nan
  | finite {cs : List Char} {digits units : Nat} {exponent : Int}
      (decimal : DecimalLiteral cs digits exponent)
      (nearest : nearestDecimal? digits exponent = some units) :
      UnsignedLiteral negative cs (.finite ⟨negative, units⟩)
  | overflow {cs : List Char} {digits : Nat} {exponent : Int}
      (decimal : DecimalLiteral cs digits exponent)
      (nearest : nearestDecimal? digits exponent = none) :
      UnsignedLiteral negative cs (.infinity negative)

/-- A literal and the float that it denotes. -/
inductive FloatLiteral : List Char → Extended → Prop where
  | unsigned {cs : List Char} {x : Extended} (h : UnsignedLiteral false cs x) : FloatLiteral cs x
  | plus {cs : List Char} {x : Extended} (h : UnsignedLiteral false cs x) :
      FloatLiteral ('+' :: cs) x
  | minus {cs : List Char} {x : Extended} (h : UnsignedLiteral true cs x) :
      FloatLiteral ('-' :: cs) x

/-! ## Decimals -/

theorem toLower_eq_e_iff {c : Char} : c.toLower = 'e' ↔ c = 'e' ∨ c = 'E' := by
  constructor
  · intro h
    have hc : IsAscii c := isAscii_of_toLower (by rw [h]; decide)
    revert h
    exact @forall_isAscii (fun c => c.toLower = 'e' → c = 'e' ∨ c = 'E') (by decide) c hc
  · rintro (rfl | rfl) <;> decide

theorem readExponent?_cons (c : Char) (cs : List Char) :
    readExponent? (c :: cs) = if c.toLower = 'e' then readInt? cs else none := by
  have hnatural : readExponent?.natural? = readDigits? := by
    funext ds
    rfl
  rw [readExponent?.eq_def, hnatural]
  simp only [ite_not]
  congr 1
  split
  · rename_i ds
    rw [readInt?_minus]
    cases readDigits? ds <;> rfl
  · rename_i ds
    rw [readInt?_plus]
    cases readDigits? ds <;> rfl
  · rename_i hminus hplus
    rw [readInt?_of_ne_sign fun ds => ⟨fun h => hplus ds h, fun h => hminus ds h⟩]
    cases readDigits? cs <;> rfl

theorem readExponent?_eq_some_iff {cs : List Char} {e : Int} :
    readExponent? cs = some e ↔ ExponentPart cs e := by
  constructor
  · intro h
    cases cs with
    | nil =>
      cases h
      exact .absent
    | cons c cs =>
      rw [readExponent?_cons, Option.ite_none_right_eq_some, readInt?_eq_some_iff,
        toLower_eq_e_iff] at h
      obtain ⟨rfl | rfl, hliteral⟩ := h
      · exact .small hliteral
      · exact .capital hliteral
  · intro h
    cases h with
    | absent => rfl
    | small h => rw [readExponent?_cons, if_pos (by decide), readInt?_eq_some_iff.mpr h]
    | capital h => rw [readExponent?_cons, if_pos (by decide), readInt?_eq_some_iff.mpr h]

theorem ExponentPart.head_ne {es : List Char} {e : Int} (h : ExponentPart es e) :
    ∀ c ∈ es.head?, c.isDigit = false ∧ c ≠ '.' := by
  cases h <;> simp

theorem readMagnitude?_of_point {ws fs es : List Char} (h : IsNumeral (ws ++ fs))
    (hes : ∀ c ∈ es.head?, c.isDigit = false) :
    readMagnitude? (ws ++ '.' :: (fs ++ es)) =
      (readExponent? es).map fun e : Int => (digitsValue (ws ++ fs), e - fs.length) := by
  have hws : ∀ c ∈ ws, c.isDigit = true := fun c hc => h.isDigit c (List.mem_append_left _ hc)
  have hfs : ∀ c ∈ fs, c.isDigit = true := fun c hc => h.isDigit c (List.mem_append_right _ hc)
  have hpoint : ∀ c ∈ ('.' :: (fs ++ es)).head?, c.isDigit = false := by simp
  have hsome : ¬ (ws.isEmpty && fs.isEmpty) = true := by
    simpa [List.isEmpty_iff] using h.ne_nil
  simp only [readMagnitude?, takeWhile_append_of_head hws hpoint,
    dropWhile_append_of_head hws hpoint, takeWhile_append_of_head hfs hes,
    dropWhile_append_of_head hfs hes, if_neg hsome]

theorem readMagnitude?_of_whole {ds es : List Char} (h : IsNumeral ds)
    (hes : ∀ c ∈ es.head?, c.isDigit = false ∧ c ≠ '.') :
    readMagnitude? (ds ++ es) = (readExponent? es).map fun e => (digitsValue ds, e) := by
  have hdigits : ∀ c ∈ es.head?, c.isDigit = false := fun c hc => (hes c hc).1
  have hpoint : ∀ rest, es ≠ '.' :: rest := by
    rintro rest rfl
    exact (hes '.' rfl).2 rfl
  have hsome : ds ≠ [] := h.ne_nil
  rw [readMagnitude?, takeWhile_append_of_head h.isDigit hdigits,
    dropWhile_append_of_head h.isDigit hdigits]
  split
  rename_i fraction tail hparts
  split at hparts
  · exact absurd rfl (hpoint _)
  · cases hparts
    simp [hsome]

theorem decimalLiteral_of_readMagnitude? {cs : List Char} {digits : Nat} {exponent : Int}
    (h : readMagnitude? cs = some (digits, exponent)) : DecimalLiteral cs digits exponent := by
  have hcs : cs.takeWhile Char.isDigit ++ cs.dropWhile Char.isDigit = cs :=
    List.takeWhile_append_dropWhile
  have hws : ∀ c ∈ cs.takeWhile Char.isDigit, c.isDigit = true := fun _ => List.mem_takeWhile_imp
  rw [← hcs]
  rw [readMagnitude?] at h
  generalize cs.takeWhile Char.isDigit = ws at *
  generalize cs.dropWhile Char.isDigit = rest at *
  split at h
  rename_i fraction tail hparts
  split at h
  · cases h
  · rename_i hsome
    obtain ⟨e, he, hvalue⟩ := Option.map_eq_some_iff.mp h
    have hexponent := readExponent?_eq_some_iff.mp he
    cases hvalue
    split at hparts
    · rename_i ds
      cases hparts
      have hfs : ∀ c ∈ ds.takeWhile Char.isDigit, c.isDigit = true :=
        fun _ => List.mem_takeWhile_imp
      have hnumeral : IsNumeral (ws ++ ds.takeWhile Char.isDigit) :=
        ⟨by simpa [List.isEmpty_iff] using hsome,
          fun c hc => (List.mem_append.mp hc).elim (hws c) (hfs c)⟩
      have hliteral := DecimalLiteral.intro (.pointed hnumeral) hexponent
      rwa [List.append_assoc, List.cons_append, List.takeWhile_append_dropWhile] at hliteral
    · cases hparts
      have hnumeral : IsNumeral ws := ⟨by simpa [List.isEmpty_iff] using hsome, hws⟩
      rw [List.append_nil]
      exact .intro (.whole hnumeral) hexponent

theorem readMagnitude?_eq_some_iff {cs : List Char} {digits : Nat} {exponent : Int} :
    readMagnitude? cs = some (digits, exponent) ↔ DecimalLiteral cs digits exponent := by
  constructor
  · exact decimalLiteral_of_readMagnitude?
  · rintro ⟨mantissa, exponent⟩
    have hes := exponent.head_ne
    have hread := readExponent?_eq_some_iff.mpr exponent
    cases mantissa with
    | whole h => simp [readMagnitude?_of_whole h hes, hread]
    | pointed h =>
      rw [List.append_assoc, List.cons_append,
        readMagnitude?_of_point h fun c hc => (hes c hc).1, hread, Option.map_some]

/-! ## Floats -/

/-- What starts as a number does starts as no word does. -/
theorem DecimalLiteral.exists_cons {cs : List Char} {digits : Nat} {exponent : Int}
    (h : DecimalLiteral cs digits exponent) :
    ∃ c rest, cs = c :: rest ∧ c.toLower ∉ ['f', 'i', 'n', 't'] := by
  have hdigits : ∀ c : Char, c.isDigit = true → c.toLower ∉ ['f', 'i', 'n', 't'] := by
    intro c hc
    have hascii : IsAscii c := isAscii_of_isWordChar (by simp [isWordChar, Char.isAlphanum, hc])
    revert hc
    exact @forall_isAscii
      (fun c => c.isDigit = true → c.toLower ∉ ['f', 'i', 'n', 't']) (by decide) c hascii
  obtain ⟨mantissa, exponent⟩ := h
  cases mantissa with
  | whole h =>
    obtain ⟨c, ds, rfl, hc⟩ := h.exists_cons
    exact ⟨c, _, rfl, hdigits c hc⟩
  | @pointed ws fs h =>
    cases ws with
    | nil => exact ⟨'.', _, rfl, by decide⟩
    | cons c ws => exact ⟨c, _, rfl, hdigits c (h.isDigit c (by simp))⟩

theorem readUnsigned?_of_decimal {negative : Bool} {cs : List Char} {digits : Nat} {exponent : Int}
    (h : DecimalLiteral cs digits exponent) :
    readUnsigned? negative cs = some (match nearestDecimal? digits exponent with
      | some units => .finite ⟨negative, units⟩
      | none => .infinity negative) := by
  have hread := readMagnitude?_eq_some_iff.mpr h
  obtain ⟨c, rest, rfl, hc⟩ := h.exists_cons
  have hword : ∀ w ws, asciiLower (c :: rest) = w :: ws → w ∉ ['f', 'i', 'n', 't'] := by
    intro w ws heq hw
    rw [← (List.cons.inj heq).1] at hw
    exact hc hw
  rw [readUnsigned?]
  split
  · rename_i heq
    exact absurd (by simp) (hword _ _ heq)
  · rename_i heq
    exact absurd (by simp) (hword _ _ heq)
  · rename_i heq
    exact absurd (by simp) (hword _ _ heq)
  · rw [hread]
    rfl

theorem readUnsigned?_eq_some_iff {negative : Bool} {cs : List Char} {x : Extended} :
    readUnsigned? negative cs = some x ↔ UnsignedLiteral negative cs x := by
  constructor
  · intro h
    rw [readUnsigned?] at h
    split at h
    · rename_i hword
      cases h
      exact .inf hword
    · rename_i hword
      cases h
      exact .infinity hword
    · rename_i hword
      cases h
      exact .nan hword
    · obtain ⟨⟨digits, exponent⟩, hread, hx⟩ := Option.map_eq_some_iff.mp h
      have hdecimal := readMagnitude?_eq_some_iff.mp hread
      cases hnearest : nearestDecimal? digits exponent with
      | some units =>
        simp only [hnearest] at hx
        exact hx ▸ .finite hdecimal hnearest
      | none =>
        simp only [hnearest] at hx
        exact hx ▸ .overflow hdecimal hnearest
  · intro h
    cases h with
    | inf hword => simp [readUnsigned?, hword]
    | infinity hword => simp [readUnsigned?, hword]
    | nan hword => simp [readUnsigned?, hword]
    | finite hdecimal hnearest => rw [readUnsigned?_of_decimal hdecimal, hnearest]
    | overflow hdecimal hnearest => rw [readUnsigned?_of_decimal hdecimal, hnearest]

theorem UnsignedLiteral.ne_sign {negative : Bool} {cs : List Char} {x : Extended}
    (h : UnsignedLiteral negative cs x) : ∀ rest, cs ≠ '+' :: rest ∧ cs ≠ '-' :: rest := by
  have hread := readUnsigned?_eq_some_iff.mpr h
  intro rest
  constructor
  · rintro rfl
    simp [readUnsigned?, asciiLower, readMagnitude?] at hread
  · rintro rfl
    simp [readUnsigned?, asciiLower, readMagnitude?] at hread

/-- A text is read as the float of which it is a literal. -/
theorem readFloat?_eq_some_iff {s : String} {x : Extended} :
    readFloat? s = some x ↔ FloatLiteral s.toList x := by
  rw [readFloat?]
  constructor
  · intro h
    split at h
    · rename_i cs hcs
      rw [hcs]
      exact .minus (readUnsigned?_eq_some_iff.mp h)
    · rename_i cs hcs
      rw [hcs]
      exact .plus (readUnsigned?_eq_some_iff.mp h)
    · exact .unsigned (readUnsigned?_eq_some_iff.mp h)
  · intro h
    generalize s.toList = cs at *
    cases h with
    | unsigned h =>
      split
      · exact absurd rfl (h.ne_sign _).2
      · exact absurd rfl (h.ne_sign _).1
      · exact readUnsigned?_eq_some_iff.mpr h
    | plus h => exact readUnsigned?_eq_some_iff.mpr h
    | minus h => exact readUnsigned?_eq_some_iff.mpr h

theorem readFloat?_eq_none_iff {s : String} :
    readFloat? s = none ↔ ∀ x, ¬ FloatLiteral s.toList x := by
  simp only [Option.eq_none_iff_forall_ne_some, ne_eq, readFloat?_eq_some_iff]

theorem UnsignedLiteral.exists_cons {negative : Bool} {cs : List Char} {x : Extended}
    (h : UnsignedLiteral negative cs x) :
    ∃ c rest, cs = c :: rest ∧ c.toLower ∉ ['f', 't'] := by
  have hword : ∀ w ws, asciiLower cs = w :: ws → w ∉ ['f', 't'] →
      ∃ c rest, cs = c :: rest ∧ c.toLower ∉ ['f', 't'] := by
    intro w ws heq hw
    obtain ⟨c, rest, rfl, rfl, -⟩ := List.map_eq_cons_iff.mp heq
    exact ⟨c, rest, rfl, hw⟩
  have hdecimal : ∀ {digits : Nat} {exponent : Int}, DecimalLiteral cs digits exponent →
      ∃ c rest, cs = c :: rest ∧ c.toLower ∉ ['f', 't'] := by
    intro digits exponent h
    obtain ⟨c, rest, hcs, hc⟩ := h.exists_cons
    have hsubset : ['f', 't'] ⊆ ['f', 'i', 'n', 't'] := by decide
    exact ⟨c, rest, hcs, fun hmem => hc (hsubset hmem)⟩
  cases h with
  | inf h => exact hword _ _ h (by decide)
  | infinity h => exact hword _ _ h (by decide)
  | nan h => exact hword _ _ h (by decide)
  | finite h => exact hdecimal h
  | overflow h => exact hdecimal h

theorem FloatLiteral.exists_cons {cs : List Char} {x : Extended} (h : FloatLiteral cs x) :
    ∃ c rest, cs = c :: rest ∧ c.toLower ∉ ['f', 't'] := by
  cases h with
  | unsigned h => exact h.exists_cons
  | plus => exact ⟨'+', _, rfl, by decide⟩
  | minus => exact ⟨'-', _, rfl, by decide⟩

theorem exists_unsignedLiteral_of_isNumeral (negative : Bool) {ds : List Char} (h : IsNumeral ds) :
    ∃ x, UnsignedLiteral negative ds x := by
  have hdecimal := DecimalLiteral.intro (.whole h) .absent
  rw [List.append_nil] at hdecimal
  cases hnearest : nearestDecimal? (digitsValue ds) (0 - (0 : Nat)) with
  | some units => exact ⟨_, .finite hdecimal hnearest⟩
  | none => exact ⟨_, .overflow hdecimal hnearest⟩

/-- An integer can be read as a float too. -/
theorem exists_floatLiteral_of_integerLiteral {cs : List Char} {n : Int} (h : IntegerLiteral cs n) :
    ∃ x, FloatLiteral cs x := by
  cases h with
  | unsigned h =>
    obtain ⟨x, hx⟩ := exists_unsignedLiteral_of_isNumeral false h
    exact ⟨x, .unsigned hx⟩
  | plus h =>
    obtain ⟨x, hx⟩ := exists_unsignedLiteral_of_isNumeral false h
    exact ⟨x, .plus hx⟩
  | minus h =>
    obtain ⟨x, hx⟩ := exists_unsignedLiteral_of_isNumeral true h
    exact ⟨x, .minus hx⟩

end SiteSearch.Decimal
