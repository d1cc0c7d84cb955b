import SiteSearch.Proofs.Decimal.FloatLiterals
import SiteSearch.Proofs.Decimal.Whole
import SiteSearch.SearchInput

/-!
# Loose values

Which integer a value of a form denotes, however it is typed, and which values switch something on.
Both are said of JSON itself; that they are read so is `Loose.toInt?_ofJson_eq_some_iff` and
`Loose.isOn_ofJson_iff`.
-/

namespace SiteSearch

open SiteSearch.Text SiteSearch.Decimal

/-- A value denotes an integer of 64 bits with a sign. -/
inductive Denotes : Json → Int64 → Prop where
  | integer (n : Int64) : Denotes (.ofInt n.toInt) n
  | float {x : Binary64} {n : Int64} (value : x.value = n.toInt) (above : -2 ^ 63 < n.toInt) :
      Denotes (.number (.float x)) n
  | integerText {s : String} {n : Int64}
      (literal : IntegerLiteral (trimBlanks s).toList n.toInt) : Denotes (.string s) n
  /-- A text that is no integer of 64 bits may still be a float. -/
  | floatText {s : String} {x : Binary64} {n : Int64}
      (noInteger : ∀ m : Int64, ¬ IntegerLiteral (trimBlanks s).toList m.toInt)
      (literal : FloatLiteral (trimBlanks s).toList (.finite x)) (value : x.value = n.toInt)
      (above : -2 ^ 63 < n.toInt) : Denotes (.string s) n

/-- A value switches something on. -/
inductive SwitchesOn : Json → Prop where
  | true : SwitchesOn (.bool true)
  | integer : SwitchesOn (.ofInt 1)
  | float {x : Binary64} (value : x.value = 1) : SwitchesOn (.number (.float x))
  | digit {s : String} (text : trimBlanks s = "1") : SwitchesOn (.string s)
  | word {s : String} (text : trimBlanks s = "true") : SwitchesOn (.string s)

/-- What JSON keeps as an integer fits 64 bits, with or without a sign; a larger number is a
float. -/
def FitsWord (v : Json) : Prop := ∀ n, v = .ofInt n → -2 ^ 63 ≤ n ∧ n < 2 ^ 64

theorem fitsWord_string (s : String) : FitsWord (.string s) := by
  intro n h
  cases h

namespace Loose

theorem wholeNumber?_eq_some_iff {x : Binary64} {w : Int64} :
    wholeNumber? x = some w ↔ x.value = w.toInt ∧ -2 ^ 63 < w.toInt := by
  have hlow := w.le_toInt
  have hhigh := w.toInt_lt
  simp only [wholeNumber?, Option.map_eq_some_iff, Option.filter_eq_some_iff,
    Binary64.toInt?_eq_some_iff, decide_eq_true_eq]
  constructor
  · rintro ⟨n, ⟨hvalue, hsmall⟩, rfl⟩
    rw [Int64.toInt_ofInt_of_le (by omega) (by omega)]
    exact ⟨hvalue, by omega⟩
  · rintro ⟨hvalue, habove⟩
    exact ⟨w.toInt, ⟨hvalue, by omega⟩, Int64.ofInt_toInt w⟩

/-- An integer beyond the words of 64 bits with a sign is kept as a float beyond them. -/
theorem exists_ofJson_eq_float {n : Int} (hfits : n < 2 ^ 64) (hlarge : 2 ^ 63 ≤ n) :
    ∃ x, ofJson (.ofInt n) = .float x ∧ (2 ^ 63 : Nat) ≤ x.value := by
  have hnone : fitInt64? n = none := by
    rw [fitInt64?, if_neg]
    omega
  have hsign : decide (n < 0) = false := by
    rw [decide_eq_false_iff_not]
    omega
  obtain ⟨units, hunits, hvalue⟩ := @nearest?_of_large n.natAbs (by omega) (by omega)
  refine ⟨_, ?_, hvalue⟩
  simp only [Json.ofInt, ofJson, hnone, hsign, hunits, Option.getD_some]

/-- A float beyond the words of 64 bits with a sign is none of them. -/
theorem value_ne_toInt {x : Binary64} (h : (2 ^ 63 : Nat) ≤ x.value) (w : Int64) :
    x.value ≠ w.toInt := by
  intro heq
  have hhigh := w.toInt_lt
  rw [heq] at h
  have hle : ((2 ^ 63 : Nat) : Int) ≤ w.toInt := by exact_mod_cast h
  omega

theorem ofJson_toInt (w : Int64) : ofJson (.ofInt w.toInt) = .integer w := by
  simp only [Json.ofInt, ofJson, fitInt64?_toInt]

/-- An integer of JSON is a word of 64 bits with a sign, or it is beyond them. -/
theorem exists_toInt_or_large {n : Int} (h : FitsWord (.ofInt n)) :
    (∃ w : Int64, n = w.toInt) ∨
      2 ^ 63 ≤ n ∧ ∃ x, ofJson (.ofInt n) = .float x ∧ (2 ^ 63 : Nat) ≤ x.value := by
  obtain ⟨hlow, hhigh⟩ := h n rfl
  by_cases hlarge : 2 ^ 63 ≤ n
  · exact .inr ⟨hlarge, exists_ofJson_eq_float hhigh hlarge⟩
  · exact .inl ⟨.ofInt n, (Int64.toInt_ofInt_of_le hlow (by omega)).symm⟩

theorem denotes_ofInt_iff {n : Int} {w : Int64} : Denotes (.ofInt n) w ↔ n = w.toInt := by
  constructor
  · intro h
    unfold Json.ofInt at h
    cases h
    rfl
  · rintro rfl
    exact .integer w

theorem toInt?_ofInt_eq_some_iff {n : Int} (hfits : FitsWord (.ofInt n)) {w : Int64} :
    (ofJson (.ofInt n)).toInt? = some w ↔ Denotes (.ofInt n) w := by
  rw [denotes_ofInt_iff]
  rcases exists_toInt_or_large hfits with ⟨w', rfl⟩ | ⟨hlarge, x, hx, hvalue⟩
  · rw [ofJson_toInt, toInt?, Option.some_inj, Int64.toInt_inj]
  · have hhigh := w.toInt_lt
    rw [hx, toInt?, wholeNumber?_eq_some_iff]
    constructor
    · intro h
      exact absurd h.1 (value_ne_toInt hvalue w)
    · intro h
      omega

theorem toInt?_text_eq_some_iff {s : String} {w : Int64} :
    (ofJson (.string s)).toInt? = some w ↔ Denotes (.string s) w := by
  rw [ofJson, toInt?]
  constructor
  · intro h
    cases hinteger : readInt64? (trimBlanks s) with
    | some n =>
      rw [hinteger, Option.some_or] at h
      cases h
      exact .integerText (readInt64?_eq_some_iff.mp hinteger)
    | none =>
      simp only [hinteger, Option.none_or] at h
      split at h
      · rename_i x hfloat
        obtain ⟨hvalue, habove⟩ := wholeNumber?_eq_some_iff.mp h
        exact .floatText (readInt64?_eq_none_iff.mp hinteger) (readFloat?_eq_some_iff.mp hfloat)
          hvalue habove
      · cases h
  · intro h
    cases h with
    | integerText literal => rw [readInt64?_eq_some_iff.mpr literal, Option.some_or]
    | floatText noInteger literal hvalue habove =>
      rw [readInt64?_eq_none_iff.mpr noInteger, readFloat?_eq_some_iff.mpr literal,
        Option.none_or]
      exact wholeNumber?_eq_some_iff.mpr ⟨hvalue, habove⟩

/-- The integer that is read from a value is the one that it denotes. -/
theorem toInt?_ofJson_eq_some_iff {v : Json} (hfits : FitsWord v) {w : Int64} :
    (ofJson v).toInt? = some w ↔ Denotes v w := by
  cases v with
  | null => exact ⟨nofun, nofun⟩
  | bool => exact ⟨nofun, nofun⟩
  | array => exact ⟨nofun, nofun⟩
  | object => exact ⟨nofun, nofun⟩
  | string => exact toInt?_text_eq_some_iff
  | number number =>
    cases number with
    | integer => exact toInt?_ofInt_eq_some_iff hfits
    | float x =>
      constructor
      · intro h
        obtain ⟨hvalue, habove⟩ := wholeNumber?_eq_some_iff.mp h
        exact .float hvalue habove
      · intro h
        cases h with
        | float hvalue habove => exact wholeNumber?_eq_some_iff.mpr ⟨hvalue, habove⟩

theorem switchesOn_ofInt_iff {n : Int} : SwitchesOn (.ofInt n) ↔ n = 1 := by
  constructor
  · intro h
    unfold Json.ofInt at h
    cases h
    rfl
  · rintro rfl
    exact .integer

theorem isOn_float_iff {x : Binary64} : isOn (.float x) = true ↔ x.value = 1 := by
  rw [isOn, beq_iff_eq, Binary64.toInt?_eq_some_iff, Int.cast_one]

theorem isOn_ofInt_iff {n : Int} (hfits : FitsWord (.ofInt n)) :
    (ofJson (.ofInt n)).isOn = true ↔ SwitchesOn (.ofInt n) := by
  rw [switchesOn_ofInt_iff]
  rcases exists_toInt_or_large hfits with ⟨w, rfl⟩ | ⟨hlarge, x, hx, hvalue⟩
  · rw [ofJson_toInt, isOn, beq_iff_eq, ← Int64.toInt_inj]
    rfl
  · rw [hx, isOn_float_iff]
    constructor
    · intro h
      exact absurd h (value_ne_toInt hvalue 1)
    · rintro rfl
      omega

/-- What is read as on is what switches on. -/
theorem isOn_ofJson_iff {v : Json} (hfits : FitsWord v) :
    (ofJson v).isOn = true ↔ SwitchesOn v := by
  cases v with
  | null => exact ⟨nofun, nofun⟩
  | array => exact ⟨nofun, nofun⟩
  | object => exact ⟨nofun, nofun⟩
  | bool b =>
    constructor
    · rintro rfl
      exact .true
    · intro h
      cases h
      rfl
  | string s =>
    rw [ofJson, isOn, Bool.or_eq_true, beq_iff_eq, beq_iff_eq]
    constructor
    · rintro (text | text)
      · exact .digit text
      · exact .word text
    · intro h
      cases h with
      | digit text => exact .inl text
      | word text => exact .inr text
  | number number =>
    cases number with
    | integer => exact isOn_ofInt_iff hfits
    | float x =>
      rw [ofJson, isOn_float_iff]
      constructor
      · exact .float
      · intro h
        cases h with
        | float value => exact value

end Loose

end SiteSearch
