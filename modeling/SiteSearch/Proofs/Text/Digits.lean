import Mathlib.Data.List.Induction
import SiteSearch.Text.Ascii

/-!
# Digits and numbers

A number is read from its digits, and of the digits of one count no two runs denote the same number
(`eq_of_digitsValue_eq`). So a run of digits is known by how long it is and what it denotes.
-/

namespace SiteSearch.Text

theorem digitsValue_toDigits (n : Nat) : digitsValue (Nat.toDigits 10 n) = n := by
  rw [digitsValue]
  exact Nat.ofDigitChars_eq_foldl.symm.trans (Nat.ofDigitChars_toDigits (by decide) (by decide))

theorem digitsValue_toString (n : Nat) : digitsValue (toString n).toList = n := by
  rw [Nat.toString_eq_repr, Nat.toList_repr, digitsValue_toDigits]

theorem isDigit_of_mem_toString {n : Nat} : ∀ c ∈ (toString n).toList, c.isDigit = true := by
  intro c hc
  rw [Nat.toString_eq_repr, Nat.toList_repr] at hc
  exact Nat.isDigit_of_mem_toDigits (by decide) (by decide) hc

theorem digitsValue_concat (cs : List Char) (c : Char) :
    digitsValue (cs ++ [c]) = 10 * digitsValue cs + digitValue c := by
  simp [digitsValue]

theorem toNat_bounds_of_isDigit {c : Char} (h : c.isDigit = true) : 48 ≤ c.toNat ∧ c.toNat ≤ 57 := by
  have hrange := Bool.and_eq_true_iff.mp h
  exact ⟨UInt32.le_iff_toNat_le.mp (of_decide_eq_true hrange.1),
    UInt32.le_iff_toNat_le.mp (of_decide_eq_true hrange.2)⟩

theorem digitValue_lt {c : Char} (h : c.isDigit = true) : digitValue c < 10 := by
  have hbounds := toNat_bounds_of_isDigit h
  have hzero : '0'.toNat = 48 := rfl
  rw [digitValue, hzero]
  omega

theorem eq_of_digitValue_eq {c d : Char} (hc : c.isDigit = true) (hd : d.isDigit = true)
    (h : digitValue c = digitValue d) : c = d := by
  have hcbounds := toNat_bounds_of_isDigit hc
  have hdbounds := toNat_bounds_of_isDigit hd
  have hzero : '0'.toNat = 48 := rfl
  rw [digitValue, digitValue, hzero] at h
  exact Char.toNat_inj.mp (by omega)

/-- Runs of digits of one length that denote one number are the same. -/
theorem eq_of_digitsValue_eq {a b : List Char} (ha : ∀ c ∈ a, c.isDigit = true)
    (hb : ∀ c ∈ b, c.isDigit = true) (hlength : a.length = b.length)
    (h : digitsValue a = digitsValue b) : a = b := by
  induction a using List.reverseRecOn generalizing b with
  | nil => exact (List.length_eq_zero_iff.mp hlength.symm).symm
  | append_singleton a c ih =>
    rcases List.eq_nil_or_concat b with rfl | ⟨b, d, rfl⟩
    · simp at hlength
    · rw [List.concat_eq_append] at *
      have hlast := digitValue_lt (ha c (by simp))
      have hlast' := digitValue_lt (hb d (by simp))
      rw [digitsValue_concat, digitsValue_concat] at h
      have hfront : a = b := by
        apply ih
        · intro e he
          exact ha e (List.mem_append_left _ he)
        · intro e he
          exact hb e (List.mem_append_left _ he)
        · simpa using hlength
        · omega
      have hdigit : c = d := by
        apply eq_of_digitValue_eq (ha c (by simp)) (hb d (by simp))
        omega
      rw [hfront, hdigit]

end SiteSearch.Text
