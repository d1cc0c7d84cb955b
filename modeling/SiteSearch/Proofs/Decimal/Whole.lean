import Mathlib.Data.Rat.Cast.Order
import SiteSearch.Decimal.Binary64

/-!
# Whole floats

The number that a float is, and when it is an integer (`Binary64.toInt?_eq_some_iff`). A whole
number that is too large for a word of 64 bits with a sign stays too large when it becomes a float
(`nearest?_of_large`).
-/

namespace SiteSearch.Decimal

/-- Units are counted in powers of two. -/
theorem exists_units_eq :
    ∃ e, unitsPerOne = 2 ^ e ∧ overflowUnits = 2 ^ (e + 1024) ∧ 52 ≤ e := by
  unfold unitsPerOne overflowUnits
  generalize he : 1074 = e
  generalize hf : 2098 = f
  obtain rfl : f = e + 1024 := by omega
  exact ⟨e, rfl, rfl, by omega⟩

theorem unitsPerOne_pos : 0 < unitsPerOne := by
  obtain ⟨e, he, -⟩ := exists_units_eq
  rw [he]
  exact Nat.two_pow_pos e

/-! ## Values -/

namespace Binary64

/-- The number that a float is. -/
def value (x : Binary64) : ℚ :=
  if x.negative then -(x.magnitude / unitsPerOne) else x.magnitude / unitsPerOne

/-- A quotient is an integer when it has no remainder. -/
theorem div_eq_intCast_iff {m u : Nat} (hu : 0 < u) {n : Int} :
    (m / u : ℚ) = n ↔ m % u = 0 ∧ (m : Int) / u = n := by
  have hunits : (u : Int) ≠ 0 := Int.natCast_ne_zero.mpr hu.ne'
  have hmul : (m / u : ℚ) = n ↔ (m : Int) = n * u := by
    rw [div_eq_iff (Nat.cast_ne_zero.mpr hu.ne')]
    norm_cast
  rw [hmul]
  constructor
  · intro h
    have hmod : (m : Int) % u = 0 := by rw [h, Int.mul_emod_left]
    exact ⟨by exact_mod_cast hmod, by rw [h, Int.mul_ediv_cancel _ hunits]⟩
  · rintro ⟨hmod, rfl⟩
    have hmod' : (m : Int) % u = 0 := by exact_mod_cast hmod
    exact (Int.ediv_mul_cancel (Int.dvd_of_emod_eq_zero hmod')).symm

/-- A float is told to be an integer exactly when it is that one. -/
theorem toInt?_eq_some_iff {x : Binary64} {n : Int} : x.toInt? = some n ↔ x.value = n := by
  simp only [toInt?, Option.ite_none_right_eq_some, Option.some_inj, value]
  cases x.negative with
  | false =>
    simp only [Bool.false_eq_true, if_false]
    exact (div_eq_intCast_iff unitsPerOne_pos).symm
  | true =>
    simp only [if_true, neg_eq_iff_eq_neg, ← Int.cast_neg]
    exact (div_eq_intCast_iff unitsPerOne_pos).symm

theorem le_div_of_mul_le {k m u : Nat} (hu : 0 < u) (h : k * u ≤ m) : (k : ℚ) ≤ m / u := by
  rw [le_div_iff₀ (Nat.cast_pos.mpr hu)]
  exact_mod_cast h

theorem le_value {k units : Nat} (h : k * unitsPerOne ≤ units) :
    (k : ℚ) ≤ value ⟨false, units⟩ := le_div_of_mul_le unitsPerOne_pos h

end Binary64

/-! ## Large numbers -/

theorem div_le_roundHalfEven (num den : Nat) : num / den ≤ roundHalfEven num den := by
  simp only [roundHalfEven]
  split
  · exact Nat.le_refl _
  · split
    · exact Nat.le_succ _
    · exact Nat.le_add_right _ _

theorem roundHalfEven_le (num den : Nat) : roundHalfEven num den ≤ num / den + 1 := by
  simp only [roundHalfEven]
  split
  · exact Nat.le_succ _
  · split
    · exact Nat.le_refl _
    · have := Nat.mod_lt (num / den) Nat.two_pos
      omega

/-- Rounding to a float does not take a whole number below a power of two. -/
theorem nearest?_of_two_pow_le {n k : Nat} (hlow : 2 ^ k ≤ n) (hhigh : n < 2 ^ (k + 1))
    (hk : k < 1023) : ∃ units, nearest? n 1 = some units ∧ 2 ^ k * unitsPerOne ≤ units := by
  obtain ⟨e, hunits, hoverflow, he⟩ := exists_units_eq
  rw [nearest?, hunits, hoverflow]
  have hscaled_low : 2 ^ (k + e) ≤ n * 2 ^ e := by
    rw [Nat.pow_add]
    exact Nat.mul_le_mul_right _ hlow
  have hscaled_high : n * 2 ^ e < 2 ^ (k + e + 1) := by
    rw [Nat.add_right_comm, Nat.pow_add]
    exact Nat.mul_lt_mul_of_pos_right hhigh (Nat.two_pow_pos e)
  generalize n * 2 ^ e = scaled at *
  have hlog : scaled.log2 = k + e := by
    have hpos : scaled ≠ 0 := (Nat.lt_of_lt_of_le (Nat.two_pow_pos _) hscaled_low).ne'
    exact (Nat.log2_eq_iff hpos).mpr ⟨hscaled_low, hscaled_high⟩
  obtain ⟨d, hd⟩ := Nat.exists_eq_add_of_le' he
  have hgap : spacing (scaled / 1) = 2 ^ (k + d) := by
    have hexponent : k + e - 52 = k + d := by omega
    rw [spacing, Nat.div_one, hlog, hexponent, Nat.pow_eq]
  have hfloor : 2 ^ 52 ≤ scaled / 2 ^ (k + d) := by
    rw [Nat.le_div_iff_mul_le (Nat.two_pow_pos _), ← Nat.pow_add]
    have hexponent : 52 + (k + d) = k + e := by omega
    rwa [hexponent]
  have hceil : scaled / 2 ^ (k + d) < 2 ^ 53 := by
    rw [Nat.div_lt_iff_lt_mul (Nat.two_pow_pos _), ← Nat.pow_add]
    have hexponent : 53 + (k + d) = k + e + 1 := by omega
    rwa [hexponent]
  have hrounded := roundHalfEven_le scaled (2 ^ (k + d))
  have hrounded' := hfloor.trans (div_le_roundHalfEven scaled (2 ^ (k + d)))
  have hunits_low : 2 ^ k * 2 ^ e ≤ roundHalfEven scaled (2 ^ (k + d)) * 2 ^ (k + d) := by
    have hexponent : k + e = 52 + (k + d) := by omega
    calc 2 ^ k * 2 ^ e = 2 ^ 52 * 2 ^ (k + d) := by
          rw [← Nat.pow_add, ← Nat.pow_add, hexponent]
      _ ≤ roundHalfEven scaled (2 ^ (k + d)) * 2 ^ (k + d) := Nat.mul_le_mul_right _ hrounded'
  have hunits_high : roundHalfEven scaled (2 ^ (k + d)) * 2 ^ (k + d) < 2 ^ (e + 1024) := by
    calc roundHalfEven scaled (2 ^ (k + d)) * 2 ^ (k + d) ≤ 2 ^ 53 * 2 ^ (k + d) :=
          Nat.mul_le_mul_right _ (by omega)
      _ = 2 ^ (53 + (k + d)) := (Nat.pow_add _ _ _).symm
      _ < 2 ^ (e + 1024) := Nat.pow_lt_pow_right (by decide) (by omega)
  refine ⟨_, ?_, hunits_low⟩
  simp only [hgap, Nat.one_mul, if_pos hunits_high]

/-- A whole number beyond the words of 64 bits with a sign is still beyond them as a float. -/
theorem nearest?_of_large {n : Nat} (hlow : 2 ^ 63 ≤ n) (hhigh : n < 2 ^ 64) :
    ∃ units, nearest? n 1 = some units ∧ (2 ^ 63 : Nat) ≤ Binary64.value ⟨false, units⟩ := by
  obtain ⟨units, hunits, hle⟩ := nearest?_of_two_pow_le hlow hhigh (by decide)
  exact ⟨units, hunits, Binary64.le_value hle⟩

end SiteSearch.Decimal
