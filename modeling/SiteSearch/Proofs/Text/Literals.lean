import SiteSearch.Proofs.Text.Ascii
import SiteSearch.Proofs.Text.Digits
import SiteSearch.Text.Integer

/-!
# Integer literals

The grammar of integers in decimal, and that a text is read as an integer exactly when it is a
literal of it (`readInt?_eq_some_iff`). Every integer has a literal, the one in which it is written
(`integerLiteral_toString`).
-/

namespace SiteSearch.Text

/-- One digit or more, and nothing else. -/
structure IsNumeral (cs : List Char) : Prop where
  ne_nil : cs ≠ []
  isDigit : ∀ c ∈ cs, c.isDigit = true

/-- A literal and the integer that it denotes. -/
inductive IntegerLiteral : List Char → Int → Prop where
  | unsigned {ds : List Char} (h : IsNumeral ds) : IntegerLiteral ds (digitsValue ds)
  | plus {ds : List Char} (h : IsNumeral ds) : IntegerLiteral ('+' :: ds) (digitsValue ds)
  | minus {ds : List Char} (h : IsNumeral ds) : IntegerLiteral ('-' :: ds) (-digitsValue ds)

theorem IsNumeral.exists_cons {cs : List Char} (h : IsNumeral cs) :
    ∃ c ds, cs = c :: ds ∧ c.isDigit = true := by
  obtain ⟨c, ds, hcs⟩ := List.exists_cons_of_ne_nil h.ne_nil
  exact ⟨c, ds, hcs, h.isDigit c (by simp [hcs])⟩

theorem isNumeral_toString (n : Nat) : IsNumeral (toString n).toList where
  ne_nil := by
    rw [Nat.toString_eq_repr, Nat.toList_repr]
    exact Nat.toDigits_ne_nil
  isDigit := isDigit_of_mem_toString

theorem readDigits?_eq_some_iff {cs : List Char} {n : Nat} :
    readDigits? cs = some n ↔ IsNumeral cs ∧ digitsValue cs = n := by
  have hnumeral : (cs ≠ [] ∧ cs.all Char.isDigit = true) ↔ IsNumeral cs := by
    rw [List.all_eq_true]
    exact ⟨fun h => ⟨h.1, h.2⟩, fun h => ⟨h.ne_nil, h.isDigit⟩⟩
  simp only [readDigits?, hnumeral, Option.ite_none_right_eq_some, Option.some_inj]

theorem map_readDigits?_eq_some_iff {α : Type} {f : Nat → α} {cs : List Char} {x : α} :
    (readDigits? cs).map f = some x ↔ IsNumeral cs ∧ f (digitsValue cs) = x := by
  simp only [Option.map_eq_some_iff, readDigits?_eq_some_iff]
  constructor
  · rintro ⟨n, ⟨hcs, rfl⟩, hx⟩
    exact ⟨hcs, hx⟩
  · rintro ⟨hcs, hx⟩
    exact ⟨_, ⟨hcs, rfl⟩, hx⟩

theorem readInt?_plus (ds : List Char) :
    readInt? ('+' :: ds) = (readDigits? ds).map fun n : Nat => (n : Int) := by
  cases hds : readDigits? ds <;> simp [readInt?, readNat?, hds]

theorem readInt?_minus (ds : List Char) :
    readInt? ('-' :: ds) = (readDigits? ds).map fun n : Nat => -(n : Int) := by
  cases hds : readDigits? ds <;> simp [readInt?, hds]

/-- Without a sign in front, digits must come at once. -/
theorem readInt?_of_ne_sign {cs : List Char} (h : ∀ ds, cs ≠ '+' :: ds ∧ cs ≠ '-' :: ds) :
    readInt? cs = (readDigits? cs).map fun n : Nat => (n : Int) := by
  have hnat : readNat? cs = readDigits? cs := by
    rw [readNat?.eq_def]
    split
    · exact absurd rfl (h _).1
    · rfl
  rw [readInt?.eq_def]
  split
  · exact absurd rfl (h _).2
  · rw [hnat]
    cases readDigits? cs <;> rfl

theorem readInt?_of_isNumeral {ds : List Char} (h : IsNumeral ds) :
    readInt? ds = some (digitsValue ds : Int) := by
  have hsign : ∀ rest, ds ≠ '+' :: rest ∧ ds ≠ '-' :: rest := by
    obtain ⟨c, cs, rfl, hdigit⟩ := h.exists_cons
    intro rest
    constructor
    · rintro heq
      obtain ⟨rfl, -⟩ := List.cons.inj heq
      exact absurd hdigit (by decide)
    · rintro heq
      obtain ⟨rfl, -⟩ := List.cons.inj heq
      exact absurd hdigit (by decide)
  rw [readInt?_of_ne_sign hsign]
  exact map_readDigits?_eq_some_iff.mpr ⟨h, rfl⟩

/-- A text is read as the integer of which it is a literal. -/
theorem readInt?_eq_some_iff {cs : List Char} {n : Int} :
    readInt? cs = some n ↔ IntegerLiteral cs n := by
  constructor
  · intro h
    by_cases hsign : ∀ ds, cs ≠ '+' :: ds ∧ cs ≠ '-' :: ds
    · rw [readInt?_of_ne_sign hsign] at h
      obtain ⟨hds, rfl⟩ := map_readDigits?_eq_some_iff.mp h
      exact .unsigned hds
    · simp only [not_forall, not_and_or, not_not] at hsign
      obtain ⟨ds, rfl | rfl⟩ := hsign
      · rw [readInt?_plus] at h
        obtain ⟨hds, rfl⟩ := map_readDigits?_eq_some_iff.mp h
        exact .plus hds
      · rw [readInt?_minus] at h
        obtain ⟨hds, rfl⟩ := map_readDigits?_eq_some_iff.mp h
        exact .minus hds
  · intro h
    cases h with
    | unsigned hds => exact readInt?_of_isNumeral hds
    | plus hds =>
      rw [readInt?_plus]
      exact map_readDigits?_eq_some_iff.mpr ⟨hds, rfl⟩
    | minus hds =>
      rw [readInt?_minus]
      exact map_readDigits?_eq_some_iff.mpr ⟨hds, rfl⟩

theorem isBlank_of_isDigit {c : Char} (h : c.isDigit = true) : isBlank c = false :=
  isBlank_of_isWordChar (by simp [isWordChar, Char.isAlphanum, h])

theorem IntegerLiteral.visible {cs : List Char} {n : Int} (h : IntegerLiteral cs n) :
    ∀ c ∈ cs, isBlank c = false := by
  cases h with
  | unsigned h => exact fun c hc => isBlank_of_isDigit (h.isDigit c hc)
  | plus h =>
    rw [List.forall_mem_cons]
    exact ⟨by decide, fun c hc => isBlank_of_isDigit (h.isDigit c hc)⟩
  | minus h =>
    rw [List.forall_mem_cons]
    exact ⟨by decide, fun c hc => isBlank_of_isDigit (h.isDigit c hc)⟩

theorem integerLiteral_toString (n : Int) : IntegerLiteral (toString n).toList n := by
  cases n with
  | ofNat m =>
    have hliteral := IntegerLiteral.unsigned (isNumeral_toString m)
    rwa [digitsValue_toString] at hliteral
  | negSucc m =>
    have htext : (toString (Int.negSucc m)).toList = '-' :: (toString (m + 1)).toList := by
      change ("-" ++ toString (m + 1)).toList = _
      rw [String.toList_append]
      rfl
    have hliteral := IntegerLiteral.minus (isNumeral_toString (m + 1))
    rwa [digitsValue_toString, ← htext] at hliteral

theorem fitInt64?_eq_some_iff {n : Int} {w : Int64} : fitInt64? n = some w ↔ w.toInt = n := by
  constructor
  · exact toInt_of_fitInt64?
  · rintro rfl
    exact fitInt64?_toInt w

theorem fitInt32?_eq_some_iff {n : Int} {w : Int32} : fitInt32? n = some w ↔ w.toInt = n := by
  have hlow := w.le_toInt
  have hhigh := w.toInt_lt
  simp only [fitInt32?, Option.ite_none_right_eq_some, Option.some_inj]
  constructor
  · rintro ⟨hn, rfl⟩
    exact Int32.toInt_ofInt_of_le (by omega) (by omega)
  · rintro rfl
    exact ⟨by omega, Int32.ofInt_toInt w⟩

theorem readInt64?_eq_some_iff {s : String} {w : Int64} :
    readInt64? s = some w ↔ IntegerLiteral s.toList w.toInt := by
  rw [readInt64?, Option.bind_eq_bind, Option.bind_eq_some_iff]
  simp only [readInt?_eq_some_iff, fitInt64?_eq_some_iff]
  constructor
  · rintro ⟨n, hn, rfl⟩
    exact hn
  · intro h
    exact ⟨_, h, rfl⟩

theorem readInt64?_eq_none_iff {s : String} :
    readInt64? s = none ↔ ∀ w : Int64, ¬ IntegerLiteral s.toList w.toInt := by
  simp only [Option.eq_none_iff_forall_ne_some, ne_eq, readInt64?_eq_some_iff]

end SiteSearch.Text
