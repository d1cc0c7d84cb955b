import SiteSearch.Text.Ascii
import SiteSearch.Text.Blank

/-!
# ASCII and the classes of characters

Letters, digits and underscores are ASCII, also those that making letters small leads to, so a
statement about them is a statement about 128 characters (`forall_isAscii`).
-/

namespace SiteSearch.Text

/-- A character of ASCII. -/
def IsAscii (c : Char) : Prop := c.toNat < 128

instance (c : Char) : Decidable (IsAscii c) := inferInstanceAs (Decidable (c.toNat < 128))

theorem isAscii_of_le {c d : Char} (h : c.val ≤ d.val) (hd : IsAscii d) : IsAscii c :=
  Nat.lt_of_le_of_lt (UInt32.le_iff_toNat_le.mp h) hd

theorem isAscii_of_isUpper {c : Char} (h : c.isUpper = true) : IsAscii c :=
  @isAscii_of_le c 'Z' (of_decide_eq_true h).2 (by decide)

theorem isAscii_of_isWordChar {c : Char} (h : isWordChar c = true) : IsAscii c := by
  have hclasses : (((c.isUpper || c.isLower) || c.isDigit) || c == '_') = true := h
  simp only [Bool.or_eq_true, beq_iff_eq] at hclasses
  rcases hclasses with ((hupper | hlower) | hdigit) | rfl
  · exact isAscii_of_isUpper hupper
  · exact @isAscii_of_le c 'z' (of_decide_eq_true (Bool.and_eq_true_iff.mp hlower).2) (by decide)
  · exact @isAscii_of_le c '9' (of_decide_eq_true (Bool.and_eq_true_iff.mp hdigit).2) (by decide)
  · decide

/-- Beyond ASCII there are no letters to make small. -/
theorem toLower_of_not_isAscii {c : Char} (h : ¬ IsAscii c) : c.toLower = c :=
  dif_neg fun hrange => h (isAscii_of_isUpper (decide_eq_true hrange))

/-- Making a letter small takes no character into ASCII. -/
theorem isAscii_of_toLower {c : Char} (h : IsAscii c.toLower) : IsAscii c := by
  by_cases hc : IsAscii c
  · exact hc
  · rwa [toLower_of_not_isAscii hc] at h

/-- What holds for the first 128 numbers holds for ASCII. -/
theorem forall_isAscii {p : Char → Prop} (h : ∀ n < 128, p (Char.ofNat n)) {c : Char}
    (hc : IsAscii c) : p c := by
  have hp := h c.toNat hc
  rwa [Char.ofNat_toNat] at hp

/-- What is the same for the small forms of ASCII is the same for all small forms. -/
theorem apply_toLower {α : Type} (f : Char → α)
    (h : ∀ n < 128, f (Char.ofNat n).toLower = f (Char.ofNat n)) (c : Char) :
    f c.toLower = f c := by
  by_cases hc : IsAscii c
  · exact @forall_isAscii (fun c => f c.toLower = f c) h c hc
  · rw [toLower_of_not_isAscii hc]

theorem isWordChar_toLower (c : Char) : isWordChar c.toLower = isWordChar c :=
  apply_toLower isWordChar (by decide) c

theorem isDigit_toLower (c : Char) : c.toLower.isDigit = c.isDigit :=
  apply_toLower Char.isDigit (by decide) c

theorem isBlank_toLower (c : Char) : isBlank c.toLower = isBlank c :=
  apply_toLower isBlank (by decide) c

theorem utf8Size_toLower (c : Char) : c.toLower.utf8Size = c.utf8Size :=
  apply_toLower Char.utf8Size (by decide) c

/-- Marks are the small form of nothing else. -/
theorem eq_of_toLower_eq {c mark : Char} (hmark : isWordChar mark = false)
    (h : c.toLower = mark) : c = mark := by
  subst h
  by_cases hc : IsAscii c
  · revert hmark
    exact @forall_isAscii (fun c => isWordChar c.toLower = false → c = c.toLower) (by decide) c hc
  · exact (toLower_of_not_isAscii hc).symm

theorem asciiLower_asciiLower (cs : List Char) : asciiLower (asciiLower cs) = asciiLower cs := by
  rw [asciiLower, asciiLower, List.map_map]
  exact List.map_congr_left fun c _ => apply_toLower Char.toLower (by decide) c

theorem foldCase_ofList_asciiLower (cs : List Char) :
    foldCase (.ofList (asciiLower cs)) = .ofList (asciiLower cs) := by
  rw [foldCase, String.toList_ofList, asciiLower_asciiLower]

/-- A text is made of letters, digits and underscores if it is so in small letters. -/
theorem isWordChar_of_asciiLower {cs word : List Char} (h : asciiLower cs = word)
    (hword : ∀ c ∈ word, isWordChar c = true) : ∀ c ∈ cs, isWordChar c = true := by
  intro c hc
  rw [← isWordChar_toLower]
  apply hword
  rw [← h]
  exact List.mem_map_of_mem hc

theorem toLower_eq_of_isDigit {c : Char} (h : c.toLower.isDigit = true) : c.toLower = c := by
  have hword : isWordChar c.toLower = true := by simp [isWordChar, Char.isAlphanum, h]
  have hc : IsAscii c := isAscii_of_toLower (isAscii_of_isWordChar hword)
  revert h
  exact @forall_isAscii (fun c => c.toLower.isDigit = true → c.toLower = c) (by decide) c hc

/-- Digits are typed in one way only. -/
theorem eq_of_asciiLower_of_isDigit {cs digits : List Char} (h : asciiLower cs = digits)
    (hdigits : ∀ c ∈ digits, c.isDigit = true) : cs = digits := by
  have hsame : cs.map Char.toLower = cs.map id := by
    apply List.map_congr_left
    intro c hc
    apply toLower_eq_of_isDigit
    apply hdigits
    rw [← h]
    exact List.mem_map_of_mem hc
  rw [← h, asciiLower, hsame, List.map_id]

theorem isBlank_of_isWordChar {c : Char} (h : isWordChar c = true) : isBlank c = false := by
  have hc : IsAscii c := isAscii_of_isWordChar h
  revert h
  exact @forall_isAscii (fun c => isWordChar c = true → isBlank c = false) (by decide) c hc

theorem isWordChar_of_isBlank {c : Char} (h : isBlank c = true) : isWordChar c = false := by
  cases hword : isWordChar c with
  | false => rfl
  | true =>
    rw [isBlank_of_isWordChar hword] at h
    cases h

/-! ## Runs of a class -/

theorem takeWhile_append_of_head {p : Char → Bool} {value rest : List Char}
    (hvalue : ∀ c ∈ value, p c = true) (hrest : ∀ c ∈ rest.head?, p c = false) :
    (value ++ rest).takeWhile p = value := by
  rw [List.takeWhile_append_of_pos hvalue]
  cases rest with
  | nil => simp
  | cons c rest => simp [hrest c (by simp)]

theorem dropWhile_append_of_head {p : Char → Bool} {value rest : List Char}
    (hvalue : ∀ c ∈ value, p c = true) (hrest : ∀ c ∈ rest.head?, p c = false) :
    (value ++ rest).dropWhile p = rest := by
  rw [List.dropWhile_append_of_pos hvalue]
  cases rest with
  | nil => simp
  | cons c rest => simp [hrest c (by simp)]

end SiteSearch.Text
