import SiteSearch.Proofs.Query.Matches
import SiteSearch.Proofs.Text.Ascii

/-!
# Texts as bytes

A text in UTF-8, read byte by byte, each byte as the character of that number. A character of
ASCII is its own byte and every other one takes only bytes that are no ASCII, so what is said
about ASCII at a place in the bytes is the same as what is said about it in the characters.
-/

namespace SiteSearch.Query

open SiteSearch.Text

/-- The bytes of a text in UTF-8, each as the character of that number. -/
def octets (s : String) : List Char := s.toUTF8.data.toList.map Char.ofUInt8

/-- The bytes of a character. -/
def encodedChar (c : Char) : List Char := (String.utf8EncodeChar c).map Char.ofUInt8

/-- The bytes of characters. -/
def encoded (cs : List Char) : List Char := cs.flatMap encodedChar

theorem octets_eq_encoded (s : String) : octets s = encoded s.toList := by
  rw [octets, String.toUTF8_eq_toByteArray, ← String.utf8Encode_toList, List.utf8Encode,
    List.toList_data_toByteArray, List.map_flatMap]
  rfl

/-! ## The bytes of a character -/

theorem encodedChar_of_isAscii {c : Char} (h : IsAscii c) : encodedChar c = [c] := by
  have hsize : c.utf8Size = 1 := by
    rw [Char.utf8Size_eq_one_iff, UInt32.le_iff_toNat_le]
    exact Nat.le_of_lt_succ h
  rw [encodedChar, String.utf8EncodeChar_eq_singleton hsize, List.map_singleton]
  congr 1
  apply Char.toNat_inj.mp
  have hbyte : c.toNat % 256 = c.toNat := by
    rw [IsAscii] at h
    omega
  exact (UInt32.toNat_toUInt8 c.val).trans hbyte

theorem le_toNat_ofNat_add {low high : Nat} (hhigh : 128 ≤ high) (hsum : low + high < 256) :
    128 ≤ (UInt8.ofNat (low + high)).toNat := by
  rw [UInt8.toNat_ofNat', Nat.mod_eq_of_lt hsum]
  omega

/-- Every byte of a character outside ASCII is outside ASCII. -/
theorem le_of_mem_utf8EncodeChar {c : Char} (hc : ¬ IsAscii c) {byte : UInt8}
    (hbyte : byte ∈ String.utf8EncodeChar c) : 128 ≤ byte.toNat := by
  have hval : ¬ c.val.toNat ≤ 127 := fun hle => hc (Nat.lt_succ_of_le hle)
  rw [String.utf8EncodeChar, if_neg hval] at hbyte
  split at hbyte
  · simp only [List.mem_cons, List.not_mem_nil, or_false] at hbyte
    rcases hbyte with rfl | rfl
    · exact le_toNat_ofNat_add (by omega) (by omega)
    · exact le_toNat_ofNat_add (by omega) (by omega)
  · split at hbyte
    · simp only [List.mem_cons, List.not_mem_nil, or_false] at hbyte
      rcases hbyte with rfl | rfl | rfl
      · exact le_toNat_ofNat_add (by omega) (by omega)
      · exact le_toNat_ofNat_add (by omega) (by omega)
      · exact le_toNat_ofNat_add (by omega) (by omega)
    · simp only [List.mem_cons, List.not_mem_nil, or_false] at hbyte
      rcases hbyte with rfl | rfl | rfl | rfl
      · exact le_toNat_ofNat_add (by omega) (by omega)
      · exact le_toNat_ofNat_add (by omega) (by omega)
      · exact le_toNat_ofNat_add (by omega) (by omega)
      · exact le_toNat_ofNat_add (by omega) (by omega)

/-- A byte that is ASCII is the whole of the character that it is a part of. -/
theorem eq_of_mem_encodedChar {c b : Char} (hb : b ∈ encodedChar c) (hascii : IsAscii b) :
    b = c := by
  by_cases hc : IsAscii c
  · rwa [encodedChar_of_isAscii hc, List.mem_singleton] at hb
  · obtain ⟨byte, hbyte, rfl⟩ := List.mem_map.mp hb
    have hhigh := le_of_mem_utf8EncodeChar hc hbyte
    have hlow : byte.toNat < 128 := hascii
    omega

/-! ## Places in the bytes -/

@[simp] theorem encoded_nil : encoded [] = [] := rfl

@[simp] theorem encoded_cons (c : Char) (cs : List Char) :
    encoded (c :: cs) = encodedChar c ++ encoded cs := rfl

@[simp] theorem encoded_append (a b : List Char) : encoded (a ++ b) = encoded a ++ encoded b := by
  simp [encoded]

theorem encoded_of_isAscii {cs : List Char} (h : ∀ c ∈ cs, IsAscii c) : encoded cs = cs := by
  induction cs with
  | nil => rfl
  | cons c cs ih =>
    rw [encoded_cons, encodedChar_of_isAscii (h c (by simp)),
      ih fun d hd => h d (List.mem_cons_of_mem _ hd)]
    rfl

theorem length_encoded (cs : List Char) : (encoded cs).length = utf8Length cs := by
  induction cs with
  | nil => rfl
  | cons c cs ih =>
    rw [encoded_cons, List.length_append, ih, encodedChar, List.length_map,
      String.length_utf8EncodeChar, utf8Length_cons]

theorem encodedChar_ne_nil (c : Char) : encodedChar c ≠ [] := by
  simp [encodedChar]

/-- Where a byte is ASCII, a character starts, and it is that byte. -/
theorem exists_of_encoded_eq_append_cons {cs before after : List Char} {b : Char}
    (h : encoded cs = before ++ b :: after) (hb : IsAscii b) :
    ∃ front rest, cs = front ++ b :: rest ∧ before = encoded front ∧ after = encoded rest := by
  induction cs generalizing before with
  | nil => simp at h
  | cons c cs ih =>
    rw [encoded_cons] at h
    rcases List.append_eq_append_iff.mp h with ⟨middle, rfl, hrest⟩ | ⟨middle, hc, hrest⟩
    · -- The byte lies behind the first character.
      obtain ⟨front, rest, rfl, rfl, rfl⟩ := ih hrest
      exact ⟨c :: front, rest, rfl, rfl, rfl⟩
    · cases middle with
      | nil =>
        have hbehind : encoded cs = [] ++ b :: after := hrest.symm
        obtain ⟨front, rest, rfl, hfront, rfl⟩ := ih hbehind
        exact ⟨c :: front, rest, rfl, by simpa [← hfront] using hc.symm, rfl⟩
      | cons d middle =>
        -- The byte lies in the first character, so it is that character.
        obtain ⟨rfl, hafter⟩ := List.cons.inj hrest
        obtain rfl := eq_of_mem_encodedChar (by rw [hc]; simp) hb
        rw [encodedChar_of_isAscii hb] at hc
        obtain ⟨rfl, hnil⟩ | ⟨-, hnil⟩ := List.append_eq_singleton_iff.mp hc.symm
        · obtain rfl : middle = [] := by simpa using hnil
          exact ⟨[], cs, rfl, rfl, hafter⟩
        · simp at hnil

/-- Where the bytes start with a run of ASCII, so do the characters. -/
theorem encoded_eq_append_iff {cs run after : List Char} (hrun : ∀ c ∈ run, IsAscii c) :
    encoded cs = run ++ after ↔ ∃ rest, cs = run ++ rest ∧ after = encoded rest := by
  constructor
  · intro h
    induction run generalizing cs with
    | nil => exact ⟨cs, rfl, h.symm⟩
    | cons c run ih =>
      have hcons : encoded cs = [] ++ c :: (run ++ after) := h
      obtain ⟨front, rest, rfl, hfront, hrest⟩ :=
        exists_of_encoded_eq_append_cons hcons (hrun c (by simp))
      have hnil : front = [] := by
        cases front with
        | nil => rfl
        | cons d front => simp [encodedChar_ne_nil] at hfront
      obtain ⟨rest, rfl, hafter⟩ := ih (fun d hd => hrun d (List.mem_cons_of_mem _ hd)) hrest.symm
      exact ⟨rest, by simp [hnil], hafter⟩
  · intro h
    obtain ⟨rest, rfl, rfl⟩ := h
    rw [encoded_append, encoded_of_isAscii hrun]

/-- Where a run of ASCII stands in the bytes, it stands in the characters. -/
theorem exists_of_encoded_eq_append {cs before run after : List Char}
    (h : encoded cs = before ++ run ++ after) (hne : run ≠ []) (hrun : ∀ c ∈ run, IsAscii c) :
    ∃ front rest, cs = front ++ run ++ rest ∧ before = encoded front ∧ after = encoded rest := by
  obtain ⟨c, run, rfl⟩ := List.exists_cons_of_ne_nil hne
  rw [List.append_assoc, List.cons_append] at h
  obtain ⟨front, behind, rfl, hbefore, hbehind⟩ :=
    exists_of_encoded_eq_append_cons h (hrun c List.mem_cons_self)
  obtain ⟨rest, rfl, hafter⟩ :=
    (encoded_eq_append_iff fun d hd => hrun d (List.mem_cons_of_mem _ hd)).mp hbehind.symm
  exact ⟨front, rest, by simp, hbefore, hafter⟩

theorem isWordChar_of_not_isAscii {c : Char} (h : ¬ IsAscii c) : isWordChar c = false := by
  cases hword : isWordChar c with
  | false => rfl
  | true => exact absurd (isAscii_of_isWordChar hword) h

theorem afterWord_encodedChar (start : Bool) (c : Char) :
    afterWord start (encodedChar c) = isWordChar c := by
  by_cases hc : IsAscii c
  · rw [encodedChar_of_isAscii hc]
    rfl
  · have hne := encodedChar_ne_nil c
    have hlast : ¬ IsAscii ((encodedChar c).getLast hne) := by
      intro hascii
      have heq := eq_of_mem_encodedChar (List.getLast_mem hne) hascii
      exact hc (heq ▸ hascii)
    rw [← List.dropLast_concat_getLast hne, afterWord_concat, isWordChar_of_not_isAscii hlast,
      isWordChar_of_not_isAscii hc]

theorem head?_encoded_of_isWordChar {cs : List Char} :
    (∀ c ∈ (encoded cs).head?, isWordChar c = false) ↔ ∀ c ∈ cs.head?, isWordChar c = false := by
  cases cs with
  | nil => rfl
  | cons c cs =>
    by_cases hc : IsAscii c
    · rw [encoded_cons, encodedChar_of_isAscii hc]
      rfl
    · obtain ⟨b, bytes, hbytes⟩ := List.exists_cons_of_ne_nil (encodedChar_ne_nil c)
      have hb : ¬ IsAscii b := by
        intro hascii
        have heq := eq_of_mem_encodedChar (by rw [hbytes]; exact List.mem_cons_self) hascii
        exact hc (heq ▸ hascii)
      simp [hbytes, isWordChar_of_not_isAscii hb, isWordChar_of_not_isAscii hc]

/-- A letter, digit or underscore is seen in the bytes before a place and in the characters
alike. -/
theorem afterWord_encoded (start : Bool) (cs : List Char) :
    afterWord start (encoded cs) = afterWord start cs := by
  induction cs generalizing start with
  | nil => rfl
  | cons c cs ih =>
    rw [encoded_cons, afterWord_append, afterWord_encodedChar, ih, afterWord_cons]

end SiteSearch.Query
