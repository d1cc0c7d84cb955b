/-!
# Blanks and words

Which characters separate words, and the three things done with that: cutting text into
words, joining words by single spaces, and trimming. Text is read as a list of characters;
the versions on `String` wrap those on lists.

Main statements: the words of a text are non-empty and hold no blank (`mem_words`), and
collapsing keeps the words and is idempotent (`words_collapse`, `collapse_collapse`).
-/

namespace SiteSearch.Text

/-- The characters of the Unicode property `White_Space`. -/
def isBlank (c : Char) : Bool :=
  let n := c.toNat
  (0x09 ≤ n && n ≤ 0x0d) || n == 0x20 || n == 0x85 || n == 0xa0 || n == 0x1680 ||
    (0x2000 ≤ n && n ≤ 0x200a) || n == 0x2028 || n == 0x2029 || n == 0x202f || n == 0x205f ||
    n == 0x3000

/-- The maximal runs of characters that are not blank, in order. -/
def words : List Char → List (List Char)
  | [] => []
  | c :: cs =>
    if isBlank c then words cs
    else match cs.head?.any (fun d => !isBlank d), words cs with
      | true, w :: ws => (c :: w) :: ws
      | _, ws => [c] :: ws

/-- Words joined by single spaces. -/
def unwords (ws : List (List Char)) : List Char := [' '].intercalate ws

/-- Every run of blanks becomes one space, and none is left at either end. -/
def collapse (cs : List Char) : List Char := unwords (words cs)

/-- The text without the blanks at either end. -/
def trim (cs : List Char) : List Char :=
  ((cs.dropWhile isBlank).reverse.dropWhile isBlank).reverse

def collapseBlanks (s : String) : String := .ofList (collapse s.toList)

def trimBlanks (s : String) : String := .ofList (trim s.toList)

/-- There is nothing to see in the text: each of its characters is blank. -/
def isBlankText (s : String) : Bool := s.toList.all isBlank

/-! ## Words -/

@[simp] theorem words_nil : words [] = [] := rfl

theorem words_cons_blank {c : Char} (h : isBlank c = true) (cs : List Char) :
    words (c :: cs) = words cs := by
  simp [words, h]

theorem mem_words {cs w : List Char} (h : w ∈ words cs) :
    w ≠ [] ∧ ∀ c ∈ w, isBlank c = false := by
  induction cs generalizing w with
  | nil => simp at h
  | cons c cs ih =>
    by_cases hc : isBlank c = true
    · rw [words_cons_blank hc] at h
      exact ih h
    · have hc' : isBlank c = false := by simpa using hc
      simp only [words, hc', Bool.false_eq_true, if_false] at h
      split at h
      · rename_i _ v vs _ hv
        rcases List.mem_cons.1 (by simpa using h) with rfl | h
        · have := ih (w := v) (by rw [hv]; simp)
          refine ⟨by simp, ?_⟩
          intro d hd
          rcases List.mem_cons.1 hd with rfl | hd
          · exact hc'
          · exact this.2 d hd
        · exact ih (by rw [hv]; exact List.mem_cons_of_mem _ h)
      · rcases List.mem_cons.1 (by simpa using h) with rfl | h
        · simp [hc']
        · exact ih h

/-- A visible run before a blank or the end is a word of its own. -/
theorem words_append_of_visible {w : List Char} (hw : w ≠ [])
    (hv : ∀ c ∈ w, isBlank c = false) {cs : List Char}
    (hcs : ∀ d ∈ cs.head?, isBlank d = true) : words (w ++ cs) = w :: words cs := by
  induction w with
  | nil => exact absurd rfl hw
  | cons c w ih =>
    have hc := hv c (by simp)
    cases w with
    | nil =>
      simp only [List.singleton_append, words, hc, Bool.false_eq_true, if_false]
      cases cs with
      | nil => simp
      | cons d cs => simp [hcs d (by simp)]
    | cons d w =>
      have := ih (by simp) (fun e he => hv e (List.mem_cons_of_mem _ he))
      have hd := hv d (by simp)
      simp only [List.cons_append] at this ⊢
      rw [words, this]
      simp [hc, hd]

@[simp] theorem unwords_nil : unwords [] = [] := rfl

@[simp] theorem unwords_singleton (w : List Char) : unwords [w] = w := by
  simp [unwords, List.intercalate, List.intersperse]

theorem unwords_cons_cons (w v : List Char) (ws : List (List Char)) :
    unwords (w :: v :: ws) = w ++ ' ' :: unwords (v :: ws) := by
  simp [unwords, List.intercalate, List.intersperse]

theorem words_unwords {ws : List (List Char)}
    (h : ∀ w ∈ ws, w ≠ [] ∧ ∀ c ∈ w, isBlank c = false) : words (unwords ws) = ws := by
  induction ws with
  | nil => rfl
  | cons w ws ih =>
    have hw := h w (by simp)
    have ih := ih fun v hv => h v (List.mem_cons_of_mem _ hv)
    cases ws with
    | nil =>
      have happend : words (w ++ []) = w :: words [] := words_append_of_visible hw.1 hw.2 (by simp)
      rw [List.append_nil, words_nil] at happend
      rw [unwords_singleton, happend]
    | cons v vs =>
      rw [unwords_cons_cons, words_append_of_visible hw.1 hw.2 (by simp; decide),
        words_cons_blank (by decide), ih]

theorem words_collapse (cs : List Char) : words (collapse cs) = words cs :=
  words_unwords fun _ h => mem_words h

theorem collapse_collapse (cs : List Char) : collapse (collapse cs) = collapse cs :=
  congrArg unwords (words_collapse cs)

end SiteSearch.Text
