import Mathlib.Data.List.Chain
import Mathlib.Data.List.TakeWhile
import SiteSearch.Text.Blank

/-!
# Blanks around and between words

Trimming leaves nothing of a text exactly when there is nothing to see in it. The words of a text
hold all of it that can be seen, in order, and put together one space apart they make a text whose
blanks are single spaces between words (`spaced_collapse`, `filter_visible_collapse`).

A statement about texts that depends on blanks and words is proved by induction on the words
(`words_induction`).
-/

namespace SiteSearch.Text

/-! ## Trimming -/

theorem trim_eq_nil_iff {cs : List Char} : trim cs = [] ↔ ∀ c ∈ cs, isBlank c = true := by
  constructor
  · intro h
    have hrest : ∀ c ∈ cs.dropWhile isBlank, isBlank c = true := by
      rw [trim, List.reverse_eq_nil_iff, List.dropWhile_eq_nil_iff] at h
      intro c hc
      exact h c (List.mem_reverse.mpr hc)
    intro c hc
    rw [← List.takeWhile_append_dropWhile (p := isBlank) (l := cs), List.mem_append] at hc
    rcases hc with hc | hc
    · exact List.all_eq_true.mp List.all_takeWhile c hc
    · exact hrest c hc
  · intro h
    rw [trim, List.dropWhile_eq_nil_iff.mpr h]
    rfl

/-- Where nothing is blank, nothing is trimmed. -/
theorem trim_of_visible {cs : List Char} (h : ∀ c ∈ cs, isBlank c = false) : trim cs = cs := by
  have hdrop : ∀ {l : List Char}, (∀ c ∈ l, isBlank c = false) → l.dropWhile isBlank = l := by
    intro l hl
    cases l with
    | nil => rfl
    | cons c l => rw [List.dropWhile_cons_of_neg (by simp [hl c List.mem_cons_self])]
  rw [trim, hdrop h, hdrop fun c hc => h c (List.mem_reverse.mp hc), List.reverse_reverse]

theorem trimBlanks_eq_empty_iff {s : String} : trimBlanks s = "" ↔ isBlankText s = true := by
  have hnil : trimBlanks s = "" ↔ trim s.toList = [] := by
    rw [trimBlanks, ← String.toList_inj, String.toList_ofList]
    rfl
  rw [hnil, trim_eq_nil_iff, isBlankText, List.all_eq_true]

/-! ## What can be seen -/

/-- The words of a text together are what can be seen of it. -/
theorem flatten_words (cs : List Char) : (words cs).flatten = cs.filter fun c => !isBlank c := by
  induction cs with
  | nil => rfl
  | cons c cs ih =>
    by_cases hc : isBlank c = true
    · rw [words_cons_blank hc, ih]
      simp [hc]
    · have hvisible : isBlank c = false := by simpa using hc
      rw [words]
      simp only [hvisible, Bool.false_eq_true, if_false]
      split
      · rename_i w ws _ hws
        rw [hws] at ih
        simpa [hvisible] using ih
      · simp [hvisible, ih]

/-! ## Words between blanks -/

theorem words_append_of_blank {run : List Char} (hrun : ∀ c ∈ run, isBlank c = true)
    (cs : List Char) : words (run ++ cs) = words cs := by
  induction run with
  | nil => rfl
  | cons c run ih =>
    rw [List.cons_append, words_cons_blank (hrun c List.mem_cons_self)]
    exact ih fun d hd => hrun d (List.mem_cons_of_mem _ hd)

/-- A visible run at the front of a text with a blank in it lies before the blank. -/
theorem exists_of_append_eq_append {cs rest run more : List Char}
    (hrest : ∀ c ∈ rest.head?, isBlank c = true) (hrun : ∀ c ∈ run, isBlank c = false)
    (h : cs ++ rest = run ++ more) : ∃ middle, cs = run ++ middle ∧ more = middle ++ rest := by
  rcases List.append_eq_append_iff.mp h with ⟨middle, rfl, rfl⟩ | hmiddle
  · cases middle with
    | nil => exact ⟨[], by simp, by simp⟩
    | cons c middle =>
      have hblank := hrest c (by simp)
      rw [hrun c (by simp)] at hblank
      cases hblank
  · exact hmiddle

/-- A text is blanks, or blanks, a word, and from a blank on some more text. -/
theorem words_induction {P : List Char → Prop}
    (blank : ∀ gap, (∀ c ∈ gap, isBlank c = true) → P gap)
    (word : ∀ gap w rest, (∀ c ∈ gap, isBlank c = true) → w ≠ [] → (∀ c ∈ w, isBlank c = false) →
      (∀ c ∈ rest.head?, isBlank c = true) → P rest → P (gap ++ (w ++ rest)))
    (cs : List Char) : P cs := by
  induction hlength : cs.length using Nat.strongRecOn generalizing cs with
  | ind n ih =>
    subst hlength
    have hgap : ∀ c ∈ cs.takeWhile isBlank, isBlank c = true :=
      fun c hc => List.all_eq_true.mp List.all_takeWhile c hc
    cases hvisible : cs.dropWhile isBlank with
    | nil => exact blank cs (List.dropWhile_eq_nil_iff.mp hvisible)
    | cons c more =>
      have hc : isBlank c = false := by
        have := List.head?_dropWhile_not isBlank cs
        rw [hvisible] at this
        simpa using this
      let w := (c :: more).takeWhile (fun d => !isBlank d)
      let rest := (c :: more).dropWhile (fun d => !isBlank d)
      have hsplit : cs = cs.takeWhile isBlank ++ (w ++ rest) := by
        rw [List.takeWhile_append_dropWhile, ← hvisible, List.takeWhile_append_dropWhile]
      have hne : w ≠ [] := by simp [w, hc]
      have hw : ∀ d ∈ w, isBlank d = false := by
        intro d hd
        simpa using List.all_eq_true.mp List.all_takeWhile d hd
      have hrest : ∀ d ∈ rest.head?, isBlank d = true := by
        intro d hd
        have := List.head?_dropWhile_not (fun d => !isBlank d) (c :: more)
        rw [Option.mem_def.mp hd] at this
        simpa using this
      have hshorter : rest.length < cs.length := by
        have := List.length_pos_of_ne_nil hne
        rw [hsplit, List.length_append, List.length_append]
        omega
      rw [hsplit]
      exact word _ w rest hgap hne hw hrest (ih _ hshorter rest rfl)

theorem words_of_blank {gap : List Char} (h : ∀ c ∈ gap, isBlank c = true) : words gap = [] := by
  rw [← List.append_nil gap, words_append_of_blank h, words_nil]

/-- A blank ends a word, so what comes from it on has words of its own. -/
theorem words_append {cs rest : List Char} (hrest : ∀ c ∈ rest.head?, isBlank c = true) :
    words (cs ++ rest) = words cs ++ words rest := by
  induction cs using words_induction with
  | blank gap hgap => rw [words_append_of_blank hgap, words_of_blank hgap, List.nil_append]
  | word gap w more hgap hne hw hmore ih =>
    have hfollows : ∀ c ∈ (more ++ rest).head?, isBlank c = true := by
      cases more with
      | nil => exact hrest
      | cons c more => exact hmore
    rw [List.append_assoc, List.append_assoc, words_append_of_blank hgap,
      words_append_of_visible hne hw hfollows, words_append_of_blank hgap,
      words_append_of_visible hne hw hmore, ih, List.cons_append]

/-! ## Words one space apart -/

/-- No blank but single spaces, and none at either end. -/
structure Spaced (cs : List Char) : Prop where
  only_spaces : ∀ c ∈ cs, isBlank c = true → c = ' '
  visible_head : ∀ c ∈ cs.head?, isBlank c = false
  visible_last : ∀ c ∈ cs.getLast?, isBlank c = false
  single : cs.IsChain fun c d => ¬ (isBlank c = true ∧ isBlank d = true)

/-- A run that can be seen has no blanks at all. -/
theorem Spaced.of_visible {w : List Char} (hw : ∀ c ∈ w, isBlank c = false) : Spaced w where
  only_spaces c hc hblank := by
    rw [hw c hc] at hblank
    cases hblank
  visible_head c hc := hw c (List.mem_of_mem_head? hc)
  visible_last c hc := hw c (List.mem_of_mem_getLast? hc)
  single := by
    rw [List.isChain_iff_forall_rel_of_append_cons_cons]
    rintro c d a b rfl ⟨hc, -⟩
    rw [hw c (by simp)] at hc
    cases hc

/-- A word and a space may come before a text that starts with something to see. -/
theorem Spaced.cons_word {w cs : List Char} (hne : w ≠ []) (hw : ∀ c ∈ w, isBlank c = false)
    (hcs : Spaced cs) (hcs_ne : cs ≠ []) : Spaced (w ++ ' ' :: cs) where
  only_spaces c hc hblank := by
    rcases List.mem_append.mp hc with hc | hc
    · rw [hw c hc] at hblank
      cases hblank
    · rcases List.mem_cons.mp hc with rfl | hc
      · rfl
      · exact hcs.only_spaces c hc hblank
  visible_head c hc := by
    rw [List.head?_append_of_ne_nil _ hne] at hc
    exact hw c (List.mem_of_mem_head? hc)
  visible_last c hc := by
    rw [List.getLast?_append_of_ne_nil _ (by simp)] at hc
    rw [← List.singleton_append, List.getLast?_append_of_ne_nil _ hcs_ne] at hc
    exact hcs.visible_last c hc
  single := by
    rw [List.isChain_append, List.isChain_cons]
    refine ⟨(Spaced.of_visible hw).single, ⟨?_, hcs.single⟩, ?_⟩
    · rintro d hd ⟨-, hblank⟩
      rw [hcs.visible_head d hd] at hblank
      cases hblank
    · rintro c hc d - ⟨hblank, -⟩
      rw [hw c (List.mem_of_mem_getLast? hc)] at hblank
      cases hblank

theorem spaced_unwords {ws : List (List Char)}
    (h : ∀ w ∈ ws, w ≠ [] ∧ ∀ c ∈ w, isBlank c = false) : Spaced (unwords ws) := by
  induction ws with
  | nil => exact Spaced.of_visible (by simp)
  | cons w ws ih =>
    obtain ⟨hne, hw⟩ := h w List.mem_cons_self
    cases ws with
    | nil =>
      rw [unwords_singleton]
      exact Spaced.of_visible hw
    | cons v vs =>
      have hrest := ih fun u hu => h u (List.mem_cons_of_mem _ hu)
      obtain ⟨hv, -⟩ := h v (by simp)
      rw [unwords_cons_cons]
      apply hrest.cons_word hne hw
      intro hnil
      cases vs with
      | nil => exact hv (by rwa [unwords_singleton] at hnil)
      | cons u us => simp [unwords_cons_cons] at hnil

theorem spaced_collapse (cs : List Char) : Spaced (collapse cs) :=
  spaced_unwords fun _ hw => mem_words hw

/-- Collapsing keeps what can be seen. -/
theorem filter_visible_collapse (cs : List Char) :
    (collapse cs).filter (fun c => !isBlank c) = cs.filter fun c => !isBlank c := by
  rw [← flatten_words, words_collapse, flatten_words]

theorem infix_or_infix_of_notMem {run cs rest : List Char} {c : Char} (hc : c ∉ run)
    (h : run <:+: cs ++ c :: rest) : run <:+: cs ∨ run <:+: rest := by
  rcases List.infix_append_iff.mp h with h | h | ⟨front, back, rfl, hfront, hback⟩
  · exact .inl h
  · rcases List.infix_cons_iff.mp h with hstarts | h
    · obtain rfl | ⟨run', rfl, -⟩ := List.prefix_cons_iff.mp hstarts
      · exact .inl List.nil_infix
      · exact absurd List.mem_cons_self hc
    · exact .inr h
  · obtain rfl | ⟨back', rfl, -⟩ := List.prefix_cons_iff.mp hback
    · rw [List.append_nil]
      exact .inl hfront.isInfix
    · exact absurd (List.mem_append_right _ List.mem_cons_self) hc

/-- A visible run that stands in a collapsed text stood there before: what is put between words is
a space, and none of it can be part of the run. -/
theorem infix_of_infix_collapse {run cs : List Char} (hrun : ∀ c ∈ run, isBlank c = false)
    (h : run <:+: collapse cs) : run <:+: cs := by
  have hspace : ' ' ∉ run := by
    intro hmem
    have hvisible := hrun ' ' hmem
    revert hvisible
    decide
  induction cs using words_induction with
  | blank gap hgap =>
    rw [collapse, words_of_blank hgap, unwords_nil, List.infix_nil] at h
    rw [h]
    exact List.nil_infix
  | word gap w rest hgap hne hw hrest ih =>
    have hwords : words (gap ++ (w ++ rest)) = w :: words rest := by
      rw [words_append_of_blank hgap, words_append_of_visible hne hw hrest]
    have hcases : run <:+: w ∨ run <:+: collapse rest := by
      rw [collapse, hwords] at h
      cases hmore : words rest with
      | nil =>
        rw [hmore, unwords_singleton] at h
        exact .inl h
      | cons v vs =>
        rw [hmore, unwords_cons_cons, ← hmore] at h
        exact infix_or_infix_of_notMem hspace h
    apply List.infix_append_of_infix_right
    rcases hcases with h | h
    · exact List.infix_append_of_infix_left h
    · exact List.infix_append_of_infix_right (ih h)

end SiteSearch.Text
