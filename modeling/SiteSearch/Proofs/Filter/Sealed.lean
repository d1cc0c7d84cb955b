import SiteSearch.Filter.Conditions

/-!
# Sealed texts

A filter joins its conditions by ` AND `. The conditions can be told apart again when no
separator can be seen in one of them outside quotes, also none that would end in the text after
it. Every separator starts with a space before an `A`, so it is enough that no space outside
quotes stands there or at the end; a text that is so and leaves its quotes is `Sealed`.

Main statements: a reader passes over a sealed text as one part, whatever follows
(`conditionsFrom?_append`), so sealed texts that were joined are read back one by one
(`conditions?_intercalate`) and leave the reader outside quotes (`foldl_next_intercalate`).
-/

namespace SiteSearch.Filter

/-- The text may follow a space: it does not end there, and it does not start with an `A`. -/
def MayFollowSpace (cs : List Char) : Prop := ∃ d ∈ cs.head?, d ≠ 'A'

instance decidableMayFollowSpace : ∀ cs : List Char, Decidable (MayFollowSpace cs)
  | [] => isFalse (by simp [MayFollowSpace])
  | d :: cs => decidable_of_iff (d ≠ 'A') (by simp [MayFollowSpace])

/-- A text that leaves a reader who stands at `quoting` before it outside quotes, and in which
no space outside quotes is the last character or stands before an `A`. -/
inductive Sealed : Quoting → List Char → Prop where
  | nil : Sealed .outside []
  | cons {quoting : Quoting} {c : Char} {cs : List Char}
      (space : quoting = .outside → c = ' ' → MayFollowSpace cs)
      (rest : Sealed (quoting.next c) cs) : Sealed quoting (c :: cs)

theorem sealed_nil_iff {quoting : Quoting} : Sealed quoting [] ↔ quoting = .outside := by
  constructor
  · intro h
    cases h
    rfl
  · rintro rfl
    exact .nil

theorem sealed_cons_iff {quoting : Quoting} {c : Char} {cs : List Char} :
    Sealed quoting (c :: cs) ↔
      (quoting = .outside → c = ' ' → MayFollowSpace cs) ∧ Sealed (quoting.next c) cs := by
  constructor
  · intro h
    cases h with
    | cons space rest => exact ⟨space, rest⟩
  · intro h
    obtain ⟨space, rest⟩ := h
    exact .cons space rest

instance decidableSealed : ∀ (quoting : Quoting) (cs : List Char), Decidable (Sealed quoting cs)
  | _, [] => decidable_of_iff _ sealed_nil_iff.symm
  | quoting, c :: cs =>
    have := decidableSealed (quoting.next c) cs
    decidable_of_iff _ sealed_cons_iff.symm

theorem sealed_append {quoting : Quoting} {a b : List Char} (ha : Sealed quoting a)
    (hb : Sealed .outside b) : Sealed quoting (a ++ b) := by
  induction ha with
  | nil => exact hb
  | @cons quoting c cs space rest ih =>
    refine .cons ?_ ih
    intro hout hc
    obtain ⟨d, hd, hne⟩ := space hout hc
    cases cs with
    | nil => simp at hd
    | cons e es => exact ⟨d, hd, hne⟩

/-- Text that holds neither quotes nor spaces is sealed. -/
theorem sealed_of_forall {cs : List Char} (h : ∀ c ∈ cs, c ≠ '"' ∧ c ≠ ' ') :
    Sealed .outside cs := by
  induction cs with
  | nil => exact .nil
  | cons c cs ih =>
    obtain ⟨hquote, hspace⟩ := h c (by simp)
    have hnext : Quoting.outside.next c = .outside := by simp [Quoting.next, hquote]
    refine .cons (fun _ hc => absurd hc hspace) ?_
    rw [hnext]
    exact ih fun d hd => h d (List.mem_cons_of_mem _ hd)

/-- What is escaped does not end the quotes around it. -/
theorem sealed_escape_append {v rest : List Char} (h : Sealed .inside rest) :
    Sealed .inside (escape v ++ rest) := by
  induction v with
  | nil => exact h
  | cons c v ih =>
    rw [escape_cons]
    by_cases hc : c = '"' ∨ c = '\\'
    · rw [if_pos hc]
      have hnext : Quoting.inside.next '\\' = .escaped := rfl
      refine .cons (by simp) (.cons ?_ ih)
      rw [hnext]
      simp
    · obtain ⟨hquote, hslash⟩ := not_or.mp hc
      have hnext : Quoting.inside.next c = .inside := by simp [Quoting.next, hquote, hslash]
      rw [if_neg hc]
      refine .cons (by simp) ?_
      rw [hnext]
      exact ih

/-- A value between quotes is sealed, whatever the value. -/
theorem sealed_quoted (s : String) : Sealed .outside (quoted s).toList := by
  have hchars : (quoted s).toList = '"' :: (escape s.toList ++ ['"']) := by
    simp [quoted, escapeValue]
  rw [hchars]
  refine .cons (by simp) ?_
  exact sealed_escape_append (by decide)

/-! ## Reading sealed texts -/

/-- Characters put before the first of some texts. -/
def prependFirst (cs : List Char) (parts : List (List Char)) : List (List Char) :=
  cs.foldr consFirst parts

theorem prependFirst_cons (cs part : List Char) (parts : List (List Char)) :
    prependFirst cs (part :: parts) = (cs ++ part) :: parts := by
  induction cs with
  | nil => rfl
  | cons c cs ih =>
    have hstep : prependFirst (c :: cs) (part :: parts) =
        consFirst c (prependFirst cs (part :: parts)) := rfl
    rw [hstep, ih]
    rfl

/-- No separator starts at a character of a sealed text. -/
theorem not_isPrefixOf_of_sealed {c : Char} {cs rest : List Char}
    (h : c = ' ' → MayFollowSpace cs) : separator.isPrefixOf (c :: (cs ++ rest)) = false := by
  by_cases hc : c = ' '
  · obtain ⟨d, hd, hne⟩ := h hc
    cases cs with
    | nil => simp at hd
    | cons e es =>
      obtain rfl : e = d := by simpa using hd
      simp [separator, List.isPrefixOf, Ne.symm hne]
  · simp [separator, List.isPrefixOf, Ne.symm hc]

/-- A reader passes over a sealed text as one part of what it reads. -/
theorem conditionsFrom?_append {quoting : Quoting} {cs : List Char} (h : Sealed quoting cs)
    (rest : List Char) :
    conditionsFrom? quoting 0 (cs ++ rest) =
      (conditionsFrom? .outside 0 rest).map (prependFirst cs) := by
  induction h with
  | nil =>
    have hid : prependFirst [] = id := rfl
    rw [hid, Option.map_id]
    rfl
  | @cons quoting c cs space _ ih =>
    have hstep : conditionsFrom? quoting 0 (c :: (cs ++ rest)) =
        (conditionsFrom? (quoting.next c) 0 (cs ++ rest)).map (consFirst c) := by
      cases quoting with
      | outside =>
        rw [conditionsFrom?, not_isPrefixOf_of_sealed (space rfl)]
        rfl
      | inside => rw [conditionsFrom?]; simp
      | escaped => rw [conditionsFrom?]; simp
    rw [List.cons_append, hstep, ih, Option.map_map]
    rfl

/-- After a separator the next condition starts. -/
theorem conditionsFrom?_separator (rest : List Char) :
    conditionsFrom? .outside 0 (separator ++ rest) =
      (conditionsFrom? .outside 0 rest).map ([] :: ·) := by
  simp [separator, conditionsFrom?, List.isPrefixOf]

/-- Sealed texts joined by separators are read back one by one. -/
theorem conditionsFrom?_intercalate {parts : List (List Char)} (hne : parts ≠ [])
    (h : ∀ part ∈ parts, Sealed .outside part) :
    conditionsFrom? .outside 0 (separator.intercalate parts) = some parts := by
  induction parts with
  | nil => exact absurd rfl hne
  | cons part parts ih =>
    have hpart := h part (by simp)
    cases parts with
    | nil =>
      have hread := conditionsFrom?_append hpart []
      rw [List.append_nil] at hread
      rw [List.intercalate_singleton, hread]
      simp [conditionsFrom?, prependFirst_cons]
    | cons next parts =>
      have hparts := ih (by simp) fun p hp => h p (List.mem_cons_of_mem _ hp)
      rw [List.intercalate_cons_cons, List.append_assoc, conditionsFrom?_append hpart,
        conditionsFrom?_separator, hparts]
      simp [prependFirst_cons]

/-- The same on strings. -/
theorem conditions?_intercalate {parts : List String} (hne : parts ≠ [])
    (h : ∀ part ∈ parts, Sealed .outside part.toList) :
    conditions? (" AND ".intercalate parts) = some parts := by
  have hread : conditionsFrom? .outside 0 (separator.intercalate (parts.map String.toList)) =
      some (parts.map String.toList) := by
    apply conditionsFrom?_intercalate
    · simpa using hne
    · simpa using h
  have hsep : " AND ".toList = separator := rfl
  rw [conditions?, String.toList_intercalate, hsep, hread]
  simp [Function.comp_def]

/-- A sealed text leaves its reader outside quotes. -/
theorem foldl_next_of_sealed {quoting : Quoting} {cs : List Char} (h : Sealed quoting cs) :
    cs.foldl Quoting.next quoting = .outside := by
  induction h with
  | nil => rfl
  | cons _ _ ih => exact ih

/-- So do sealed texts that were joined by separators. -/
theorem foldl_next_intercalate {parts : List (List Char)}
    (h : ∀ part ∈ parts, Sealed .outside part) :
    (separator.intercalate parts).foldl Quoting.next .outside = .outside := by
  induction parts with
  | nil => rfl
  | cons part parts ih =>
    have hpart := foldl_next_of_sealed (h part (by simp))
    cases parts with
    | nil => rwa [List.intercalate_singleton]
    | cons next parts =>
      have hparts := ih fun p hp => h p (List.mem_cons_of_mem _ hp)
      have hsep : separator.foldl Quoting.next .outside = .outside := rfl
      rw [List.intercalate_cons_cons, List.foldl_append, List.foldl_append, hpart, hsep, hparts]

end SiteSearch.Filter
