import Mathlib.Data.List.Infix
import SiteSearch.Text.Substitute

/-!
# What comes of substituting

`Substituted` says what one pass over a text does, by a rule for each thing that may come next.
Where no pattern starts another one, the pass always comes to the same (`substitute_eq_iff`).

What was put in is not looked at again, so it could in principle complete a pattern together with
what is around it. It does not when it shares no character with the patterns: then no pattern is
left (`Substituted.not_infix`). And when moreover no pattern can start within another one, it does
not matter whether patterns are replaced together or one after the other
(`substitute_substitute`).
-/

namespace SiteSearch.Text

/-- What one pass from left to right makes of a text: a pattern is replaced where it stands, and
the pass goes on behind it; a character at which no pattern stands is kept. -/
inductive Substituted (patterns : List (List Char)) (replacement : List Char) :
    List Char → List Char → Prop where
  | nil : Substituted patterns replacement [] []
  | replaced {pattern cs out : List Char} (h : pattern ∈ patterns)
      (rest : Substituted patterns replacement cs out) :
      Substituted patterns replacement (pattern ++ cs) (replacement ++ out)
  | kept {c : Char} {cs out : List Char} (h : ∀ pattern ∈ patterns, ¬ pattern <+: c :: cs)
      (rest : Substituted patterns replacement cs out) :
      Substituted patterns replacement (c :: cs) (c :: out)

/-- None of the patterns is empty or starts another one. -/
structure PrefixFree (patterns : List (List Char)) : Prop where
  ne_nil : ∀ p ∈ patterns, p ≠ []
  eq_of_starts : ∀ p ∈ patterns, ∀ q ∈ patterns, p <+: q → p = q

theorem PrefixFree.subset {patterns fewer : List (List Char)} (h : PrefixFree patterns)
    (hfewer : fewer ⊆ patterns) : PrefixFree fewer where
  ne_nil p hp := h.ne_nil p (hfewer hp)
  eq_of_starts p hp q hq := h.eq_of_starts p (hfewer hp) q (hfewer hq)

/-- At most one pattern stands at the front of a text. -/
theorem PrefixFree.eq_of_mem {patterns : List (List Char)} (h : PrefixFree patterns)
    {p q cs : List Char} (hp : p ∈ patterns) (hq : q ∈ patterns) (hpcs : p <+: cs)
    (hqcs : q <+: cs) : p = q := by
  rcases List.prefix_or_prefix_of_prefix hpcs hqcs with hpq | hqp
  · exact h.eq_of_starts p hp q hq hpq
  · exact (h.eq_of_starts q hq p hp hqp).symm

section Substitute

variable {patterns : List (List Char)} {r cs out : List Char}

/-! ## The pass -/

theorem substituteFrom_eq (inside : Nat) (cs : List Char) :
    substituteFrom patterns r inside cs = substitute patterns r (cs.drop inside) := by
  induction cs generalizing inside with
  | nil => cases inside <;> rfl
  | cons c cs ih =>
    cases inside with
    | zero => rfl
    | succ inside =>
      rw [substituteFrom, ih]
      rfl

theorem substitute_cons_of_forall {c : Char} (h : ∀ p ∈ patterns, ¬ p <+: c :: cs) :
    substitute patterns r (c :: cs) = c :: substitute patterns r cs := by
  have hnone : patterns.find? (·.isPrefixOf (c :: cs)) = none := by
    rw [List.find?_eq_none]
    intro p hp
    rw [List.isPrefixOf_iff_prefix]
    exact h p hp
  rw [substitute, substituteFrom, hnone]
  rfl

theorem substitute_append_of_mem (h : PrefixFree patterns) {p : List Char} (hp : p ∈ patterns)
    (cs : List Char) : substitute patterns r (p ++ cs) = r ++ substitute patterns r cs := by
  obtain ⟨c, p', rfl⟩ := List.exists_cons_of_ne_nil (h.ne_nil p hp)
  have hfound : patterns.find? (·.isPrefixOf (c :: p' ++ cs)) = some (c :: p') := by
    cases hfind : patterns.find? (·.isPrefixOf (c :: p' ++ cs)) with
    | none =>
      have hno := List.find?_eq_none.mp hfind _ hp
      rw [List.isPrefixOf_iff_prefix] at hno
      exact absurd (List.prefix_append _ _) hno
    | some q =>
      have hq := List.find?_some hfind
      rw [List.isPrefixOf_iff_prefix] at hq
      rw [h.eq_of_mem hp (List.mem_of_find?_eq_some hfind) (List.prefix_append _ _) hq]
  have hstep : substitute patterns r (c :: (p' ++ cs)) =
      r ++ substituteFrom patterns r p'.length (p' ++ cs) := by
    rw [substitute, substituteFrom, ← List.cons_append, hfound]
    rfl
  rw [List.cons_append, hstep, substituteFrom_eq, List.drop_left]

/-- The pass can be made over every text. -/
theorem substituted_substitute (h : PrefixFree patterns) (cs : List Char) :
    Substituted patterns r cs (substitute patterns r cs) := by
  induction hlength : cs.length using Nat.strongRecOn generalizing cs with
  | ind n ih =>
    subst hlength
    cases cs with
    | nil => exact .nil
    | cons c cs =>
      by_cases hstands : ∃ p ∈ patterns, p <+: c :: cs
      · obtain ⟨p, hp, rest, hrest⟩ := hstands
        have hpos := List.length_pos_of_ne_nil (h.ne_nil p hp)
        have hshorter : rest.length < (c :: cs).length := by
          rw [← hrest, List.length_append]
          omega
        rw [← hrest, substitute_append_of_mem h hp]
        exact .replaced hp (ih _ hshorter rest rfl)
      · have hnone : ∀ p ∈ patterns, ¬ p <+: c :: cs := fun p hp hpcs => hstands ⟨p, hp, hpcs⟩
        rw [substitute_cons_of_forall hnone]
        exact .kept hnone (ih _ (by simp) cs rfl)

/-- The pass comes to what is computed, and to nothing else. -/
theorem substitute_eq_iff (h : PrefixFree patterns) :
    substitute patterns r cs = out ↔ Substituted patterns r cs out := by
  constructor
  · rintro rfl
    exact substituted_substitute h cs
  · intro hpass
    induction hpass with
    | nil => rfl
    | replaced hp _ ih => rw [substitute_append_of_mem h hp, ih]
    | kept hnone _ ih => rw [substitute_cons_of_forall hnone, ih]

/-- A text without patterns stays. -/
theorem substitute_of_not_infix (h : ∀ p ∈ patterns, ¬ p <:+: cs) :
    substitute patterns r cs = cs := by
  induction cs with
  | nil => rfl
  | cons c cs ih =>
    have hnone : ∀ p ∈ patterns, ¬ p <+: c :: cs := fun p hp hpcs => h p hp hpcs.isInfix
    rw [substitute_cons_of_forall hnone, ih fun p hp hpcs => h p hp (List.infix_cons hpcs)]

/-! ## What is left -/

/-- Only the empty text starts a text and lacks its first character. -/
theorem eq_nil_of_starts {p : List Char} {d : Char} (h : p <+: d :: cs) (hd : d ∉ p) :
    p = [] := by
  obtain rfl | ⟨p', rfl, -⟩ := List.prefix_cons_iff.mp h
  · rfl
  · exact absurd List.mem_cons_self hd

theorem infix_of_infix_append {p : List Char} (hne : p ≠ []) (hfresh : ∀ c ∈ p, c ∉ r)
    (h : p <:+: r ++ cs) : p <:+: cs := by
  induction r with
  | nil => exact h
  | cons d r ih =>
    rcases List.infix_cons_iff.mp h with hstarts | hinside
    · have hd : d ∉ p := fun hmem => hfresh d hmem List.mem_cons_self
      exact absurd (eq_nil_of_starts hstarts hd) hne
    · exact ih (fun c hc hmem => hfresh c hc (List.mem_cons_of_mem d hmem)) hinside

/-- What starts the outcome and shares no character with the replacement started the text. -/
theorem Substituted.starts_of_starts (h : Substituted patterns r cs out) (hr : r ≠ [])
    {front : List Char} (hfresh : ∀ c ∈ front, c ∉ r) (hfront : front <+: out) :
    front <+: cs := by
  induction h generalizing front with
  | nil => exact hfront
  | replaced _ _ _ =>
    obtain ⟨d, r', rfl⟩ := List.exists_cons_of_ne_nil hr
    have hd : d ∉ front := fun hmem => hfresh d hmem List.mem_cons_self
    obtain rfl := eq_nil_of_starts hfront hd
    exact List.nil_prefix
  | @kept c cs out _ _ ih =>
    obtain rfl | ⟨front', rfl, hfront'⟩ := List.prefix_cons_iff.mp hfront
    · exact List.nil_prefix
    · have hfresh' : ∀ d ∈ front', d ∉ r := fun d hd => hfresh d (List.mem_cons_of_mem c hd)
      exact List.cons_prefix_cons.mpr ⟨rfl, ih hfresh' hfront'⟩

/-- A pattern that shares no character with the replacement does not occur in the outcome. -/
theorem Substituted.not_infix (h : Substituted patterns r cs out) (hr : r ≠ []) {p : List Char}
    (hp : p ∈ patterns) (hne : p ≠ []) (hfresh : ∀ c ∈ p, c ∉ r) : ¬ p <:+: out := by
  induction h with
  | nil => simpa using hne
  | replaced _ _ ih => exact fun hinfix => ih (infix_of_infix_append hne hfresh hinfix)
  | kept hnone hrest ih =>
    intro hinfix
    rcases List.infix_cons_iff.mp hinfix with hstarts | hinside
    · exact hnone p hp ((Substituted.kept hnone hrest).starts_of_starts hr hfresh hstarts)
    · exact ih hinside

/-! ## One pattern after the other -/

/-- Within `q` no occurrence of `p` starts, whatever follows. -/
def StartsOutside (p q : List Char) : Prop := ∀ s ∈ q.tails, s ≠ [] → ¬ p <+: s ∧ ¬ s <+: p

instance (p q : List Char) : Decidable (StartsOutside p q) :=
  inferInstanceAs (Decidable (∀ s ∈ q.tails, s ≠ [] → ¬ p <+: s ∧ ¬ s <+: p))

theorem StartsOutside.tail {p q : List Char} {c : Char} (h : StartsOutside p (c :: q)) :
    StartsOutside p q := by
  intro s hs
  rw [List.mem_tails] at hs
  exact h s ((List.mem_tails _ _).mpr (hs.trans (List.suffix_cons c q)))

theorem StartsOutside.not_prefix {p q : List Char} (h : StartsOutside p q) (hq : q ≠ [])
    (cs : List Char) : ¬ p <+: q ++ cs := by
  obtain ⟨hpq, hqp⟩ := h q ((List.mem_tails _ _).mpr List.suffix_rfl) hq
  intro hstarts
  rcases List.prefix_or_prefix_of_prefix hstarts (List.prefix_append q cs) with h | h
  · exact hpq h
  · exact hqp h

/-- The pass goes over a text in which no occurrence starts. -/
theorem Substituted.append_of_startsOutside {p q : List Char} (h : Substituted [p] r cs out)
    (hpq : StartsOutside p q) : Substituted [p] r (q ++ cs) (q ++ out) := by
  induction q with
  | nil => exact h
  | cons c q ih =>
    refine .kept ?_ (ih hpq.tail)
    intro p' hp'
    obtain rfl := List.mem_singleton.mp hp'
    exact hpq.not_prefix (by simp) cs

/-- One pass for two patterns is made of a pass for each, when no occurrence of the one starts
within the other, or of the other within the replacement. -/
theorem Substituted.exists_between {p q : List Char} (h : Substituted [p, q] r cs out)
    (hr : r ≠ []) (hpq : StartsOutside p q) (hqr : StartsOutside q r)
    (hfresh : ∀ c ∈ q, c ∉ r) :
    ∃ between, Substituted [p] r cs between ∧ Substituted [q] r between out := by
  induction h with
  | nil => exact ⟨[], .nil, .nil⟩
  | replaced hpattern _ ih =>
    obtain ⟨between, hfirst, hsecond⟩ := ih
    rcases List.mem_pair.mp hpattern with rfl | rfl
    · exact ⟨r ++ between, .replaced (List.mem_singleton_self _) hfirst,
        hsecond.append_of_startsOutside hqr⟩
    · exact ⟨_ ++ between, hfirst.append_of_startsOutside hpq,
        .replaced (List.mem_singleton_self _) hsecond⟩
  | @kept c cs out hnone _ ih =>
    obtain ⟨between, hfirst, hsecond⟩ := ih
    have hkept : Substituted [p] r (c :: cs) (c :: between) := by
      refine .kept ?_ hfirst
      intro p' hp'
      obtain rfl := List.mem_singleton.mp hp'
      exact hnone p' (by simp)
    refine ⟨c :: between, hkept, .kept ?_ hsecond⟩
    intro q' hq' hstarts
    obtain rfl := List.mem_singleton.mp hq'
    exact hnone q' (by simp) (hkept.starts_of_starts hr hfresh hstarts)

theorem substitute_substitute {p q : List Char} (h : PrefixFree [p, q]) (hr : r ≠ [])
    (hpq : StartsOutside p q) (hqr : StartsOutside q r) (hfresh : ∀ c ∈ q, c ∉ r)
    (cs : List Char) : substitute [q] r (substitute [p] r cs) = substitute [p, q] r cs := by
  have hp : PrefixFree [p] := h.subset (by simp)
  have hq : PrefixFree [q] := h.subset (by simp)
  obtain ⟨between, hfirst, hsecond⟩ :=
    (substituted_substitute h cs).exists_between hr hpq hqr hfresh
  rw [(substitute_eq_iff hp).mpr hfirst, (substitute_eq_iff hq).mpr hsecond]

end Substitute

end SiteSearch.Text
