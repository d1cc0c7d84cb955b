import SiteSearch.Proofs.Query.Front

/-!
# How a query is cut

The rules by which a text is cut into pieces, as a relation: each rule names one thing that can
happen at the front of what is left. The relation and the function that cuts say the same
(`cut_iff`), so a statement about the pieces of a query is proved by one case for each rule.
-/

namespace SiteSearch.Query

open SiteSearch.Text

/-! ## What stands before a text -/

/-- Whether a letter, digit or underscore stands just before what follows `cs`, when `start`
says whether one stands just before `cs`. -/
def afterWord (start : Bool) (cs : List Char) : Bool := cs.foldl (fun _ c => isWordChar c) start

@[simp] theorem afterWord_nil (start : Bool) : afterWord start [] = start := rfl

@[simp] theorem afterWord_cons (start : Bool) (c : Char) (cs : List Char) :
    afterWord start (c :: cs) = afterWord (isWordChar c) cs := rfl

theorem afterWord_append (start : Bool) (a b : List Char) :
    afterWord start (a ++ b) = afterWord (afterWord start a) b := by
  simp [afterWord]

theorem afterWord_concat (start : Bool) (cs : List Char) (c : Char) :
    afterWord start (cs ++ [c]) = isWordChar c := by
  rw [afterWord_append]
  rfl

theorem afterWord_of_forall {b : Bool} {cs : List Char} (hne : cs ≠ [])
    (h : ∀ c ∈ cs, isWordChar c = b) (start : Bool) : afterWord start cs = b := by
  rw [← List.dropLast_concat_getLast hne, afterWord_concat]
  exact h _ (List.getLast_mem hne)

/-- A directive ends in a letter, digit or underscore. -/
theorem Occurrence.StandsBefore.afterWord_typed {o : Occurrence} {rest : List Char}
    (h : o.StandsBefore rest) (start : Bool) : afterWord start o.typed = true := by
  obtain ⟨cs, c, hvalue, hc⟩ := h.value.exists_last
  rw [typed, hvalue, ← List.append_assoc, afterWord_concat, hc]

theorem Occurrence.StandsBefore.typed_ne_nil {o : Occurrence} {rest : List Char}
    (h : o.StandsBefore rest) : o.typed ≠ [] := by
  intro hnil
  have hlast := h.afterWord_typed false
  rw [hnil] at hlast
  cases hlast

theorem Occurrence.StandsBefore.exists_typed_cons {o : Occurrence} {rest : List Char}
    (h : o.StandsBefore rest) : ∃ c cs, o.typed = c :: cs :=
  List.exists_cons_of_ne_nil h.typed_ne_nil

/-! ## The rules -/

/-- The pieces that a text is cut into, when directives of the kinds `done` were taken before it
and the flag says whether a letter, digit or underscore stands just before it. -/
inductive Cut : List Directive → Bool → List Char → List Piece → Prop where
  /-- Nothing is left. -/
  | nil {done : List Directive} {start : Bool} : Cut done start [] []
  /-- Within a word no directive starts. -/
  | within {done : List Directive} {c : Char} {cs : List Char} {ps : List Piece}
      (rest : Cut done (isWordChar c) cs ps) : Cut done true (c :: cs) (.kept c :: ps)
  /-- Every directive that stands here is of a kind that was taken. -/
  | pass {done : List Directive} {c : Char} {cs : List Char} {ps : List Piece}
      (old : ∀ (o : Occurrence) (after : List Char), c :: cs = o.typed ++ after →
        o.StandsBefore after → o.directive ∈ done)
      (rest : Cut done (isWordChar c) cs ps) : Cut done false (c :: cs) (.kept c :: ps)
  /-- A directive of a new kind is taken. -/
  | take {done : List Directive} {o : Occurrence} {cs : List Char} {ps : List Piece}
      (new : o.directive ∉ done) (stands : o.StandsBefore cs)
      (rest : Cut (o.directive :: done) true cs ps) : Cut done false (o.typed ++ cs) (.taken o :: ps)

/-- Nothing inside a directive is looked at again. -/
theorem piecesFrom_inside (done : List Directive) (start : Bool) (a rest : List Char) :
    piecesFrom done start a.length (a ++ rest) = piecesFrom done (afterWord start a) 0 rest := by
  induction a generalizing start with
  | nil => rfl
  | cons c a ih =>
    rw [List.length_cons, List.cons_append, piecesFrom, ih]
    rfl

theorem piecesFrom_pass {done : List Directive} {c : Char} {cs : List Char}
    (old : ∀ (o : Occurrence) (after : List Char), c :: cs = o.typed ++ after →
      o.StandsBefore after → o.directive ∈ done) :
    piecesFrom done false 0 (c :: cs) = .kept c :: piecesFrom done (isWordChar c) 0 cs := by
  rw [piecesFrom, nextOccurrence?_eq_none_iff.mpr old]

theorem piecesFrom_take {done : List Directive} {o : Occurrence} {cs : List Char}
    (new : o.directive ∉ done) (stands : o.StandsBefore cs) :
    piecesFrom done false 0 (o.typed ++ cs) =
      .taken o :: piecesFrom (o.directive :: done) true 0 cs := by
  have hnext : nextOccurrence? done (o.typed ++ cs) = some o :=
    nextOccurrence?_eq_some_iff.mpr ⟨new, cs, rfl, stands⟩
  have hword := stands.afterWord_typed false
  obtain ⟨c, tail, htyped⟩ := stands.exists_typed_cons
  rw [htyped, List.cons_append] at hnext ⊢
  rw [htyped, afterWord_cons] at hword
  rw [piecesFrom, hnext]
  simp only [htyped, List.length_cons, Nat.add_sub_cancel]
  rw [piecesFrom_inside, hword]

theorem Cut.eq_piecesFrom {done : List Directive} {start : Bool} {cs : List Char}
    {ps : List Piece} (h : Cut done start cs ps) : ps = piecesFrom done start 0 cs := by
  induction h with
  | nil => rw [piecesFrom]
  | within _ ih => rw [piecesFrom, ih]
  | pass old _ ih => rw [piecesFrom_pass old, ih]
  | take new stands _ ih => rw [piecesFrom_take new stands, ih]

/-- By induction on the length of the text, since a directive is passed in one step. -/
theorem cut_piecesFrom (done : List Directive) (start : Bool) (cs : List Char) :
    Cut done start cs (piecesFrom done start 0 cs) := by
  induction hlen : cs.length using Nat.strongRecOn generalizing done start cs with
  | ind n ih =>
    subst hlen
    cases cs with
    | nil =>
      rw [piecesFrom]
      exact .nil
    | cons c cs =>
      have hrest : ∀ start, Cut done start cs (piecesFrom done start 0 cs) :=
        fun start => ih cs.length (by simp) done start cs rfl
      cases start with
      | true =>
        rw [piecesFrom]
        exact .within (hrest _)
      | false =>
        cases hnext : nextOccurrence? done (c :: cs) with
        | none =>
          have old := nextOccurrence?_eq_none_iff.mp hnext
          rw [piecesFrom_pass old]
          exact .pass old (hrest _)
        | some o =>
          obtain ⟨new, after, hcs, stands⟩ := nextOccurrence?_eq_some_iff.mp hnext
          have hshorter : after.length < (c :: cs).length := by
            obtain ⟨d, tail, htyped⟩ := stands.exists_typed_cons
            rw [hcs, htyped]
            simp only [List.length_append, List.length_cons]
            omega
          rw [hcs, piecesFrom_take new stands]
          exact .take new stands (ih after.length hshorter _ _ after rfl)

/-- The rules and the function that cuts say the same. -/
theorem cut_iff {done : List Directive} {start : Bool} {cs : List Char} {ps : List Piece} :
    Cut done start cs ps ↔ ps = piecesFrom done start 0 cs := by
  constructor
  · exact Cut.eq_piecesFrom
  · rintro rfl
    exact cut_piecesFrom done start cs

/-- A query is cut by the rules. -/
theorem cut_pieces (cs : List Char) : Cut [] false cs (pieces cs) := cut_piecesFrom [] false cs

end SiteSearch.Query
