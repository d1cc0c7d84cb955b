import SiteSearch.Proofs.Query.Cut

/-!
# Where directives stand

Which directives of a text are found and where. A directive is found exactly when it stands in
the text, is not hidden by one that was found before it, and is the first found of its kind
(`Cut.mem_matchesFrom_iff`). The directives found are of different kinds, and at least one
character lies between two of them (`Cut.pairwise_matchesFrom`).
-/

namespace SiteSearch.Query

open SiteSearch.Text

/-! ## Lengths in bytes -/

@[simp] theorem utf8Length_nil : utf8Length [] = 0 := rfl

@[simp] theorem utf8Length_cons (c : Char) (cs : List Char) :
    utf8Length (c :: cs) = c.utf8Size + utf8Length cs := rfl

@[simp] theorem utf8Length_append (a b : List Char) :
    utf8Length (a ++ b) = utf8Length a + utf8Length b := by
  induction a with
  | nil => simp
  | cons c a ih => simp [ih, Nat.add_assoc]

theorem utf8Length_pos {cs : List Char} (h : cs ≠ []) : 0 < utf8Length cs := by
  obtain ⟨c, cs, rfl⟩ := List.exists_cons_of_ne_nil h
  have := c.utf8Size_pos
  rw [utf8Length_cons]
  omega

/-- Of two starts of a text the one that takes no more bytes starts the other. -/
theorem exists_append_of_utf8Length_le {a b c d : List Char} (h : a ++ b = c ++ d)
    (hle : utf8Length a ≤ utf8Length c) : ∃ middle, c = a ++ middle ∧ b = middle ++ d := by
  rcases List.append_eq_append_iff.mp h with h | ⟨middle, rfl, rfl⟩
  · exact h
  · rw [utf8Length_append] at hle
    cases middle with
    | nil => exact ⟨[], by simp, by simp⟩
    | cons x xs =>
      have := x.utf8Size_pos
      rw [utf8Length_cons] at hle
      omega

/-! ## Directives in a text -/

namespace Match

/-- The directive stands in a text that has `offset` bytes before it; `start` says whether a
letter, digit or underscore stands just before the text. -/
def StandsIn (m : Match) (offset : Nat) (start : Bool) (cs : List Char) : Prop :=
  ∃ before after, cs = before ++ m.occurrence.typed ++ after ∧
    m.start = offset + utf8Length before ∧ afterWord start before = false ∧
    m.occurrence.StandsBefore after

variable {m : Match} {offset : Nat} {start : Bool}

theorem not_standsIn_nil : ¬ m.StandsIn offset start [] := by
  intro h
  obtain ⟨before, after, hcs, -, -, hstands⟩ := h
  simp [hstands.typed_ne_nil] at hcs

theorem StandsIn.append {a cs : List Char}
    (h : m.StandsIn (offset + utf8Length a) (afterWord start a) cs) :
    m.StandsIn offset start (a ++ cs) := by
  obtain ⟨before, after, rfl, hstart, hword, hstands⟩ := h
  refine ⟨a ++ before, after, by simp, ?_, ?_, hstands⟩
  · rw [hstart, utf8Length_append]
    omega
  · rw [afterWord_append, hword]

theorem StandsIn.of_append {a cs : List Char} (h : m.StandsIn offset start (a ++ cs))
    (hle : offset + utf8Length a ≤ m.start) :
    m.StandsIn (offset + utf8Length a) (afterWord start a) cs := by
  obtain ⟨before, after, hcs, hstart, hword, hstands⟩ := h
  rw [List.append_assoc] at hcs
  obtain ⟨middle, rfl, rfl⟩ := exists_append_of_utf8Length_le hcs (by omega)
  rw [utf8Length_append, ← Nat.add_assoc] at hstart
  rw [afterWord_append] at hword
  exact ⟨middle, after, by simp, hstart, hword, hstands⟩

theorem StandsIn.offset_le {cs : List Char} (h : m.StandsIn offset start cs) :
    offset ≤ m.start := by
  obtain ⟨before, after, -, hstart, -, -⟩ := h
  omega

theorem StandsIn.front {cs : List Char} (h : m.StandsIn offset start cs)
    (hfront : m.start = offset) :
    ∃ after, cs = m.occurrence.typed ++ after ∧ m.occurrence.StandsBefore after := by
  obtain ⟨before, after, rfl, hstart, -, hstands⟩ := h
  cases before with
  | nil => exact ⟨after, rfl, hstands⟩
  | cons c before =>
    have := c.utf8Size_pos
    rw [utf8Length_cons] at hstart
    omega

/-- A directive in a text stands at its first character or in the rest. -/
theorem StandsIn.cons_cases {c : Char} {cs : List Char} (h : m.StandsIn offset start (c :: cs)) :
    (start = false ∧ m.start = offset ∧
      ∃ after, c :: cs = m.occurrence.typed ++ after ∧ m.occurrence.StandsBefore after) ∨
    m.StandsIn (offset + c.utf8Size) (isWordChar c) cs := by
  obtain ⟨before, after, hcs, hstart, hword, hstands⟩ := h
  cases before with
  | nil => exact .inl ⟨hword, by simpa using hstart, after, by simpa using hcs, hstands⟩
  | cons d before =>
    simp only [List.cons_append, List.cons.injEq] at hcs
    obtain ⟨rfl, rfl⟩ := hcs
    refine .inr ⟨before, after, rfl, ?_, hword, hstands⟩
    rw [hstart, utf8Length_cons]
    omega

/-- Just after a letter, digit or underscore no directive stands. -/
theorem StandsIn.offset_lt {cs : List Char} (h : m.StandsIn offset true cs) :
    offset < m.start := by
  obtain ⟨before, after, -, hstart, hword, -⟩ := h
  have hne : before ≠ [] := by
    rintro rfl
    cases hword
  have := utf8Length_pos hne
  omega

theorem StandsIn.start_lt_stop {cs : List Char} (h : m.StandsIn offset start cs) :
    m.start < m.stop := by
  obtain ⟨before, after, -, -, -, hstands⟩ := h
  have := utf8Length_pos hstands.typed_ne_nil
  rw [stop]
  omega

end Match

/-! ## Directives found -/

variable {done : List Directive} {start : Bool} {cs : List Char} {ps : List Piece}

/-- What is found stands there and is of a new kind. -/
theorem Cut.standsIn (h : Cut done start cs ps) (offset : Nat) :
    ∀ m ∈ matchesFrom offset ps, m.StandsIn offset start cs ∧ m.occurrence.directive ∉ done := by
  induction h generalizing offset with
  | nil =>
    intro m hm
    simp [matchesFrom] at hm
  | @within done c cs ps rest ih =>
    intro m hm
    obtain ⟨hin, hnew⟩ := ih (offset + c.utf8Size) m hm
    exact ⟨Match.StandsIn.append (a := [c]) hin, hnew⟩
  | @pass done c cs ps old rest ih =>
    intro m hm
    obtain ⟨hin, hnew⟩ := ih (offset + c.utf8Size) m hm
    exact ⟨Match.StandsIn.append (a := [c]) hin, hnew⟩
  | @take done o cs ps new stands rest ih =>
    intro m hm
    rcases List.mem_cons.mp hm with rfl | hm
    · exact ⟨⟨[], cs, by simp, by simp, rfl, stands⟩, new⟩
    · obtain ⟨hin, hnew⟩ := ih (offset + utf8Length o.typed) m hm
      refine ⟨?_, fun hdone => hnew (List.mem_cons_of_mem _ hdone)⟩
      apply Match.StandsIn.append
      rw [stands.afterWord_typed]
      exact hin

/-- Between two directives that were found lies at least one character, and they are of
different kinds. -/
theorem Cut.pairwise_matchesFrom (h : Cut done start cs ps) (offset : Nat) :
    (matchesFrom offset ps).Pairwise fun m n =>
      m.stop < n.start ∧ m.occurrence.directive ≠ n.occurrence.directive := by
  induction h generalizing offset with
  | nil => exact .nil
  | within _ ih => exact ih _
  | pass _ _ ih => exact ih _
  | @take done o cs ps new stands rest ih =>
    refine .cons ?_ (ih _)
    intro n hn
    obtain ⟨hin, hnew⟩ := rest.standsIn _ n hn
    refine ⟨hin.offset_lt, ?_⟩
    intro hkind
    exact hnew (hkind ▸ List.mem_cons_self)

/-- What stands in the text is found unless one found before it hides it or is of its kind. -/
theorem Cut.mem_matchesFrom (h : Cut done start cs ps) {m : Match} {offset : Nat}
    (hin : m.StandsIn offset start cs) (hnew : m.occurrence.directive ∉ done)
    (hclear : ∀ n ∈ matchesFrom offset ps, n.start < m.start →
      n.stop ≤ m.start ∧ n.occurrence.directive ≠ m.occurrence.directive) :
    m ∈ matchesFrom offset ps := by
  induction h generalizing offset with
  | nil => exact absurd hin Match.not_standsIn_nil
  | within rest ih =>
    rcases hin.cons_cases with ⟨hstart, -⟩ | hin
    · cases hstart
    · exact ih hin hnew hclear
  | pass old rest ih =>
    rcases hin.cons_cases with ⟨-, -, after, hcs, hstands⟩ | hin
    · exact absurd (old _ after hcs hstands) hnew
    · exact ih hin hnew hclear
  | @take done o cs ps new stands rest ih =>
    by_cases hfront : m.start = offset
    · -- Only one directive can stand at the front.
      obtain ⟨after, hcs, hstands⟩ := hin.front hfront
      obtain ⟨rfl, -⟩ := stands.unique hstands hcs
      rw [matchesFrom, ← hfront]
      exact List.mem_cons_self
    · -- The directive taken here ends before `m`, so `m` stands in what is left.
      have hle := hin.offset_le
      obtain ⟨hstop, hkind⟩ := hclear ⟨o, offset⟩ List.mem_cons_self (by simp only; omega)
      have hrest := hin.of_append hstop
      rw [stands.afterWord_typed] at hrest
      refine List.mem_cons_of_mem _ (ih hrest ?_ ?_)
      · intro hdone
        rcases List.mem_cons.mp hdone with heq | hdone
        · exact hkind heq.symm
        · exact hnew hdone
      · intro n hn
        exact hclear n (List.mem_cons_of_mem _ hn)

theorem eq_or_rel_of_pairwise {α : Type} {R : α → α → Prop} {l : List α} (h : l.Pairwise R)
    {a b : α} (ha : a ∈ l) (hb : b ∈ l) : a = b ∨ R a b ∨ R b a := by
  induction h with
  | nil => simp at ha
  | cons hhead _ ih =>
    rcases List.mem_cons.mp ha with rfl | hatail
    · rcases List.mem_cons.mp hb with rfl | hbtail
      · exact .inl rfl
      · exact .inr (.inl (hhead b hbtail))
    · rcases List.mem_cons.mp hb with rfl | hbtail
      · exact .inr (.inr (hhead a hatail))
      · exact ih hatail hbtail

/-- A directive is found exactly when it stands in the text, no directive that was found before
it hides it, and none of those is of its kind. -/
theorem Cut.mem_matchesFrom_iff (h : Cut [] start cs ps) {m : Match} {offset : Nat} :
    m ∈ matchesFrom offset ps ↔
      m.StandsIn offset start cs ∧ ∀ n ∈ matchesFrom offset ps, n.start < m.start →
        n.stop ≤ m.start ∧ n.occurrence.directive ≠ m.occurrence.directive := by
  constructor
  · intro hm
    obtain ⟨hin, -⟩ := h.standsIn offset m hm
    refine ⟨hin, ?_⟩
    intro n hn hlt
    rcases eq_or_rel_of_pairwise (h.pairwise_matchesFrom offset) hn hm with rfl | hrel | hrel
    · omega
    · exact ⟨Nat.le_of_lt hrel.1, hrel.2⟩
    · have := hin.start_lt_stop
      omega
  · intro hfound
    obtain ⟨hin, hclear⟩ := hfound
    exact h.mem_matchesFrom hin (by simp) hclear

/-! ## Kinds -/

theorem occurrences_eq_map_matchesFrom (offset : Nat) (ps : List Piece) :
    occurrences ps = (matchesFrom offset ps).map Match.occurrence := by
  induction ps generalizing offset with
  | nil => rfl
  | cons p ps ih =>
    cases p with
    | kept c => exact ih _
    | taken o => exact congrArg (o :: ·) (ih _)

/-- The directives of a query are of different kinds. -/
theorem pairwise_occurrences_pieces (cs : List Char) :
    (occurrences (pieces cs)).Pairwise fun o p => o.directive ≠ p.directive := by
  rw [occurrences_eq_map_matchesFrom 0, List.pairwise_map]
  exact ((cut_pieces cs).pairwise_matchesFrom 0).imp And.right

end SiteSearch.Query
