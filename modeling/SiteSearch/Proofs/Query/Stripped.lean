import SiteSearch.Proofs.Query.Matches
import SiteSearch.Proofs.Text.Words
import SiteSearch.Query.Parsed

/-!
# What is left of a query

The text of a query is what stands outside of its directives. The directives are cut out at the
boundaries of characters and apart from each other, so no character is lost with them and none is
cut in two (`parse_text_outside`).

Where directives end matters only in bytes, while the text is made of characters: `outside` walks
over the characters and keeps count of the bytes.
-/

namespace SiteSearch.Query

open SiteSearch.Text

/-! ## Outside of directives -/

/-- Byte `p` belongs to the directive. -/
def Match.Covers (m : Match) (p : Nat) : Prop := m.start ≤ p ∧ p < m.stop

instance (m : Match) (p : Nat) : Decidable (m.Covers p) :=
  inferInstanceAs (Decidable (m.start ≤ p ∧ p < m.stop))

/-- The characters of a text that belong to none of the directives, when `offset` bytes come
before the text. -/
def outside (ms : List Match) : (offset : Nat) → List Char → List Char
  | _, [] => []
  | offset, c :: cs =>
    if ∃ m ∈ ms, m.Covers offset then outside ms (offset + c.utf8Size) cs
    else c :: outside ms (offset + c.utf8Size) cs

theorem outside_cons_of_covers {ms : List Match} {offset : Nat} (h : ∃ m ∈ ms, m.Covers offset)
    (c : Char) (cs : List Char) :
    outside ms offset (c :: cs) = outside ms (offset + c.utf8Size) cs := by
  rw [outside, if_pos h]

theorem outside_cons_of_not_covers {ms : List Match} {offset : Nat}
    (h : ∀ m ∈ ms, ¬ m.Covers offset) (c : Char) (cs : List Char) :
    outside ms offset (c :: cs) = c :: outside ms (offset + c.utf8Size) cs := by
  rw [outside, if_neg]
  rintro ⟨m, hm, hcovers⟩
  exact h m hm hcovers

/-- A directive that ends before a text does not matter for it. -/
theorem outside_cons_match {m : Match} {offset : Nat} (h : m.stop ≤ offset) (ms : List Match)
    (cs : List Char) : outside (m :: ms) offset cs = outside ms offset cs := by
  induction cs generalizing offset with
  | nil => rfl
  | cons c cs ih =>
    have hm : ¬ m.Covers offset := by
      intro hcovers
      have := hcovers.2
      omega
    have hcs : outside (m :: ms) (offset + c.utf8Size) cs = outside ms (offset + c.utf8Size) cs :=
      ih (by omega)
    by_cases hms : ∃ n ∈ ms, n.Covers offset
    · obtain ⟨n, hn, hcovers⟩ := hms
      rw [outside_cons_of_covers ⟨n, hn, hcovers⟩,
        outside_cons_of_covers ⟨n, List.mem_cons_of_mem m hn, hcovers⟩, hcs]
    · have hnone : ∀ n ∈ ms, ¬ n.Covers offset := fun n hn hcovers => hms ⟨n, hn, hcovers⟩
      have hnone' : ∀ n ∈ m :: ms, ¬ n.Covers offset := by
        intro n hn
        rcases List.mem_cons.mp hn with rfl | hn
        · exact hm
        · exact hnone n hn
      rw [outside_cons_of_not_covers hnone, outside_cons_of_not_covers hnone', hcs]

/-- A run that belongs to directives is left out. -/
theorem outside_append_of_covers {ms : List Match} {offset : Nat} {run : List Char}
    (h : ∀ p, offset ≤ p → p < offset + utf8Length run → ∃ m ∈ ms, m.Covers p)
    (rest : List Char) :
    outside ms offset (run ++ rest) = outside ms (offset + utf8Length run) rest := by
  induction run generalizing offset with
  | nil => simp
  | cons c run ih =>
    have hsize := c.utf8Size_pos
    have hfront : ∃ m ∈ ms, m.Covers offset := by
      apply h offset (Nat.le_refl offset)
      rw [utf8Length_cons]
      omega
    rw [List.cons_append, outside_cons_of_covers hfront, ih, utf8Length_cons, Nat.add_assoc]
    intro p hlow hhigh
    apply h p (by omega)
    rw [utf8Length_cons]
    omega

/-- What stays in a text is what stands outside of the directives found in it. -/
theorem Cut.keptText_eq_outside {done : List Directive} {start : Bool} {cs : List Char}
    {ps : List Piece} (h : Cut done start cs ps) (offset : Nat) :
    keptText ps = outside (matchesFrom offset ps) offset cs := by
  -- The directives found behind a character that stays do not reach back over it.
  have hkept : ∀ {done : List Directive} {c : Char} {cs : List Char} {ps : List Piece},
      Cut done (isWordChar c) cs ps → ∀ offset,
        keptText ps = outside (matchesFrom (offset + c.utf8Size) ps) (offset + c.utf8Size) cs →
        keptText (.kept c :: ps) =
          outside (matchesFrom offset (.kept c :: ps)) offset (c :: cs) := by
    intro done c cs ps rest offset ih
    have hclear : ∀ m ∈ matchesFrom (offset + c.utf8Size) ps, ¬ m.Covers offset := by
      intro m hm hcovers
      have hsize := c.utf8Size_pos
      have hle := (rest.standsIn _ m hm).1.offset_le
      have := hcovers.1
      omega
    rw [matchesFrom, outside_cons_of_not_covers hclear, ← ih]
    rfl
  induction h generalizing offset with
  | nil => rfl
  | within rest ih => exact hkept rest offset (ih _)
  | pass _ rest ih => exact hkept rest offset (ih _)
  | @take done o cs ps new stands rest ih =>
    have hcovers : ∀ p, offset ≤ p → p < offset + utf8Length o.typed →
        ∃ m ∈ matchesFrom offset (.taken o :: ps), m.Covers p := by
      intro p hlow hhigh
      exact ⟨⟨o, offset⟩, List.mem_cons_self, hlow, hhigh⟩
    have hstop : (⟨o, offset⟩ : Match).stop ≤ offset + utf8Length o.typed := Nat.le_refl _
    rw [outside_append_of_covers hcovers, matchesFrom, outside_cons_match hstop, ← ih]
    rfl

/-! ## Boundaries of characters -/

theorem utf8ByteSize_ofList (cs : List Char) :
    (String.ofList cs).utf8ByteSize = utf8Length cs := by
  induction cs with
  | nil => rfl
  | cons c cs ih =>
    have hsplit : String.ofList (c :: cs) = String.singleton c ++ String.ofList cs := by
      rw [String.singleton_eq_ofList, ← String.ofList_append]
      rfl
    rw [hsplit, String.utf8ByteSize_append, String.utf8ByteSize_singleton, ih, utf8Length_cons]

/-- Behind every start of a text is a boundary of characters. -/
theorem isValid_utf8Length {query : String} {before after : List Char}
    (h : query.toList = before ++ after) :
    String.Pos.Raw.IsValid query ⟨utf8Length before⟩ := by
  rw [String.Pos.Raw.isValid_iff_exists_append]
  refine ⟨.ofList before, .ofList after, ?_, ?_⟩
  · rw [← String.ofList_append, ← h, String.ofList_toList]
  · rw [← utf8ByteSize_ofList]
    rfl

/-- A directive takes up something, and whole characters of the query. -/
theorem span_of_mem_scan {query : String} {m : Match} (hm : m ∈ scan query) :
    m.start < m.stop ∧ m.stop ≤ query.utf8ByteSize ∧
      String.Pos.Raw.IsValid query ⟨m.start⟩ ∧ String.Pos.Raw.IsValid query ⟨m.stop⟩ := by
  have hin := ((cut_pieces query.toList).standsIn 0 m hm).1
  have hlt := hin.start_lt_stop
  obtain ⟨before, after, hquery, hstart, -, -⟩ := hin
  have hstart : m.start = utf8Length before := by omega
  have hstop : m.stop = utf8Length (before ++ m.occurrence.typed) := by
    rw [Match.stop, hstart, utf8Length_append]
  have hvalid := isValid_utf8Length hquery
  rw [← hstop] at hvalid
  refine ⟨hlt, hvalid.le_rawEndPos, ?_, hvalid⟩
  rw [List.append_assoc] at hquery
  rw [hstart]
  exact isValid_utf8Length hquery

/-! ## The text of a query -/

theorem toList_text_parse (query : String) :
    (parse query).text.toList = collapse (outside (scan query) 0 query.toList) := by
  have hkept := (cut_pieces query.toList).keptText_eq_outside 0
  rw [parse, String.toList_ofList, hkept]
  rfl

/-- The directives of a query take up whole characters, each at least one, and at least one lies
between two of them. Its text is made of the words that are left when they are cut out, one space
apart, so all that can be seen outside of them is kept and stays in order. -/
theorem parse_text_outside (query : String) :
    (∀ m ∈ scan query, m.start < m.stop ∧ m.stop ≤ query.utf8ByteSize ∧
      String.Pos.Raw.IsValid query ⟨m.start⟩ ∧ String.Pos.Raw.IsValid query ⟨m.stop⟩) ∧
    (scan query).Pairwise (fun m n => m.stop < n.start) ∧
    words (parse query).text.toList = words (outside (scan query) 0 query.toList) ∧
    Spaced (parse query).text.toList ∧
    (parse query).text.toList.filter (fun c => !isBlank c) =
      (outside (scan query) 0 query.toList).filter fun c => !isBlank c := by
  refine ⟨fun m hm => span_of_mem_scan hm, ?_, ?_, ?_, ?_⟩
  · exact ((cut_pieces query.toList).pairwise_matchesFrom 0).imp And.left
  · rw [toList_text_parse, words_collapse]
  · rw [toList_text_parse]
    exact spaced_collapse _
  · rw [toList_text_parse, filter_visible_collapse]

/-- Cutting a directive out may glue a word together, here one of letters outside ASCII. -/
example : outside (scan "é:year:2024ü\tin:a x") 0 "é:year:2024ü\tin:a x".toList =
    ['é', ':', 'ü', '\t', ' ', 'x'] := by decide

end SiteSearch.Query
