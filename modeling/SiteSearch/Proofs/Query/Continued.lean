import SiteSearch.Proofs.Query.Stripped
import SiteSearch.Proofs.Query.Wordwise

/-!
# Queries that go on after a blank

What is found in a query stays found when more text is added behind a blank. The added text is
scanned as if it stood alone, but for the kinds that were found before it
(`scan_append_gap`).

That no directive reaches over a blank is `Cut.append`. Here the pieces of both parts are turned
back into directives with their places, and into words.
-/

namespace SiteSearch.Query

open SiteSearch.Text SiteSearch.Filter

/-! ## Kinds that were found -/

/-- Of the kinds that were taken it only matters which they are. -/
theorem Cut.of_mem_iff {done done' : List Directive} {start : Bool} {cs : List Char}
    {ps : List Piece} (h : Cut done start cs ps) (hdone : ∀ d, d ∈ done' ↔ d ∈ done) :
    Cut done' start cs ps := by
  induction h generalizing done' with
  | nil => exact .nil
  | within _ ih => exact .within (ih hdone)
  | pass old _ ih =>
    refine .pass ?_ (ih hdone)
    intro o after hcs hstands
    exact (hdone _).mpr (old o after hcs hstands)
  | take new stands _ ih =>
    refine .take (fun hmem => new ((hdone _).mp hmem)) stands (ih ?_)
    intro d
    simp only [List.mem_cons, hdone]

/-- The directives of a query, from left to right, when directives of the kinds `found` were found
before it. -/
def scanAfter (found : List Directive) (query : String) : List Match :=
  matchesFrom 0 (piecesFrom found false 0 query.toList)

@[simp] theorem scanAfter_nil (query : String) : scanAfter [] query = scan query := rfl

/-! ## Places -/

/-- The directive when `n` more bytes stand before it. -/
def Match.shift (n : Nat) (m : Match) : Match := { m with start := n + m.start }

theorem matchesFrom_add (n offset : Nat) (ps : List Piece) :
    matchesFrom (n + offset) ps = (matchesFrom offset ps).map (Match.shift n) := by
  induction ps generalizing offset with
  | nil => rfl
  | cons p ps ih =>
    cases p with
    | kept c => rw [matchesFrom, matchesFrom, Nat.add_assoc, ih]
    | taken o =>
      rw [matchesFrom, matchesFrom, Nat.add_assoc, ih]
      rfl

theorem matchesFrom_append (offset : Nat) (ps qs : List Piece) :
    matchesFrom offset (ps ++ qs) =
      matchesFrom offset ps ++ matchesFrom (offset + utf8Length (ps.flatMap Piece.typed)) qs := by
  induction ps generalizing offset with
  | nil => simp [matchesFrom]
  | cons p ps ih =>
    rw [List.flatMap_cons, utf8Length_append, ← Nat.add_assoc]
    cases p with
    | kept c => exact ih _
    | taken o => exact congrArg (⟨o, offset⟩ :: ·) (ih _)

theorem matchesFrom_map_kept_append (offset : Nat) (run : List Char) (ps : List Piece) :
    matchesFrom offset (run.map .kept ++ ps) = matchesFrom (offset + utf8Length run) ps := by
  induction run generalizing offset with
  | nil => rfl
  | cons c run ih =>
    rw [utf8Length_cons, ← Nat.add_assoc]
    exact ih _

/-- The pieces of a text are the whole of it. -/
theorem Cut.flatMap_typed {done : List Directive} {start : Bool} {cs : List Char}
    {ps : List Piece} (h : Cut done start cs ps) : ps.flatMap Piece.typed = cs := by
  induction h with
  | nil => rfl
  | within _ ih => exact congrArg (_ :: ·) ih
  | pass _ _ ih => exact congrArg (_ :: ·) ih
  | take _ _ _ ih => exact congrArg (_ ++ ·) ih

theorem utf8ByteSize_eq (s : String) : s.utf8ByteSize = utf8Length s.toList := by
  rw [← utf8ByteSize_ofList, String.ofList_toList]

/-! ## Text behind a gap -/

/-- The pieces of a text with a gap and more text behind it. -/
theorem pieces_append_gap (cs : List Char) (gap : Gap) (rest : List Char) :
    pieces (cs ++ (gap.blanks ++ rest)) =
      pieces cs ++ (gap.blanks.map .kept ++
        piecesFrom ((occurrences (pieces cs)).map (·.directive)) false 0 rest) := by
  have hrest : Cut (kindsAfter [] (pieces cs)) false rest
      (piecesFrom ((occurrences (pieces cs)).map (·.directive)) false 0 rest) := by
    apply (cut_piecesFrom _ false rest).of_mem_iff
    intro d
    simp [kindsAfter]
  have hcut := (cut_pieces cs).append (gap.isBlank_of_mem_head? rest) (hrest.keep_gap gap _)
  exact hcut.eq_piecesFrom.symm

theorem words_keptText_append_gap (ps : List Piece) (gap : Gap) (qs : List Piece) :
    words (keptText (ps ++ (gap.blanks.map .kept ++ qs))) =
      words (keptText ps) ++ words (keptText qs) := by
  rw [keptText_append, keptText_map_kept_append, words_append (gap.isBlank_of_mem_head? _),
    words_append_of_blank gap.blank]

/-- When a query goes on behind blanks, the directives found in it stay, and those of the text
behind are the ones that are found there when the kinds found before count as found. The words of its
text stay and those left of the text behind follow them, and no condition is lost. -/
theorem scan_append_gap (query gap more : String) (hne : gap ≠ "")
    (hgap : isBlankText gap = true) :
    let found := (scan query).map (·.occurrence.directive)
    scan (query ++ gap ++ more) =
      scan query ++ (scanAfter found more).map (Match.shift (query ++ gap).utf8ByteSize) ∧
    words (parse (query ++ gap ++ more)).text.toList =
      words (parse query).text.toList ++
        words (outside (scanAfter found more) 0 more.toList) ∧
    ∀ c ∈ (parse query).clauses, c ∈ (parse (query ++ gap ++ more)).clauses := by
  intro found
  let blanks : Gap := ⟨gap.toList, by simpa using hne, List.all_eq_true.mp hgap⟩
  have hfound : found = (occurrences (pieces query.toList)).map (·.directive) := by
    rw [occurrences_eq_map_matchesFrom 0, List.map_map]
    rfl
  have hpieces : pieces (query ++ gap ++ more).toList =
      pieces query.toList ++ (blanks.blanks.map .kept ++ piecesFrom found false 0 more.toList) := by
    rw [hfound, ← pieces_append_gap, String.toList_append, String.toList_append, List.append_assoc]
  refine ⟨?_, ?_, ?_⟩
  · have hlength : 0 + utf8Length query.toList + utf8Length gap.toList =
        (query ++ gap).utf8ByteSize + 0 := by
      rw [String.utf8ByteSize_append, utf8ByteSize_eq, utf8ByteSize_eq]
      omega
    rw [scan, hpieces, matchesFrom_append, (cut_pieces query.toList).flatMap_typed,
      matchesFrom_map_kept_append, hlength, matchesFrom_add]
    rfl
  · have hleft := (cut_piecesFrom found false more.toList).keptText_eq_outside 0
    simp only [parse, String.toList_ofList, words_collapse]
    rw [hpieces, words_keptText_append_gap, hleft]
    rfl
  · intro c hc
    obtain ⟨o, ho, hstates⟩ := mem_clauses_parse.mp hc
    refine mem_clauses_parse.mpr ⟨o, ?_, hstates⟩
    rw [hpieces, occurrences_append]
    exact List.mem_append_left _ ho

/-- A kind found before the gap is not taken again behind it, which brings another one to light. -/
theorem scan_append_gap_secondKind :
    let query := "in:a"
    let gap := "\u2003\n"
    let more := "in:type:file hall"
    gap ≠ "" ∧ isBlankText gap = true ∧
      (scan (query ++ gap ++ more)).map (fun m => (m.occurrence.directive, m.start, m.stop)) =
        [(.within, 0, 4), (.type, 11, 20)] ∧
      words (parse (query ++ gap ++ more)).text.toList = ["in:".toList, "hall".toList] := by
  intro query gap more
  have hne : gap ≠ "" := by decide
  have hgap : isBlankText gap = true := by decide
  obtain ⟨hscan, hwords, -⟩ := scan_append_gap query gap more hne hgap
  refine ⟨hne, hgap, ?_, ?_⟩
  · rw [hscan]
    decide
  · rw [hwords]
    decide

end SiteSearch.Query
