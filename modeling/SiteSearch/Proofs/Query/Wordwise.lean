import SiteSearch.Proofs.Query.Tokens

/-!
# Queries word by word

No directive reaches over a blank, so a query is cut word by word; all that one word tells the next
is which kinds were taken (`exists_cut_wordwise`). What is read from a query therefore depends on
its words alone (`parse_eq_of_words`).
-/

namespace SiteSearch.Query

open SiteSearch.Text

/-! ## Cutting at blanks -/

@[simp] theorem keptText_append (ps qs : List Piece) :
    keptText (ps ++ qs) = keptText ps ++ keptText qs :=
  List.filterMap_append

@[simp] theorem occurrences_append (ps qs : List Piece) :
    occurrences (ps ++ qs) = occurrences ps ++ occurrences qs :=
  List.filterMap_append

/-- The kinds that were taken when `done` were taken before some pieces. -/
def kindsAfter (done : List Directive) (ps : List Piece) : List Directive :=
  ((occurrences ps).map (·.directive)).reverse ++ done

theorem kindsAfter_taken (done : List Directive) (o : Occurrence) (ps : List Piece) :
    kindsAfter done (.taken o :: ps) = kindsAfter (o.directive :: done) ps := by
  simp [kindsAfter]

/-- A text is cut as if nothing came after it when a blank does, and what comes after it is cut on
its own, but for the kinds that were taken. -/
theorem Cut.append {done : List Directive} {start : Bool} {cs rest : List Char}
    {ps qs : List Piece} (h : Cut done start cs ps)
    (hrest : ∀ c ∈ rest.head?, isBlank c = true)
    (hqs : Cut (kindsAfter done ps) (afterWord start cs) rest qs) :
    Cut done start (cs ++ rest) (ps ++ qs) := by
  induction h with
  | nil => exact hqs
  | within _ ih => exact .within (ih hqs)
  | @pass done c cs ps old _ ih =>
    refine .pass ?_ (ih hqs)
    intro o after hcs hstands
    -- The directive lies before the blank, so it stands in the text alone.
    have hfront : c :: cs ++ rest = o.typed ++ after := hcs
    obtain ⟨middle, hmiddle, rfl⟩ :=
      exists_of_append_eq_append hrest hstands.isBlank_eq_false hfront
    exact old o middle hmiddle ((Occurrence.standsBefore_append_iff hrest).mp hstands)
  | @take done o cs ps new stands _ ih =>
    rw [afterWord_append, stands.afterWord_typed, kindsAfter_taken] at hqs
    rw [List.append_assoc]
    exact .take new ((Occurrence.standsBefore_append_iff hrest).mpr stands) (ih hqs)

/-! ## Words -/

/-- The pieces of words that are cut one by one, when directives of the kinds `done` were taken
before them. -/
def cutWords (done : List Directive) : List (List Char) → List (List Piece)
  | [] => []
  | w :: ws => piecesFrom done false 0 w :: cutWords (kindsAfter done (piecesFrom done false 0 w)) ws

/-- The words that stay of words that are cut one by one. -/
def wordsLeft (done : List Directive) (ws : List (List Char)) : List (List Char) :=
  (cutWords done ws).flatMap fun ps => words (keptText ps)

/-- The directives in words that are cut one by one. -/
def wordsTaken (done : List Directive) (ws : List (List Char)) : List Occurrence :=
  (cutWords done ws).flatMap occurrences

/-- A text is cut word by word. It may not go on with a word that began before it. -/
theorem exists_cut_wordwise {start : Bool} {cs : List Char} (done : List Directive)
    (hfront : start = true → ∀ c ∈ cs.head?, isBlank c = true) :
    ∃ ps, Cut done start cs ps ∧ words (keptText ps) = wordsLeft done (words cs) ∧
      occurrences ps = wordsTaken done (words cs) := by
  induction cs using words_induction generalizing done start with
  | blank gap hgap =>
    refine ⟨gap.map .kept ++ [], ?_, ?_, ?_⟩
    · have hcut := Cut.keep_blanks (@Cut.nil done (afterWord start gap)) hgap
      rwa [List.append_nil] at hcut
    · rw [keptText_map_kept_append, words_append_of_blank hgap, words_of_blank hgap]
      rfl
    · rw [occurrences_map_kept_append, words_of_blank hgap]
      rfl
  | word gap w rest hgap hne hw hrest ih =>
    have hwords : words (gap ++ (w ++ rest)) = w :: words rest := by
      rw [words_append_of_blank hgap, words_append_of_visible hne hw hrest]
    have hcut := cut_piecesFrom done false w
    obtain ⟨qs, hqs, hleft, htaken⟩ :=
      @ih (afterWord false w) (kindsAfter done (piecesFrom done false 0 w)) fun _ => hrest
    have hstart : afterWord start gap = false := by
      cases gap with
      | nil =>
        cases start with
        | false => rfl
        | true =>
          obtain ⟨c, w, rfl⟩ := List.exists_cons_of_ne_nil hne
          have hblank := hfront rfl c rfl
          rw [hw c List.mem_cons_self] at hblank
          cases hblank
      | cons c gap =>
        exact afterWord_of_forall (List.cons_ne_nil c gap)
          (fun d hd => isWordChar_of_isBlank (hgap d hd)) start
    refine ⟨gap.map .kept ++ (piecesFrom done false 0 w ++ qs), ?_, ?_, ?_⟩
    · apply Cut.keep_blanks _ hgap
      rw [hstart]
      exact hcut.append hrest hqs
    · rw [keptText_map_kept_append, words_append_of_blank hgap, keptText_append,
        words_append (hqs.head?_keptText hrest), hleft, hwords]
      rfl
    · rw [occurrences_map_kept_append, occurrences_append, htaken, hwords]
      rfl

theorem occurrences_pieces_eq_wordsTaken (cs : List Char) :
    occurrences (pieces cs) = wordsTaken [] (words cs) := by
  obtain ⟨ps, hcut, -, htaken⟩ :=
    @exists_cut_wordwise false cs [] fun hstart => absurd hstart Bool.false_ne_true
  rw [← htaken, hcut.eq_piecesFrom, pieces]

theorem words_keptText_pieces (cs : List Char) :
    words (keptText (pieces cs)) = wordsLeft [] (words cs) := by
  obtain ⟨ps, hcut, hleft, -⟩ :=
    @exists_cut_wordwise false cs [] fun hstart => absurd hstart Bool.false_ne_true
  rw [← hleft, hcut.eq_piecesFrom, pieces]

/-- A query is read word by word. -/
theorem parse_eq_of_words (query : String) :
    parse query = ⟨.ofList (unwords (wordsLeft [] (words query.toList))),
      clausesOf (wordsTaken [] (words query.toList))⟩ := by
  rw [parse, collapse, words_keptText_pieces, occurrences_pieces_eq_wordsTaken]

end SiteSearch.Query
