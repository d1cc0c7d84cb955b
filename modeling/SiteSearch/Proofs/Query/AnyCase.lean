import SiteSearch.Proofs.Query.Meanings
import SiteSearch.Proofs.Query.Stripped

/-!
# Queries in any case

The case of the letters `A` to `Z` does not matter in a query (`parse_anyCase`). Two queries that
are the same in small letters are each compared with that one in small letters: making letters small
changes no piece of a query but its letters (`Cut.lowered`), because it changes none of the classes
of characters that the cutting looks at.
-/

namespace SiteSearch.Text

/-! ## Texts in small letters -/

section Class

variable {p : Char → Bool} (hp : ∀ c, p c.toLower = p c) {b : Bool} {cs : List Char}

include hp

/-- A class that does not tell letters from small ones does not tell texts from those in small
letters. -/
theorem forall_mem_asciiLower : (∀ c ∈ asciiLower cs, p c = b) ↔ ∀ c ∈ cs, p c = b := by
  simp only [asciiLower, List.mem_map, forall_exists_index, and_imp, forall_apply_eq_imp_iff₂, hp]

theorem forall_head?_asciiLower :
    (∀ c ∈ (asciiLower cs).head?, p c = b) ↔ ∀ c ∈ cs.head?, p c = b := by
  cases cs with
  | nil => rfl
  | cons c cs => simp [asciiLower, hp]

end Class

theorem asciiLower_ne_nil_iff {cs : List Char} : asciiLower cs ≠ [] ↔ cs ≠ [] := by
  simp [asciiLower]

theorem words_asciiLower (cs : List Char) : words (asciiLower cs) = (words cs).map asciiLower := by
  induction cs using words_induction with
  | blank gap hgap =>
    have hgap' := (forall_mem_asciiLower isBlank_toLower).mpr hgap
    rw [words_of_blank hgap, words_of_blank hgap', List.map_nil]
  | word gap w rest hgap hne hw hrest ih =>
    have hgap' := (forall_mem_asciiLower isBlank_toLower).mpr hgap
    have hw' := (forall_mem_asciiLower isBlank_toLower).mpr hw
    have hrest' := (forall_head?_asciiLower isBlank_toLower).mpr hrest
    rw [asciiLower_append, asciiLower_append, words_append_of_blank hgap,
      words_append_of_visible hne hw hrest, words_append_of_blank hgap',
      words_append_of_visible (asciiLower_ne_nil_iff.mpr hne) hw' hrest', ih, List.map_cons]

theorem unwords_map_asciiLower (ws : List (List Char)) :
    unwords (ws.map asciiLower) = asciiLower (unwords ws) := by
  induction ws with
  | nil => rfl
  | cons w ws ih =>
    cases ws with
    | nil => simp
    | cons v vs =>
      rw [List.map_cons] at ih
      rw [List.map_cons, List.map_cons, unwords_cons_cons, unwords_cons_cons, asciiLower_append, ih]
      rfl

theorem collapse_asciiLower (cs : List Char) :
    collapse (asciiLower cs) = asciiLower (collapse cs) := by
  rw [collapse, collapse, words_asciiLower, unwords_map_asciiLower]

end SiteSearch.Text

namespace SiteSearch.Query

open SiteSearch.Text SiteSearch.Filter

/-! ## Directives in small letters -/

/-- The directive, typed in small letters. -/
def Occurrence.lowered (o : Occurrence) : Occurrence :=
  ⟨o.directive, asciiLower o.keyword, asciiLower o.value⟩

theorem Occurrence.typed_lowered (o : Occurrence) : o.lowered.typed = asciiLower o.typed :=
  (asciiLower_append _ _).symm

theorem isDigits_asciiLower_iff {count : Nat} {cs : List Char} :
    IsDigits count (asciiLower cs) ↔ IsDigits count cs := by
  rw [IsDigits, IsDigits, forall_mem_asciiLower isDigit_toLower, asciiLower, List.length_map]

/-- A text goes on with a dash and a month in any case of its letters. -/
theorem exists_dash_month_asciiLower_iff {cs : List Char} :
    (∃ month more, asciiLower cs = '-' :: month ++ more ∧ IsDigits 2 month) ↔
      ∃ month more, cs = '-' :: month ++ more ∧ IsDigits 2 month := by
  constructor
  · rintro ⟨month, more, hcs, hmonth⟩
    obtain ⟨front, more, rfl, hfront, rfl⟩ := List.map_eq_append_iff.mp hcs
    obtain ⟨dash, month, rfl, hdash, rfl⟩ := List.map_eq_cons_iff.mp hfront
    obtain rfl := eq_of_toLower_eq (by decide) hdash
    exact ⟨month, more, rfl, isDigits_asciiLower_iff.mp hmonth⟩
  · rintro ⟨month, more, rfl, hmonth⟩
    exact ⟨asciiLower month, asciiLower more, by simp [asciiLower],
      isDigits_asciiLower_iff.mpr hmonth⟩

theorem exists_year_month_asciiLower_iff {cs : List Char} :
    (∃ year month, asciiLower cs = year ++ '-' :: month ∧ IsDigits 4 year ∧ IsDigits 2 month) ↔
      ∃ year month, cs = year ++ '-' :: month ∧ IsDigits 4 year ∧ IsDigits 2 month := by
  constructor
  · rintro ⟨year, month, hcs, hyear, hmonth⟩
    obtain ⟨year, rest, rfl, rfl, hrest⟩ := List.map_eq_append_iff.mp hcs
    obtain ⟨dash, month, rfl, hdash, rfl⟩ := List.map_eq_cons_iff.mp hrest
    obtain rfl := eq_of_toLower_eq (by decide) hdash
    exact ⟨year, month, rfl, isDigits_asciiLower_iff.mp hyear, isDigits_asciiLower_iff.mp hmonth⟩
  · rintro ⟨year, month, rfl, hyear, hmonth⟩
    exact ⟨asciiLower year, asciiLower month, by simp [asciiLower],
      isDigits_asciiLower_iff.mpr hyear, isDigits_asciiLower_iff.mpr hmonth⟩

/-- Whether a value is the whole one does not depend on the case of letters. -/
theorem ValueForm.admits_asciiLower_iff {form : ValueForm} {value rest : List Char} :
    form.Admits (asciiLower value) (asciiLower rest) ↔ form.Admits value rest := by
  cases form with
  | word =>
    rw [Admits, Admits, asciiLower_ne_nil_iff, forall_mem_asciiLower isWordChar_toLower,
      forall_head?_asciiLower isWordChar_toLower]
  | year => exact isDigits_asciiLower_iff
  | yearMonth =>
    rw [Admits, Admits, isDigits_asciiLower_iff, exists_dash_month_asciiLower_iff,
      exists_year_month_asciiLower_iff]

theorem Occurrence.standsBefore_lowered_iff {o : Occurrence} {rest : List Char} :
    o.lowered.StandsBefore (asciiLower rest) ↔ o.StandsBefore rest := by
  constructor
  · intro h
    refine ⟨?_, ValueForm.admits_asciiLower_iff.mp h.value⟩
    rw [← asciiLower_asciiLower]
    exact h.keyword
  · intro h
    refine ⟨?_, ValueForm.admits_asciiLower_iff.mpr h.value⟩
    exact (asciiLower_asciiLower o.keyword).trans h.keyword

/-- A directive that stands in a text in small letters stands in the text, in its own letters. -/
theorem exists_of_asciiLower_eq_typed {cs after : List Char} {o : Occurrence}
    (hcs : asciiLower cs = o.typed ++ after) (h : o.StandsBefore after) :
    ∃ (own : Occurrence) (rest : List Char), cs = own.typed ++ rest ∧ own.StandsBefore rest ∧
      own.directive = o.directive := by
  obtain ⟨typed, rest, rfl, htyped, rfl⟩ := List.map_eq_append_iff.mp hcs
  obtain ⟨keyword, value, rfl, hkeyword, hvalue⟩ := List.map_eq_append_iff.mp htyped
  refine ⟨⟨o.directive, keyword, value⟩, rest, rfl, ?_, rfl⟩
  have hlowered : Occurrence.lowered ⟨o.directive, keyword, value⟩ = o := by
    rw [Occurrence.lowered, asciiLower, asciiLower, hkeyword, hvalue]
  rw [← Occurrence.standsBefore_lowered_iff, hlowered]
  exact h

/-! ## Pieces in small letters -/

def Piece.lowered : Piece → Piece
  | .kept c => .kept c.toLower
  | .taken o => .taken o.lowered

/-- A text in small letters is cut where the text is cut. -/
theorem Cut.lowered {done : List Directive} {start : Bool} {cs : List Char} {ps : List Piece}
    (h : Cut done start cs ps) : Cut done start (asciiLower cs) (ps.map Piece.lowered) := by
  induction h with
  | nil => exact .nil
  | @within done c cs ps _ ih =>
    rw [← isWordChar_toLower] at ih
    exact .within ih
  | @pass done c cs ps old _ ih =>
    rw [← isWordChar_toLower] at ih
    refine .pass ?_ ih
    intro o after hcs hstands
    obtain ⟨own, rest, hown, hrest, hkind⟩ :=
      @exists_of_asciiLower_eq_typed (c :: cs) after o hcs hstands
    exact hkind ▸ old own rest hown hrest
  | @take done o cs ps new stands _ ih =>
    rw [asciiLower_append, ← Occurrence.typed_lowered]
    exact .take new (Occurrence.standsBefore_lowered_iff.mpr stands) ih

theorem pieces_asciiLower (cs : List Char) :
    pieces (asciiLower cs) = (pieces cs).map Piece.lowered :=
  (cut_pieces cs).lowered.eq_piecesFrom.symm

theorem utf8Length_asciiLower (cs : List Char) : utf8Length (asciiLower cs) = utf8Length cs := by
  induction cs with
  | nil => rfl
  | cons c cs ih =>
    rw [utf8Length_cons, ← ih, ← utf8Size_toLower]
    rfl

def Match.lowered (m : Match) : Match := ⟨m.occurrence.lowered, m.start⟩

theorem Match.stop_lowered (m : Match) : m.lowered.stop = m.stop := by
  rw [stop, stop, lowered, Occurrence.typed_lowered, utf8Length_asciiLower]

theorem matchesFrom_map_lowered (offset : Nat) (ps : List Piece) :
    matchesFrom offset (ps.map Piece.lowered) = (matchesFrom offset ps).map Match.lowered := by
  induction ps generalizing offset with
  | nil => rfl
  | cons p ps ih =>
    cases p with
    | kept c =>
      rw [matchesFrom, ← ih, ← utf8Size_toLower]
      rfl
    | taken o =>
      rw [matchesFrom, List.map_cons, List.map_cons, ← ih, ← utf8Length_asciiLower,
        ← Occurrence.typed_lowered]
      rfl

theorem outside_map_lowered (ms : List Match) (offset : Nat) (cs : List Char) :
    outside (ms.map Match.lowered) offset cs = outside ms offset cs := by
  induction cs generalizing offset with
  | nil => rfl
  | cons c cs ih =>
    have hcovers : (∃ m ∈ ms.map Match.lowered, m.Covers offset) ↔ ∃ m ∈ ms, m.Covers offset := by
      simp only [List.mem_map, exists_exists_and_eq_and, Match.Covers, Match.stop_lowered]
      rfl
    simp only [outside, hcovers, ih]

theorem outside_asciiLower (ms : List Match) (offset : Nat) (cs : List Char) :
    outside ms offset (asciiLower cs) = asciiLower (outside ms offset cs) := by
  induction cs generalizing offset with
  | nil => rfl
  | cons c cs ih =>
    rw [asciiLower, List.map_cons, outside, outside, utf8Size_toLower]
    split
    · exact ih _
    · exact congrArg (c.toLower :: ·) (ih _)

/-! ## Conditions -/

theorem IsDigits.asciiLower_eq {count : Nat} {cs : List Char} (h : IsDigits count cs) :
    asciiLower cs = cs :=
  (eq_of_asciiLower_of_isDigit rfl (isDigits_asciiLower_iff.mpr h).2).symm

/-- Years and months are typed in one way only. -/
theorem ValueForm.Admits.asciiLower_eq {value rest : List Char}
    (h : ValueForm.yearMonth.Admits value rest) : asciiLower value = value := by
  obtain ⟨hyear, -⟩ | ⟨year, month, rfl, hyear, hmonth⟩ := h
  · exact hyear.asciiLower_eq
  · rw [asciiLower_append, hyear.asciiLower_eq]
    exact congrArg (fun month => year ++ '-' :: month) hmonth.asciiLower_eq

/-- What a directive states does not depend on the case in which it is typed. -/
theorem Occurrence.StandsBefore.clause?_lowered {o : Occurrence} {rest : List Char}
    (h : o.StandsBefore rest) : o.lowered.clause? = o.clause? := by
  obtain ⟨directive, keyword, value⟩ := o
  cases directive with
  | type => simp only [lowered, clause?, asciiLower_asciiLower]
  | doctype => simp only [lowered, clause?, asciiLower_asciiLower]
  | within => simp only [lowered, clause?, asciiLower_asciiLower]
  | year => simp only [lowered, clause?, IsDigits.asciiLower_eq h.value]
  | before => simp only [lowered, clause?, ValueForm.Admits.asciiLower_eq h.value]
  | after => simp only [lowered, clause?, ValueForm.Admits.asciiLower_eq h.value]

theorem clausesOf_map_lowered {os : List Occurrence}
    (h : ∀ o ∈ os, ∃ rest, o.StandsBefore rest) :
    clausesOf (os.map Occurrence.lowered) = clausesOf os := by
  have hkind : ∀ d, ((os.map Occurrence.lowered).filter (·.directive == d)).filterMap
      Occurrence.clause? = (os.filter (·.directive == d)).filterMap Occurrence.clause? := by
    intro d
    rw [List.filter_map, List.filterMap_map]
    apply List.filterMap_congr
    intro o ho
    obtain ⟨rest, hstands⟩ := h o (List.mem_filter.mp ho).1
    exact hstands.clause?_lowered
  simp only [clausesOf, hkind]

/-! ## Queries in small letters -/

/-- A query in small letters has the same directives in the same places, in small letters, and the
same conditions. -/
theorem scan_foldCase (query : String) : scan (foldCase query) = (scan query).map Match.lowered := by
  rw [scan, scan, foldCase, String.toList_ofList, pieces_asciiLower, matchesFrom_map_lowered]

theorem clauses_parse_foldCase (query : String) :
    (parse (foldCase query)).clauses = (parse query).clauses := by
  have hstands : ∀ o ∈ occurrences (pieces query.toList), ∃ rest, o.StandsBefore rest := by
    intro o ho
    rw [occurrences_pieces_eq_map_scan] at ho
    obtain ⟨m, hm, rfl⟩ := List.mem_map.mp ho
    exact exists_standsBefore_of_mem_scan hm
  have hlowered : occurrences (pieces (foldCase query).toList) =
      (occurrences (pieces query.toList)).map Occurrence.lowered := by
    rw [occurrences_pieces_eq_map_scan, occurrences_pieces_eq_map_scan, scan_foldCase,
      List.map_map, List.map_map]
    rfl
  rw [parse, parse, hlowered]
  exact clausesOf_map_lowered hstands

/-- Two queries that differ in the case of ASCII letters alone hold the same kinds of directives in
the same places and have the same conditions. Their texts differ in the case of those letters alone:
each is made of what the query itself holds outside of the places of the directives. -/
theorem parse_anyCase (query other : String) (h : foldCase query = foldCase other) :
    (scan other).map (fun m => (m.occurrence.directive, m.start, m.stop)) =
      (scan query).map (fun m => (m.occurrence.directive, m.start, m.stop)) ∧
    (parse other).clauses = (parse query).clauses ∧
    foldCase (parse other).text = foldCase (parse query).text ∧
    (parse query).text.toList = collapse (outside (scan query) 0 query.toList) ∧
    (parse other).text.toList = collapse (outside (scan query) 0 other.toList) := by
  have hscan : (scan other).map Match.lowered = (scan query).map Match.lowered := by
    rw [← scan_foldCase, ← scan_foldCase, h]
  have hother : (parse other).text.toList = collapse (outside (scan query) 0 other.toList) := by
    rw [toList_text_parse, ← outside_map_lowered, hscan, outside_map_lowered]
  refine ⟨?_, ?_, ?_, toList_text_parse query, hother⟩
  · have hplace : (fun m : Match => (m.occurrence.directive, m.start, m.stop)) =
        (fun m => (m.occurrence.directive, m.start, m.stop)) ∘ Match.lowered := by
      funext m
      rw [Function.comp_apply, Match.stop_lowered]
      rfl
    rw [hplace, ← List.map_map, ← List.map_map, hscan]
  · rw [← clauses_parse_foldCase, ← clauses_parse_foldCase query, h]
  · have hletters : asciiLower query.toList = asciiLower other.toList := String.ofList_injective h
    rw [foldCase, foldCase, hother, toList_text_parse, ← collapse_asciiLower,
      ← collapse_asciiLower, ← outside_asciiLower, ← outside_asciiLower, hletters]

/-- Letters outside ASCII keep their case, and small ones are not taken for large ones. -/
theorem parse_anyCase_umlauts :
    let query := "\u00dcber TYPE:News x Type:\u00c4"
    let other := "\u00dcBER type:NEWS X tYPE:\u00c4"
    foldCase query = foldCase other ∧
      (scan other).map (fun m => (m.occurrence.directive, m.start, m.stop)) = [(.type, 6, 15)] ∧
      (parse other).clauses = (parse query).clauses ∧
      foldCase (parse other).text = foldCase (parse query).text ∧
      (parse query).text = "\u00dcber x Type:\u00c4" ∧
      (parse other).text = "\u00dcBER X tYPE:\u00c4" := by
  intro query other
  have hsame : foldCase query = foldCase other := by decide
  obtain ⟨hscan, hclauses, htext, -, -⟩ := parse_anyCase query other hsame
  refine ⟨hsame, ?_, hclauses, htext, by decide, by decide⟩
  rw [hscan]
  decide

end SiteSearch.Query
