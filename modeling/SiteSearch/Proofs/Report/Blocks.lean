import SiteSearch.Proofs.Report.Plain
import SiteSearch.Proofs.Text.Capitals
import SiteSearch.Proofs.Text.Literals

/-!
# Results in print, hit by hit

A result is printed as a line that sums it up and a block for each hit: an empty line, a line with
its number, and one line each for its notes, its link and its content. Titles and contents are put
on one line first, whatever the engine sent. Types that are not known, notes and links are printed
as they came, and each line that ends in one of them is one line more (`length_linesOf_text`). So a
reader who goes by lines finds the blocks again exactly when no line ends there
(`readsInBlocks_iff`).
-/

namespace SiteSearch

open SiteSearch.Text SiteSearch.Report

namespace Record

/-- How many lines a record has after its title: one each for notes, a link and a content. -/
def partCount (record : Record) : Nat :=
  [decide (record.notes ≠ []), record.link?.isSome, decide (record.base.content ≠ "")].count true

/-- The name of a type that is not known. -/
def bareKind (record : Record) : List String :=
  if (ContentType.ofName? record.base.kind).isSome then [] else [record.base.kind]

/-- What the notes and the link of a record are made of. -/
def bareParts (record : Record) : List String :=
  match record.details with
  | .file d =>
    record.base.date :: d.category :: if d.path = "" then [] else [d.urlPrefix, d.path]
  | .post d | .page d => [record.base.date, d.url]
  | .faq d => d.categories
  | .event d => [record.base.date, d.time, d.location, d.url]
  | .generic => [record.base.date]

/-- What is printed of a record as it came, but for a capital letter. -/
def bareTexts (record : Record) : List String := record.bareKind ++ record.bareParts

end Record

namespace Report

/-! ## What blocks look like -/

/-- The lines of a hit that comes as number `index`: an empty one, one that starts with the number
and a bracket, and one set in by three spaces for each part that there is. -/
inductive IsBlock (index : Nat) (record : Record) : List (List Char) → Prop where
  | mk {title : List Char} {parts : List (List Char)}
      (numbered : (toString index ++ ". [").toList <+: title)
      (setIn : ∀ part ∈ parts, "   ".toList <+: part)
      (counted : parts.length = record.partCount) : IsBlock index record ([] :: title :: parts)

/-- The lines are those of the hits, in order, the first of them as number `index`. -/
inductive InBlocks : (index : Nat) → List Record → List (List Char) → Prop where
  | nil {index : Nat} : InBlocks index [] []
  | cons {index : Nat} {record : Record} {records : List Record} {block rest : List (List Char)}
      (first : IsBlock index record block) (others : InBlocks (index + 1) records rest) :
      InBlocks index (record :: records) (block ++ rest)

/-- How many lines the blocks of some hits have. -/
def blocksLength : List Record → Nat
  | [] => 0
  | record :: records => 2 + record.partCount + blocksLength records

theorem InBlocks.length_eq {index : Nat} {records : List Record} {lines : List (List Char)}
    (h : InBlocks index records lines) : lines.length = blocksLength records := by
  induction h with
  | nil => rfl
  | cons first _ ih =>
    cases first with
    | mk _ _ counted =>
      rw [List.length_append, ih, List.length_cons, List.length_cons, counted, blocksLength]
      omega

/-! ## What is printed -/

/-- The line of a block with the number and the title. -/
def titleLine (index : Nat) (record : Record) : String :=
  toString index ++ ". [" ++ record.label ++ "] " ++ plainText record.base.title

/-- The lines of a block after the title. -/
def partLines (record : Record) : List String :=
  (if record.notes.isEmpty then [] else [indented (" · ".intercalate record.notes)]) ++
  (record.link?.map indented).toList ++
  (if record.base.content = "" then [] else [indented (plainText record.base.content)])

theorem block_eq (index : Nat) (record : Record) :
    block index record = "" :: titleLine index record :: partLines record := by
  simp [block, titleLine, partLines]

theorem length_partLines (record : Record) : (partLines record).length = record.partCount := by
  rw [partLines, Record.partCount]
  by_cases hnotes : record.notes = [] <;> cases record.link? <;>
    by_cases hcontent : record.base.content = "" <;> simp [hnotes, hcontent]

theorem exists_indented_of_mem_partLines {record : Record} {line : String}
    (h : line ∈ partLines record) : ∃ s, line = indented s := by
  rw [partLines, List.mem_append, List.mem_append] at h
  rcases h with (h | h) | h
  · split at h
    · cases h
    · exact ⟨_, List.mem_singleton.mp h⟩
  · obtain ⟨s, -, rfl⟩ := Option.map_eq_some_iff.mp (Option.mem_toList.mp h)
    exact ⟨s, rfl⟩
  · split at h
    · cases h
    · exact ⟨_, List.mem_singleton.mp h⟩

theorem isBlock_block (index : Nat) (record : Record) :
    IsBlock index record ((block index record).map String.toList) := by
  rw [block_eq, List.map_cons, List.map_cons, String.toList_empty]
  refine .mk ?_ (List.forall_mem_map.mpr ?_) ?_
  · simp only [titleLine, String.toList_append, List.append_assoc]
    rw [← List.append_assoc]
    exact List.prefix_append _ _
  · intro line hline
    obtain ⟨s, rfl⟩ := exists_indented_of_mem_partLines hline
    rw [indented, String.toList_append]
    exact List.prefix_append _ _
  · rw [List.length_map, length_partLines]

theorem inBlocks_blocks (index : Nat) (records : List Record) :
    InBlocks index records ((blocks index records).map String.toList) := by
  induction records generalizing index with
  | nil => exact .nil
  | cons record records ih =>
    rw [blocks, List.map_append]
    exact .cons (isBlock_block index record) (ih (index + 1))

theorem lines_of_hits {result : SearchResult} (h : result.hits ≠ []) :
    lines result = header result :: blocks 1 result.hits := by
  rw [lines, if_neg (by simpa using h)]

theorem toList_text (result : SearchResult) : (text result).toList = printed (lines result) := by
  simp [text, printed, String.toList_join, List.flatMap_map]

/-! ## Where lines end -/

section Ends

variable {ends : Char → Bool}

theorem countP_toString (h : EndsLines ends) (n : Nat) : (toString n).toList.countP ends = 0 := by
  apply h.countP_of_visible
  exact fun c hc => isBlank_of_isDigit (isDigit_of_mem_toString c hc)

theorem countP_plainText (h : EndsLines ends) (s : String) :
    (plainText s).toList.countP ends = 0 :=
  countP_eq_zero_iff.mpr (unbroken_plainText h s)

theorem countP_indented (h : EndsLines ends) (s : String) :
    (indented s).toList.countP ends = s.toList.countP ends := by
  have hspaces : "   ".toList.countP ends = 0 := h.countP_eq_zero (by decide)
  rw [indented, String.toList_append, List.countP_append, hspaces, Nat.zero_add]

theorem countP_intercalate {separator : String} (h : separator.toList.countP ends = 0)
    (texts : List String) :
    (separator.intercalate texts).toList.countP ends = breaks ends texts := by
  induction texts with
  | nil => simp
  | cons s texts ih =>
    cases texts with
    | nil => simp
    | cons t texts =>
      rw [String.intercalate_cons_cons, String.toList_append, String.toList_append,
        List.countP_append, List.countP_append, h, ih, breaks_cons s, Nat.add_zero]

/-- Texts that are joined, if there are any. -/
theorem breaks_joined {separator : String} (h : separator.toList.countP ends = 0)
    (texts : List String) :
    breaks ends (if texts.isEmpty then [] else [separator.intercalate texts]) =
      breaks ends texts := by
  cases texts with
  | nil => rfl
  | cons s texts =>
    rw [List.isEmpty_cons, if_neg Bool.false_ne_true, breaks_cons (separator.intercalate _),
      countP_intercalate h, breaks_nil, Nat.add_zero]

theorem breaks_nonEmpty? (s : String) :
    breaks ends (Record.nonEmpty? s).toList = s.toList.countP ends := by
  rw [Record.nonEmpty?]
  split <;> simp [*]

theorem breaks_map_capitalize (h : EndsLines ends) (s : String) :
    breaks ends ((Record.nonEmpty? s).map capitalize).toList = s.toList.countP ends := by
  rw [Record.nonEmpty?]
  split <;> simp [countP_capitalize h, *]

theorem countP_label (h : EndsLines ends) (record : Record) :
    record.label.toList.countP ends = breaks ends record.bareKind := by
  rw [Record.label, typeLabel, Record.bareKind]
  cases ContentType.ofName? record.base.kind with
  | none => simp
  | some type =>
    rw [if_pos Option.isSome_some, breaks_nil]
    cases type <;> dsimp only <;> exact h.countP_eq_zero (by decide)

theorem breaks_page (h : EndsLines ends) (page : Int64) :
    breaks ends (if 1 < page then ["Page " ++ toString page.toInt] else []) = 0 := by
  have hword : "Page ".toList.countP ends = 0 := h.countP_eq_zero (by decide)
  have hnumber := h.countP_of_visible (integerLiteral_toString page.toInt).visible
  split
  · rw [breaks_cons, String.toList_append, List.countP_append, hword, hnumber, breaks_nil]
  · rfl

theorem breaks_notes_append_link? (h : EndsLines ends) (record : Record) :
    breaks ends (record.notes ++ record.link?.toList) = breaks ends record.bareParts := by
  have hcomma : ", ".toList.countP ends = 0 := h.countP_eq_zero (by decide)
  rw [breaks_append, Record.notes, Record.link?, Record.bareParts]
  cases record.details with
  | file d =>
    have hlink : breaks ends (if d.path = "" then none else some (d.urlPrefix ++ d.path)).toList =
        breaks ends (if d.path = "" then [] else [d.urlPrefix, d.path]) := by
      split <;> simp
    simp only [breaks_append, breaks_cons, breaks_nonEmpty?, breaks_map_capitalize h,
      breaks_page h, hlink]
    omega
  | post d => simp [breaks_nonEmpty?]
  | page d => simp [breaks_nonEmpty?]
  | faq d =>
    simp only [breaks_joined hcomma, Option.toList_none, breaks_nil, Nat.add_zero]
  | event d => simp only [breaks_append, breaks_cons, breaks_nonEmpty?, breaks_nil]; omega
  | generic => simp [breaks_nonEmpty?]

theorem breaks_partLines (h : EndsLines ends) (record : Record) :
    breaks ends (partLines record) = breaks ends record.bareParts := by
  have hdot : " · ".toList.countP ends = 0 := h.countP_eq_zero (by decide)
  have hnotes : breaks ends (if record.notes.isEmpty then []
      else [indented (" · ".intercalate record.notes)]) = breaks ends record.notes := by
    rw [← breaks_joined hdot record.notes]
    split
    · rfl
    · rw [breaks_cons, breaks_cons, countP_indented h]
  have hlink : breaks ends (record.link?.map indented).toList =
      breaks ends record.link?.toList := by
    cases record.link? <;> simp [countP_indented h]
  have hcontent : breaks ends (if record.base.content = "" then []
      else [indented (plainText record.base.content)]) = 0 := by
    split <;> simp [countP_indented h, countP_plainText h]
  rw [partLines, breaks_append, breaks_append, hnotes, hlink, hcontent, ← breaks_append,
    breaks_notes_append_link? h, Nat.add_zero]

theorem countP_titleLine (h : EndsLines ends) (index : Nat) (record : Record) :
    (titleLine index record).toList.countP ends = breaks ends record.bareKind := by
  have hopen : ". [".toList.countP ends = 0 := h.countP_eq_zero (by decide)
  have hclose : "] ".toList.countP ends = 0 := h.countP_eq_zero (by decide)
  simp only [titleLine, String.toList_append, List.countP_append]
  rw [countP_toString h, countP_plainText h, hopen, hclose, countP_label h]
  omega

theorem breaks_block (h : EndsLines ends) (index : Nat) (record : Record) :
    breaks ends (block index record) = breaks ends record.bareTexts := by
  rw [block_eq, breaks_cons, breaks_cons, countP_titleLine h, breaks_partLines h, Record.bareTexts,
    breaks_append, String.toList_empty, List.countP_nil, Nat.zero_add]

theorem breaks_blocks (h : EndsLines ends) (index : Nat) (records : List Record) :
    breaks ends (blocks index records) = breaks ends (records.flatMap Record.bareTexts) := by
  induction records generalizing index with
  | nil => rfl
  | cons record records ih =>
    rw [blocks, breaks_append, breaks_block h, ih, List.flatMap_cons, breaks_append]

theorem countP_header (h : EndsLines ends) {result : SearchResult}
    (hquery : Unbroken ends result.query.toList) : (header result).toList.countP ends = 0 := by
  have hof : " of ".toList.countP ends = 0 := h.countP_eq_zero (by decide)
  have hfor : " results for \"".toList.countP ends = 0 := h.countP_eq_zero (by decide)
  have hopen : "\" (".toList.countP ends = 0 := h.countP_eq_zero (by decide)
  have hclose : " ms)".toList.countP ends = 0 := h.countP_eq_zero (by decide)
  simp only [header, String.toList_append, List.countP_append]
  rw [countP_toString h, countP_toString h, countP_toString h, countP_eq_zero_iff.mpr hquery, hof,
    hfor, hopen, hclose]

theorem breaks_lines (h : EndsLines ends) {result : SearchResult}
    (hquery : Unbroken ends result.query.toList) (hhits : result.hits ≠ []) :
    breaks ends (lines result) = breaks ends (result.hits.flatMap Record.bareTexts) := by
  rw [lines_of_hits hhits, breaks_cons, countP_header h hquery, breaks_blocks h, Nat.zero_add]

/-- How many lines are read of a result with hits: the one that sums it up, those of the blocks, and
one more for each that ends in what is printed as it came. -/
theorem length_linesOf_text (h : EndsLines ends) {result : SearchResult}
    (hquery : Unbroken ends result.query.toList) (hhits : result.hits ≠ []) :
    (linesOf ends (text result).toList).length =
      1 + blocksLength result.hits + breaks ends (result.hits.flatMap Record.bareTexts) := by
  have hblocks := (inBlocks_blocks 1 result.hits).length_eq
  rw [List.length_map] at hblocks
  rw [toList_text, length_linesOf_printed h, breaks_lines h hquery hhits, lines_of_hits hhits,
    List.length_cons, hblocks, Nat.add_comm _ 1]

/-- The lines read of a result with hits are one that sums it up and the blocks of the hits. -/
def ReadsInBlocks (ends : Char → Bool) (result : SearchResult) : Prop :=
  ∃ rest, linesOf ends (text result).toList = (header result).toList :: rest ∧
    InBlocks 1 result.hits rest

theorem readsInBlocks_iff_breaks (h : EndsLines ends) {result : SearchResult}
    (hquery : Unbroken ends result.query.toList) (hhits : result.hits ≠ []) :
    ReadsInBlocks ends result ↔ breaks ends (result.hits.flatMap Record.bareTexts) = 0 := by
  constructor
  · rintro ⟨rest, hrest, hblocks⟩
    have hlength := length_linesOf_text h hquery hhits
    rw [hrest, List.length_cons, hblocks.length_eq] at hlength
    omega
  · intro hnone
    have hunbroken : ∀ item ∈ lines result, Unbroken ends item.toList := by
      rw [← breaks_eq_zero_iff, breaks_lines h hquery hhits, hnone]
    refine ⟨_, ?_, inBlocks_blocks 1 result.hits⟩
    rw [toList_text, linesOf_printed h hunbroken, lines_of_hits hhits, List.map_cons]

/-- What is printed of the hits of an answer is read in blocks, whatever the engine sent, exactly
when no line ends in the names of unknown types and in what notes and links are made of. Each line
that ends there is one line more than the hits have parts. -/
theorem readsInBlocks_iff (h : EndsLines ends) {query : String}
    (hquery : Unbroken ends query.toList) {body : Json}
    (hhits : (SearchResult.ofAnswer query body).hits ≠ []) :
    let result := SearchResult.ofAnswer query body
    let bare := result.hits.flatMap Record.bareTexts
    (linesOf ends (text result).toList).length =
        1 + blocksLength result.hits + breaks ends bare ∧
      (ReadsInBlocks ends result ↔ ∀ text ∈ bare, Unbroken ends text.toList) := by
  intro result bare
  rw [readsInBlocks_iff_breaks h hquery hhits, breaks_eq_zero_iff]
  exact ⟨length_linesOf_text h hquery hhits, Iff.rfl⟩

end Ends

/-- An answer with one hit, in which the title and the content try to look like another one. -/
def lookalikeAnswer : Json := .object [("hits", .array [.object [
  ("_formatted", .object [("content", .string "Tea\n\n2. [News] Free beer"),
    ("title", .string "<mark>Fete</mark>\n\n2. [News] Free beer")]),
  ("event_time", .string "14:00"), ("type", .string "event"), ("url", .string "/fete")]])]

/-- The hit has one block, of five lines. -/
theorem readsInBlocks_lookalikeAnswer :
    EndsLines isLineBreak ∧ Unbroken isLineBreak "fete".toList ∧
      (SearchResult.ofAnswer "fete" lookalikeAnswer).hits ≠ [] ∧
      (linesOf isLineBreak (text (SearchResult.ofAnswer "fete" lookalikeAnswer)).toList).length = 6 ∧
      ReadsInBlocks isLineBreak (SearchResult.ofAnswer "fete" lookalikeAnswer) := by
  have hquery : Unbroken isLineBreak "fete".toList := by decide
  have hhits : (SearchResult.ofAnswer "fete" lookalikeAnswer).hits ≠ [] := by decide
  obtain ⟨hlength, hreads⟩ := readsInBlocks_iff endsLines_isLineBreak hquery hhits
  exact ⟨endsLines_isLineBreak, hquery, hhits, hlength.trans (by decide), hreads.mpr (by decide)⟩

/-- An answer with one hit, in which the date looks like another one. -/
def forgedAnswer : Json := .object [("estimatedTotalHits", .ofNat 1), ("hits", .array [.object [
  ("date_display", .string "1 May\n\n2. [News] Free beer"), ("title", .string "Fete"),
  ("type", .string "post")]])]

/-- A second hit is read where there is only one. -/
theorem not_readsInBlocks_forgedAnswer :
    Unbroken (· == '\n') "fete".toList ∧
      (SearchResult.ofAnswer "fete" forgedAnswer).hits.length = 1 ∧
      linesOf (· == '\n') (text (SearchResult.ofAnswer "fete" forgedAnswer)).toList =
        ["1 of 1 results for \"fete\" (0 ms)", "", "1. [News] Fete", "   1 May", "",
          "2. [News] Free beer"].map String.toList ∧
      ¬ ReadsInBlocks (· == '\n') (SearchResult.ofAnswer "fete" forgedAnswer) := by
  have hquery : Unbroken (· == '\n') "fete".toList := by decide
  refine ⟨hquery, by decide, by decide, ?_⟩
  rw [readsInBlocks_iff_breaks endsLines_lineFeed hquery (by decide)]
  decide

end Report

end SiteSearch
