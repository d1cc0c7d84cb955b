import Mathlib.Data.List.Nodup
import SiteSearch.Proofs.Filter.Precedence
import SiteSearch.Proofs.Query.Meanings
import SiteSearch.Proofs.Query.Tokens

/-!
# Typed or picked

A content type, a year and a category can be typed in front of a query or picked beside it. The
search is the same either way, but for the order of the conditions
(`Plan.prepare_typed_eq_picked`).

The conditions are compared kind by kind. A filter has at most one condition of each kind, so it is
known, up to the order, when it is known for each kind what the condition says
(`perm_expressions`).
-/

namespace SiteSearch

open SiteSearch.Text SiteSearch.Query SiteSearch.Filter

/-! ## Choices -/

/-- What can be typed in a query or picked beside it. -/
inductive Choice where
  | type (t : ContentType)
  | year (year : Int32) (inRange : 1990 ≤ year.toInt ∧ year.toInt ≤ 2100)
  | category (category : Category)

namespace Choice

def directive : Choice → Directive
  | .type _ => .type
  | .year _ _ => .year
  | .category _ => .doctype

/-- What stands after the keyword. -/
def word : Choice → String
  | .type t => t.name
  | .year y _ => toString y.toInt
  | .category c => c.name

/-- The condition in the filter language. -/
def expression : Choice → String
  | .type t => "type = \"" ++ t.name ++ "\""
  | .year y _ => "year = " ++ toString y.toInt
  | .category c => "document_type = \"" ++ c.name ++ "\""

def clause (choice : Choice) (source : Source) : Clause :=
  ⟨choice.directive, source, choice.expression⟩

/-- The options with the choice picked. -/
def pick (choice : Choice) (options : SearchOptions) : SearchOptions :=
  match choice with
  | .type t => { options with typeFilter := some t.name }
  | .year y _ => { options with year := some y }
  | .category c => { options with doctype := some c.name }

end Choice

/-- A choice as it is typed: the keyword and the word, each in some case, and the blanks after
them. -/
structure TypedChoice where
  choice : Choice
  keyword : List Char
  word : List Char
  gap : Gap
  keyword_typed : asciiLower keyword = choice.directive.keyword
  word_typed : asciiLower word = choice.word.toList

namespace TypedChoice

def kind (c : TypedChoice) : Directive := c.choice.directive

def occurrence (c : TypedChoice) : Occurrence := ⟨c.kind, c.keyword, c.word⟩

/-- A text with choices typed before it. -/
def before (q : List Char) : List TypedChoice → List Char
  | [] => q
  | c :: cs => c.occurrence.typed ++ (c.gap.blanks ++ before q cs)

/-- Options with the choices picked. -/
def beside (options : SearchOptions) : List TypedChoice → SearchOptions
  | [] => options
  | c :: cs => c.choice.pick (beside options cs)

end TypedChoice

/-- Choices of different kinds, as they are typed one after the other. -/
structure Selection where
  choices : List TypedChoice
  distinct : (choices.map TypedChoice.kind).Nodup

namespace Selection

/-- The query with the choices typed before it. -/
def typed (selection : Selection) (q : String) : String :=
  .ofList (TypedChoice.before q.toList selection.choices)

/-- The options with the choices picked. -/
def picked (selection : Selection) (options : SearchOptions) : SearchOptions :=
  TypedChoice.beside options selection.choices

end Selection

/-! ## Typing choices -/

/-- A year in range is a natural number. -/
theorem exists_toString_year {year : Int} (h : 1990 ≤ year ∧ year ≤ 2100) :
    ∃ n : Nat, 1990 ≤ n ∧ n ≤ 2100 ∧ toString year = toString n := by
  obtain ⟨n, rfl⟩ := Int.eq_ofNat_of_zero_le (by omega : 0 ≤ year)
  exact ⟨n, by omega, by omega, rfl⟩

theorem Choice.admits (choice : Choice) {word : List Char}
    (h : asciiLower word = choice.word.toList) : choice.directive.form.Admits word [] := by
  have hword : ∀ {name : String}, asciiLower word = name.toList → name.toList ≠ [] →
      name.toList.all isWordChar = true → ValueForm.word.Admits word [] := by
    intro name hname hne hall
    refine ⟨?_, isWordChar_of_asciiLower hname (List.all_eq_true.mp hall), by simp⟩
    rintro rfl
    exact hne hname.symm
  cases choice with
  | type t => cases t <;> exact hword h (by decide) (by decide)
  | year year inRange =>
    obtain ⟨n, hlow, hhigh, hyear⟩ := exists_toString_year inRange
    have hdigits := isDigits_year hlow hhigh
    rw [Choice.word, hyear] at h
    rw [eq_of_asciiLower_of_isDigit h hdigits.2]
    exact hdigits
  | category category => cases category <;> exact hword h (by decide) (by decide)

theorem Choice.means (choice : Choice) {word : List Char}
    (h : asciiLower word = choice.word.toList) :
    Means choice.directive word choice.expression := by
  cases choice with
  | type t => exact .type h (by cases t <;> decide)
  | year year inRange =>
    obtain ⟨n, hlow, hhigh, hyear⟩ := exists_toString_year inRange
    have hmeans : Means .year (toString n).toList ("year = " ++ toString n) := .year hlow hhigh
    rw [Choice.word, hyear] at h
    rw [← eq_of_asciiLower_of_isDigit h (isDigits_year hlow hhigh).2, ← hyear] at hmeans
    exact hmeans
  | category category => exact .doctype h

namespace TypedChoice

theorem whole (c : TypedChoice) : c.occurrence.StandsBefore [] :=
  ⟨c.keyword_typed, c.choice.admits c.word_typed⟩

theorem states (c : TypedChoice) : States c.occurrence (c.choice.clause .grammar) :=
  (states_iff_means c.whole).mpr ⟨rfl, c.choice.means c.word_typed⟩

end TypedChoice

namespace Query

/-- Where no directive is found nothing changes if some kinds were taken before. -/
theorem Cut.of_free {done taken : List Directive} {start : Bool} {cs : List Char}
    {ps : List Piece} (h : Cut done start cs ps) (hfree : occurrences ps = [])
    (hdone : done ⊆ taken) : Cut taken start cs ps ∧ keptText ps = cs := by
  induction h with
  | nil => exact ⟨.nil, rfl⟩
  | within _ ih =>
    obtain ⟨hcut, hkept⟩ := ih hfree hdone
    exact ⟨.within hcut, congrArg _ hkept⟩
  | pass old _ ih =>
    obtain ⟨hcut, hkept⟩ := ih hfree hdone
    refine ⟨.pass ?_ hcut, congrArg _ hkept⟩
    intro o after hcs hstands
    exact hdone (old o after hcs hstands)
  | take => cases hfree

/-- Choices before a text without directives are taken one by one, and the words of the text
stay. -/
theorem exists_cut_before {q : List Char} (hfree : occurrences (pieces q) = [])
    {cs : List TypedChoice} (hkinds : cs.Pairwise fun a b => a.kind ≠ b.kind)
    {done : List Directive} (hdone : ∀ c ∈ cs, c.kind ∉ done) :
    ∃ ps, Cut done false (TypedChoice.before q cs) ps ∧ words (keptText ps) = words q ∧
      occurrences ps = cs.map TypedChoice.occurrence := by
  induction hkinds generalizing done with
  | nil =>
    obtain ⟨hcut, hkept⟩ := (cut_pieces q).of_free hfree (List.nil_subset done)
    exact ⟨pieces q, hcut, by rw [hkept], hfree⟩
  | @cons c cs hother _ ih =>
    -- No kind is typed twice, so this directive is of a new kind and leaves the later ones new.
    have hnew : c.kind ∉ done := hdone c List.mem_cons_self
    have hrest : ∀ d ∈ cs, d.kind ∉ c.kind :: done := by
      intro d hd hmem
      rcases List.mem_cons.mp hmem with heq | hmem
      · exact hother d hd heq.symm
      · exact hdone d (List.mem_cons_of_mem c hd) hmem
    obtain ⟨ps, hcut, hwords, htaken⟩ := ih hrest
    have hstands := c.whole.of_whole (c.gap.isBlank_of_mem_head? (TypedChoice.before q cs))
    refine ⟨.taken c.occurrence :: (c.gap.blanks.map .kept ++ ps), ?_, ?_, ?_⟩
    · exact .take hnew hstands (hcut.keep_gap c.gap true)
    · rw [keptText_taken, keptText_map_kept_append, words_append_of_blank c.gap.blank, hwords]
    · rw [occurrences_taken, occurrences_map_kept_append, htaken, List.map_cons]

theorem occurrences_pieces_of_free {q : String} (hfree : scan q = []) :
    occurrences (pieces q.toList) = [] := by
  rw [occurrences_pieces_eq_map_scan, hfree, List.map_nil]

/-- A query without directives is its own text. -/
theorem parse_free {q : String} (hfree : scan q = []) : parse q = ⟨collapseBlanks q, []⟩ := by
  have hnothing := occurrences_pieces_of_free hfree
  obtain ⟨-, hkept⟩ := (cut_pieces q.toList).of_free hnothing (List.nil_subset [])
  rw [parse, hkept, hnothing]
  rfl

/-- Choices typed before a query without directives are found and leave its text as it is. -/
theorem parse_typed (selection : Selection) {q : String} (hfree : scan q = []) :
    (parse (selection.typed q)).text = collapseBlanks q ∧
      occurrences (pieces (selection.typed q).toList) =
        selection.choices.map TypedChoice.occurrence := by
  have hnothing := occurrences_pieces_of_free hfree
  obtain ⟨ps, hcut, hwords, htaken⟩ :=
    @exists_cut_before q.toList hnothing selection.choices (List.pairwise_map.mp selection.distinct)
      [] fun _ _ => List.not_mem_nil
  have hpieces : pieces (selection.typed q).toList = ps := by
    rw [Selection.typed, String.toList_ofList]
    exact hcut.eq_piecesFrom.symm
  constructor
  · rw [parse, hpieces, collapse, hwords]
    rfl
  · rw [hpieces, htaken]

/-- Each choice states its condition. -/
theorem mem_clauses_typed (selection : Selection) {q : String} (hfree : scan q = [])
    {clause : Clause} :
    clause ∈ (parse (selection.typed q)).clauses ↔
      clause ∈ selection.choices.map fun c => c.choice.clause .grammar := by
  rw [mem_clauses_parse, (parse_typed selection hfree).2, List.mem_map]
  constructor
  · rintro ⟨o, ho, hstates⟩
    obtain ⟨c, hc, rfl⟩ := List.mem_map.mp ho
    have hclause := clause?_eq_some_iff.mpr c.states
    rw [clause?_eq_some_iff.mpr hstates] at hclause
    exact ⟨c, hc, (Option.some.inj hclause).symm⟩
  · rintro ⟨c, hc, rfl⟩
    exact ⟨c.occurrence, List.mem_map_of_mem hc, c.states⟩

end Query

/-! ## Conditions by kind -/

namespace SearchFilter

/-- What the condition of a kind is in the filter language. -/
def expressionOf? (cs : List Clause) (d : Directive) : Option String :=
  (cs.find? (·.directive == d)).map (·.expression)

theorem expressionOf?_eq_some_iff {cs : List Clause} (h : (cs.map (·.directive)).Nodup)
    {d : Directive} {expression : String} :
    expressionOf? cs d = some expression ↔
      (d, expression) ∈ cs.map fun c => (c.directive, c.expression) := by
  have hfind : ∀ c, cs.find? (·.directive == d) = some c ↔ c ∈ cs ∧ c.directive = d := by
    intro c
    constructor
    · intro hfind
      have hkind := List.find?_some hfind
      exact ⟨List.mem_of_find?_eq_some hfind, eq_of_beq hkind⟩
    · rintro ⟨hc, rfl⟩
      have hsome : (cs.find? (·.directive == c.directive)).isSome = true := by
        rw [List.find?_isSome]
        exact ⟨c, hc, beq_self_eq_true _⟩
      obtain ⟨c', hfind⟩ := Option.isSome_iff_exists.mp hsome
      have hkind := List.find?_some hfind
      rw [hfind, List.inj_on_of_nodup_map h (List.mem_of_find?_eq_some hfind) hc (eq_of_beq hkind)]
  simp only [expressionOf?, Option.map_eq_some_iff, hfind, List.mem_map, Prod.mk.injEq, and_assoc]

/-- Of conditions of different kinds the order does not matter. -/
theorem expressionOf?_congr {as bs : List Clause} (ha : (as.map (·.directive)).Nodup)
    (hb : (bs.map (·.directive)).Nodup) (h : ∀ c, c ∈ as ↔ c ∈ bs) (d : Directive) :
    expressionOf? as d = expressionOf? bs d := by
  apply Option.ext
  intro expression
  simp only [expressionOf?_eq_some_iff ha, expressionOf?_eq_some_iff hb, List.mem_map, h]

/-- Conditions of different kinds are known, up to their order, kind by kind. -/
theorem perm_expressions {as bs : List Clause} (ha : (as.map (·.directive)).Nodup)
    (hb : (bs.map (·.directive)).Nodup) (h : ∀ d, expressionOf? as d = expressionOf? bs d) :
    (as.map (·.expression)).Perm (bs.map (·.expression)) := by
  -- Only the kinds are known to be different, so they stay beside the expressions until the end.
  let key (c : Clause) := (c.directive, c.expression)
  have hnodup : ∀ {cs : List Clause}, (cs.map (·.directive)).Nodup → (cs.map key).Nodup := by
    intro cs hcs
    apply List.Nodup.of_map Prod.fst
    rwa [List.map_map]
  have hkeys : (as.map key).Perm (bs.map key) := by
    rw [List.perm_ext_iff_of_nodup (hnodup ha) (hnodup hb)]
    rintro ⟨d, expression⟩
    rw [← expressionOf?_eq_some_iff ha, ← expressionOf?_eq_some_iff hb, h]
  have hexpressions := hkeys.map Prod.snd
  rwa [List.map_map, List.map_map] at hexpressions

/-- What is typed for a kind is the choice of that kind. -/
theorem expressionOf?_typed (selection : Selection) {q : String} (hfree : scan q = [])
    (d : Directive) :
    expressionOf? (parse (selection.typed q)).clauses d =
      expressionOf? (selection.choices.map fun c => c.choice.clause .grammar) d := by
  have hdistinct : ((selection.choices.map fun c => c.choice.clause .grammar).map
      (·.directive)).Nodup := by
    rw [List.map_map]
    exact selection.distinct
  exact expressionOf?_congr (nodup_directive_parse _) hdistinct
    (fun c => mem_clauses_typed selection hfree) d

theorem expressionOf?_compile (typed : List Clause) (options : SearchOptions)
    (enabled : EnabledTypes) (d : Directive) :
    expressionOf? (compile typed options enabled).clauses d =
      (expressionOf? typed d).or ((fallback? options enabled d).map (·.expression)) := by
  rw [expressionOf?, find?_compile, Option.map_or]
  rfl

/-! ## Picking choices -/

/-- A choice that was picked decides its kind. -/
theorem fallback?_pick_self (choice : Choice) (options : SearchOptions) (enabled : EnabledTypes) :
    fallback? (choice.pick options) enabled choice.directive = some (choice.clause .options) := by
  cases choice with
  | type t =>
    have hvisible : SearchOptions.visible? (some t.name) = some t.name := by cases t <;> decide
    have hpicked : fallback? ((Choice.type t).pick options) enabled .type =
        some (.contentType .options t.name) := by
      simp only [fallback?, typeClause?, SearchOptions.typeFilter?, Choice.pick, hvisible]
    exact hpicked.trans (congrArg some (contentType_eq .options t))
  | year y inRange =>
    have hyear : isFilterYear y.toInt = true := by
      simp only [isFilterYear, Bool.and_eq_true, decide_eq_true_eq]
      exact inRange
    simp only [fallback?, yearClause?, Choice.pick, Choice.directive, Option.filter_some, hyear,
      if_true, Option.map_some]
    rfl
  | category c =>
    have hvisible : SearchOptions.visible? (some c.name) = some c.name := by cases c <;> decide
    have hknown : Category.ofTyped? c.name = some c := by cases c <;> decide
    simp only [fallback?, categoryClause?, SearchOptions.doctype?, Choice.pick, Choice.directive,
      hvisible, Option.bind_some, hknown, Option.map_some]
    rfl

/-- It decides no other. -/
theorem fallback?_pick_of_ne {choice : Choice} {d : Directive} (h : choice.directive ≠ d)
    (options : SearchOptions) (enabled : EnabledTypes) :
    fallback? (choice.pick options) enabled d = fallback? options enabled d := by
  cases choice with
  | type t =>
    cases d with
    | type => exact absurd rfl h
    | _ => rfl
  | year y inRange =>
    cases d with
    | year => exact absurd rfl h
    | _ => rfl
  | category c =>
    cases d with
    | doctype => exact absurd rfl h
    | _ => rfl

/-- What was picked decides its kind, as if it had been typed. -/
theorem fallback?_beside (cs : List TypedChoice) (options : SearchOptions)
    (enabled : EnabledTypes) (d : Directive) :
    (fallback? (TypedChoice.beside options cs) enabled d).map (·.expression) =
      (expressionOf? (cs.map fun c => c.choice.clause .grammar) d).or
        ((fallback? options enabled d).map (·.expression)) := by
  induction cs with
  | nil => rfl
  | cons c cs ih =>
    by_cases hkind : c.choice.directive = d
    · subst hkind
      rw [TypedChoice.beside, fallback?_pick_self]
      simp [expressionOf?, Choice.clause]
    · rw [TypedChoice.beside, fallback?_pick_of_ne hkind, ih]
      simp [expressionOf?, Choice.clause, hkind]

end SearchFilter

namespace Plan

open SearchFilter

theorem beside_rest (cs : List TypedChoice) (options : SearchOptions) :
    (TypedChoice.beside options cs).sort = options.sort ∧
      (TypedChoice.beside options cs).exact = options.exact ∧
        (TypedChoice.beside options cs).limit = options.limit := by
  induction cs with
  | nil => exact ⟨rfl, rfl, rfl⟩
  | cons c cs ih =>
    obtain ⟨choice, _⟩ := c
    cases choice <;> exact ih

/-- It does not matter whether a content type, a year and a category are typed in front of a query
or picked beside it: the engine is asked for the same text, as many results and in the same order,
under the same conditions. Only the order of the conditions may differ. The query itself holds no
directives; where the options have picked something already, a choice replaces it. -/
theorem prepare_typed_eq_picked (selection : Selection) {q : String} (free : scan q = [])
    (options : SearchOptions) (enabled : EnabledTypes) :
    let typed := prepare (selection.typed q) options enabled
    let picked := prepare q (selection.picked options) enabled
    typed.request.q = picked.request.q ∧ picked.request.q = collapseBlanks q ∧
      typed.request.limit = picked.request.limit ∧ typed.request.sort = picked.request.sort ∧
      typed.request.hybrid = picked.request.hybrid ∧ typed.request.exact = picked.request.exact ∧
      (typed.filter.clauses.map (·.expression)).Perm
        (picked.filter.clauses.map (·.expression)) := by
  intro typed picked
  obtain ⟨htext, -⟩ := parse_typed selection free
  have hfree := parse_free free
  obtain ⟨hsort, hexact, hlimit⟩ := beside_rest selection.choices options
  have hq : picked.request.q = collapseBlanks q := congrArg Parsed.text hfree
  refine ⟨htext.trans hq.symm, hq, ?_, ?_, ?_, ?_, ?_⟩
  · exact congrArg Request.clampLimit hlimit.symm
  · exact congrArg SortOrder.spec? hsort.symm
  · simp only [typed, picked, prepare, Request.build, Selection.picked, hsort, hexact]
  · simp only [typed, picked, prepare, Request.build, Selection.picked, hexact]
  · apply perm_expressions
    · exact nodup_directive_compile (nodup_directive_parse _)
    · exact nodup_directive_compile (nodup_directive_parse _)
    · intro d
      simp only [typed, picked, prepare]
      rw [expressionOf?_compile, expressionOf?_compile, expressionOf?_typed selection free, hfree,
        Selection.picked, fallback?_beside]
      rfl

theorem prepare_typed_eq_picked_hall :
    let typed := prepare "YEAR:2024 type:File hall hire" {} .everything
    let picked :=
      prepare "hall hire" { typeFilter := some "file", year := some 2024 } .everything
    scan "hall hire" = [] ∧ typed.request.q = picked.request.q ∧
      (typed.filter.clauses.map (·.expression)).Perm
        (picked.filter.clauses.map (·.expression)) := by
  let space : Gap := ⟨[' '], by decide, List.forall_mem_singleton.mpr (by decide)⟩
  let year : TypedChoice :=
    ⟨.year 2024 (by decide), "YEAR:".toList, "2024".toList, space, by decide, by decide⟩
  let type : TypedChoice :=
    ⟨.type .file, "type:".toList, "File".toList, space, by decide, by decide⟩
  let selection : Selection := ⟨[year, type], by decide⟩
  have hfree : scan "hall hire" = [] := by decide
  have htyped : selection.typed "hall hire" = "YEAR:2024 type:File hall hire" := by decide
  have hpicked : selection.picked {} = { typeFilter := some "file", year := some 2024 } := rfl
  have hsame := prepare_typed_eq_picked selection hfree {} .everything
  rw [htyped, hpicked] at hsame
  exact ⟨hfree, hsame.1, hsame.2.2.2.2.2.2⟩

end Plan

end SiteSearch
