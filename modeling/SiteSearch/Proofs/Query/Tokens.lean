import SiteSearch.Proofs.Query.Clauses
import SiteSearch.Proofs.Query.Matches
import SiteSearch.Proofs.Text.Ascii
import SiteSearch.Proofs.Text.Words

/-!
# Queries made of tokens

A query that is written token by token, with blanks between them, is read token by token
(`parse_render`). The text keeps the words and every directive that is not the first of its kind;
the conditions are those of the first directives.

The cutting knows nothing of tokens. It is led through them by two facts: in a run without a
colon that a blank or the end follows no directive stands (`not_standsBefore_of_colon_notMem`),
and where a whole directive is typed no other one stands (`Occurrence.StandsBefore.unique`).
-/

namespace SiteSearch.Query

open SiteSearch.Text

/-! ## Tokens -/

/-- A token of a query. -/
inductive Token where
  /-- A word that holds no colon. -/
  | plain (word : List Char) (ne_nil : word ≠ []) (visible : ∀ c ∈ word, isBlank c = false)
      (colonless : ':' ∉ word)
  /-- A directive with the whole of its value. -/
  | directive (o : Occurrence) (whole : o.StandsBefore [])

def Token.typed : Token → List Char
  | .plain word .. => word
  | .directive o _ => o.typed

def Token.directive? : Token → Option Occurrence
  | .plain .. => none
  | .directive o _ => some o

/-- What stands between two tokens. -/
structure Gap where
  blanks : List Char
  ne_nil : blanks ≠ []
  blank : ∀ c ∈ blanks, isBlank c = true

/-- The tokens as a query, with a gap between any two. -/
def render (gaps : Nat → Gap) : List Token → List Char
  | [] => []
  | [t] => t.typed
  | t :: u :: ts => t.typed ++ (gaps ts.length).blanks ++ render gaps (u :: ts)

/-- The tokens that stay in the text when directives of the kinds `seen` came before them. -/
def keptTokens (seen : List Directive) : List Token → List Token
  | [] => []
  | .plain word ne_nil visible colonless :: ts =>
    .plain word ne_nil visible colonless :: keptTokens seen ts
  | .directive o whole :: ts =>
    if o.directive ∈ seen then .directive o whole :: keptTokens seen ts
    else keptTokens (o.directive :: seen) ts

/-- The directives that are the first of their kind, and of none of the kinds `seen`. -/
def firstDirectives (seen : List Directive) : List Token → List Occurrence
  | [] => []
  | .plain .. :: ts => firstDirectives seen ts
  | .directive o _ :: ts =>
    if o.directive ∈ seen then firstDirectives seen ts
    else o :: firstDirectives (o.directive :: seen) ts

/-- The first directive of a kind. -/
def firstOfKind (d : Directive) (ts : List Token) : Option Occurrence :=
  (ts.filterMap Token.directive?).find? (·.directive == d)

theorem find?_firstDirectives {d : Directive} {seen : List Directive} (hd : d ∉ seen)
    (ts : List Token) :
    (firstDirectives seen ts).find? (·.directive == d) = firstOfKind d ts := by
  unfold firstOfKind
  induction ts generalizing seen with
  | nil => rfl
  | cons t ts ih =>
    cases t with
    | plain word ne_nil visible colonless => exact ih hd
    | directive o whole =>
      by_cases hkind : o.directive = d
      · subst hkind
        simp [firstDirectives, Token.directive?, hd]
      · have hrest : d ∉ o.directive :: seen := by
          intro hmem
          rcases List.mem_cons.mp hmem with heq | hmem
          · exact hkind heq.symm
          · exact hd hmem
        by_cases hseen : o.directive ∈ seen
        · simp [firstDirectives, Token.directive?, hseen, hkind, ih hd]
        · simp [firstDirectives, Token.directive?, hseen, hkind, ih hrest]

/-! ## Where no directive stands -/

theorem Occurrence.StandsBefore.isBlank_eq_false {o : Occurrence} {rest : List Char}
    (h : o.StandsBefore rest) : ∀ c ∈ o.typed, isBlank c = false := by
  intro c hc
  rcases h.mem_typed hc with hword | rfl | rfl
  · exact isBlank_of_isWordChar hword
  · decide
  · decide

/-- In a run without a colon that a blank or the end follows no directive stands. -/
theorem not_standsBefore_of_colon_notMem {o : Occurrence} {run rest after : List Char}
    (hcolon : ':' ∉ run) (hrest : ∀ c ∈ rest.head?, isBlank c = true)
    (hcs : run ++ rest = o.typed ++ after) : ¬ o.StandsBefore after := by
  intro hstands
  have hmem : ':' ∈ o.keyword := by
    obtain ⟨name, hkeyword, -⟩ := hstands.exists_name
    simp [hkeyword]
  rw [Occurrence.typed, List.append_assoc] at hcs
  rcases List.append_eq_append_iff.mp hcs with ⟨middle, hkeyword, hbehind⟩ | ⟨middle, rfl, -⟩
  · cases middle with
    | nil => exact hcolon (by simpa [hkeyword] using hmem)
    | cons c middle =>
      -- The keyword reaches into the rest, whose first character is a blank.
      have hblank := hrest c (by simp [hbehind])
      have hvisible := hstands.isBlank_eq_false c (by simp [Occurrence.typed, hkeyword])
      rw [hblank] at hvisible
      cases hvisible
  · exact hcolon (List.mem_append_left _ hmem)

/-- Before the colon of a directive there are only letters. -/
theorem Occurrence.StandsBefore.isWordChar_of_mem_before {o : Occurrence} {rest a b : List Char}
    (h : o.StandsBefore rest) (hab : o.typed = a ++ b) (hcolon : ':' ∈ b) :
    ∀ c ∈ a, isWordChar c = true := by
  obtain ⟨name, hkeyword, hname⟩ := h.exists_name
  rw [typed, hkeyword, List.append_assoc, List.singleton_append] at hab
  rcases List.append_eq_append_iff.mp hab.symm with ⟨middle, rfl, -⟩ | ⟨middle, rfl, hbehind⟩
  · intro c hc
    exact hname c (List.mem_append_left _ hc)
  · cases middle with
    | nil => simpa using hname
    | cons d middle =>
      obtain ⟨-, hvalue⟩ := List.cons.inj hbehind
      have hmem : ':' ∈ o.value := by simp [hvalue, hcolon]
      rcases h.value.isWordChar_or_dash _ hmem with hword | hdash
      · cases hword
      · cases hdash

/-! ## How tokens are cut -/

/-- A run stays in the text when no directive of a new kind stands in it. -/
theorem Cut.keep {done : List Directive} {start : Bool} {run rest : List Char} {ps : List Piece}
    (h : Cut done (afterWord start run) rest ps)
    (hold : ∀ a b, run = a ++ b → b ≠ [] → afterWord start a = false →
      ∀ (o : Occurrence) (after : List Char), b ++ rest = o.typed ++ after →
        o.StandsBefore after → o.directive ∈ done) :
    Cut done start (run ++ rest) (run.map .kept ++ ps) := by
  induction run generalizing start with
  | nil => exact h
  | cons c run ih =>
    have hrun : Cut done (isWordChar c) (run ++ rest) (run.map .kept ++ ps) := by
      apply ih h
      intro a b hab hne hword
      exact hold (c :: a) b (by rw [hab]; rfl) hne hword
    cases start with
    | true => exact .within hrun
    | false => exact .pass (hold [] (c :: run) rfl (by simp) rfl) hrun

/-- A run without a colon stays in the text. -/
theorem Cut.keep_colonless {done : List Directive} {start : Bool} {run rest : List Char}
    {ps : List Piece} (h : Cut done (afterWord start run) rest ps) (hcolon : ':' ∉ run)
    (hrest : ∀ c ∈ rest.head?, isBlank c = true) :
    Cut done start (run ++ rest) (run.map .kept ++ ps) := by
  apply h.keep
  rintro a b rfl - - o after hcs hstands
  have hb : ':' ∉ b := fun hmem => hcolon (List.mem_append_right a hmem)
  exact absurd hstands (not_standsBefore_of_colon_notMem hb hrest hcs)

/-- A directive of an old kind stays in the text. -/
theorem Cut.keep_directive {done : List Directive} {o : Occurrence} {rest : List Char}
    {ps : List Piece} (h : Cut done true rest ps) (hstands : o.StandsBefore rest)
    (hdone : o.directive ∈ done) (hrest : ∀ c ∈ rest.head?, isBlank c = true) :
    Cut done false (o.typed ++ rest) (o.typed.map .kept ++ ps) := by
  apply Cut.keep
  · rwa [hstands.afterWord_typed]
  · intro a b hab hne hword p after hcs hp
    by_cases hcolon : ':' ∈ b
    · cases a with
      | nil =>
        -- At the front stands the directive itself.
        obtain rfl : o.typed = b := hab
        exact (hstands.unique hp hcs).1 ▸ hdone
      | cons c a =>
        -- Before the colon there are only letters, so no directive starts after `a`.
        have hletters : ∀ d ∈ c :: a, isWordChar d = true := by
          intro d hd
          exact hstands.isWordChar_of_mem_before hab hcolon d hd
        rw [afterWord_of_forall (by simp) hletters] at hword
        cases hword
    · exact absurd hp (not_standsBefore_of_colon_notMem hcolon hrest hcs)

/-- Blanks stay in the text, and no directive starts at them. -/
theorem Cut.keep_blanks {done : List Directive} {start : Bool} {run rest : List Char}
    {ps : List Piece} (h : Cut done (afterWord start run) rest ps)
    (hrun : ∀ c ∈ run, isBlank c = true) :
    Cut done start (run ++ rest) (run.map .kept ++ ps) := by
  apply h.keep
  intro a b hab hne _ o after hcs hstands
  obtain ⟨c, b, rfl⟩ := List.exists_cons_of_ne_nil hne
  obtain ⟨d, tail, htyped⟩ := hstands.exists_typed_cons
  rw [htyped] at hcs
  obtain ⟨rfl, -⟩ := List.cons.inj hcs
  have hblank := hrun c (by simp [hab])
  rw [hstands.isBlank_eq_false c (by simp [htyped])] at hblank
  cases hblank

theorem Gap.isBlank_of_mem_head? (gap : Gap) (rest : List Char) :
    ∀ c ∈ (gap.blanks ++ rest).head?, isBlank c = true := by
  intro c hc
  rw [List.head?_append_of_ne_nil _ gap.ne_nil] at hc
  exact gap.blank c (List.mem_of_mem_head? hc)

theorem afterWord_gap (gap : Gap) (start : Bool) : afterWord start gap.blanks = false :=
  afterWord_of_forall gap.ne_nil (fun c hc => isWordChar_of_isBlank (gap.blank c hc)) start

/-- Behind a gap no letter, digit or underscore stands. -/
theorem Cut.keep_gap {done : List Directive} {rest : List Char} {ps : List Piece}
    (h : Cut done false rest ps) (gap : Gap) (start : Bool) :
    Cut done start (gap.blanks ++ rest) (gap.blanks.map .kept ++ ps) := by
  apply Cut.keep_blanks _ gap.blank
  rwa [afterWord_gap]

/-! ## How tokens are read -/

@[simp] theorem keptText_taken (o : Occurrence) (ps : List Piece) :
    keptText (.taken o :: ps) = keptText ps := rfl

@[simp] theorem occurrences_taken (o : Occurrence) (ps : List Piece) :
    occurrences (.taken o :: ps) = o :: occurrences ps := rfl

@[simp] theorem keptText_map_kept_append (run : List Char) (ps : List Piece) :
    keptText (run.map .kept ++ ps) = run ++ keptText ps := by
  induction run with
  | nil => rfl
  | cons c run ih => exact congrArg (c :: ·) ih

@[simp] theorem occurrences_map_kept_append (run : List Char) (ps : List Piece) :
    occurrences (run.map .kept ++ ps) = occurrences ps := by
  induction run with
  | nil => rfl
  | cons c run ih => exact ih

/-- A blank at the front of a text stays at its front. -/
theorem Cut.head?_keptText {done : List Directive} {start : Bool} {cs : List Char}
    {ps : List Piece} (h : Cut done start cs ps) (hcs : ∀ c ∈ cs.head?, isBlank c = true) :
    ∀ c ∈ (keptText ps).head?, isBlank c = true := by
  cases h with
  | nil => simp [keptText]
  | within _ => exact hcs
  | pass _ _ => exact hcs
  | take _ stands _ =>
    obtain ⟨c, tail, htyped⟩ := stands.exists_typed_cons
    have hblank := hcs c (by simp [htyped])
    rw [stands.isBlank_eq_false c (by simp [htyped])] at hblank
    cases hblank

/-- A visible run that stays in the text before a blank or the end is a word of it. -/
theorem Cut.words_keptText {done : List Directive} {start : Bool} {run rest : List Char}
    {ps : List Piece} (h : Cut done start rest ps) (hne : run ≠ [])
    (hvisible : ∀ c ∈ run, isBlank c = false) (hrest : ∀ c ∈ rest.head?, isBlank c = true) :
    words (keptText (run.map .kept ++ ps)) = run :: words (keptText ps) := by
  rw [keptText_map_kept_append]
  exact words_append_of_visible hne hvisible (h.head?_keptText hrest)

/-- Whether a value is the whole one is told before the first blank after it. -/
theorem ValueForm.admits_append_iff {form : ValueForm} {value cs rest : List Char}
    (hrest : ∀ c ∈ rest.head?, isBlank c = true) :
    form.Admits value (cs ++ rest) ↔ form.Admits value cs := by
  cases form with
  | word =>
    have hhead : (∀ c ∈ (cs ++ rest).head?, isWordChar c = false) ↔
        ∀ c ∈ cs.head?, isWordChar c = false := by
      cases cs with
      | nil =>
        have hblank : ∀ c ∈ rest.head?, isWordChar c = false :=
          fun c hc => isWordChar_of_isBlank (hrest c hc)
        simpa using hblank
      | cons d cs => rfl
    simp only [Admits, hhead]
  | year => rfl
  | yearMonth =>
    have hmonth : (∃ month more, cs ++ rest = '-' :: month ++ more ∧ IsDigits 2 month) ↔
        ∃ month more, cs = '-' :: month ++ more ∧ IsDigits 2 month := by
      constructor
      · rintro ⟨month, more, hcs, htwo⟩
        have hvisible : ∀ c ∈ '-' :: month, isBlank c = false := by
          intro c hc
          rcases List.mem_cons.mp hc with rfl | hc
          · decide
          · exact isBlank_of_isWordChar (isWordChar_of_isDigit (htwo.2 c hc))
        obtain ⟨middle, rfl, -⟩ := exists_of_append_eq_append hrest hvisible hcs
        exact ⟨month, middle, rfl, htwo⟩
      · rintro ⟨month, more, rfl, htwo⟩
        exact ⟨month, more ++ rest, by simp, htwo⟩
    simp only [Admits, hmonth]

/-- What comes from a blank on does not matter for a directive before it. -/
theorem Occurrence.standsBefore_append_iff {o : Occurrence} {cs rest : List Char}
    (hrest : ∀ c ∈ rest.head?, isBlank c = true) :
    o.StandsBefore (cs ++ rest) ↔ o.StandsBefore cs := by
  constructor
  · intro h
    exact ⟨h.keyword, (ValueForm.admits_append_iff hrest).mp h.value⟩
  · intro h
    exact ⟨h.keyword, (ValueForm.admits_append_iff hrest).mpr h.value⟩

theorem Occurrence.StandsBefore.of_whole {o : Occurrence} {rest : List Char}
    (whole : o.StandsBefore []) (hrest : ∀ c ∈ rest.head?, isBlank c = true) :
    o.StandsBefore rest :=
  (standsBefore_append_iff hrest).mpr whole

/-- A text that is cut into tokens: the words that stay are those of the tokens that stay, and the
directives taken are the first ones. -/
def CutAs (done : List Directive) (start : Bool) (cs : List Char) (ts : List Token) : Prop :=
  ∃ ps, Cut done start cs ps ∧ words (keptText ps) = (keptTokens done ts).map Token.typed ∧
    occurrences ps = firstDirectives done ts

theorem cutAs_nil (done : List Directive) (start : Bool) : CutAs done start [] [] :=
  ⟨[], .nil, rfl, rfl⟩

theorem CutAs.gap {done : List Directive} {cs : List Char} {ts : List Token}
    (h : CutAs done false cs ts) (gap : Gap) (start : Bool) :
    CutAs done start (gap.blanks ++ cs) ts := by
  obtain ⟨ps, hcut, hwords, hdirectives⟩ := h
  refine ⟨gap.blanks.map .kept ++ ps, hcut.keep_gap gap start, ?_, ?_⟩
  · rw [keptText_map_kept_append, words_append_of_blank gap.blank, hwords]
  · rw [occurrences_map_kept_append, hdirectives]

/-- A token is read as itself before a blank or the end, whatever was taken before. -/
theorem cutAs_cons {done : List Directive} {rest : List Char} {ts : List Token} (t : Token)
    (hrest : ∀ c ∈ rest.head?, isBlank c = true)
    (h : ∀ done start, CutAs done start rest ts) : CutAs done false (t.typed ++ rest) (t :: ts) := by
  cases t with
  | plain word ne_nil visible colonless =>
    obtain ⟨ps, hcut, hwords, hdirectives⟩ := h done (afterWord false word)
    refine ⟨word.map Piece.kept ++ ps, hcut.keep_colonless colonless hrest, ?_, ?_⟩
    · rw [hcut.words_keptText ne_nil visible hrest, hwords]
      rfl
    · rw [occurrences_map_kept_append, hdirectives]
      rfl
  | directive o whole =>
    have hstands := whole.of_whole hrest
    by_cases hdone : o.directive ∈ done
    · obtain ⟨ps, hcut, hwords, hdirectives⟩ := h done true
      refine ⟨o.typed.map Piece.kept ++ ps, hcut.keep_directive hstands hdone hrest, ?_, ?_⟩
      · rw [hcut.words_keptText hstands.typed_ne_nil hstands.isBlank_eq_false hrest, hwords,
          keptTokens, if_pos hdone]
        rfl
      · rw [occurrences_map_kept_append, hdirectives, firstDirectives, if_pos hdone]
    · obtain ⟨ps, hcut, hwords, hdirectives⟩ := h (o.directive :: done) true
      refine ⟨.taken o :: ps, .take hdone hstands hcut, ?_, ?_⟩
      · rw [keptText_taken, hwords, keptTokens, if_neg hdone]
      · rw [occurrences_taken, hdirectives, firstDirectives, if_neg hdone]

theorem cutAs_render (gaps : Nat → Gap) (ts : List Token) (done : List Directive) :
    CutAs done false (render gaps ts) ts := by
  induction ts generalizing done with
  | nil => exact cutAs_nil done false
  | cons t ts ih =>
    cases ts with
    | nil =>
      rw [render, ← List.append_nil t.typed]
      exact cutAs_cons t (by simp) cutAs_nil
    | cons u ts =>
      rw [render, List.append_assoc]
      apply cutAs_cons t
      · exact (gaps ts.length).isBlank_of_mem_head? _
      · intro done start
        exact (ih done).gap (gaps ts.length) start

/-- A query made of tokens gives them back. Its text is, one space apart, the words and the
directives that are not the first of their kind; its conditions are those that the first
directive of each kind states. -/
theorem parse_render (gaps : Nat → Gap) (ts : List Token) :
    parse (.ofList (render gaps ts)) =
      ⟨" ".intercalate ((keptTokens [] ts).map fun t => .ofList t.typed),
        [.type, .year, .doctype, .before, .after, .within].filterMap fun d =>
          (firstOfKind d ts).bind Occurrence.clause?⟩ := by
  obtain ⟨ps, hcut, hwords, hdirectives⟩ := cutAs_render gaps ts []
  have hpieces : pieces (render gaps ts) = ps := hcut.eq_piecesFrom.symm
  have hkinds := pairwise_occurrences_pieces (render gaps ts)
  rw [hpieces, hdirectives] at hkinds
  simp only [parse, String.toList_ofList, hpieces, Parsed.mk.injEq]
  constructor
  · rw [collapse, hwords, ← String.toList_inj, String.toList_ofList, String.toList_intercalate,
      List.map_map]
    simp only [Function.comp_def, String.toList_ofList]
    rfl
  · rw [hdirectives, clausesOf_eq_filterMap hkinds]
    simp only [find?_firstDirectives List.not_mem_nil]
    rfl

/-- A directive whose value is out of range takes up its kind all the same. -/
example : parse "type:zzz  Type:file\thall" = ⟨"Type:file hall", []⟩ := by decide

end SiteSearch.Query
