import SiteSearch.Proofs.Query.Clauses
import SiteSearch.Proofs.Query.Matches
import SiteSearch.Proofs.Text.Digits

/-!
# What directives mean

The conditions that directives stand for, spelled out from what was typed: which words are known,
which years and months are in range and what is written in the filter for each. A query has a
condition exactly when a directive was found in it that means this condition
(`clauses_parse_iff_means`).

The rules do not read numbers. They say how a year and a month are written, and a value is in range
when it is so written.
-/

namespace SiteSearch.Query

open SiteSearch.Text SiteSearch.Filter

/-! ## Meanings -/

/-- A number below a hundred as two digits. -/
def twoDigits (n : Nat) : List Char := [(n / 10).digitChar, (n % 10).digitChar]

/-- The value is a year in range, and a month after it or none; `standard` is the month that counts
when there is none. -/
inductive TellsMonth (standard : Nat) : List Char → (year month : Nat) → Prop where
  | year {year : Nat} (low : 1990 ≤ year) (high : year ≤ 2100) :
      TellsMonth standard (toString year).toList year standard
  | yearMonth {year month : Nat} (low : 1990 ≤ year) (high : year ≤ 2100) (first : 1 ≤ month)
      (last : month ≤ 12) :
      TellsMonth standard ((toString year).toList ++ '-' :: twoDigits month) year month

/-- What a directive of some kind with some value asks for, in the filter language. -/
inductive Means : Directive → (value : List Char) → (expression : String) → Prop where
  | type {value : List Char} {word : String} {t : ContentType}
      (typed : asciiLower value = word.toList)
      (known : (word, t) ∈ [("file", .file), ("post", .post), ("page", .page), ("faq", .faq),
        ("event", .event), ("document", .file), ("news", .post)]) :
      Means .type value ("type = \"" ++ t.name ++ "\"")
  | year {year : Nat} (low : 1990 ≤ year) (high : year ≤ 2100) :
      Means .year (toString year).toList ("year = " ++ toString year)
  | doctype {value : List Char} {category : Category}
      (typed : asciiLower value = category.name.toList) :
      Means .doctype value ("document_type = \"" ++ category.name ++ "\"")
  | before {value : List Char} {year month : Nat} (tells : TellsMonth 12 value year month) :
      Means .before value ("date_sortable < " ++ toString (year * 10000 + month * 100 + 31))
  | after {value : List Char} {year month : Nat} (tells : TellsMonth 1 value year month) :
      Means .after value ("date_sortable > " ++ toString (year * 10000 + month * 100 + 1))
  | within {value : List Char} :
      Means .within value ("path CONTAINS \"" ++ .ofList (asciiLower value) ++ "\"")

/-! ## Years and months -/

theorem isDigits_year {year : Nat} (low : 1990 ≤ year) (high : year ≤ 2100) :
    IsDigits 4 (toString year).toList := by
  refine ⟨?_, isDigit_of_mem_toString⟩
  have hlong : ¬ (toString year).length ≤ 3 := by
    rw [Nat.toString_eq_repr, Nat.length_repr_le_iff (by decide)]
    omega
  have hshort : (toString year).length ≤ 4 := by
    rw [Nat.toString_eq_repr, Nat.length_repr_le_iff (by decide)]
    omega
  rw [String.length_toList]
  omega

/-- Four digits in range are the year that they denote, written out. -/
theorem toString_digitsValue {value : List Char} (h : IsDigits 4 value)
    (low : 1990 ≤ digitsValue value) (high : digitsValue value ≤ 2100) :
    (toString (digitsValue value)).toList = value := by
  have hyear := isDigits_year low high
  apply eq_of_digitsValue_eq hyear.2 h.2
  · rw [hyear.1, h.1]
  · exact digitsValue_toString _

theorem isDigits_twoDigits {n : Nat} (h : n < 100) : IsDigits 2 (twoDigits n) := by
  refine ⟨rfl, ?_⟩
  simp only [twoDigits, List.mem_cons, List.not_mem_nil, or_false, forall_eq_or_imp, forall_eq,
    Nat.isDigit_digitChar, decide_eq_true_eq]
  omega

theorem digitsValue_twoDigits {n : Nat} (h : n < 100) : digitsValue (twoDigits n) = n := by
  have hdigit : ∀ d < 10, digitValue d.digitChar = d := by
    intro d hd
    exact Nat.toNat_digitChar_sub_48_of_lt_ten hd
  simp only [digitsValue, twoDigits, List.foldl_cons, List.foldl_nil]
  rw [hdigit _ (by omega), hdigit _ (by omega)]
  omega

theorem twoDigits_digitsValue {value : List Char} (h : IsDigits 2 value)
    (high : digitsValue value < 100) : twoDigits (digitsValue value) = value := by
  have htwo := isDigits_twoDigits high
  apply eq_of_digitsValue_eq htwo.2 h.2
  · rw [htwo.1, h.1]
  · exact digitsValue_twoDigits high

theorem isFilterYear_iff {year : Nat} :
    isFilterYear year = true ↔ 1990 ≤ year ∧ year ≤ 2100 := by
  simp only [isFilterYear, Bool.and_eq_true, decide_eq_true_eq]
  omega

theorem date?_eq_some_iff {year month day date : Nat} :
    date? year month day = some date ↔
      (1990 ≤ year ∧ year ≤ 2100 ∧ 1 ≤ month ∧ month ≤ 12) ∧
        year * 10000 + month * 100 + day = date := by
  simp only [date?, Option.ite_none_right_eq_some, isFilterYear_iff, Option.some_inj, and_assoc]

theorem ofValue_year {year : List Char} (h : year.length = 4) :
    YearMonth.ofValue year = ⟨digitsValue year, none⟩ := by
  rw [YearMonth.ofValue, List.take_of_length_le (by omega), List.drop_of_length_le (by omega)]

theorem ofValue_yearMonth {year month : List Char} (hyear : year.length = 4) (hmonth : month ≠ []) :
    YearMonth.ofValue (year ++ '-' :: month) = ⟨digitsValue year, some (digitsValue month)⟩ := by
  have hfront : (year ++ '-' :: month).take 4 = year := by rw [← hyear, List.take_left]
  have hback : (year ++ '-' :: month).drop 5 = month := by
    rw [List.append_cons, List.drop_left' (by simp [hyear])]
  rw [YearMonth.ofValue, hfront, hback]
  cases month with
  | nil => exact absurd rfl hmonth
  | cons c cs => rfl

/-- A value gives a date exactly when it tells a year and a month. -/
theorem date?_ofValue_eq_some_iff {value rest : List Char} {standard day date : Nat}
    (h : ValueForm.yearMonth.Admits value rest) (hstandard : 1 ≤ standard ∧ standard ≤ 12) :
    date? (YearMonth.ofValue value).year ((YearMonth.ofValue value).month.getD standard) day =
        some date ↔
      ∃ year month, TellsMonth standard value year month ∧
        year * 10000 + month * 100 + day = date := by
  rw [date?_eq_some_iff]
  constructor
  · intro hdate
    obtain ⟨hfour, -⟩ | ⟨year, month, rfl, hfour, htwo⟩ := h
    · simp only [ofValue_year hfour.1, Option.getD_none] at hdate
      obtain ⟨⟨low, high, -, -⟩, hdate⟩ := hdate
      refine ⟨digitsValue value, standard, ?_, hdate⟩
      have tells := @TellsMonth.year standard _ low high
      rwa [toString_digitsValue hfour low high] at tells
    · have hne : month ≠ [] := List.ne_nil_of_length_eq_add_one htwo.1
      simp only [ofValue_yearMonth hfour.1 hne, Option.getD_some] at hdate
      obtain ⟨⟨low, high, first, last⟩, hdate⟩ := hdate
      refine ⟨digitsValue year, digitsValue month, ?_, hdate⟩
      have tells := @TellsMonth.yearMonth standard _ _ low high first last
      rwa [toString_digitsValue hfour low high, twoDigits_digitsValue htwo (by omega)] at tells
  · intro hdate
    obtain ⟨year, month, tells, rfl⟩ := hdate
    cases tells with
    | year low high =>
      rw [ofValue_year (isDigits_year low high).1, digitsValue_toString]
      exact ⟨⟨low, high, hstandard⟩, rfl⟩
    | yearMonth low high first last =>
      have hne : twoDigits month ≠ [] := List.cons_ne_nil _ _
      rw [ofValue_yearMonth (isDigits_year low high).1 hne, digitsValue_toString,
        digitsValue_twoDigits (by omega)]
      exact ⟨⟨low, high, first, last⟩, rfl⟩

/-! ## Words -/

theorem ofList_eq_iff {cs : List Char} {s : String} : String.ofList cs = s ↔ cs = s.toList := by
  rw [← String.toList_inj, String.toList_ofList]

/-- A word typed for the type is known by its own name or by another word. -/
theorem ofTyped?_type_eq_some_iff {value : List Char} {t : ContentType} :
    ContentType.ofTyped? (.ofList (asciiLower value)) = some t ↔
      ∃ word : String, asciiLower value = word.toList ∧
        (word, t) ∈ [("file", .file), ("post", .post), ("page", .page), ("faq", .faq),
          ("event", .event), ("document", .file), ("news", .post)] := by
  simp only [← ofList_eq_iff, ContentType.ofTyped?, foldCase_ofList_asciiLower]
  generalize String.ofList (asciiLower value) = typed
  constructor
  · intro h
    refine ⟨typed, rfl, ?_⟩
    split at h
    · obtain rfl := Option.some.inj h
      decide
    · obtain rfl := Option.some.inj h
      decide
    · obtain rfl := ContentType.ofName?_eq_some_iff.mp h
      cases t <;> decide
  · intro h
    obtain ⟨word, rfl, known⟩ := h
    simp only [List.mem_cons, Prod.mk.injEq, List.not_mem_nil, or_false] at known
    rcases known with ⟨rfl, rfl⟩ | ⟨rfl, rfl⟩ | ⟨rfl, rfl⟩ | ⟨rfl, rfl⟩ | ⟨rfl, rfl⟩ |
      ⟨rfl, rfl⟩ | ⟨rfl, rfl⟩ <;> rfl

theorem ofTyped?_category_eq_some_iff {value : List Char} {category : Category} :
    Category.ofTyped? (.ofList (asciiLower value)) = some category ↔
      asciiLower value = category.name.toList := by
  rw [Category.ofTyped?, foldCase_ofList_asciiLower, Category.ofName?_eq_some_iff, ofList_eq_iff]

/-- Letters, digits and underscores need no escaping. -/
theorem escape_of_isWordChar {cs : List Char} (h : ∀ c ∈ cs, isWordChar c = true) :
    escape cs = cs := by
  induction cs with
  | nil => rfl
  | cons c cs ih =>
    have hc : ¬ (c = '"' ∨ c = '\\') := by
      rintro (rfl | rfl)
      · exact absurd (h _ List.mem_cons_self) (by decide)
      · exact absurd (h _ List.mem_cons_self) (by decide)
    rw [escape_cons, if_neg hc, ih fun d hd => h d (List.mem_cons_of_mem _ hd)]
    rfl

/-- Names of types need no escaping. -/
theorem contentType_eq (source : Source) (t : ContentType) :
    Clause.contentType source t.name = ⟨.type, source, "type = \"" ++ t.name ++ "\""⟩ := by
  cases t <;> rfl

theorem within_eq (source : Source) {cs : List Char} (h : ∀ c ∈ cs, isWordChar c = true) :
    Clause.within source (.ofList cs) =
      ⟨.within, source, "path CONTAINS \"" ++ .ofList cs ++ "\""⟩ := by
  have hlead : "path CONTAINS \"" = "path CONTAINS " ++ "\"" := rfl
  rw [Clause.within, quoted, escapeValue, String.toList_ofList, escape_of_isWordChar h, hlead,
    String.append_assoc, String.append_assoc, String.append_assoc]

/-! ## Conditions and meanings -/

theorem isWordChar_of_mem_asciiLower {cs : List Char} (h : ∀ c ∈ cs, isWordChar c = true) :
    ∀ c ∈ asciiLower cs, isWordChar c = true := by
  intro c hc
  obtain ⟨d, hd, rfl⟩ := List.mem_map.mp hc
  rw [isWordChar_toLower, h d hd]

/-- What a directive states is what it means. -/
theorem states_iff_means {o : Occurrence} {rest : List Char} (h : o.StandsBefore rest)
    {d : Directive} {expression : String} :
    States o ⟨d, .grammar, expression⟩ ↔ o.directive = d ∧ Means d o.value expression := by
  constructor
  · intro hstates
    generalize hclause : (⟨d, .grammar, expression⟩ : Clause) = c at hstates
    cases hstates with
    | @type keyword value t known =>
      obtain ⟨word, typed, hword⟩ := ofTyped?_type_eq_some_iff.mp known
      rw [contentType_eq] at hclause
      cases hclause
      exact ⟨rfl, .type typed hword⟩
    | @year keyword value inRange =>
      cases hclause
      obtain ⟨low, high⟩ := isFilterYear_iff.mp inRange
      have hmeans := Means.year low high
      rw [toString_digitsValue h.value low high] at hmeans
      exact ⟨rfl, hmeans⟩
    | doctype known =>
      cases hclause
      exact ⟨rfl, .doctype (ofTyped?_category_eq_some_iff.mp known)⟩
    | before inRange =>
      cases hclause
      obtain ⟨year, month, tells, rfl⟩ :=
        (date?_ofValue_eq_some_iff h.value (by decide)).mp inRange
      exact ⟨rfl, .before tells⟩
    | after inRange =>
      cases hclause
      obtain ⟨year, month, tells, rfl⟩ :=
        (date?_ofValue_eq_some_iff h.value (by decide)).mp inRange
      exact ⟨rfl, .after tells⟩
    | within =>
      rw [within_eq _ (isWordChar_of_mem_asciiLower h.value.2.1)] at hclause
      cases hclause
      exact ⟨rfl, .within⟩
  · obtain ⟨directive, keyword, value⟩ := o
    rintro ⟨rfl, hmeans⟩
    cases hmeans with
    | type typed known =>
      rw [← contentType_eq]
      exact .type (ofTyped?_type_eq_some_iff.mpr ⟨_, typed, known⟩)
    | @year year low high =>
      have inRange : isFilterYear (digitsValue (toString year).toList) = true := by
        rw [digitsValue_toString, isFilterYear_iff]
        exact ⟨low, high⟩
      have hstates := @States.year keyword _ inRange
      rw [digitsValue_toString] at hstates
      exact hstates
    | doctype typed => exact .doctype (ofTyped?_category_eq_some_iff.mpr typed)
    | before tells =>
      exact .before ((date?_ofValue_eq_some_iff h.value (by decide)).mpr ⟨_, _, tells, rfl⟩)
    | after tells =>
      exact .after ((date?_ofValue_eq_some_iff h.value (by decide)).mpr ⟨_, _, tells, rfl⟩)
    | within =>
      rw [← within_eq _ (isWordChar_of_mem_asciiLower h.value.2.1)]
      exact .within

/-! ## Conditions of a query -/

theorem exists_standsBefore_of_mem_scan {query : String} {m : Match} (hm : m ∈ scan query) :
    ∃ rest, m.occurrence.StandsBefore rest := by
  obtain ⟨-, rest, -, -, -, hstands⟩ := ((cut_pieces query.toList).standsIn 0 m hm).1
  exact ⟨rest, hstands⟩

/-- Of each kind at most one directive is found. -/
theorem eq_of_mem_scan {query : String} {m n : Match} (hm : m ∈ scan query) (hn : n ∈ scan query)
    (h : n.occurrence.directive = m.occurrence.directive) : n = m := by
  have hpairwise := (cut_pieces query.toList).pairwise_matchesFrom 0
  rcases eq_or_rel_of_pairwise hpairwise hn hm with heq | hrel | hrel
  · exact heq
  · exact absurd h hrel.2
  · exact absurd h.symm hrel.2

theorem occurrences_pieces_eq_map_scan (query : String) :
    occurrences (pieces query.toList) = (scan query).map Match.occurrence :=
  occurrences_eq_map_matchesFrom 0 _

/-- A query has a condition exactly when a directive found in it means the condition. -/
theorem mem_clauses_parse_iff_means {query : String} {d : Directive} {expression : String} :
    (∃ c ∈ (parse query).clauses, c.directive = d ∧ c.expression = expression) ↔
      ∃ m ∈ scan query, m.occurrence.directive = d ∧ Means d m.occurrence.value expression := by
  simp only [mem_clauses_parse, occurrences_pieces_eq_map_scan, List.mem_map]
  constructor
  · rintro ⟨⟨d, source, expression⟩, ⟨-, ⟨m, hm, rfl⟩, hstates⟩, rfl, rfl⟩
    obtain rfl : source = .grammar := hstates.source_eq
    obtain ⟨rest, hstands⟩ := exists_standsBefore_of_mem_scan hm
    exact ⟨m, hm, (states_iff_means hstands).mp hstates⟩
  · rintro ⟨m, hm, hmeans⟩
    obtain ⟨rest, hstands⟩ := exists_standsBefore_of_mem_scan hm
    exact ⟨⟨d, .grammar, expression⟩,
      ⟨m.occurrence, ⟨m, hm, rfl⟩, (states_iff_means hstands).mpr hmeans⟩, rfl, rfl⟩

/-- The conditions of a query are of different kinds, in order and marked as typed, and they are
exactly those that the directives found in it mean. A directive that means nothing leaves its kind
without a condition, and it is the only one of its kind that is found. -/
theorem clauses_parse_iff_means (query : String) :
    ((parse query).clauses.map (·.directive)).Sublist
      [.type, .year, .doctype, .before, .after, .within] ∧
    (∀ c ∈ (parse query).clauses, c.source = .grammar) ∧
    (∀ d expression,
      (∃ c ∈ (parse query).clauses, c.directive = d ∧ c.expression = expression) ↔
        ∃ m ∈ scan query, m.occurrence.directive = d ∧ Means d m.occurrence.value expression) ∧
    ∀ m ∈ scan query,
      (∀ expression, ¬ Means m.occurrence.directive m.occurrence.value expression) →
        (parse query).has m.occurrence.directive = false ∧
          ∀ n ∈ scan query, n.occurrence.directive = m.occurrence.directive → n = m := by
  refine ⟨?_, ?_, fun d expression => mem_clauses_parse_iff_means, ?_⟩
  · exact map_directive_clausesOf_sublist (pairwise_occurrences_pieces query.toList)
  · intro c hc
    obtain ⟨o, -, hstates⟩ := mem_clauses_parse.mp hc
    exact hstates.source_eq
  · intro m hm hnothing
    refine ⟨?_, fun n hn hkind => eq_of_mem_scan hm hn hkind⟩
    rw [Parsed.has, List.any_eq_false]
    intro c hc hkind
    obtain ⟨n, hn, hsame, hmeans⟩ :=
      mem_clauses_parse_iff_means.mp ⟨c, hc, eq_of_beq hkind, rfl⟩
    obtain rfl := eq_of_mem_scan hm hn hsame
    exact hnothing c.expression hmeans

/-- A month out of range leaves the kind without a condition, also when a good one follows. -/
example : (parse "Before:2024-13 before:2024 after:2023 type:NEWS").clauses.map (·.expression) =
    ["type = \"post\"", "date_sortable > 20230101"] := by decide

end SiteSearch.Query
