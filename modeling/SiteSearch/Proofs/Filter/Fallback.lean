import SiteSearch.Filter.Compile

/-!
# Conditions that were not typed

What the options and the enabled types ask for when the query does not state a kind, one rule
for each case, and where the conditions of a compiled filter come from
(`mem_clauses_compile`).
-/

namespace SiteSearch

open SiteSearch.Text SiteSearch.Query SiteSearch.Filter

/-- The condition of a kind that the query does not state, if there is one. -/
inductive Fallback (options : SearchOptions) (enabled : EnabledTypes) :
    Directive → Option Clause → Prop where
  | pickedType {value : String} (given : options.typeFilter = some value)
      (visible : trimBlanks value ≠ "") :
      Fallback options enabled .type
        (some ⟨.type, .options, "type = " ++ quoted (trimBlanks value)⟩)
  | enabledTypes (unpicked : ∀ value ∈ options.typeFilter, trimBlanks value = "")
      (someOn : ∃ t, enabled.enables t = true) :
      Fallback options enabled .type
        (some ⟨.type, .settings, "(" ++ " OR ".intercalate
          ((([.file, .post, .page, .faq, .event] : List ContentType).filter enabled.enables).map
            fun t => "type = \"" ++ t.name ++ "\"") ++ ")"⟩)
  | anyType (unpicked : ∀ value ∈ options.typeFilter, trimBlanks value = "")
      (allOff : ∀ t, enabled.enables t = false) : Fallback options enabled .type none
  | pickedCategory {value : String} {category : Category} (given : options.doctype = some value)
      (known : foldCase (trimBlanks value) = category.name) :
      Fallback options enabled .doctype
        (some ⟨.doctype, .options, "document_type = \"" ++ foldCase (trimBlanks value) ++ "\""⟩)
  | anyCategory (unknown : ∀ value ∈ options.doctype, ∀ category : Category,
      foldCase (trimBlanks value) ≠ category.name) : Fallback options enabled .doctype none
  | pickedYear {year : Int32} (given : options.year = some year)
      (inRange : 1990 ≤ year.toInt ∧ year.toInt ≤ 2100) :
      Fallback options enabled .year (some ⟨.year, .options, "year = " ++ toString year.toInt⟩)
  | anyYear (outOfRange : ∀ year ∈ options.year, ¬ (1990 ≤ year.toInt ∧ year.toInt ≤ 2100)) :
      Fallback options enabled .year none
  | before : Fallback options enabled .before none
  | after : Fallback options enabled .after none
  | within : Fallback options enabled .within none

namespace SearchOptions

theorem visible?_eq_some_iff {picked : Option String} {text : String} :
    visible? picked = some text ↔
      ∃ value, picked = some value ∧ trimBlanks value = text ∧ text ≠ "" := by
  simp only [visible?, Option.filter_eq_some_iff, Option.map_eq_some_iff, decide_eq_true_eq]
  constructor
  · intro h
    obtain ⟨⟨value, hpicked, htext⟩, hne⟩ := h
    exact ⟨value, hpicked, htext, hne⟩
  · intro h
    obtain ⟨value, hpicked, htext, hne⟩ := h
    exact ⟨⟨value, hpicked, htext⟩, hne⟩

theorem visible?_eq_none_iff {picked : Option String} :
    visible? picked = none ↔ ∀ value ∈ picked, trimBlanks value = "" := by
  simp [visible?]

end SearchOptions

namespace SearchFilter

/-- What counts for a kind that the query does not state. -/
def fallback? (options : SearchOptions) (enabled : EnabledTypes) : Directive → Option Clause
  | .type => typeClause? options enabled
  | .doctype => categoryClause? options
  | .year => yearClause? options
  | .before | .after | .within => none

theorem fallback_typeClause? (options : SearchOptions) (enabled : EnabledTypes) :
    Fallback options enabled .type (typeClause? options enabled) := by
  unfold typeClause? SearchOptions.typeFilter?
  cases hpicked : SearchOptions.visible? options.typeFilter with
  | some picked =>
    obtain ⟨value, given, rfl, visible⟩ := SearchOptions.visible?_eq_some_iff.mp hpicked
    exact .pickedType given visible
  | none =>
    have unpicked := SearchOptions.visible?_eq_none_iff.mp hpicked
    unfold Clause.enabledTypes?
    cases htypes : enabled.toList with
    | nil =>
      refine .anyType unpicked ?_
      intro t
      have := List.filter_eq_nil_iff.mp htypes t (ContentType.mem_all t)
      simpa using this
    | cons t ts =>
      have hmem : t ∈ enabled.toList := by simp [htypes]
      simp only
      rw [← htypes]
      exact .enabledTypes unpicked ⟨t, (List.mem_filter.mp hmem).2⟩

theorem fallback_categoryClause? (options : SearchOptions) (enabled : EnabledTypes) :
    Fallback options enabled .doctype (categoryClause? options) := by
  unfold categoryClause? SearchOptions.doctype?
  cases hpicked : SearchOptions.visible? options.doctype with
  | some picked =>
    obtain ⟨value, given, rfl, -⟩ := SearchOptions.visible?_eq_some_iff.mp hpicked
    cases hknown : Category.ofTyped? (trimBlanks value) with
    | some category =>
      have known := Category.ofName?_eq_some_iff.mp hknown
      simp only [Option.bind_some, hknown, Option.map_some, Clause.category, ← known]
      exact .pickedCategory given known
    | none =>
      simp only [Option.bind_some, hknown, Option.map_none]
      refine .anyCategory ?_
      intro other hother category heq
      obtain rfl : value = other := Option.some.inj (given.symm.trans hother)
      have := Category.ofName?_eq_some_iff.mpr heq
      rw [Category.ofTyped?, this] at hknown
      cases hknown
  | none =>
    refine .anyCategory ?_
    intro value hvalue category heq
    rw [SearchOptions.visible?_eq_none_iff.mp hpicked value hvalue] at heq
    revert heq
    cases category <;> decide

theorem fallback_yearClause? (options : SearchOptions) (enabled : EnabledTypes) :
    Fallback options enabled .year (yearClause? options) := by
  have hrange : ∀ year : Int32, isFilterYear year.toInt = true ↔
      1990 ≤ year.toInt ∧ year.toInt ≤ 2100 := by
    intro year
    simp [isFilterYear]
  unfold yearClause?
  cases hyear : options.year.filter fun y => isFilterYear y.toInt with
  | some year =>
    obtain ⟨given, inRange⟩ := Option.filter_eq_some_iff.mp hyear
    exact .pickedYear given ((hrange year).mp inRange)
  | none =>
    refine .anyYear ?_
    intro year hgiven inRange
    exact Option.filter_eq_none_iff.mp hyear year hgiven ((hrange year).mpr inRange)

theorem fallback_fallback? (options : SearchOptions) (enabled : EnabledTypes) (d : Directive) :
    Fallback options enabled d (fallback? options enabled d) := by
  cases d with
  | type => exact fallback_typeClause? options enabled
  | year => exact fallback_yearClause? options enabled
  | doctype => exact fallback_categoryClause? options enabled
  | before => exact .before
  | after => exact .after
  | within => exact .within

/-- A condition that was not typed is of its kind and says so. -/
theorem directive_eq_of_fallback? {options : SearchOptions} {enabled : EnabledTypes} {d : Directive}
    {c : Clause} (h : fallback? options enabled d = some c) :
    c.directive = d ∧ c.source ≠ .grammar := by
  have hfallback := fallback_fallback? options enabled d
  rw [h] at hfallback
  cases hfallback <;> exact ⟨rfl, by simp⟩

/-! ## Merging -/

variable {typed : List Clause} {options : SearchOptions} {enabled : EnabledTypes}

/-- What is added for a kind: nothing if the query states it. -/
def added (typed : List Clause) (options : SearchOptions) (enabled : EnabledTypes) (d : Directive) :
    List Clause :=
  if stated typed d then [] else (fallback? options enabled d).toList

theorem clauses_compile (typed : List Clause) (options : SearchOptions) (enabled : EnabledTypes) :
    (compile typed options enabled).clauses = added typed options enabled .type ++ typed ++
      added typed options enabled .doctype ++ added typed options enabled .year := rfl

theorem mem_added {d : Directive} {c : Clause} (h : c ∈ added typed options enabled d) :
    stated typed d = false ∧ fallback? options enabled d = some c := by
  unfold added at h
  split at h
  · simp at h
  · rename_i hstated
    exact ⟨by simpa using hstated, Option.mem_toList.mp h⟩

theorem directive_eq_of_mem_added {d : Directive} {c : Clause}
    (h : c ∈ added typed options enabled d) : c.directive = d ∧ c.source ≠ .grammar :=
  directive_eq_of_fallback? (mem_added h).2

/-- Where the conditions of a compiled filter come from. -/
theorem mem_clauses_compile {c : Clause} (h : c ∈ (compile typed options enabled).clauses) :
    c ∈ typed ∨ ∃ d, Fallback options enabled d (some c) := by
  have hadded : ∀ {d}, c ∈ added typed options enabled d →
      ∃ d, Fallback options enabled d (some c) := by
    intro d hc
    have hfallback := fallback_fallback? options enabled d
    rw [(mem_added hc).2] at hfallback
    exact ⟨d, hfallback⟩
  rw [clauses_compile, List.mem_append, List.mem_append, List.mem_append] at h
  rcases h with ((htype | htyped) | hdoctype) | hyear
  · exact .inr (hadded htype)
  · exact .inl htyped
  · exact .inr (hadded hdoctype)
  · exact .inr (hadded hyear)

end SearchFilter

end SiteSearch
