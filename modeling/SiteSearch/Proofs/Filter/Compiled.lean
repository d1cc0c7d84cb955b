import SiteSearch.Proofs.Filter.Fallback
import SiteSearch.Proofs.Filter.Sealed
import SiteSearch.Proofs.Query.Clauses

/-!
# Compiled filters are read back

Every condition that a filter is compiled from is sealed: those that directives state, those
that were picked and the one that follows from the enabled types. A picked type may be any text,
so it is the escaping that makes its condition so.

Main statement: the text of a compiled filter has the conditions it was joined from and no
others (`conditions?_text_compile`).
-/

namespace SiteSearch.Filter

open SiteSearch.Text SiteSearch.Query

/-! ## The shapes of conditions -/

/-- A sealed text may follow a sealed text and a space when it does not start with an `A`. -/
theorem sealed_append_space {a b : List Char} (ha : Sealed .outside a) (hb : Sealed .outside b)
    (hhead : MayFollowSpace b) : Sealed .outside (a ++ ' ' :: b) := by
  apply sealed_append ha
  exact .cons (fun _ _ => hhead) hb

/-- A condition that compares a field with an operand. -/
theorem sealed_comparison {lead operand : String} (hlead : Sealed .outside lead.toList)
    (hoperand : Sealed .outside operand.toList) (hhead : MayFollowSpace operand.toList) :
    Sealed .outside (lead ++ " " ++ operand).toList := by
  have hchars : (lead ++ " " ++ operand).toList = lead.toList ++ ' ' :: operand.toList := by
    simp
  rw [hchars]
  exact sealed_append_space hlead hoperand hhead

theorem sealed_comparison_quoted {lead : String} (hlead : Sealed .outside lead.toList)
    (value : String) : Sealed .outside (lead ++ " " ++ quoted value).toList := by
  apply sealed_comparison hlead (sealed_quoted value)
  exact ⟨'"', by simp [quoted], by decide⟩

theorem sealed_comparison_nat {lead : String} (hlead : Sealed .outside lead.toList) (n : Nat) :
    Sealed .outside (lead ++ " " ++ toString n).toList := by
  have hchars : (toString n).toList = Nat.toDigits 10 n := by
    rw [Nat.toString_eq_repr, Nat.toList_repr]
  have hdigit : ∀ c ∈ Nat.toDigits 10 n, c.isDigit = true := by
    intro c hc
    exact Nat.isDigit_of_mem_toDigits (by decide) (by decide) hc
  apply sealed_comparison hlead
  · rw [hchars]
    apply sealed_of_forall
    intro c hc
    have := hdigit c hc
    constructor
    · rintro rfl
      exact absurd this (by decide)
    · rintro rfl
      exact absurd this (by decide)
  · obtain ⟨d, ds, hd⟩ := List.exists_cons_of_ne_nil (@Nat.toDigits_ne_nil n 10)
    rw [hchars, hd]
    refine ⟨d, rfl, ?_⟩
    rintro rfl
    exact absurd (hdigit 'A' (by simp [hd])) (by decide)

theorem sealed_contentType (source : Source) (value : String) :
    Sealed .outside (Clause.contentType source value).expression.toList := by
  have hlead : "type = " = "type =" ++ " " := rfl
  simp only [Clause.contentType, hlead]
  exact sealed_comparison_quoted (by decide) value

theorem sealed_within (source : Source) (part : String) :
    Sealed .outside (Clause.within source part).expression.toList := by
  have hlead : "path CONTAINS " = "path CONTAINS" ++ " " := rfl
  simp only [Clause.within, hlead]
  exact sealed_comparison_quoted (by decide) part

theorem sealed_before (source : Source) (date : Nat) :
    Sealed .outside (Clause.before source date).expression.toList := by
  have hlead : "date_sortable < " = "date_sortable <" ++ " " := rfl
  simp only [Clause.before, hlead]
  exact sealed_comparison_nat (by decide) date

theorem sealed_after (source : Source) (date : Nat) :
    Sealed .outside (Clause.after source date).expression.toList := by
  have hlead : "date_sortable > " = "date_sortable >" ++ " " := rfl
  simp only [Clause.after, hlead]
  exact sealed_comparison_nat (by decide) date

/-- Names of categories need no escaping. -/
theorem sealed_category (source : Source) (category : Category) :
    Sealed .outside (Clause.category source category).expression.toList := by
  have hquoted : "\"" ++ category.name ++ "\"" = quoted category.name := by
    cases category <;> rfl
  have hlead : "document_type = \"" = "document_type =" ++ " " ++ "\"" := rfl
  simp only [Clause.category]
  rw [hlead, String.append_assoc, String.append_assoc, ← @String.append_assoc "\"", hquoted]
  exact sealed_comparison_quoted (by decide) _

/-- Years in range have no sign. -/
theorem sealed_year (source : Source) {year : Int} (h : isFilterYear year = true) :
    Sealed .outside (Clause.year source year).expression.toList := by
  have hnonneg : 0 ≤ year := by
    simp only [isFilterYear, Bool.and_eq_true, decide_eq_true_eq] at h
    omega
  obtain ⟨n, rfl⟩ := Int.eq_ofNat_of_zero_le hnonneg
  have hlead : "year = " = "year =" ++ " " := rfl
  have hdigits : toString (n : Int) = toString n := rfl
  simp only [Clause.year, hlead, hdigits]
  exact sealed_comparison_nat (by decide) n

/-- Alternatives joined by ` OR ` start as the first of them does. -/
theorem sealed_alternatives {alternatives : List (List Char)} (hne : alternatives ≠ [])
    (h : ∀ a ∈ alternatives, Sealed .outside a ∧ MayFollowSpace a) :
    Sealed .outside (" OR ".toList.intercalate alternatives) ∧
      MayFollowSpace (" OR ".toList.intercalate alternatives) := by
  induction alternatives with
  | nil => exact absurd rfl hne
  | cons a rest ih =>
    obtain ⟨ha, d, hd, hother⟩ := h a (by simp)
    cases rest with
    | nil =>
      rw [List.intercalate_singleton]
      exact ⟨ha, d, hd, hother⟩
    | cons b rest =>
      obtain ⟨hrest, hhead⟩ := ih (by simp) fun x hx => h x (List.mem_cons_of_mem _ hx)
      have hor : " OR ".toList = " OR".toList ++ [' '] := rfl
      rw [List.intercalate_cons_cons, hor, List.append_assoc, List.append_assoc]
      refine ⟨?_, d, ?_, hother⟩
      · apply sealed_append ha
        exact sealed_append_space (by decide) hrest hhead
      · cases a with
        | nil => simp at hd
        | cons x xs => exact hd

/-- One of the alternatives for the type; names of types need no escaping. -/
theorem sealed_typeAlternative (t : ContentType) :
    Sealed .outside ("type = \"" ++ t.name ++ "\"").toList := by
  have hquoted : "\"" ++ t.name ++ "\"" = quoted t.name := by cases t <;> rfl
  have hlead : "type = \"" = "type =" ++ " " ++ "\"" := rfl
  rw [hlead, String.append_assoc, String.append_assoc, ← @String.append_assoc "\"", hquoted]
  exact sealed_comparison_quoted (by decide) _

theorem sealed_enabledTypes {types : List ContentType} (hne : types ≠ []) :
    Sealed .outside ("(" ++ " OR ".intercalate
      (types.map fun t => "type = \"" ++ t.name ++ "\"") ++ ")").toList := by
  let alternatives := types.map fun t => ("type = \"" ++ t.name ++ "\"").toList
  have hsealed : ∀ a ∈ alternatives, Sealed .outside a ∧ MayFollowSpace a := by
    intro a ha
    obtain ⟨t, -, rfl⟩ := List.mem_map.mp ha
    refine ⟨sealed_typeAlternative t, 't', ?_, by decide⟩
    simp
  have hjoined := sealed_alternatives (by simpa [alternatives] using hne) hsealed
  have hchars : ("(" ++ " OR ".intercalate
      (types.map fun t => "type = \"" ++ t.name ++ "\"") ++ ")").toList =
      '(' :: (" OR ".toList.intercalate alternatives ++ [')']) := by
    simp [alternatives, Function.comp_def]
  rw [hchars]
  refine .cons (by simp) ?_
  exact sealed_append hjoined.1 (by decide)

/-! ## Conditions of queries and of filters -/

/-- What a directive states is sealed. -/
theorem sealed_of_states {o : Occurrence} {c : Clause} (h : States o c) :
    Sealed .outside c.expression.toList := by
  cases h with
  | type known => exact sealed_contentType _ _
  | year inRange => exact sealed_year _ inRange
  | doctype known => exact sealed_category _ _
  | before inRange => exact sealed_before _ _
  | after inRange => exact sealed_after _ _
  | within => exact sealed_within _ _

/-- What was picked or enabled is sealed. -/
theorem sealed_of_fallback {options : SearchOptions} {enabled : EnabledTypes} {d : Directive}
    {c : Clause} (h : Fallback options enabled d (some c)) :
    Sealed .outside c.expression.toList := by
  cases h with
  | pickedType given visible => exact sealed_contentType .options _
  | enabledTypes unpicked someOn =>
    obtain ⟨t, ht⟩ := someOn
    apply sealed_enabledTypes
    exact List.ne_nil_of_mem (List.mem_filter.mpr ⟨ContentType.mem_all t, ht⟩)
  | pickedCategory given known =>
    rw [known]
    exact sealed_category .options _
  | pickedYear given inRange => exact sealed_year .options (by simpa [isFilterYear] using inRange)

end SiteSearch.Filter

namespace SiteSearch.SearchFilter

open SiteSearch.Text SiteSearch.Query SiteSearch.Filter

/-- Every condition of a filter is sealed if those typed are. -/
theorem sealed_of_mem_compile {typed : List Clause} {options : SearchOptions}
    {enabled : EnabledTypes} (htyped : ∀ c ∈ typed, Sealed .outside c.expression.toList) :
    ∀ c ∈ (compile typed options enabled).clauses, Sealed .outside c.expression.toList := by
  intro c hc
  rcases mem_clauses_compile hc with h | ⟨d, h⟩
  · exact htyped c h
  · exact sealed_of_fallback h

/-- A type condition that was picked quotes the picked text without the blanks around it. -/
theorem exists_literal_of_picked {typed : List Clause} {options : SearchOptions}
    {enabled : EnabledTypes} {c : Clause} (htyped : ∀ c ∈ typed, c.source = .grammar)
    (hc : c ∈ (compile typed options enabled).clauses) (hdirective : c.directive = .type)
    (hsource : c.source = .options) :
    ∃ picked literal, options.typeFilter = some picked ∧
      c.expression = "type = \"" ++ literal ++ "\"" ∧
      unescape? literal.toList = some (trim picked.toList) := by
  rcases mem_clauses_compile hc with h | ⟨d, h⟩
  · have := htyped c h
    rw [hsource] at this
    exact absurd this (by decide)
  · cases h with
    | @pickedType value given visible =>
      refine ⟨value, escapeValue (trimBlanks value), given, ?_, ?_⟩
      · simp only [quoted]
        rw [← String.append_assoc, ← String.append_assoc]
        rfl
      · rw [escapeValue, String.toList_ofList, unescape?_escape, trimBlanks, String.toList_ofList]
    | enabledTypes => cases hsource
    | pickedCategory => cases hdirective
    | pickedYear => cases hdirective

/-- No text that was typed or picked breaks out of the filter. Its reader ends outside quotes,
finds the conditions that the filter was compiled from and no others, and reads a picked type
as the text that was picked. -/
theorem conditions?_text_compile (query : String) (options : SearchOptions)
    (enabled : EnabledTypes) :
    let filter := compile (parse query).clauses options enabled
    filter.text.toList.foldl Quoting.next .outside = .outside ∧
      (filter.isEmpty = false → conditions? filter.text = some (filter.clauses.map (·.expression))) ∧
      ∀ c ∈ filter.clauses, c.directive = .type → c.source = .options →
        ∃ picked literal, options.typeFilter = some picked ∧
          c.expression = "type = \"" ++ literal ++ "\"" ∧
          unescape? literal.toList = some (trim picked.toList) := by
  intro filter
  have htyped : ∀ c ∈ (parse query).clauses, Sealed .outside c.expression.toList := by
    intro c hc
    obtain ⟨o, -, hstates⟩ := mem_clauses_parse.mp hc
    exact sealed_of_states hstates
  have hsealed : ∀ part ∈ filter.clauses.map (·.expression), Sealed .outside part.toList := by
    intro part hpart
    obtain ⟨c, hc, rfl⟩ := List.mem_map.mp hpart
    exact sealed_of_mem_compile htyped c hc
  refine ⟨?_, ?_, ?_⟩
  · have hsep : " AND ".toList = separator := rfl
    rw [text, String.toList_intercalate, hsep]
    apply foldl_next_intercalate
    intro part hpart
    obtain ⟨s, hs, rfl⟩ := List.mem_map.mp hpart
    exact hsealed s hs
  · intro hne
    apply conditions?_intercalate _ hsealed
    simpa [isEmpty] using hne
  · intro c hc hdirective hsource
    apply exists_literal_of_picked _ hc hdirective hsource
    intro c hc
    obtain ⟨o, -, hstates⟩ := mem_clauses_parse.mp hc
    exact hstates.source_eq

/-- A picked type that looks like the end of its value and another condition is one value. -/
theorem conditions?_text_compile_lookalike :
    let filter := compile (parse "in:hall").clauses
      { typeFilter := some " x\" AND year = 1\\" } .everything
    filter.isEmpty = false ∧ conditions? filter.text =
      some ["type = \"x\\\" AND year = 1\\\\\"", "path CONTAINS \"hall\""] := by
  intro filter
  have hne : filter.isEmpty = false := by decide
  have hparts : filter.clauses.map (·.expression) =
      ["type = \"x\\\" AND year = 1\\\\\"", "path CONTAINS \"hall\""] := by decide
  refine ⟨hne, ?_⟩
  rw [← hparts]
  exact (conditions?_text_compile "in:hall" { typeFilter := some " x\" AND year = 1\\" }
    .everything).2.1 hne

end SiteSearch.SearchFilter
