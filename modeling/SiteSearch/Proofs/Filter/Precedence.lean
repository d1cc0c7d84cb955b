import SiteSearch.Plan
import SiteSearch.Proofs.Filter.Fallback
import SiteSearch.Proofs.Query.Clauses
import SiteSearch.Proofs.Query.Matches

/-!
# What decides a condition

A plan holds at most one condition of each kind. What was typed decides its kind; for a kind that
the query does not state the options decide, and for the type the enabled types after them
(`clauses_prepare`).
-/

namespace SiteSearch

open SiteSearch.Text SiteSearch.Query SiteSearch.Filter

namespace SearchFilter

variable {typed : List Clause} {options : SearchOptions} {enabled : EnabledTypes}

/-! ## Merging -/

theorem map_directive_added (d : Directive) :
    ((added typed options enabled d).map (·.directive)).Sublist [d] := by
  unfold added
  split
  · exact List.nil_sublist _
  · cases h : fallback? options enabled d with
    | none => exact List.nil_sublist _
    | some c => simp [(directive_eq_of_fallback? h).1]

theorem find?_added_self {d : Directive} (h : stated typed d = false) :
    (added typed options enabled d).find? (·.directive == d) = fallback? options enabled d := by
  unfold added
  rw [if_neg (by simp [h])]
  cases hfallback : fallback? options enabled d with
  | none => rfl
  | some c => simp [(directive_eq_of_fallback? hfallback).1]

theorem find?_added_eq_none {d e : Directive} (h : e = d → stated typed d = true) :
    (added typed options enabled e).find? (·.directive == d) = none := by
  rw [List.find?_eq_none]
  intro c hc hkind
  obtain ⟨hstated, -⟩ := mem_added hc
  have heq : e = d := (directive_eq_of_mem_added hc).1.symm.trans (eq_of_beq hkind)
  rw [heq, h heq] at hstated
  cases hstated

/-- What was typed decides its kind. -/
theorem find?_compile_of_stated {d : Directive} (h : stated typed d = true) :
    (compile typed options enabled).clauses.find? (·.directive == d) =
      typed.find? (·.directive == d) := by
  rw [clauses_compile]
  simp only [List.find?_append, find?_added_eq_none fun _ => h, Option.none_or, Option.or_none]

/-- A kind that the query does not state is left to what is added. -/
theorem find?_compile_of_not_stated {d : Directive} (h : stated typed d = false) :
    (compile typed options enabled).clauses.find? (·.directive == d) =
      fallback? options enabled d := by
  have htyped : typed.find? (·.directive == d) = none := by
    rw [List.find?_eq_none]
    intro c hc
    simpa using List.any_eq_false.mp h c hc
  have hother : ∀ e, e ≠ d → (added typed options enabled e).find? (·.directive == d) = none := by
    intro e hne
    exact find?_added_eq_none fun heq => absurd heq hne
  rw [clauses_compile]
  simp only [List.find?_append, htyped, Option.or_none]
  cases d with
  | type =>
    rw [find?_added_self h, hother .doctype (by decide), hother .year (by decide)]
    simp
  | doctype =>
    rw [find?_added_self h, hother .type (by decide), hother .year (by decide)]
    simp
  | year =>
    rw [find?_added_self h, hother .type (by decide), hother .doctype (by decide)]
    simp
  | before => simp [hother, fallback?]
  | after => simp [hother, fallback?]
  | within => simp [hother, fallback?]

/-- Each kind is decided by what was typed, or else by what counts without it. -/
theorem find?_compile (typed : List Clause) (options : SearchOptions) (enabled : EnabledTypes)
    (d : Directive) :
    (compile typed options enabled).clauses.find? (·.directive == d) =
      (typed.find? (·.directive == d)).or (fallback? options enabled d) := by
  cases hfind : typed.find? (·.directive == d) with
  | some c =>
    have hkind := List.find?_some hfind
    have hstated : stated typed d = true :=
      List.any_eq_true.mpr ⟨c, List.mem_of_find?_eq_some hfind, hkind⟩
    rw [find?_compile_of_stated hstated, hfind, Option.some_or]
  | none =>
    have hstated : stated typed d = false := by
      rw [stated, List.any_eq_false]
      exact List.find?_eq_none.mp hfind
    rw [find?_compile_of_not_stated hstated, Option.none_or]

/-- What is added is of a kind that the query does not state. -/
theorem eq_of_mem_map_directive_added {d e : Directive}
    (h : e ∈ (added typed options enabled d).map (·.directive)) :
    e = d ∧ e ∉ typed.map (·.directive) := by
  obtain ⟨c, hc, rfl⟩ := List.mem_map.mp h
  obtain ⟨hstated, -⟩ := mem_added hc
  have hkind := (directive_eq_of_mem_added hc).1
  refine ⟨hkind, ?_⟩
  intro hmem
  obtain ⟨c', hc', heq⟩ := List.mem_map.mp hmem
  have := List.any_eq_false.mp hstated c' hc'
  simp [heq, hkind] at this

/-- Merging adds no second condition of a kind. -/
theorem nodup_directive_compile (h : (typed.map (·.directive)).Nodup) :
    ((compile typed options enabled).clauses.map (·.directive)).Nodup := by
  have hnodup : ∀ d, ((added typed options enabled d).map (·.directive)).Nodup :=
    fun d => (map_directive_added d).nodup (by simp)
  rw [clauses_compile]
  simp only [List.map_append, List.nodup_append, List.mem_append]
  refine ⟨⟨⟨hnodup _, h, ?_⟩, hnodup _, ?_⟩, hnodup _, ?_⟩
  · rintro a ha b hb rfl
    exact (eq_of_mem_map_directive_added ha).2 hb
  · rintro a ha b hb rfl
    obtain ⟨hdoctype, hnotTyped⟩ := eq_of_mem_map_directive_added hb
    rcases ha with ha | ha
    · cases (eq_of_mem_map_directive_added ha).1.symm.trans hdoctype
    · exact hnotTyped ha
  · rintro a ha b hb rfl
    obtain ⟨hyear, hnotTyped⟩ := eq_of_mem_map_directive_added hb
    rcases ha with (ha | ha) | ha
    · cases (eq_of_mem_map_directive_added ha).1.symm.trans hyear
    · exact hnotTyped ha
    · cases (eq_of_mem_map_directive_added ha).1.symm.trans hyear

/-- The conditions typed stand together, between that on the type and those on category and
year. -/
theorem exists_clauses_compile_eq_append (typed : List Clause) (options : SearchOptions)
    (enabled : EnabledTypes) :
    ∃ front back : List Clause, (compile typed options enabled).clauses = front ++ typed ++ back ∧
      (front.map (·.directive)).Sublist [.type] ∧
      (back.map (·.directive)).Sublist [.doctype, .year] ∧
      ∀ c ∈ front ++ back, c.source ≠ .grammar := by
  refine ⟨added typed options enabled .type,
    added typed options enabled .doctype ++ added typed options enabled .year, ?_, ?_, ?_, ?_⟩
  · rw [clauses_compile]
    simp only [List.append_assoc]
  · exact map_directive_added .type
  · rw [List.map_append]
    exact (map_directive_added .doctype).append (map_directive_added .year)
  · intro c hc
    rw [List.mem_append, List.mem_append] at hc
    rcases hc with hc | hc | hc
    · exact (directive_eq_of_mem_added hc).2
    · exact (directive_eq_of_mem_added hc).2
    · exact (directive_eq_of_mem_added hc).2

end SearchFilter

/-! ## Conditions of a query -/

namespace Query

theorem nodup_directive_parse (query : String) :
    ((parse query).clauses.map (·.directive)).Nodup :=
  (map_directive_clausesOf_sublist (pairwise_occurrences_pieces query.toList)).nodup (by decide)

/-- A kind that is stated has its condition from a directive. -/
theorem exists_clause_of_has {query : String} {d : Directive} (h : (parse query).has d = true) :
    ∃ c, (parse query).clauses.find? (·.directive == d) = some c ∧ c ∈ (parse query).clauses ∧
      c.directive = d ∧ c.source = .grammar := by
  have hsome : ((parse query).clauses.find? (·.directive == d)).isSome = true := by
    rw [List.find?_isSome]
    exact List.any_eq_true.mp h
  obtain ⟨c, hfind⟩ := Option.isSome_iff_exists.mp hsome
  have hmem := List.mem_of_find?_eq_some hfind
  have hkind := List.find?_some hfind
  obtain ⟨o, -, hstates⟩ := mem_clauses_parse.mp hmem
  exact ⟨c, hfind, hmem, eq_of_beq hkind, hstates.source_eq⟩

/-- A directive that states nothing leaves its kind unstated. -/
theorem has_eq_false_of_clause?_eq_none {query : String} {m : Match} (hm : m ∈ scan query)
    (hclause : m.occurrence.clause? = none) : (parse query).has m.occurrence.directive = false := by
  rw [Parsed.has, List.any_eq_false]
  intro c hc hkind
  obtain ⟨o, ho, hstates⟩ := mem_clauses_parse.mp hc
  have hsame : o.directive = m.occurrence.directive := by
    rw [← hstates.directive_eq]
    exact eq_of_beq hkind
  have hmem : m.occurrence ∈ occurrences (pieces query.toList) := by
    rw [occurrences_eq_map_matchesFrom 0]
    exact List.mem_map_of_mem hm
  -- Only one directive of each kind is found, so it is this one.
  rcases eq_or_rel_of_pairwise (pairwise_occurrences_pieces query.toList) ho hmem with
    rfl | hne | hne
  · rw [clause?_eq_some_iff.mpr hstates] at hclause
    cases hclause
  · exact hne hsame
  · exact hne hsame.symm

end Query

namespace Plan

/-- A plan holds at most one condition of each kind. What was typed decides its kind, unchanged;
the options and the enabled types decide the kinds that the query does not state, also those of
directives that state nothing. The conditions typed stand together, after that on the type and
before those on category and year. -/
theorem clauses_prepare (query : String) (options : SearchOptions) (enabled : EnabledTypes) :
    ((prepare query options enabled).filter.clauses.map (·.directive)).Nodup ∧
    (∀ d, (parse query).has d = true →
      ∃ c ∈ (parse query).clauses, c.directive = d ∧ c.source = .grammar ∧
        (prepare query options enabled).filter.clauses.find? (·.directive == d) = some c) ∧
    (∀ d, (parse query).has d = false →
      Fallback options enabled d
        ((prepare query options enabled).filter.clauses.find? (·.directive == d))) ∧
    (∀ m ∈ scan query, m.occurrence.clause? = none →
      (parse query).has m.occurrence.directive = false) ∧
    ∃ front back : List Clause,
      (prepare query options enabled).filter.clauses = front ++ (parse query).clauses ++ back ∧
      (front.map (·.directive)).Sublist [.type] ∧
      (back.map (·.directive)).Sublist [.doctype, .year] ∧
      ∀ c ∈ front ++ back, c.source ≠ .grammar := by
  refine ⟨SearchFilter.nodup_directive_compile (nodup_directive_parse query), ?_, ?_, ?_, ?_⟩
  · intro d hd
    obtain ⟨c, hfind, hmem, hkind, hsource⟩ := exists_clause_of_has hd
    refine ⟨c, hmem, hkind, hsource, ?_⟩
    rw [← hfind]
    exact SearchFilter.find?_compile_of_stated hd
  · intro d hd
    have hfind := @SearchFilter.find?_compile_of_not_stated _ options enabled d hd
    rw [prepare, hfind]
    exact SearchFilter.fallback_fallback? options enabled d
  · intro m hm hclause
    exact has_eq_false_of_clause?_eq_none hm hclause
  · exact SearchFilter.exists_clauses_compile_eq_append (parse query).clauses options enabled

end Plan

end SiteSearch
