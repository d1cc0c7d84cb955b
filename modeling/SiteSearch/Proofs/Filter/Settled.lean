import SiteSearch.Proofs.Filter.Precedence

/-!
# Filters that are compiled again

Conditions are settled when compiling has nothing to add to them: of every kind there is one, or the
options and the enabled types ask for none. Settled conditions are those that compile to themselves,
and compiling settles any conditions, so doing it twice is doing it once
(`compile_clauses_compile`). It does not matter who asked for a condition, nor whether there are
several of one kind.
-/

namespace SiteSearch

open SiteSearch.Query SiteSearch.Filter

namespace SearchFilter

variable {typed : List Clause} {options : SearchOptions} {enabled : EnabledTypes}

/-- Nothing can be added: of every kind there is a condition, or none is asked for. -/
def Settled (options : SearchOptions) (enabled : EnabledTypes) (clauses : List Clause) : Prop :=
  ∀ d, (∃ c ∈ clauses, c.directive = d) ∨ Fallback options enabled d none

theorem stated_iff {d : Directive} : stated typed d = true ↔ ∃ c ∈ typed, c.directive = d := by
  simp [stated]

theorem not_fallback_of_none {d : Directive} {c : Clause} (h : Fallback options enabled d none) :
    ¬ Fallback options enabled d (some c) := by
  intro h'
  cases h with
  | anyType unpicked allOff =>
    cases h' with
    | pickedType given visible => exact visible (unpicked _ given)
    | enabledTypes _ someOn =>
      obtain ⟨t, ht⟩ := someOn
      rw [allOff t] at ht
      cases ht
  | anyCategory unknown =>
    cases h' with
    | pickedCategory given known => exact unknown _ given _ known
  | anyYear outOfRange =>
    cases h' with
    | pickedYear given inRange => exact outOfRange _ given inRange
  | before => cases h'
  | after => cases h'
  | within => cases h'

theorem fallback?_eq_none_iff {d : Directive} :
    fallback? options enabled d = none ↔ Fallback options enabled d none := by
  have hfallback := fallback_fallback? options enabled d
  constructor
  · intro h
    rwa [h] at hfallback
  · intro h
    cases hd : fallback? options enabled d with
    | none => rfl
    | some c =>
      rw [hd] at hfallback
      exact absurd hfallback (not_fallback_of_none h)

/-- Nothing is added for a kind that has a condition, or for which none is asked. -/
theorem added_eq_nil_iff {d : Directive} :
    added typed options enabled d = [] ↔
      (∃ c ∈ typed, c.directive = d) ∨ Fallback options enabled d none := by
  rw [added, ← stated_iff, ← fallback?_eq_none_iff]
  cases stated typed d <;> simp

theorem settled_iff_added_eq_nil :
    Settled options enabled typed ↔ ∀ d, added typed options enabled d = [] := by
  simp only [Settled, added_eq_nil_iff]

/-- Settled conditions are those that compile to themselves. -/
theorem clauses_compile_eq_self_iff :
    (compile typed options enabled).clauses = typed ↔ Settled options enabled typed := by
  rw [settled_iff_added_eq_nil, clauses_compile]
  constructor
  · intro h
    -- What is added makes the list longer, so nothing was added.
    have hlength := congrArg List.length h
    simp only [List.length_append] at hlength
    intro d
    cases d with
    | type => exact List.length_eq_zero_iff.mp (by omega)
    | doctype => exact List.length_eq_zero_iff.mp (by omega)
    | year => exact List.length_eq_zero_iff.mp (by omega)
    | before => exact added_eq_nil_iff.mpr (.inr .before)
    | after => exact added_eq_nil_iff.mpr (.inr .after)
    | within => exact added_eq_nil_iff.mpr (.inr .within)
  · intro h
    rw [h .type, h .doctype, h .year]
    simp

/-- A compiled filter is settled: where it has no condition of a kind, none was asked for. -/
theorem settled_compile (typed : List Clause) (options : SearchOptions) (enabled : EnabledTypes) :
    Settled options enabled (compile typed options enabled).clauses := by
  intro d
  have hfirst := find?_compile typed options enabled d
  cases hfind : (compile typed options enabled).clauses.find? (·.directive == d) with
  | some c =>
    have hd : c.directive = d := by simpa using List.find?_some hfind
    exact .inl ⟨c, List.mem_of_find?_eq_some hfind, hd⟩
  | none =>
    rw [hfind, eq_comm, Option.or_eq_none_iff] at hfirst
    exact .inr (fallback?_eq_none_iff.mp hfirst.2)

/-- Compiling the conditions of a compiled filter again, beside the same options and enabled types,
gives the same filter, whatever it was compiled from. The conditions that compiling leaves as they
are, are those that are settled already. -/
theorem compile_clauses_compile (typed : List Clause) (options : SearchOptions)
    (enabled : EnabledTypes) :
    compile (compile typed options enabled).clauses options enabled =
        compile typed options enabled ∧
      ((compile typed options enabled).clauses = typed ↔ Settled options enabled typed) := by
  refine ⟨?_, clauses_compile_eq_self_iff⟩
  have hclauses := clauses_compile_eq_self_iff.mpr (settled_compile typed options enabled)
  rw [SearchFilter.mk.injEq]
  exact hclauses

end SearchFilter

end SiteSearch
