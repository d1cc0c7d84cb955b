import Mathlib.Data.List.Basic
import SiteSearch.Query.Parsed

/-!
# Conditions that directives state

What a directive can state, one rule for each kind, and what follows for the conditions of a
query: each comes from a directive of its own kind and is marked as typed.
-/

namespace SiteSearch.Query

open SiteSearch.Text SiteSearch.Filter

/-- A directive and the condition that it states, one rule for each kind. -/
inductive States : Occurrence → Clause → Prop where
  | type {keyword value : List Char} {t : ContentType}
      (known : ContentType.ofTyped? (.ofList (asciiLower value)) = some t) :
      States ⟨.type, keyword, value⟩ (.contentType .grammar t.name)
  | year {keyword value : List Char} (inRange : isFilterYear (digitsValue value) = true) :
      States ⟨.year, keyword, value⟩ (.year .grammar (digitsValue value))
  | doctype {keyword value : List Char} {category : Category}
      (known : Category.ofTyped? (.ofList (asciiLower value)) = some category) :
      States ⟨.doctype, keyword, value⟩ (.category .grammar category)
  | before {keyword value : List Char} {date : Nat}
      (inRange : date? (YearMonth.ofValue value).year ((YearMonth.ofValue value).month.getD 12) 31 =
        some date) :
      States ⟨.before, keyword, value⟩ (.before .grammar date)
  | after {keyword value : List Char} {date : Nat}
      (inRange : date? (YearMonth.ofValue value).year ((YearMonth.ofValue value).month.getD 1) 1 =
        some date) :
      States ⟨.after, keyword, value⟩ (.after .grammar date)
  | within {keyword value : List Char} :
      States ⟨.within, keyword, value⟩ (.within .grammar (.ofList (asciiLower value)))

/-- The rules say all that a directive states. -/
theorem clause?_eq_some_iff {o : Occurrence} {c : Clause} : o.clause? = some c ↔ States o c := by
  constructor
  · obtain ⟨directive, keyword, value⟩ := o
    intro h
    cases directive with
    | type =>
      obtain ⟨t, known, rfl⟩ := Option.map_eq_some_iff.mp h
      exact .type known
    | year =>
      simp only [Occurrence.clause?] at h
      split at h
      · rename_i inRange
        obtain rfl := Option.some.inj h
        exact .year inRange
      · simp at h
    | doctype =>
      obtain ⟨category, known, rfl⟩ := Option.map_eq_some_iff.mp h
      exact .doctype known
    | before =>
      obtain ⟨date, inRange, rfl⟩ := Option.map_eq_some_iff.mp h
      exact .before inRange
    | after =>
      obtain ⟨date, inRange, rfl⟩ := Option.map_eq_some_iff.mp h
      exact .after inRange
    | within =>
      obtain rfl := Option.some.inj h
      exact .within
  · intro h
    cases h with
    | type known => simp [Occurrence.clause?, known]
    | year inRange => simp [Occurrence.clause?, inRange]
    | doctype known => simp [Occurrence.clause?, known]
    | before inRange => simp [Occurrence.clause?, inRange]
    | after inRange => simp [Occurrence.clause?, inRange]
    | within => rfl

theorem States.directive_eq {o : Occurrence} {c : Clause} (h : States o c) :
    c.directive = o.directive := by
  cases h <;> rfl

theorem States.source_eq {o : Occurrence} {c : Clause} (h : States o c) : c.source = .grammar := by
  cases h <;> rfl

/-- The conditions of a query are those that its directives state. -/
theorem mem_clauses_parse {query : String} {c : Clause} :
    c ∈ (parse query).clauses ↔ ∃ o ∈ occurrences (pieces query.toList), States o c := by
  unfold parse clausesOf
  constructor
  · intro h
    obtain ⟨d, -, hd⟩ := List.mem_flatMap.mp h
    obtain ⟨o, ho, hc⟩ := List.mem_filterMap.mp hd
    exact ⟨o, (List.mem_filter.mp ho).1, clause?_eq_some_iff.mp hc⟩
  · intro h
    obtain ⟨o, ho, hc⟩ := h
    apply List.mem_flatMap.mpr
    refine ⟨o.directive, Directive.mem_all _, ?_⟩
    apply List.mem_filterMap.mpr
    exact ⟨o, List.mem_filter.mpr ⟨ho, by simp⟩, clause?_eq_some_iff.mpr hc⟩

/-! ## One condition for each kind -/

/-- Among directives of different kinds at most one is of a given kind. -/
theorem filter_directive_eq {os : List Occurrence}
    (h : os.Pairwise fun o p => o.directive ≠ p.directive) (d : Directive) :
    os.filter (·.directive == d) = (os.find? (·.directive == d)).toList := by
  induction h with
  | nil => rfl
  | @cons o os hhead _ ih =>
    by_cases hkind : o.directive = d
    · have hnone : os.filter (·.directive == d) = [] := by
        rw [List.filter_eq_nil_iff]
        intro p hp heq
        exact hhead p hp (hkind.trans (eq_of_beq heq).symm)
      simp [hkind, hnone]
    · simp [hkind, ih]

/-- The conditions of directives of different kinds, one at most for each kind, in the order of
the kinds. -/
theorem clausesOf_eq_filterMap {os : List Occurrence}
    (h : os.Pairwise fun o p => o.directive ≠ p.directive) :
    clausesOf os =
      Directive.all.filterMap fun d => (os.find? (·.directive == d)).bind Occurrence.clause? := by
  have hkind : ∀ d, (os.filter (·.directive == d)).filterMap Occurrence.clause? =
      ((os.find? (·.directive == d)).bind Occurrence.clause?).toList := by
    intro d
    rw [filter_directive_eq h]
    cases os.find? (·.directive == d) with
    | none => rfl
    | some o => cases hclause : o.clause? <;> simp [hclause]
  rw [clausesOf, List.filterMap_eq_flatMap_toList]
  simp only [hkind]

theorem map_directive_filterMap_sublist {f : Directive → Option Clause}
    (hf : ∀ d, ∀ c ∈ f d, c.directive = d) (ds : List Directive) :
    ((ds.filterMap f).map (·.directive)).Sublist ds := by
  induction ds with
  | nil => exact List.Sublist.slnil
  | cons d ds ih =>
    cases hd : f d with
    | none =>
      rw [List.filterMap_cons_none hd]
      exact ih.cons d
    | some c =>
      rw [List.filterMap_cons_some hd, List.map_cons, hf d c hd]
      exact ih.cons_cons d

/-- The conditions of directives of different kinds are of different kinds, and in order. -/
theorem map_directive_clausesOf_sublist {os : List Occurrence}
    (h : os.Pairwise fun o p => o.directive ≠ p.directive) :
    ((clausesOf os).map (·.directive)).Sublist Directive.all := by
  rw [clausesOf_eq_filterMap h]
  apply map_directive_filterMap_sublist
  intro d c hc
  obtain ⟨o, ho, hclause⟩ := Option.bind_eq_some_iff.mp hc
  have hkind := List.find?_some ho
  rw [(clause?_eq_some_iff.mp hclause).directive_eq]
  exact eq_of_beq hkind

end SiteSearch.Query
