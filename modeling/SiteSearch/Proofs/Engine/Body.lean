import SiteSearch.Plan
import SiteSearch.Proofs.Filter.Fallback
import SiteSearch.Proofs.Json.Members
import SiteSearch.Proofs.Query.Clauses

/-!
# Bodies of requests

What a plan asks the engine for, member by member of the body that is sent (`Plan.body_prepare`).

A request leaves its filter out when the text of the filter is empty, while a filter calls itself
empty when it has no conditions. The two come to the same because no condition is an empty text:
neither one that a directive states nor one that was picked or enabled.
-/

namespace SiteSearch

open SiteSearch.Query SiteSearch.Filter

/-! ## Conditions are never empty -/

namespace Filter

theorem expression_ne_empty_of_states {o : Occurrence} {c : Clause} (h : States o c) :
    c.expression ≠ "" := by
  cases h with
  | type => simp [Clause.contentType, String.append_eq_empty_iff]
  | year => simp [Clause.year, String.append_eq_empty_iff]
  | doctype => simp [Clause.category, String.append_eq_empty_iff]
  | before => simp [Clause.before, String.append_eq_empty_iff]
  | after => simp [Clause.after, String.append_eq_empty_iff]
  | within => simp [Clause.within, String.append_eq_empty_iff]

theorem expression_ne_empty_of_fallback {options : SearchOptions} {enabled : EnabledTypes}
    {d : Directive} {c : Clause} (h : Fallback options enabled d (some c)) : c.expression ≠ "" := by
  cases h <;> simp [String.append_eq_empty_iff]

end Filter

/-- Texts that are not empty are joined to a text that is not empty, unless there are none. -/
theorem intercalate_eq_empty_iff {sep : String} {parts : List String}
    (h : ∀ part ∈ parts, part ≠ "") : sep.intercalate parts = "" ↔ parts = [] := by
  rw [← String.toList_inj, String.toList_intercalate]
  cases parts with
  | nil => simp
  | cons a rest =>
    have ha : a.toList ≠ [] := by
      rw [ne_eq, String.toList_eq_nil_iff]
      exact h a List.mem_cons_self
    cases rest with
    | nil => simpa using ha
    | cons b rest => simp [List.intercalate_cons_cons, ha]

namespace SearchFilter

/-- The text of a filter is empty exactly when the filter has no conditions. -/
theorem text_eq_empty_iff {filter : SearchFilter} (h : ∀ c ∈ filter.clauses, c.expression ≠ "") :
    filter.text = "" ↔ filter.clauses = [] := by
  have hparts : ∀ part ∈ filter.clauses.map (·.expression), part ≠ "" := by
    intro part hpart
    obtain ⟨c, hc, rfl⟩ := List.mem_map.mp hpart
    exact h c hc
  rw [text, intercalate_eq_empty_iff hparts, List.map_eq_nil_iff]

theorem expression_ne_empty_of_mem_compile {query : String} {options : SearchOptions}
    {enabled : EnabledTypes} :
    ∀ c ∈ (compile (parse query).clauses options enabled).clauses, c.expression ≠ "" := by
  intro c hc
  rcases mem_clauses_compile hc with htyped | ⟨d, hfallback⟩
  · obtain ⟨o, -, hstates⟩ := mem_clauses_parse.mp htyped
    exact expression_ne_empty_of_states hstates
  · exact expression_ne_empty_of_fallback hfallback

end SearchFilter

/-! ## Members of a body -/

/-- The number `m` is `n` moved into a range: it lies in it, it is smaller than `n` only at the top
of the range, and larger only at the bottom. -/
structure MovedInto (low high n m : Int) : Prop where
  low_le : low ≤ m
  le_high : m ≤ high
  eq_high : m < n → m = high
  eq_low : n < m → m = low

namespace Request

open Json

theorem movedInto_clampLimit (limit : Int64) : MovedInto 1 100 limit.toInt (clampLimit limit) := by
  have hclamp : (clampLimit limit : Int) = max 1 (min 100 limit.toInt) := by
    simp only [clampLimit, minLimit, maxLimit]
    omega
  constructor <;> omega

theorem get?_nil (key : String) : Members.get? [] key = none := rfl

/-- The member of an optional part is there when the part is. -/
theorem get?_toList_map {α : Type} (part : Option α) (name key : String) (value : α → Json) :
    Members.get? (part.map fun x => (name, value x)).toList key =
      if key = name then part.map value else none := by
  cases part with
  | none => simp [get?_nil]
  | some x => simp [Members.get?_cons, get?_nil]

theorem get?_exactMembers (exact : Option ExactMatching) (key : String) :
    Members.get? ((exact.map ExactMatching.members).getD []) key =
      if key = "matchingStrategy" then exact.map (Json.string ·.strategy)
      else if key = "typoTolerance" then
        exact.map fun exact => .object [("enabled", .bool exact.toleratesTypos)]
      else none := by
  cases exact with
  | none => simp [get?_nil]
  | some exact => simp [ExactMatching.members, Members.get?_cons, get?_nil]

/-- The optional parts of a request are members of its body, and nothing else bears their names. -/
theorem get?_toJson (request : Request) :
    request.toJson.get? "q" = some (.string request.q) ∧
      request.toJson.get? "limit" = some (.ofNat request.limit) ∧
      request.toJson.get? "filter" = request.filter.map .string ∧
      request.toJson.get? "sort" = request.sort.map .ofStrings ∧
      request.toJson.get? "hybrid" = request.hybrid.map HybridRanking.toJson ∧
      request.toJson.get? "matchingStrategy" = request.exact.map (Json.string ·.strategy) ∧
      request.toJson.get? "typoTolerance" =
        request.exact.map fun exact => .object [("enabled", .bool exact.toleratesTypos)] := by
  simp [toJson, Json.get?, Json.members, members, Members.get?_append, Members.get?_cons,
    get?_toList_map, get?_exactMembers]

/-- No name occurs twice in a body. -/
theorem nodup_members (request : Request) : (request.members.map (·.1)).Nodup := by
  obtain ⟨q, limit, filter, sort, hybrid, exact⟩ := request
  cases filter <;> cases sort <;> cases hybrid <;> cases exact <;>
    simp [members, ExactMatching.members]

end Request

/-! ## Bodies of plans -/

namespace Plan

open Request

/-- A plan that has no conditions sends no filter, and any other plan sends the text of its
conditions. -/
theorem filter_request_prepare (query : String) (options : SearchOptions) (enabled : EnabledTypes) :
    (prepare query options enabled).request.filter =
      (prepare query options enabled).filter.text? := by
  have hempty := SearchFilter.text_eq_empty_iff
    (@SearchFilter.expression_ne_empty_of_mem_compile query options enabled)
  simp only [prepare, build, SearchFilter.text?, SearchFilter.isEmpty, List.isEmpty_iff, hempty]

/-- What the body of a plan's request says: the text that is left of the query, how many results are
wanted at most, the filter if the plan has conditions, an order unless the engine ranks, a blend of
rankings only when it does and words need not match as they are, and exact matching only when they
must. So a blend never meets an order or exact matching. -/
theorem body_prepare (query : String) (options : SearchOptions) (enabled : EnabledTypes) :
    let plan := prepare query options enabled
    let body := plan.request.toJson
    (body.members.map (·.1)).Nodup ∧
    body.get? "q" = some (.string (parse query).text) ∧
    (∃ limit : Nat, body.get? "limit" = some (.ofNat limit) ∧
      MovedInto 1 100 options.limit.toInt limit) ∧
    body.get? "filter" = plan.filter.text?.map .string ∧
    (body.get? "filter" = none ↔ plan.filter.clauses = []) ∧
    (body.get? "sort" = none ↔ options.sort = .relevance) ∧
    (body.get? "hybrid" ≠ none ↔ options.sort = .relevance ∧ options.exact = false) ∧
    (body.get? "matchingStrategy" ≠ none ↔ options.exact = true) ∧
    (body.get? "typoTolerance" ≠ none ↔ options.exact = true) ∧
    (body.get? "hybrid" ≠ none →
      body.get? "sort" = none ∧ body.get? "matchingStrategy" = none) := by
  intro plan body
  obtain ⟨hq, hlimit, hfilter, hsort, hhybrid, hmatching, htypos⟩ := get?_toJson plan.request
  have hfilter' : body.get? "filter" = plan.filter.text?.map .string := by
    rw [hfilter]
    exact congrArg _ (filter_request_prepare query options enabled)
  have hsort_iff : body.get? "sort" = none ↔ options.sort = .relevance := by
    rw [hsort, Option.map_eq_none_iff]
    change options.sort.spec? = none ↔ _
    cases options.sort <;> simp [SortOrder.spec?]
  have hhybrid_iff : body.get? "hybrid" ≠ none ↔
      options.sort = .relevance ∧ options.exact = false := by
    rw [hhybrid, ne_eq, Option.map_eq_none_iff]
    simp [plan, prepare, build, and_comm]
  have hmatching_iff : body.get? "matchingStrategy" ≠ none ↔ options.exact = true := by
    rw [hmatching, ne_eq, Option.map_eq_none_iff]
    simp [plan, prepare, build]
  have htypos_iff : body.get? "typoTolerance" ≠ none ↔ options.exact = true := by
    rw [htypos, ne_eq, Option.map_eq_none_iff]
    simp [plan, prepare, build]
  refine ⟨nodup_members plan.request, hq, ⟨_, hlimit, movedInto_clampLimit options.limit⟩, hfilter',
    ?_, hsort_iff, hhybrid_iff, hmatching_iff, htypos_iff, ?_⟩
  · rw [hfilter', Option.map_eq_none_iff]
    simp [SearchFilter.text?, SearchFilter.isEmpty]
  · intro hblend
    obtain ⟨hrelevance, hloose⟩ := hhybrid_iff.mp hblend
    refine ⟨hsort_iff.mpr hrelevance, ?_⟩
    by_contra hmatch
    rw [hmatching_iff.mp hmatch] at hloose
    cases hloose

end Plan

end SiteSearch
