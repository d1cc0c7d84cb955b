import SiteSearch.CommandLine.Run
import SiteSearch.Proofs.Engine.Asked
import SiteSearch.Proofs.Json.Members
import SiteSearch.Proofs.Json.ReadBack

/-!
# Searches as they are explained

The plan that is shown for a search is the one that is carried out (`explain_tells_request`): the
text that is printed is read as JSON in which the request is the body that a search sends, and both
follow from the query and the options as they were typed.

A search has its options as the input of a form, where numbers and switches are loose values and the
order is a name; they are the typed ones again when the form is read.
-/

namespace SiteSearch

open SiteSearch.Text SiteSearch.Decimal

/-! ## Typed options -/

namespace CommandLine

/-- The options as they were typed; the settings say how many results are wanted if the command line
does not. -/
def SearchArguments.options (args : SearchArguments) (s : Settings) : SearchOptions where
  typeFilter := args.typeFilter
  doctype := args.doctype
  year := args.year
  sort := args.sort
  exact := args.exact
  limit := args.limit.getD (.ofNat s.resultsPerPage.toNat)

theorem fitInt32?_toInt (w : Int32) : fitInt32? (Int64.ofInt w.toInt).toInt = some w := by
  have hlow := w.le_toInt
  have hhigh := w.toInt_lt
  rw [Int64.toInt_ofInt_of_le (by omega) (by omega), fitInt32?, if_pos ⟨hlow, hhigh⟩,
    Int32.ofInt_toInt]

/-- The input of a form keeps the options that were typed. -/
theorem toOptions_input (args : SearchArguments) (s : Settings) :
    args.input.toOptions s.resultsPerPage = args.options s := by
  have hyear : ((args.year.map fun y => Loose.integer (.ofInt y.toInt)).bind Loose.toInt?).bind
      (fun y => fitInt32? y.toInt) = args.year := by
    cases args.year with
    | none => rfl
    | some y => exact fitInt32?_toInt y
  have hlimit : (args.limit.map Loose.integer).bind Loose.toInt? = args.limit := by
    cases args.limit <;> rfl
  rw [SearchArguments.input, SearchArguments.options, SearchInput.toOptions, hyear, hlimit,
    Option.bind_some, SortOrder.ofName?_name]
  rfl

end CommandLine

/-! ## Plans that can be read back -/

open Json in
theorem legibleNumber_semanticRatio :
    LegibleNumber (.float HybridRanking.standard.semanticRatio) := by
  have htext : (Number.float HybridRanking.standard.semanticRatio).text.toList =
      ['0', '.', '2'] := by
    decide +kernel
  refine ⟨⟨'0', ['.', '2'], htext, rfl⟩, ?_, ?_⟩
  · rw [htext]
    exact List.all_eq_true.mp rfl
  · rw [htext]
    decide +kernel

namespace Request

open Json

/-- What holds of the value of every member of a request. -/
theorem forall_mem_members {P : Json → Prop} {request : Request} (htext : ∀ s, P (.string s))
    (htexts : ∀ texts, P (.ofStrings texts)) (hlimit : P (.ofNat request.limit))
    (hcrop : P (.ofNat cropLength)) (hhybrid : ∀ hybrid ∈ request.hybrid, P hybrid.toJson)
    (htypos : ∀ b, P (.object [("enabled", .bool b)])) : ∀ m ∈ request.members, P m.2 := by
  intro m hm
  -- One case for each group of members, in the order in which they are written.
  simp only [members, List.mem_append] at hm
  obtain ((((hm | hm) | hm) | hm) | hm) | hm := hm
  · simp only [List.mem_cons, List.not_mem_nil, or_false] at hm
    obtain rfl | rfl := hm
    · exact htext _
    · exact hlimit
  · simp only [Option.mem_toList, Option.map_eq_some_iff] at hm
    obtain ⟨f, -, rfl⟩ := hm
    exact htext f
  · simp only [Option.mem_toList, Option.map_eq_some_iff] at hm
    obtain ⟨texts, -, rfl⟩ := hm
    exact htexts texts
  · simp only [List.mem_cons, List.not_mem_nil, or_false] at hm
    obtain rfl | rfl | rfl | rfl | rfl | rfl := hm
    case inr.inr.inr.inr.inr => exact hcrop
    all_goals first
      | exact htexts _
      | exact htext _
  · simp only [Option.mem_toList, Option.map_eq_some_iff] at hm
    obtain ⟨hybrid, hmem, rfl⟩ := hm
    exact hhybrid hybrid hmem
  · cases hexact : request.exact with
    | none => simp [hexact] at hm
    | some exact =>
      simp only [hexact, Option.map_some, Option.getD_some, ExactMatching.members, List.mem_cons,
        List.not_mem_nil, or_false] at hm
      obtain rfl | rfl := hm
      · exact htext _
      · exact htypos _

variable (text filter : String) (options : SearchOptions)

theorem eq_standard_of_mem_hybrid {hybrid : HybridRanking}
    (h : hybrid ∈ (build text filter options).hybrid) : hybrid = .standard := by
  simp only [build, Option.mem_def] at h
  split at h
  · exact (Option.some.inj h).symm
  · cases h

theorem legible_toJson_build : Legible (build text filter options).toJson := by
  rw [toJson, Legible, legibleMembers_iff]
  apply forall_mem_members
  case htext => simp [Legible]
  case htexts => exact legible_ofStrings
  case hlimit =>
    apply legibleNumber_ofNat
    simp only [build, clampLimit, maxLimit, minLimit, wordLimit]
    omega
  case hcrop => exact legibleNumber_ofNat (by decide)
  case hhybrid =>
    intro hybrid hmem
    rw [eq_standard_of_mem_hybrid text filter options hmem]
    simp [HybridRanking.toJson, Legible, LegibleMembers, legibleNumber_semanticRatio]
  case htypos => simp [Legible, LegibleMembers]

theorem nesting_toJson_le (request : Request) : nesting request.toJson ≤ 2 := by
  rw [toJson, nesting, Nat.add_le_add_iff_right, nestingMembers_le_iff]
  apply @forall_mem_members (nesting · ≤ 1)
  case htexts => exact nesting_ofStrings_le
  case hhybrid => simp [HybridRanking.toJson, nesting, nestingMembers]
  case htypos => simp [nesting, nestingMembers]
  all_goals simp [nesting, ofNat]

end Request

namespace Plan

open Json

variable (query : String) (options : SearchOptions) (enabled : EnabledTypes)

theorem legible_toJson_prepare : Legible (prepare query options enabled).toJson := by
  simp [toJson, prepare, Legible, LegibleMembers, legible_ofStrings, Request.legible_toJson_build]

theorem nesting_toJson_le (plan : Plan) : nesting plan.toJson ≤ 3 := by
  rw [toJson, nesting, Nat.add_le_add_iff_right, nestingMembers_le_iff]
  have hclauses := nesting_ofStrings_le (plan.parsed.clauses.map (·.expression))
  have hrequest := Request.nesting_toJson_le plan.request
  simp only [List.mem_cons, List.not_mem_nil, or_false]
  rintro m (rfl | rfl | rfl | rfl) <;> simp only [nesting] <;> omega

theorem get?_request (plan : Plan) :
    plan.toJson.ordered.get? "request" = some plan.request.toJson.ordered := by
  rw [toJson, get?_ordered]
  simp [Members.get?_cons]

/-- The text of a plan is read as JSON. -/
theorem read?_text : read? (prepare query options enabled).text =
    some (prepare query options enabled).toJson.ordered := by
  apply read?_pretty (legible_toJson_prepare query options enabled)
  exact (nesting_toJson_le _).trans (by decide)

end Plan

/-! ## What is explained and what is asked -/

namespace CommandLine

open SiteSearch.Query SiteSearch.Engine

/-- The request of a search. -/
def SearchArguments.request (args : SearchArguments) (s : Settings) : Request :=
  Request.build (parse args.query).text
    (SearchFilter.compile (parse args.query).clauses (args.options s) s.enabled).text
    (args.options s)

theorem request_explain (s : Settings) (args : SearchArguments) :
    (explain s args).request = args.request s := by
  rw [explain, toOptions_input]
  rfl

theorem body_handle_input (s : Settings) (args : SearchArguments) :
    (((Connection.ofSettings s).handle args.input).request?).map (·.body) =
      if (Connection.ofSettings s).isConfigured ∧ isBlankText args.query = false then
        some (some (args.request s).toJson)
      else none := by
  have hoptions : args.input.toOptions (Connection.ofSettings s).resultsPerPage = args.options s :=
    toOptions_input args s
  rw [Question.request?_handle, hoptions, apply_ite (Option.map _)]
  rfl

/-- What is explained is what a search asks: a search sends a request exactly when there is an
address, a key and something to search for, its body is the request of the query under the options
that were typed, and the text that explains the search is JSON with the same request in it. -/
theorem explain_tells_request (s : Settings) (args : SearchArguments) :
    ((((Connection.ofSettings s).handle args.input).request?).map (·.body) =
      if (Connection.ofSettings s).isConfigured ∧ isBlankText args.query = false then
        some (some (args.request s).toJson)
      else none) ∧
    ∃ printed shown, (Command.explain args).call s = .settled (.ok (printed ++ "\n")) ∧
      Json.read? printed = some shown ∧
      shown.get? "request" = some (args.request s).toJson.ordered := by
  refine ⟨body_handle_input s args, (explain s args).text, (explain s args).toJson.ordered, rfl,
    ?_, ?_⟩
  · exact Plan.read?_text _ _ _
  · rw [Plan.get?_request, request_explain]

end CommandLine

end SiteSearch
