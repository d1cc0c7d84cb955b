import SiteSearch.Proofs.Engine.Body
import SiteSearch.Proofs.Input.Loose
import SiteSearch.Proofs.Json.Records
import SiteSearch.Proofs.Text.Words

/-!
# Forms

A form is an object that holds texts where texts are due; what else it holds is free. Every form is
read, and the options that come of it follow what its values denote, however they are typed
(`exists_ofJson_form`).
-/

namespace SiteSearch

open SiteSearch.Text SiteSearch.Json

theorem SortOrder.ofName?_eq_some_iff {s : String} {order : SortOrder} :
    ofName? s = some order ↔ s = order.name := by
  constructor
  · intro h
    have hname : order.name = s := by simpa using List.find?_some h
    exact hname.symm
  · rintro rfl
    exact ofName?_name order

/-- An object that holds texts where texts are due, each member once. -/
structure IsForm (members : Members) : Prop where
  nodup : (members.map (·.1)).Nodup
  fits : ∀ key v, members.get? key = some v → FitsWord v
  query : ∀ v, members.get? "query" = some v → ∃ s, v = .string s
  texts : ∀ key ∈ ["type", "doctype", "sort"], ∀ v, members.get? key = some v →
    v = .null ∨ ∃ s, v = .string s

/-- The value of a member denotes an integer. -/
def DenotesAt (members : Members) (key : String) (n : Int64) : Prop :=
  ∃ v, members.get? key = some v ∧ Denotes v n

/-- What options follow from a form, when a limit is given beside it. -/
structure Picks (members : Members) (defaultLimit : UInt32) (options : SearchOptions) : Prop where
  typeFilter : ∀ s, options.typeFilter = some s ↔ members.get? "type" = some (.string s)
  doctype : ∀ s, options.doctype = some s ↔ members.get? "doctype" = some (.string s)
  year : ∀ y, options.year = some y ↔ ∃ n, n.toInt = y.toInt ∧ DenotesAt members "year" n
  sort : ∀ order : SortOrder, members.get? "sort" = some (.string order.name) →
    options.sort = order
  otherSort : (∀ order : SortOrder, members.get? "sort" ≠ some (.string order.name)) →
    options.sort = .dateDesc
  exact : options.exact = true ↔ ∃ v, members.get? "exactMatch" = some v ∧ SwitchesOn v
  limit : ∀ n, DenotesAt members "limit" n → options.limit = n
  otherLimit : (∀ n, ¬ DenotesAt members "limit" n) → options.limit.toInt = defaultLimit.toNat

/-! ## Members that are read -/

namespace SearchInput

variable {members : Members} {key : String}

/-- What is shown of an input was decoded from the member of a name; without one it is standard. -/
structure Holds {α : Type} (members : Members) (key : String) (decode : Json → Except ShapeError α)
    (standard shown : α) : Prop where
  absent : members.get? key = none → shown = standard
  given : ∀ v, members.get? key = some v → decode v = .ok shown

theorem decodeLoose_null : decodeLoose .null = .ok none := rfl

theorem decodeLoose_of_ne_null {v : Json} (h : v ≠ .null) :
    decodeLoose v = .ok (some (.ofJson v)) := by
  cases v with
  | null => exact absurd rfl h
  | _ => rfl

/-- Null is no value, and no value is what null would be read as. -/
theorem eq_of_decodeLoose {v : Json} {loose : Option Loose} (h : decodeLoose v = .ok loose) :
    loose.bind Loose.toInt? = (Loose.ofJson v).toInt? ∧
      loose.any Loose.isOn = (Loose.ofJson v).isOn := by
  by_cases hnull : v = .null
  · rw [hnull, decodeLoose_null] at h
    rw [hnull]
    cases h
    exact ⟨rfl, rfl⟩
  · rw [decodeLoose_of_ne_null hnull] at h
    cases h
    exact ⟨Option.bind_some _ _, Option.any_some⟩

/-- The integer of a loose member is the one that its value denotes. -/
theorem Holds.bind_toInt?_eq_some_iff {loose : Option Loose}
    (h : Holds members key decodeLoose none loose)
    (hfits : ∀ v, members.get? key = some v → FitsWord v) {n : Int64} :
    loose.bind Loose.toInt? = some n ↔ DenotesAt members key n := by
  rw [DenotesAt]
  cases hget : members.get? key with
  | none =>
    rw [h.absent hget]
    simp
  | some v =>
    rw [(eq_of_decodeLoose (h.given v hget)).1, Loose.toInt?_ofJson_eq_some_iff (hfits v hget)]
    simp

theorem Holds.any_isOn_iff {loose : Option Loose} (h : Holds members key decodeLoose none loose)
    (hfits : ∀ v, members.get? key = some v → FitsWord v) :
    loose.any Loose.isOn = true ↔ ∃ v, members.get? key = some v ∧ SwitchesOn v := by
  cases hget : members.get? key with
  | none =>
    rw [h.absent hget]
    simp
  | some v =>
    rw [(eq_of_decodeLoose (h.given v hget)).2, Loose.isOn_ofJson_iff (hfits v hget)]
    simp

theorem decodeText_string (s : String) : decodeText (.string s) = .ok (some s) := rfl

theorem Holds.eq_some_iff {text : Option String} (h : Holds members key decodeText none text)
    {s : String} : text = some s ↔ members.get? key = some (.string s) := by
  constructor
  · rintro rfl
    cases hget : members.get? key with
    | none => cases h.absent hget
    | some v =>
      have hv := h.given v hget
      cases v <;> cases hv
      rfl
  · intro hget
    have hs := h.given _ hget
    rw [decodeText_string] at hs
    exact (Except.ok.inj hs).symm

/-! ## Reading forms -/

/-- Each field of the input was read from the member of its name. -/
structure ReadsFrom (members : Members) (input : SearchInput) : Prop where
  query : Holds members "query" decodeString "" input.query
  limit : Holds members "limit" decodeLoose none input.limit
  typeFilter : Holds members "type" decodeText none input.typeFilter
  doctype : Holds members "doctype" decodeText none input.doctype
  year : Holds members "year" decodeLoose none input.year
  sort : Holds members "sort" decodeText none input.sort
  exactMatch : Holds members "exactMatch" decodeLoose none input.exactMatch

theorem admits_of_isForm (h : IsForm members) : ∀ member ∈ members, shape.Admits member := by
  rintro ⟨name, v⟩ hmember field hfind
  have hget := Members.get?_eq_some_of_mem h.nodup hmember
  have hname : field.name = name := by simpa using List.find?_some hfind
  have hloose : ∃ loose, decodeLoose v = .ok loose := by
    by_cases hnull : v = .null
    · exact ⟨_, hnull ▸ decodeLoose_null⟩
    · exact ⟨_, decodeLoose_of_ne_null hnull⟩
  have htext : name ∈ ["type", "doctype", "sort"] → ∃ text, decodeText v = .ok text := by
    intro hname
    rcases h.texts name hname v hget with rfl | ⟨s, rfl⟩
    · exact ⟨_, rfl⟩
    · exact ⟨_, rfl⟩
  have hquery : name = "query" → ∃ s, decodeString v = .ok s := by
    rintro rfl
    obtain ⟨s, rfl⟩ := h.query v hget
    exact ⟨s, rfl⟩
  have hfield := List.mem_of_find?_eq_some hfind
  simp only [shape, fields, List.mem_cons, List.not_mem_nil, or_false] at hfield
  rcases hfield with rfl | rfl | rfl | rfl | rfl | rfl | rfl
  · exact Field.takes_of (hquery hname.symm)
  · exact Field.takes_of hloose
  · exact Field.takes_of (htext (by simp [← hname]))
  · exact Field.takes_of (htext (by simp [← hname]))
  · exact Field.takes_of hloose
  · exact Field.takes_of (htext (by simp [← hname]))
  · exact Field.takes_of hloose

theorem holds_of_takeMembers {α : Type} (key : String) (decode : Json → Except ShapeError α)
    (shown : SearchInput → α) {input : SearchInput} {seen : List String}
    (hspares : ∀ field ∈ fields, field.name ≠ key → field.Spares shown)
    (hputs : ∀ field ∈ fields, field.name = key → field.Puts decode shown)
    (hkey : key ∈ fields.map (·.name)) (hnodup : (members.map (·.1)).Nodup)
    (h : shape.takeMembers members [] {} = .ok (input, seen)) :
    Holds members key decode (shown {}) (shown input) := by
  obtain ⟨habsent, hgiven⟩ := RecordShape.shown_takeMembers hspares hputs hkey hnodup h
  exact ⟨habsent, hgiven⟩

theorem readsFrom_of_takeMembers {input : SearchInput} {seen : List String}
    (hnodup : (members.map (·.1)).Nodup)
    (h : shape.takeMembers members [] {} = .ok (input, seen)) : ReadsFrom members input where
  query := holds_of_takeMembers "query" decodeString (·.query)
    (by simp [fields, Field.spares_of]) (by simp [fields, Field.puts_of]) (by decide) hnodup h
  limit := holds_of_takeMembers "limit" decodeLoose (·.limit)
    (by simp [fields, Field.spares_of]) (by simp [fields, Field.puts_of]) (by decide) hnodup h
  typeFilter := holds_of_takeMembers "type" decodeText (·.typeFilter)
    (by simp [fields, Field.spares_of]) (by simp [fields, Field.puts_of]) (by decide) hnodup h
  doctype := holds_of_takeMembers "doctype" decodeText (·.doctype)
    (by simp [fields, Field.spares_of]) (by simp [fields, Field.puts_of]) (by decide) hnodup h
  year := holds_of_takeMembers "year" decodeLoose (·.year)
    (by simp [fields, Field.spares_of]) (by simp [fields, Field.puts_of]) (by decide) hnodup h
  sort := holds_of_takeMembers "sort" decodeText (·.sort)
    (by simp [fields, Field.spares_of]) (by simp [fields, Field.puts_of]) (by decide) hnodup h
  exactMatch := holds_of_takeMembers "exactMatch" decodeLoose (·.exactMatch)
    (by simp [fields, Field.spares_of]) (by simp [fields, Field.puts_of]) (by decide) hnodup h

/-- A form is read, whatever it holds besides its texts. -/
theorem exists_ofJson_eq_ok (h : IsForm members) :
    ∃ input, ofJson (.object members) = .ok input ∧ ReadsFrom members input := by
  obtain ⟨input, seen, hdecode, htake⟩ :=
    RecordShape.exists_decode_object h.nodup (admits_of_isForm h) (by simp [shape, fields])
  refine ⟨input, ?_, readsFrom_of_takeMembers h.nodup htake⟩
  rw [ofJson, hdecode]
  rfl

/-- What was read from a form is what its values denote. -/
theorem ReadsFrom.picks {input : SearchInput} (h : ReadsFrom members input) (hform : IsForm members)
    (defaultLimit : UInt32) : Picks members defaultLimit (input.toOptions defaultLimit) where
  typeFilter s := h.typeFilter.eq_some_iff
  doctype s := h.doctype.eq_some_iff
  year y := by
    have hyear : ∀ n, input.year.bind Loose.toInt? = some n ↔ DenotesAt members "year" n :=
      fun n => h.year.bind_toInt?_eq_some_iff (hform.fits "year")
    simp only [toOptions, Option.bind_eq_some_iff (x := input.year.bind Loose.toInt?), hyear,
      fitInt32?_eq_some_iff]
    constructor
    · rintro ⟨n, hn, hy⟩
      exact ⟨n, hy.symm, hn⟩
    · rintro ⟨n, hy, hn⟩
      exact ⟨n, hn, hy.symm⟩
  sort order horder := by
    simp only [toOptions, h.sort.eq_some_iff.mpr horder, Option.bind_some, SortOrder.ofName?_name,
      Option.getD_some]
  otherSort hother := by
    have hnone : input.sort.bind SortOrder.ofName? = none := by
      rw [Option.eq_none_iff_forall_ne_some]
      intro order horder
      obtain ⟨s, hs, hname⟩ := Option.bind_eq_some_iff.mp horder
      rw [SortOrder.ofName?_eq_some_iff.mp hname] at hs
      exact hother order (h.sort.eq_some_iff.mp hs)
    rw [toOptions, hnone]
    rfl
  exact := h.exactMatch.any_isOn_iff (hform.fits "exactMatch")
  limit n hn := by
    rw [toOptions, (h.limit.bind_toInt?_eq_some_iff (hform.fits "limit")).mpr hn, Option.getD_some]
  otherLimit hother := by
    have hnone : input.limit.bind Loose.toInt? = none := by
      rw [Option.eq_none_iff_forall_ne_some]
      intro n hn
      exact hother n ((h.limit.bind_toInt?_eq_some_iff (hform.fits "limit")).mp hn)
    have hsmall : defaultLimit.toNat < 2 ^ 63 := by
      have := defaultLimit.toNat_lt
      omega
    rw [toOptions, hnone, Option.getD_none, Int64.toInt_ofNat_of_lt hsmall]

/-- The text of an integer is a literal of it, with nothing to trim. -/
theorem denotes_text (n : Int64) : Denotes (.string (toString n.toInt)) n := by
  have hliteral := integerLiteral_toString n.toInt
  have hvisible : ∀ c ∈ (toString n.toInt).toList, isBlank c = false := hliteral.visible
  apply Denotes.integerText
  rwa [trimBlanks, trim_of_visible hvisible, String.ofList_toList]

/-- Every form is read, and its options follow what its values denote, whether they are typed as
numbers, texts or anything else; nothing but the texts can be refused. The limit of the request lies
between one and a hundred. An integer means the same as a number and as a text. -/
theorem exists_ofJson_form (h : IsForm members) :
    (∃ input, ofJson (.object members) = .ok input ∧
      (∀ s, members.get? "query" = some (.string s) → input.query = s) ∧
      (members.get? "query" = none → input.query = "") ∧
      ∀ defaultLimit, Picks members defaultLimit (input.toOptions defaultLimit) ∧
        ∀ enabled, ∃ limit : Nat, 1 ≤ limit ∧ limit ≤ 100 ∧
          (Plan.prepare input.query (input.toOptions defaultLimit) enabled).request.toJson.get?
            "limit" = some (.ofNat limit)) ∧
    ∀ n : Int64, Denotes (.ofInt n.toInt) n ∧ Denotes (.string (toString n.toInt)) n := by
  obtain ⟨input, hread, hfrom⟩ := exists_ofJson_eq_ok h
  refine ⟨⟨input, hread, ?_, hfrom.query.absent, ?_⟩, fun n => ⟨.integer n, denotes_text n⟩⟩
  · intro s hs
    exact (Except.ok.inj (hfrom.query.given _ hs)).symm
  · intro defaultLimit
    refine ⟨hfrom.picks h defaultLimit, fun enabled => ?_⟩
    obtain ⟨-, hlimit, -⟩ := Request.get?_toJson
      (Plan.prepare input.query (input.toOptions defaultLimit) enabled).request
    obtain ⟨hlow, hhigh, -, -⟩ := Request.movedInto_clampLimit (input.toOptions defaultLimit).limit
    exact ⟨_, Int.ofNat_le.mp hlow, Int.ofNat_le.mp hhigh, hlimit⟩

/-- A form in which numbers and switches are texts, and the order is none that is known. -/
theorem exists_ofJson_form_texts :
    let members : Members := [("exactMatch", .string " true "), ("limit", .string "5e1"),
      ("query", .string "hall"), ("sort", .string "newest"), ("year", .string "+2024")]
    IsForm members ∧ ∃ input, ofJson (.object members) = .ok input ∧ input.query = "hall" ∧
      (input.toOptions 10).limit = 50 ∧ (input.toOptions 10).year = some 2024 ∧
      (input.toOptions 10).exact = true ∧ (input.toOptions 10).sort = .dateDesc := by
  intro members
  have hstrings : ∀ key v, members.get? key = some v → ∃ s, v = .string s := by
    intro key v hv
    obtain ⟨before, after, hmembers, -⟩ := List.lookup_eq_some_iff.mp hv
    have hmem : (key, v) ∈ members := by
      rw [hmembers]
      simp
    simp only [members, List.mem_cons, Prod.mk.injEq, List.not_mem_nil, or_false] at hmem
    rcases hmem with ⟨-, rfl⟩ | ⟨-, rfl⟩ | ⟨-, rfl⟩ | ⟨-, rfl⟩ | ⟨-, rfl⟩ <;> exact ⟨_, rfl⟩
  have hform : IsForm members := {
    nodup := by decide
    fits := by
      intro key v hv
      obtain ⟨s, rfl⟩ := hstrings key v hv
      exact fitsWord_string s
    query := hstrings "query"
    texts := fun key _ v hv => .inr (hstrings key v hv) }
  have hfifty : DenotesAt members "limit" 50 :=
    ⟨.string "5e1", rfl,
      (Loose.toInt?_ofJson_eq_some_iff (fitsWord_string _)).mp (by decide +kernel)⟩
  have hyear : DenotesAt members "year" 2024 :=
    ⟨.string "+2024", rfl, .integerText (readInt64?_eq_some_iff.mp (by decide))⟩
  have hon : SwitchesOn (.string " true ") := .word (by decide)
  have hsort : ∀ order : SortOrder, members.get? "sort" ≠ some (.string order.name) := by
    intro order h
    have hname : some (Json.string "newest") = some (.string order.name) := h
    simp only [Option.some_inj, Json.string.injEq] at hname
    revert hname
    cases order <;> decide
  obtain ⟨⟨input, hread, hquery, -, hrest⟩, -⟩ := exists_ofJson_form hform
  obtain ⟨hpicks, -⟩ := hrest 10
  exact ⟨hform, input, hread, hquery "hall" rfl, hpicks.limit 50 hfifty,
    (hpicks.year 2024).mpr ⟨2024, by decide, hyear⟩, hpicks.exact.mpr ⟨_, rfl, hon⟩,
    hpicks.otherSort hsort⟩

end SearchInput

end SiteSearch
