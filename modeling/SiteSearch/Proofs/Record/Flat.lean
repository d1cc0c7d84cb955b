import SiteSearch.Proofs.Record.Retrieved

/-!
# The JSON form of records

The JSON form of a record is one flat object: what every document has, and what its content type
adds (`map_fst_toJson`). Nothing of the record is lost in it. Put where hits have them, its members
are a hit of the same record, so the records of hits that have the same JSON form are equal
(`flat_ofHit`).

What carries this is that the records of hits are `Typed`: their details are those of the type they
name. Other records may share a form, since posts and pages add the same members.
-/

namespace SiteSearch

open SiteSearch.Json

namespace Json

/-- An integer of 64 bits is read back. -/
theorem integer?_ofInt (n : Int64) : (ofInt n.toInt).integer? = some n := Text.fitInt64?_toInt n

theorem filterMap_scalarText?_map_string (texts : List String) :
    (texts.map Json.string).filterMap scalarText? = texts := by
  rw [List.filterMap_map]
  exact List.filterMap_some

end Json

namespace Record

/-- The details are those of the type that the record names. -/
def Typed (record : Record) : Prop :=
  record.contentType? = ContentType.ofName? record.base.kind

/-- The names of what every document has. -/
def baseNames : List String := ["id", "type", "title", "content", "date"]

/-! ## Records of hits -/

theorem contentType?_detailsOf (base : RecordBase) (hit : Json) (type : Option ContentType) :
    contentType? ⟨base, detailsOf hit type⟩ = type := by
  cases type with
  | none => rfl
  | some t => cases t <;> rfl

theorem typed_ofHit (hit : Json) : (ofHit hit).Typed := contentType?_detailsOf _ hit _

/-- A record has no details when it names no content type. -/
theorem Typed.details_eq_generic_iff {record : Record} (h : record.Typed) :
    record.details = .generic ↔ ∀ t : ContentType, record.base.kind ≠ t.name := by
  have hgeneric : record.details = .generic ↔ record.contentType? = none := by
    rw [contentType?]
    cases record.details <;> simp
  rw [hgeneric, h, Option.eq_none_iff_forall_ne_some]
  simp only [ne_eq, ContentType.ofName?_eq_some_iff]

/-! ## Members of the JSON form -/

theorem map_fst_toJson (record : Record) :
    record.toJson.members.map (·.1) = baseNames ++ detailNames record.contentType? := by
  obtain ⟨base, details⟩ := record
  cases details <;> rfl

theorem nodup_names (type : Option ContentType) : (baseNames ++ detailNames type).Nodup := by
  cases type with
  | none => decide
  | some t => cases t <;> decide

theorem base_eq (record : Record) :
    record.base = ⟨text record.toJson "id", text record.toJson "type", text record.toJson "title",
      text record.toJson "content", text record.toJson "date"⟩ := rfl

/-- The details can be read from the JSON form as from a hit. -/
theorem detailsOf_toJson (record : Record) :
    detailsOf record.toJson record.contentType? = record.details := by
  obtain ⟨base, details⟩ := record
  -- Texts are read as they are written; only numbers and lists of texts take a step.
  cases details with
  | file d =>
    have hpage : ((toJson ⟨base, .file d⟩).get? "page").bind integer? = some d.page :=
      integer?_ofInt d.page
    simp only [contentType?, detailsOf, hpage]
    rfl
  | faq d =>
    have hpriority : ((toJson ⟨base, .faq d⟩).get? "priority").bind integer? = some d.priority :=
      integer?_ofInt d.priority
    have hcategories : (((toJson ⟨base, .faq d⟩).get? "categories").bind elements?).getD [] =
        d.categories.map .string := rfl
    simp only [contentType?, detailsOf, hpriority, hcategories, filterMap_scalarText?_map_string]
    rfl
  | post d => rfl
  | page d => rfl
  | event d => rfl
  | generic => rfl

/-! ## JSON forms as hits -/

/-- The name under which hits hold what records hold under a name. -/
def hitName (name : String) : String :=
  if name = "date" then "date_display" else if name = "content" then "_formatted" else name

/-- The JSON form of a record as a hit: the date has the name that it has in hits, and the content
is the marked one. -/
def asHit (json : Json) : Json :=
  .object (json.members.map fun m =>
    (hitName m.1, if m.1 = "content" then .object [("content", m.2)] else m.2))

/-- Members under other names are where they were. -/
theorem get?_asHit (json : Json) {name : String}
    (h : name ∉ ["date", "content", "date_display", "_formatted"]) :
    (asHit json).get? name = json.get? name := by
  simp only [List.mem_cons, List.not_mem_nil, or_false, not_or] at h
  obtain ⟨hdate, hcontent, hdisplay, hformatted⟩ := h
  have hname : ∀ other, hitName other = name ↔ other = name := by
    intro other
    rw [hitName]
    split
    · rename_i heq
      rw [heq]
      exact iff_of_false (Ne.symm hdisplay) (Ne.symm hdate)
    · split
      · rename_i heq
        rw [heq]
        exact iff_of_false (Ne.symm hformatted) (Ne.symm hcontent)
      · rfl
  have hget := Members.get?_map hitName
    (fun other value => if other = "content" then .object [("content", value)] else value)
    hname json.members
  simp only [if_neg hcontent, Option.map_id'] at hget
  exact hget

theorem baseOf_asHit (record : Record) : baseOf (asHit record.toJson) = record.base := rfl

theorem detailsOf_asHit (json : Json) (type : Option ContentType) :
    detailsOf (asHit json) type = detailsOf json type := by
  apply detailsOf_congr
  intro name hname
  apply get?_asHit
  revert name
  cases type with
  | none => decide
  | some t => cases t <;> decide

/-- A record whose details are those of its type is the record of its own JSON form. -/
theorem Typed.ofHit_asHit {record : Record} (h : record.Typed) :
    ofHit (asHit record.toJson) = record := by
  rw [ofHit, baseOf_asHit, ← h, detailsOf_asHit, detailsOf_toJson]

/-- Such records differ in a member of their JSON forms if they differ at all. -/
theorem Typed.eq_of_get?_eq {record record' : Record} (h : record.Typed) (h' : record'.Typed)
    (hsame : ∀ name, record.toJson.get? name = record'.toJson.get? name) : record = record' := by
  have hbase : record.base = record'.base := by
    rw [base_eq record, base_eq record']
    simp only [text, text?, hsame]
  have htype : record.contentType? = record'.contentType? := by
    rw [h, h', hbase]
  -- The types agree, so the details are read from members of the same names.
  have hdetails : record.details = record'.details := by
    rw [← detailsOf_toJson record, ← detailsOf_toJson record', htype]
    exact detailsOf_congr fun name _ => hsame name
  obtain ⟨base, details⟩ := record
  obtain ⟨base', details'⟩ := record'
  rw [Record.mk.injEq]
  exact ⟨hbase, hdetails⟩

/-- The JSON form of a hit's record has the members that every document has and those of its content
type, each once. The member `type` says which content type that is, if it is one. The form holds the
whole record: it can be read again as a hit, and no other record of a hit has the same members. -/
theorem flat_ofHit (hit : Json) :
    let record := ofHit hit
    let json := record.toJson
    (∃ members : Members, json = .object members ∧ (members.map (·.1)).Nodup ∧
      members.map (·.1) = baseNames ++ detailNames record.contentType?) ∧
    json.get? "type" = some (.string record.base.kind) ∧
    record.contentType? = ContentType.ofName? record.base.kind ∧
    (record.details = .generic ↔ ∀ t : ContentType, record.base.kind ≠ t.name) ∧
    ofHit (asHit json) = record ∧
    ∀ other, (∀ name, (ofHit other).toJson.get? name = json.get? name) → ofHit other = record := by
  intro record json
  have htyped : record.Typed := typed_ofHit hit
  have hnames := map_fst_toJson record
  refine ⟨⟨json.members, rfl, ?_, hnames⟩, rfl, htyped, htyped.details_eq_generic_iff,
    htyped.ofHit_asHit, ?_⟩
  · rw [hnames]
    exact nodup_names _
  · intro other hsame
    exact (typed_ofHit other).eq_of_get?_eq htyped hsame

end Record

end SiteSearch
