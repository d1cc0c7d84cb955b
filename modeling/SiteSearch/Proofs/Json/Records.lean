import SiteSearch.Json.Decode
import SiteSearch.Proofs.Json.Members

/-!
# Records from objects

An object whose members have different names is taken as a record when each member that is a field
can be taken (`exists_decode_object`). What the record then shows of one field depends on the member
of its name alone (`shown_takeMembers`), if no other field touches what is shown.
-/

namespace SiteSearch.Json

variable {α β γ : Type}

namespace Field

/-- The field leaves alone what is shown. -/
def Spares (field : Field α) (shown : α → β) : Prop :=
  ∀ value record record', field.set value record = .ok record' → shown record' = shown record

/-- The field makes of a value what is shown. -/
def Puts (field : Field α) (decode : Json → Except ShapeError β) (shown : α → β) : Prop :=
  ∀ value record record', field.set value record = .ok record' → decode value = .ok (shown record')

/-- The value can be taken into any record. -/
def Takes (field : Field α) (value : Json) : Prop :=
  ∀ record, ∃ record', field.set value record = .ok record'

variable {name : String} {decode : Json → Except ShapeError β} {put : β → α → α} {required : Bool}

@[simp] theorem name_of : (Field.of name decode put required).name = name := rfl

@[simp] theorem required_of : (Field.of name decode put required).required = required := rfl

theorem spares_of {shown : α → γ} (h : ∀ x record, shown (put x record) = shown record) :
    (Field.of name decode put required).Spares shown := by
  intro value record record' hset
  cases hdecode : decode value with
  | error e => simp [Field.of, hdecode, Except.map] at hset
  | ok x =>
    simp only [Field.of, hdecode, Except.map, Except.ok.injEq] at hset
    rw [← hset, h]

theorem puts_of {shown : α → β} (h : ∀ x record, shown (put x record) = x) :
    (Field.of name decode put required).Puts decode shown := by
  intro value record record' hset
  cases hdecode : decode value with
  | error e => simp [Field.of, hdecode, Except.map] at hset
  | ok x =>
    simp only [Field.of, hdecode, Except.map, Except.ok.injEq] at hset
    rw [← hset, h]

theorem takes_of {value : Json} (h : ∃ x, decode value = .ok x) :
    (Field.of name decode put required).Takes value := by
  obtain ⟨x, h⟩ := h
  intro record
  exact ⟨put x record, by simp [Field.of, h, Except.map]⟩

end Field

namespace RecordShape

variable {shape : RecordShape α} {members : Members} {seen : List String} {record record' : α}

/-- A member that can be taken: it is unknown, or its field takes its value. -/
def Admits (shape : RecordShape α) (member : String × Json) : Prop :=
  ∀ field, shape.fields.find? (·.name == member.1) = some field → field.Takes member.2

theorem takeMembers_of_find?_eq_none {name : String} {value : Json} {rest : Members}
    (h : shape.fields.find? (·.name == name) = none) :
    shape.takeMembers ((name, value) :: rest) seen record = shape.takeMembers rest seen record := by
  rw [takeMembers, h]

theorem takeMembers_of_find?_eq_some {name : String} {value : Json} {rest : Members}
    {field : Field α} (h : shape.fields.find? (·.name == name) = some field) (hfresh : name ∉ seen)
    (hset : field.set value record = .ok record') :
    shape.takeMembers ((name, value) :: rest) seen record =
      shape.takeMembers rest (name :: seen) record' := by
  have hnew : ¬ seen.contains name = true := by simpa using hfresh
  rw [takeMembers, h]
  simp only [if_neg hnew, hset]

/-- What taking the first member does: nothing if the member is unknown, and else its field takes
its value. -/
theorem takeMembers_cons_eq_ok {name : String} {value : Json} {rest : Members}
    {result : α × List String}
    (h : shape.takeMembers ((name, value) :: rest) seen record = .ok result) :
    (shape.fields.find? (·.name == name) = none ∧
        shape.takeMembers rest seen record = .ok result) ∨
      ∃ field record', shape.fields.find? (·.name == name) = some field ∧
        field.set value record = .ok record' ∧
        shape.takeMembers rest (name :: seen) record' = .ok result := by
  rw [takeMembers] at h
  cases hfind : shape.fields.find? (·.name == name) with
  | none =>
    rw [hfind] at h
    exact .inl ⟨rfl, h⟩
  | some field =>
    simp only [hfind] at h
    split at h
    · cases h
    · cases hset : field.set value record with
      | error e =>
        rw [hset] at h
        cases h
      | ok record' =>
        rw [hset] at h
        exact .inr ⟨field, record', rfl, hset, h⟩

theorem exists_takeMembers (hnodup : (members.map (·.1)).Nodup)
    (hseen : ∀ member ∈ members, member.1 ∉ seen)
    (hadmits : ∀ member ∈ members, shape.Admits member) (record : α) :
    ∃ record' seen', shape.takeMembers members seen record = .ok (record', seen') := by
  induction members generalizing seen record with
  | nil => exact ⟨record, seen, rfl⟩
  | cons member rest ih =>
    obtain ⟨name, value⟩ := member
    obtain ⟨hname, hrest⟩ := List.nodup_cons.mp hnodup
    obtain ⟨hfresh, hseen⟩ := List.forall_mem_cons.mp hseen
    obtain ⟨hmember, hadmits⟩ := List.forall_mem_cons.mp hadmits
    cases hfind : shape.fields.find? (·.name == name) with
    | none =>
      rw [takeMembers_of_find?_eq_none hfind]
      exact ih hrest hseen hadmits record
    | some field =>
      obtain ⟨record', hset⟩ := hmember field hfind record
      rw [takeMembers_of_find?_eq_some hfind hfresh hset]
      refine ih hrest ?_ hadmits record'
      intro other hother hmem
      rcases List.mem_cons.mp hmem with heq | hmem
      · exact hname (List.mem_map.mpr ⟨other, hother, heq⟩)
      · exact hseen other hother hmem

/-- An object is taken as a record of which no field is required. -/
theorem exists_decode_object (hnodup : (members.map (·.1)).Nodup)
    (hadmits : ∀ member ∈ members, shape.Admits member)
    (hoptional : ∀ field ∈ shape.fields, field.required = false) :
    ∃ record seen, shape.decode (.object members) = .ok record ∧
      shape.takeMembers members [] shape.blank = .ok (record, seen) := by
  obtain ⟨record, seen, htake⟩ := exists_takeMembers hnodup
    (fun _ _ => List.not_mem_nil) hadmits shape.blank
  refine ⟨record, seen, ?_, htake⟩
  have hnone : shape.fields.find? (fun field => field.required && !seen.contains field.name) =
      none := by
    rw [List.find?_eq_none]
    intro field hfield
    simp [hoptional field hfield]
  rw [decode, htake]
  simp only [hnone]

/-- What a record shows of a field is what the member of its name was decoded to, and what it showed
before if there is no such member. -/
theorem shown_takeMembers {shown : α → β} {name : String} {decode : Json → Except ShapeError β}
    (hspares : ∀ field ∈ shape.fields, field.name ≠ name → field.Spares shown)
    (hputs : ∀ field ∈ shape.fields, field.name = name → field.Puts decode shown)
    (hname : name ∈ shape.fields.map (·.name)) (hnodup : (members.map (·.1)).Nodup)
    {seen' : List String} (h : shape.takeMembers members seen record = .ok (record', seen')) :
    (members.get? name = none → shown record' = shown record) ∧
      ∀ value, members.get? name = some value → decode value = .ok (shown record') := by
  induction members generalizing seen record with
  | nil =>
    cases h
    exact ⟨fun _ => rfl, nofun⟩
  | cons member rest ih =>
    obtain ⟨n, v⟩ := member
    obtain ⟨hn, hrest⟩ := List.nodup_cons.mp hnodup
    rw [Members.get?_cons]
    rcases takeMembers_cons_eq_ok h with ⟨hfind, h⟩ | ⟨field, record₁, hfind, hset, h⟩
    · have hne : name ≠ n := by
        rintro rfl
        obtain ⟨field, hfield, hname⟩ := List.mem_map.mp hname
        exact List.find?_eq_none.mp hfind field hfield (beq_iff_eq.mpr hname)
      rw [if_neg hne]
      exact ih hrest h
    · have hfield := List.mem_of_find?_eq_some hfind
      have hfield_name : field.name = n := by simpa using List.find?_some hfind
      obtain ⟨hnone, hsome⟩ := ih hrest h
      by_cases hne : name = n
      · rw [if_pos hne, hnone (Members.get?_eq_none (hne ▸ hn))]
        refine ⟨nofun, ?_⟩
        rintro value heq
        cases heq
        exact hputs field hfield (hfield_name.trans hne.symm) v record record₁ hset
      · rw [if_neg hne]
        refine ⟨fun habsent => ?_, hsome⟩
        rw [hnone habsent]
        exact hspares field hfield (hfield_name ▸ Ne.symm hne) v record record₁ hset

end RecordShape

end SiteSearch.Json
