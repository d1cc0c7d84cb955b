import SiteSearch.Record.Hit
import SiteSearch.Proofs.Engine.Body
import Mathlib.Logic.Relation

/-!
# What records need of a document

A request names the attributes that come back with a hit, and those of them that are marked. The
record of a hit is made of these and of nothing else: a hit may hold more, less or something else
under any other name, and the record is the same (`ofHit_of_edits`).

Hits are edited one member at a time. Every edit keeps the hits `Alike`, and alike hits have one
record (`ofHit_congr`).
-/

namespace SiteSearch

open SiteSearch.Json

namespace Json

/-- One member is added, deleted or given another value, under a name that is not kept. -/
inductive Members.Edit (kept : List String) : Members → Members → Prop where
  | add {name : String} (before after : Members) (value : Json) (free : name ∉ kept) :
      Edit kept (before ++ after) (before ++ (name, value) :: after)
  | delete {name : String} (before after : Members) (value : Json) (free : name ∉ kept) :
      Edit kept (before ++ (name, value) :: after) (before ++ after)
  | change {name : String} (before after : Members) (value value' : Json) (free : name ∉ kept) :
      Edit kept (before ++ (name, value) :: after) (before ++ (name, value') :: after)

theorem Members.Edit.get?_eq {kept : List String} {members members' : Members}
    (h : Edit kept members members') {key : String} (hkey : key ∈ kept) :
    members.get? key = members'.get? key := by
  cases h with
  | add before after value free =>
    exact (get?_append_cons_of_ne (ne_of_mem_of_not_mem hkey free)).symm
  | delete before after value free =>
    exact get?_append_cons_of_ne (ne_of_mem_of_not_mem hkey free)
  | change before after value value' free =>
    have hne := ne_of_mem_of_not_mem hkey free
    rw [get?_append_cons_of_ne hne, get?_append_cons_of_ne hne]

/-- An object with the members under some names alone; other values are as they are. -/
def only (names : List String) : Json → Json
  | .object members => .object (members.filter fun m => names.contains m.1)
  | json => json

theorem get?_only {names : List String} {key : String} (h : key ∈ names) (json : Json) :
    (json.only names).get? key = json.get? key := by
  cases json with
  | object members => exact Members.get?_filter h members
  | _ => rfl

end Json

namespace Record

open SiteSearch.Request

/-! ## What is read of a hit -/

/-- The names of the members that a content type adds to a record. -/
def detailNames : Option ContentType → List String
  | some .file => ["filename", "path", "url_prefix", "page", "document_type"]
  | some .post | some .page => ["url", "excerpt"]
  | some .faq => ["categories", "priority"]
  | some .event => ["url", "event_time", "event_location"]
  | none => []

/-- The details of a content type are read from the members that it adds. -/
theorem detailsOf_congr {hit hit' : Json} {type : Option ContentType}
    (h : ∀ name ∈ detailNames type, hit.get? name = hit'.get? name) :
    detailsOf hit type = detailsOf hit' type := by
  cases type with
  | none => rfl
  | some t =>
    cases t <;>
      simp only [detailNames, List.forall_mem_cons] at h <;>
      simp only [detailsOf, articleOf, text, text?, h]

theorem detailNames_subset (type : Option ContentType) :
    detailNames type ⊆ attributesToRetrieve := by
  cases type with
  | none => exact List.nil_subset _
  | some t => cases t <;> decide

/-! ## Alike hits -/

/-- Two hits that hold the same wherever a request asks. -/
structure Alike (hit hit' : Json) : Prop where
  retrieved : ∀ name ∈ attributesToRetrieve, hit.get? name = hit'.get? name
  marked : ∀ name ∈ attributesToHighlight,
    (formatted hit).get? name = (formatted hit').get? name

theorem Alike.refl (hit : Json) : Alike hit hit := ⟨fun _ _ => rfl, fun _ _ => rfl⟩

theorem Alike.trans {hit hit' hit'' : Json} (h : Alike hit hit') (h' : Alike hit' hit'') :
    Alike hit hit'' :=
  ⟨fun name hname => (h.retrieved name hname).trans (h'.retrieved name hname),
    fun name hname => (h.marked name hname).trans (h'.marked name hname)⟩

theorem baseOf_congr {hit hit' : Json} (h : Alike hit hit') : baseOf hit = baseOf hit' := by
  have hid := h.retrieved "id" (by decide)
  have htype := h.retrieved "type" (by decide)
  have htitle := h.retrieved "title" (by decide)
  have hdate := h.retrieved "date_display" (by decide)
  have hmarkedTitle := h.marked "title" (by decide)
  have hmarkedContent := h.marked "content" (by decide)
  simp only [baseOf, text, text?, hid, htype, htitle, hdate, hmarkedTitle, hmarkedContent]

theorem ofHit_congr {hit hit' : Json} (h : Alike hit hit') : ofHit hit = ofHit hit' := by
  have hdetails : ∀ type, detailsOf hit type = detailsOf hit' type := by
    intro type
    apply detailsOf_congr
    intro name hname
    exact h.retrieved name (detailNames_subset type hname)
  rw [ofHit, ofHit, baseOf_congr h, hdetails]

/-! ## Edits -/

/-- One edit of a hit that spares what a request asks for: under a name that is not to come back, or
in the marked version under a name that is not to be marked. -/
inductive HitEdit : Members → Members → Prop where
  | outside {hit hit' : Members}
      (edit : Members.Edit ("_formatted" :: attributesToRetrieve) hit hit') : HitEdit hit hit'
  | marked (before after : Members) {fields fields' : Members}
      (edit : Members.Edit attributesToHighlight fields fields') :
      HitEdit (before ++ ("_formatted", .object fields) :: after)
        (before ++ ("_formatted", .object fields') :: after)

/-- Any number of such edits. -/
abbrev HitEdits : Members → Members → Prop := Relation.ReflTransGen HitEdit

theorem HitEdit.alike {hit hit' : Members} (h : HitEdit hit hit') :
    Alike (.object hit) (.object hit') := by
  cases h with
  | outside edit =>
    have hkept : ∀ name ∈ "_formatted" :: attributesToRetrieve, hit.get? name = hit'.get? name :=
      fun name hname => edit.get?_eq hname
    obtain ⟨hformatted, hretrieved⟩ := List.forall_mem_cons.mp hkept
    have hmarked : formatted (.object hit) = formatted (.object hit') :=
      congrArg (fun json : Option Json => json.getD .null) hformatted
    refine ⟨hretrieved, ?_⟩
    intro name _
    rw [hmarked]
  | marked before after edit =>
    constructor
    · intro name hname
      have hne : name ≠ "_formatted" := ne_of_mem_of_not_mem hname (by decide)
      exact (Members.get?_append_cons_of_ne hne).trans (Members.get?_append_cons_of_ne hne).symm
    · intro name hname
      -- A member of the same name that stands before hides the one that is edited.
      simp only [formatted, get?, Json.members, Members.get?_append, Members.get?_cons, if_true]
      cases before.get? "_formatted" with
      | none => exact edit.get?_eq hname
      | some json => rfl

theorem HitEdits.alike {hit hit' : Members} (h : HitEdits hit hit') :
    Alike (.object hit) (.object hit') := by
  induction h with
  | refl => exact .refl _
  | tail _ edit ih => exact ih.trans edit.alike

/-! ## Hits with nothing else -/

/-- A hit as it comes back when nothing comes back but what a request asks for. -/
def asAsked (hit : Members) : Members :=
  (hit.filter fun m => ("_formatted" :: attributesToRetrieve).contains m.1).map fun m =>
    (m.1, if m.1 = "_formatted" then m.2.only attributesToHighlight else m.2)

theorem get?_asAsked (hit : Members) {name : String}
    (h : name ∈ "_formatted" :: attributesToRetrieve) :
    (asAsked hit).get? name = (hit.get? name).map fun json =>
      if name = "_formatted" then json.only attributesToHighlight else json := by
  rw [← Members.get?_filter h hit, asAsked]
  exact Members.get?_map (fun other => other)
    (fun other json => if other = "_formatted" then json.only attributesToHighlight else json)
    (fun _ => Iff.rfl) _

theorem alike_asAsked (hit : Members) : Alike (.object (asAsked hit)) (.object hit) := by
  constructor
  · intro name hname
    have hne : name ≠ "_formatted" := ne_of_mem_of_not_mem hname (by decide)
    have hget := get?_asAsked hit (List.mem_cons_of_mem _ hname)
    simp only [if_neg hne, Option.map_id'] at hget
    exact hget
  · intro name hname
    have hget := get?_asAsked hit List.mem_cons_self
    simp only [if_true] at hget
    simp only [formatted, get?, Json.members, hget]
    cases hit.get? "_formatted" with
    | none => rfl
    | some json => exact get?_only hname json

/-! ## Requests and records -/

/-- Every body names the attributes that are to come back, and those that are to be marked. -/
theorem get?_attributes (request : Request) :
    request.toJson.get? "attributesToRetrieve" = some (.ofStrings attributesToRetrieve) ∧
      request.toJson.get? "attributesToHighlight" = some (.ofStrings attributesToHighlight) := by
  simp [Request.toJson, get?, Json.members, Request.members, Members.get?_append, Members.get?_cons,
    get?_toList_map]

/-- A request asks for all that records are made of: whatever is edited in a hit outside the
attributes that the request names, the record stays the same, and with it all that is shown of it.
So it does when nothing comes back but these. -/
theorem ofHit_of_edits (request : Request) (hit : Members) :
    request.toJson.get? "attributesToRetrieve" = some (.ofStrings attributesToRetrieve) ∧
    request.toJson.get? "attributesToHighlight" = some (.ofStrings attributesToHighlight) ∧
    (∀ hit', HitEdits hit hit' → ofHit (.object hit') = ofHit (.object hit)) ∧
    ofHit (.object (asAsked hit)) = ofHit (.object hit) := by
  obtain ⟨hretrieve, hhighlight⟩ := get?_attributes request
  refine ⟨hretrieve, hhighlight, ?_, ofHit_congr (alike_asAsked hit)⟩
  intro hit' hedits
  exact (ofHit_congr hedits.alike).symm

/-- A file comes back without its rank, and its marked version without the path. -/
theorem ofHit_of_edits_file :
    let marked : Members := [("content", .string "<mark>roof</mark> repair")]
    let path : Members := [("path", .string "<mark>roof</mark>.pdf")]
    let named : Members := [("id", .ofInt 42), ("type", .string "file")]
    let rank : Members := [("_rankingScore", .ofInt 1)]
    let hit : Members := ("_formatted", .object (marked ++ path)) :: named ++ rank
    let hit' : Members := ("_formatted", .object marked) :: named
    HitEdits hit hit' ∧ ofHit (.object hit') = ofHit (.object hit) ∧
      (ofHit (.object hit')).base = ⟨"42", "file", "", "<mark>roof</mark> repair", ""⟩ := by
  intro marked path named rank hit hit'
  have hpath : HitEdit hit (hit' ++ rank) :=
    .marked [] _ (.delete marked [] (.string "<mark>roof</mark>.pdf") (by decide))
  have hrank : HitEdit (hit' ++ rank) hit' := by
    have hdelete := Members.Edit.delete hit' [] (.ofInt 1)
      (show "_rankingScore" ∉ "_formatted" :: attributesToRetrieve by decide)
    rw [List.append_nil] at hdelete
    exact .outside hdelete
  have hedits : HitEdits hit hit' := .tail (.single hpath) hrank
  obtain ⟨-, -, hsame, -⟩ := ofHit_of_edits (Request.build "roof" "" {}) hit
  exact ⟨hedits, hsame hit' hedits, by decide⟩

end Record

end SiteSearch
