import SiteSearch.Json.Inspect

/-!
# Members by name

What is found under a name after members were put in order, in one object (`Members.get?_sorted`)
and at every depth (`get?_ordered`).
-/

namespace SiteSearch

theorem lookup_cons_eq_ite {α : Type} (name key : String) (x : α) (rest : List (String × α)) :
    List.lookup key ((name, x) :: rest) = if key = name then some x else rest.lookup key := by
  rw [List.lookup_cons]
  by_cases h : key = name
  · rw [if_pos h, beq_iff_eq.mpr h]
  · rw [if_neg h, beq_eq_false_iff_ne.mpr h]

namespace Json

namespace Members

theorem get?_cons (n key : String) (v : Json) (members : Members) :
    get? ((n, v) :: members) key = if key = n then some v else members.get? key :=
  lookup_cons_eq_ite n key v members

theorem get?_eq_none {members : Members} {name : String} (h : name ∉ members.map (·.1)) :
    members.get? name = none := by
  rw [get?, List.lookup_eq_none_iff]
  intro member hmember
  rw [bne_iff_ne]
  rintro rfl
  exact h (List.mem_map.mpr ⟨member, hmember, rfl⟩)

theorem get?_eq_some_of_mem {members : Members} (hnodup : (members.map (·.1)).Nodup) {name : String}
    {value : Json} (h : (name, value) ∈ members) : members.get? name = some value := by
  obtain ⟨before, after, rfl⟩ := List.append_of_mem h
  rw [get?, List.lookup_eq_some_iff]
  refine ⟨before, after, rfl, ?_⟩
  intro member hmember
  rw [bne_iff_ne]
  rintro rfl
  simp only [List.map_append, List.map_cons, List.nodup_append, List.mem_map] at hnodup
  exact hnodup.2.2 _ ⟨member, hmember, rfl⟩ _ List.mem_cons_self rfl

theorem get?_append (before after : Members) (key : String) :
    get? (before ++ after) key = (before.get? key).or (after.get? key) :=
  List.lookup_append

/-- A member in the middle does not matter for other names. -/
theorem get?_append_cons_of_ne {before after : Members} {name key : String} {value : Json}
    (h : key ≠ name) :
    get? (before ++ (name, value) :: after) key = get? (before ++ after) key := by
  rw [get?_append, get?_append, get?_cons, if_neg h]

theorem get?_filter {names : List String} {key : String} (h : key ∈ names) (members : Members) :
    get? (members.filter fun m => names.contains m.1) key = members.get? key := by
  induction members with
  | nil => rfl
  | cons m rest ih =>
    obtain ⟨name, value⟩ := m
    rw [get?_cons]
    by_cases hname : name ∈ names
    · rw [List.filter_cons_of_pos (by simpa using hname), get?_cons, ih]
    · rw [List.filter_cons_of_neg (by simpa using hname), ih,
        if_neg (ne_of_mem_of_not_mem h hname)]

/-- Members that are renamed and changed one by one: what is found under a name is what stood under
the only name that became it. -/
theorem get?_map (rename : String → String) (change : String → Json → Json) {key key' : String}
    (h : ∀ name, rename name = key' ↔ name = key) (members : Members) :
    get? (members.map fun m => (rename m.1, change m.1 m.2)) key' =
      (members.get? key).map (change key) := by
  induction members with
  | nil => rfl
  | cons m rest ih =>
    obtain ⟨name, value⟩ := m
    rw [List.map_cons, get?_cons, get?_cons, ih]
    by_cases hname : name = key
    · subst hname
      rw [if_pos ((h name).mpr rfl).symm, if_pos rfl, Option.map_some]
    · rw [if_neg fun heq => hname ((h name).mp heq.symm), if_neg (Ne.symm hname)]

theorem get?_insert (name key : String) (value : Json) (members : Members) :
    (members.insert name value).get? key = if key = name then some value else members.get? key := by
  induction members with
  | nil => rw [insert, get?_cons]
  | cons m rest ih =>
    obtain ⟨n, v⟩ := m
    rw [insert]
    by_cases hlt : name < n
    · rw [if_pos hlt, get?_cons]
    · rw [if_neg hlt]
      by_cases hname : name = n
      · rw [if_pos hname, get?_cons, get?_cons, hname]
        by_cases hkey : key = n <;> simp [hkey]
      · rw [if_neg hname, get?_cons, get?_cons, ih]
        by_cases hkey : key = n
        · simp [hkey, Ne.symm hname]
        · simp [hkey]

/-- Of several members under one name the last one counts. -/
theorem get?_sorted (members : Members) (key : String) :
    members.sorted.get? key = get? members.reverse key := by
  -- What was put in order before counts only for names that do not come any more.
  have hfold : ∀ sorted : Members,
      (members.foldl (fun sorted member => sorted.insert member.1 member.2) sorted).get? key =
        (get? members.reverse key).or (sorted.get? key) := by
    induction members with
    | nil =>
      intro sorted
      rfl
    | cons m rest ih =>
      intro sorted
      rw [List.foldl_cons, ih, get?_insert, List.reverse_cons, get?_append, get?_cons,
        Option.or_assoc]
      by_cases h : key = m.1
      · simp [h]
      · simp [h, get?]
  rw [sorted, hfold]
  exact Option.or_none

theorem get?_orderedMembers (members : Members) (key : String) :
    get? (orderedMembers members) key = (members.get? key).map ordered := by
  induction members with
  | nil => rfl
  | cons m rest ih =>
    obtain ⟨n, v⟩ := m
    rw [orderedMembers, get?_cons, get?_cons, ih]
    by_cases h : key = n <;> simp [h]

end Members

theorem orderedMembers_eq_map (ms : Members) :
    orderedMembers ms = ms.map fun m => (m.1, m.2.ordered) := by
  induction ms with
  | nil => rfl
  | cons m ms ih =>
    obtain ⟨n, v⟩ := m
    rw [orderedMembers, ih, List.map_cons]

/-- What is found under a name in a value that was put in order. -/
theorem get?_ordered (members : Members) (name : String) :
    (object members).ordered.get? name = (Members.get? members.reverse name).map ordered := by
  rw [ordered, get?, Json.members, Members.get?_sorted, orderedMembers_eq_map, ← List.map_reverse,
    ← orderedMembers_eq_map, Members.get?_orderedMembers]

end Json

end SiteSearch
