import SiteSearch.Json.Inspect
import SiteSearch.Proofs.Json.Grammar
import SiteSearch.Proofs.Json.Spelled

/-!
# Printed JSON is read back

A value that was laid out is read as the value it was, with the members of its objects in ascending
order of name (`read?_pretty`), if each of its numbers is legible and it is not nested deeper than
may be read.

The tokens of its laid-out form spell the value in the grammar of JSON (`spells_spelled`), and what
is spelled is read.
-/

namespace SiteSearch.Json

/-! ## Nesting -/

mutual

/-- How many arrays and objects of a value are at most inside each other. -/
def nesting : Json → Nat
  | .array es => nestingElements es + 1
  | .object ms => nestingMembers ms + 1
  | .null | .bool _ | .number _ | .string _ => 0

def nestingElements : List Json → Nat
  | [] => 0
  | e :: es => max (nesting e) (nestingElements es)

def nestingMembers : List (String × Json) → Nat
  | [] => 0
  | (_, v) :: ms => max (nesting v) (nestingMembers ms)

end

theorem nestingElements_le_iff {es : List Json} {depth : Nat} :
    nestingElements es ≤ depth ↔ ∀ e ∈ es, nesting e ≤ depth := by
  induction es with
  | nil => simp [nestingElements]
  | cons e es ih => rw [nestingElements, Nat.max_le, ih, List.forall_mem_cons]

theorem nestingMembers_le_iff {ms : List (String × Json)} {depth : Nat} :
    nestingMembers ms ≤ depth ↔ ∀ m ∈ ms, nesting m.2 ≤ depth := by
  induction ms with
  | nil => simp [nestingMembers]
  | cons m ms ih => rw [nestingMembers, Nat.max_le, ih, List.forall_mem_cons]

theorem nesting_ofStrings_le (texts : List String) : nesting (ofStrings texts) ≤ 1 := by
  have helements : nestingElements (texts.map .string) ≤ 0 := by
    simp only [nestingElements_le_iff, List.mem_map]
    rintro e ⟨s, -, rfl⟩
    simp [nesting]
  rw [ofStrings, nesting]
  omega

/-! ## Spelling -/

theorem exists_deeper {n depth : Nat} (h : n + 1 ≤ depth) :
    ∃ inner, depth = inner + 1 ∧ n ≤ inner := by
  cases depth with
  | zero => exact absurd h (Nat.not_succ_le_zero n)
  | succ inner => exact ⟨inner, rfl, Nat.le_of_succ_le_succ h⟩

mutual

/-- The tokens of a value spell it, with its members in order. -/
theorem spells_spelled (json : Json) {depth : Nat} (h : nesting json ≤ depth) (rest : List Token) :
    Spells depth (spelled json ++ rest) json.ordered rest := by
  -- What is in an array or object is spelled one level deeper, which the depth allows.
  match json with
  | .null => exact .scalar
  | .bool _ => exact .scalar
  | .number _ => exact .scalar
  | .string _ => exact .text
  | .array [] =>
    obtain ⟨depth, rfl, -⟩ := exists_deeper h
    exact .emptyArray
  | .array (e :: es) =>
    obtain ⟨depth, rfl, hinner⟩ := exists_deeper h
    obtain ⟨hfirst, hothers⟩ := Nat.max_le.mp hinner
    rw [spelled, ordered, orderedElements]
    simp only [List.cons_append, List.append_assoc, List.nil_append]
    exact .array (spells_spelled e hfirst _) (spellsElements_spelled es hothers rest)
  | .object [] =>
    obtain ⟨depth, rfl, -⟩ := exists_deeper h
    exact .emptyObject
  | .object ((n, v) :: ms) =>
    obtain ⟨depth, rfl, hinner⟩ := exists_deeper h
    obtain ⟨hfirst, hothers⟩ := Nat.max_le.mp hinner
    rw [spelled, ordered, orderedMembers]
    simp only [List.cons_append, List.append_assoc, List.nil_append]
    exact .object (spells_spelled v hfirst _) (spellsMembers_spelled ms hothers rest)

theorem spellsElements_spelled (es : List Json) {depth : Nat} (h : nestingElements es ≤ depth)
    (rest : List Token) :
    SpellsElements depth (spelledElements es ++ .closeArray :: rest) (orderedElements es) rest := by
  match es with
  | [] => exact .close
  | e :: es =>
    rw [nestingElements, Nat.max_le] at h
    rw [spelledElements, orderedElements]
    simp only [List.cons_append, List.append_assoc]
    exact .comma (spells_spelled e h.1 _) (spellsElements_spelled es h.2 rest)

theorem spellsMembers_spelled (ms : Members) {depth : Nat} (h : nestingMembers ms ≤ depth)
    (rest : List Token) :
    SpellsMembers depth (spelledMembers ms ++ .closeObject :: rest) (orderedMembers ms) rest := by
  match ms with
  | [] => exact .close
  | (n, v) :: ms =>
    rw [nestingMembers, Nat.max_le] at h
    rw [spelledMembers, orderedMembers]
    simp only [List.cons_append, List.append_assoc]
    exact .comma (spells_spelled v h.1 _) (spellsMembers_spelled ms h.2 rest)

end

/-- A value that was laid out is read as the value it was, with its members in order. -/
theorem read?_pretty {json : Json} (hlegible : Legible json)
    (hnesting : nesting json ≤ depthLimit) : read? json.pretty = some json.ordered := by
  have hspells := spells_spelled json hnesting []
  rw [List.append_nil] at hspells
  exact read?_eq_some_iff.mpr ⟨spelled json, tokens?_pretty hlegible, hspells⟩

end SiteSearch.Json
