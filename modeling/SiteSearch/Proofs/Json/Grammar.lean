import SiteSearch.Json.Reader

/-!
# The grammar of JSON

What the machine that assembles a value accepts, stated as a grammar of tokens: a text is read as a
value if and only if its tokens spell exactly that value and nothing after it, with arrays and
objects nested no deeper than may be read (`read?_eq_some_iff`).

The machine takes one token at a time and the grammar takes a value at a time, so what the machine
still demands of the tokens is written down for each thing that may be due (`Due.Completes`). One
token of the machine is one token of the demand (`completes_cons_iff`), for a machine that passes
over nothing.
-/

namespace SiteSearch.Json

/-! ## The grammar -/

mutual

/-- The tokens before `rest` spell the value, whose arrays and objects are nested at most `depth`
deep. An object has its members in ascending order of name, the last of each name. -/
inductive Spells : Nat → List Token → Json → List Token → Prop where
  | scalar {depth : Nat} {value : Json} {rest : List Token} :
      Spells depth (.scalar value :: rest) value rest
  | text {depth : Nat} {s : String} {rest : List Token} :
      Spells depth (.text s :: rest) (.string s) rest
  | emptyArray {depth : Nat} {rest : List Token} :
      Spells (depth + 1) (.openArray :: .closeArray :: rest) (.array []) rest
  | array {depth : Nat} {tokens more rest : List Token} {e : Json} {es : List Json}
      (first : Spells depth tokens e more) (others : SpellsElements depth more es rest) :
      Spells (depth + 1) (.openArray :: tokens) (.array (e :: es)) rest
  | emptyObject {depth : Nat} {rest : List Token} :
      Spells (depth + 1) (.openObject :: .closeObject :: rest) (.object []) rest
  | object {depth : Nat} {tokens more rest : List Token} {n : String} {v : Json} {ms : Members}
      (first : Spells depth tokens v more) (others : SpellsMembers depth more ms rest) :
      Spells (depth + 1) (.openObject :: .text n :: .colon :: tokens)
        (.object (Members.sorted ((n, v) :: ms))) rest

/-- The tokens before `rest` spell further elements, each after a comma, and the end of the
array. -/
inductive SpellsElements : Nat → List Token → List Json → List Token → Prop where
  | close {depth : Nat} {rest : List Token} : SpellsElements depth (.closeArray :: rest) [] rest
  | comma {depth : Nat} {tokens more rest : List Token} {e : Json} {es : List Json}
      (next : Spells depth tokens e more) (others : SpellsElements depth more es rest) :
      SpellsElements depth (.comma :: tokens) (e :: es) rest

/-- The tokens before `rest` spell further members, each after a comma, and the end of the
object. -/
inductive SpellsMembers : Nat → List Token → Members → List Token → Prop where
  | close {depth : Nat} {rest : List Token} : SpellsMembers depth (.closeObject :: rest) [] rest
  | comma {depth : Nat} {tokens more rest : List Token} {n : String} {v : Json} {ms : Members}
      (next : Spells depth tokens v more) (others : SpellsMembers depth more ms rest) :
      SpellsMembers depth (.comma :: .text n :: .colon :: tokens) ((n, v) :: ms) rest

end

section Inversion

variable {depth : Nat} {tokens rest : List Token} {value : Json}

theorem spells_scalar_iff {v : Json} :
    Spells depth (.scalar v :: tokens) value rest ↔ value = v ∧ rest = tokens := by
  constructor
  · rintro ⟨⟩
    exact ⟨rfl, rfl⟩
  · rintro ⟨rfl, rfl⟩
    exact .scalar

theorem spells_text_iff {s : String} :
    Spells depth (.text s :: tokens) value rest ↔ value = .string s ∧ rest = tokens := by
  constructor
  · rintro ⟨⟩
    exact ⟨rfl, rfl⟩
  · rintro ⟨rfl, rfl⟩
    exact .text

theorem spells_openArray_iff :
    Spells depth (.openArray :: tokens) value rest ↔ 0 < depth ∧
      ((tokens = .closeArray :: rest ∧ value = .array []) ∨
        ∃ e es more, Spells (depth - 1) tokens e more ∧ SpellsElements (depth - 1) more es rest ∧
          value = .array (e :: es)) := by
  constructor
  · rintro (_ | _)
    case emptyArray => exact ⟨Nat.succ_pos _, .inl ⟨rfl, rfl⟩⟩
    case array first others => exact ⟨Nat.succ_pos _, .inr ⟨_, _, _, first, others, rfl⟩⟩
  · rintro ⟨hpos, h⟩
    obtain ⟨depth, rfl⟩ := Nat.exists_eq_add_of_le' hpos
    obtain ⟨rfl, rfl⟩ | ⟨e, es, more, first, others, rfl⟩ := h
    · exact .emptyArray
    · exact .array first others

theorem spells_openObject_iff :
    Spells depth (.openObject :: tokens) value rest ↔ 0 < depth ∧
      ((tokens = .closeObject :: rest ∧ value = .object []) ∨
        ∃ n v ms after more, tokens = .text n :: .colon :: after ∧
          Spells (depth - 1) after v more ∧ SpellsMembers (depth - 1) more ms rest ∧
          value = .object (Members.sorted ((n, v) :: ms))) := by
  constructor
  · rintro (_ | _)
    case emptyObject => exact ⟨Nat.succ_pos _, .inl ⟨rfl, rfl⟩⟩
    case object first others =>
      exact ⟨Nat.succ_pos _, .inr ⟨_, _, _, _, _, rfl, first, others, rfl⟩⟩
  · rintro ⟨hpos, h⟩
    obtain ⟨depth, rfl⟩ := Nat.exists_eq_add_of_le' hpos
    obtain ⟨rfl, rfl⟩ | ⟨n, v, ms, after, more, rfl, first, others, rfl⟩ := h
    · exact .emptyObject
    · exact .object first others

theorem spellsElements_close_iff {es : List Json} :
    SpellsElements depth (.closeArray :: tokens) es rest ↔ es = [] ∧ rest = tokens := by
  constructor
  · rintro ⟨⟩
    exact ⟨rfl, rfl⟩
  · rintro ⟨rfl, rfl⟩
    exact .close

theorem spellsElements_comma_iff {es : List Json} :
    SpellsElements depth (.comma :: tokens) es rest ↔
      ∃ e others more, Spells depth tokens e more ∧ SpellsElements depth more others rest ∧
        es = e :: others := by
  constructor
  · rintro (_ | _)
    case comma next others => exact ⟨_, _, _, next, others, rfl⟩
  · rintro ⟨e, others, more, next, hothers, rfl⟩
    exact .comma next hothers

theorem spellsMembers_close_iff {ms : Members} :
    SpellsMembers depth (.closeObject :: tokens) ms rest ↔ ms = [] ∧ rest = tokens := by
  constructor
  · rintro ⟨⟩
    exact ⟨rfl, rfl⟩
  · rintro ⟨rfl, rfl⟩
    exact .close

theorem spellsMembers_comma_iff {ms : Members} :
    SpellsMembers depth (.comma :: tokens) ms rest ↔
      ∃ n v others after more, tokens = .text n :: .colon :: after ∧ Spells depth after v more ∧
        SpellsMembers depth more others rest ∧ ms = (n, v) :: others := by
  constructor
  · rintro (_ | _)
    case comma next others => exact ⟨_, _, _, _, _, rfl, next, others, rfl⟩
  · rintro ⟨n, v, others, after, more, rfl, next, hothers, rfl⟩
    exact .comma next hothers

end Inversion

/-! ## What is demanded -/

/-- All members are wanted, in ascending order of name. -/
def everything : Wanted := ⟨fun _ => true, Members.sorted⟩

/-- How deep arrays and objects may still be nested inside the open ones. -/
def room (stack : List Frame) : Nat := depthLimit - stack.length

theorem room_cons (frame : Frame) (stack : List Frame) : room (frame :: stack) = room stack - 1 := by
  rw [room, room, List.length_cons, Nat.sub_add_eq]

/-- After a value in the innermost open array or object, the tokens spell the rest of that and of
all others that are open, which makes the result. -/
def Closes (result : Json) : List Frame → Json → List Token → Prop
  | [], value, tokens => value = result ∧ tokens = []
  | .array es _ :: stack, value, tokens =>
    ∃ others more, SpellsElements (room stack - 1) tokens others more ∧
      Closes result stack (.array (es.reverse ++ value :: others)) more
  | .object ms name _ :: stack, value, tokens =>
    ∃ others more, SpellsMembers (room stack - 1) tokens others more ∧
      Closes result stack (.object (Members.sorted (ms.reverse ++ (name, value) :: others))) more

/-- The tokens spell a value, and then what closes the open arrays and objects. -/
def ValueCloses (result : Json) (stack : List Frame) (tokens : List Token) : Prop :=
  ∃ value more, Spells (room stack) tokens value more ∧ Closes result stack value more

/-- The tokens spell a member of an object, and then what closes it and the others. -/
def MemberCloses (result : Json) (members : Members) (stack : List Frame) (tokens : List Token) :
    Prop :=
  ∃ name more, tokens = .text name :: .colon :: more ∧
    ValueCloses result (.object members name false :: stack) more

/-- The tokens are what is still demanded for the result, as to what is due. -/
def Due.Completes (result : Json) : Due → List Token → Prop
  | .value stack, tokens => ValueCloses result stack tokens
  | .element stack, tokens =>
    (∃ more, tokens = .closeArray :: more ∧ Closes result stack (.array []) more) ∨
      ValueCloses result (.array [] false :: stack) tokens
  | .firstName stack, tokens =>
    (∃ more, tokens = .closeObject :: more ∧ Closes result stack (.object []) more) ∨
      MemberCloses result [] stack tokens
  | .name members stack, tokens => MemberCloses result members stack tokens
  | .colon members key stack, tokens =>
    ∃ more, tokens = .colon :: more ∧ ValueCloses result (.object members key false :: stack) more
  | .more v frame stack, tokens => Closes result (frame :: stack) v tokens
  | .nothing v, tokens => v = result ∧ tokens = []

/-- None of these arrays and objects is passed over. -/
def Heeded (stack : List Frame) : Prop := ∀ frame ∈ stack, isPassed [frame] = false

/-- The arrays and objects that are open. -/
def Due.frames : Due → List Frame
  | .value stack | .element stack | .firstName stack | .name _ stack | .colon _ _ stack => stack
  | .more _ frame stack => frame :: stack
  | .nothing _ => []

variable {result : Json} {stack : List Frame} {tokens : List Token}

theorem frames_place (value : Json) : (place value stack).frames = stack := by
  cases stack <;> rfl

theorem completes_place (value : Json) :
    (place value stack).Completes result tokens ↔ Closes result stack value tokens := by
  cases stack <;> rfl

theorem Heeded.isPassed_eq_false (h : Heeded stack) : isPassed stack = false := by
  cases stack with
  | nil => rfl
  | cons frame stack =>
    have hframe := h frame List.mem_cons_self
    cases frame <;> exact hframe

theorem Heeded.mayOpen_eq (h : Heeded stack) : mayOpen stack = decide (0 < room stack) := by
  rw [mayOpen, h.isPassed_eq_false, Bool.false_or, room]
  exact decide_eq_decide.mpr Nat.sub_pos_iff_lt.symm

/-! ## One token -/

theorem frames_of_startValue? {token : Token} {next : Due}
    (h : startValue? token stack = some next) : next.frames = stack := by
  cases token with
  | scalar | text => rw [← Option.some.inj h, frames_place]
  | hugeNumber | brokenText =>
    obtain ⟨-, h⟩ := Option.ite_none_right_eq_some.mp h
    rw [← Option.some.inj h, frames_place]
  | openArray | openObject =>
    obtain ⟨-, h⟩ := Option.ite_none_right_eq_some.mp h
    rw [← Option.some.inj h]
    rfl
  | closeArray | closeObject | comma | colon => cases h

theorem Heeded.array (h : Heeded stack) (es : List Json) :
    Heeded (.array es (isPassed stack) :: stack) :=
  List.forall_mem_cons.mpr ⟨h.isPassed_eq_false, h⟩

theorem passesMember_everything (h : Heeded stack) (name : String) :
    passesMember everything name stack = false := by
  simp [passesMember, everything, h.isPassed_eq_false]

/-- The first element of an array is taken like any other value. -/
theorem step?_element {wanted : Wanted} {token : Token} (h : token ≠ .closeArray) :
    Due.step? wanted (.element stack) token =
      startValue? token (.array [] (isPassed stack) :: stack) := by
  cases token with
  | closeArray => exact absurd rfl h
  | _ => rfl

/-- The first member of an object is taken like any other. -/
theorem step?_firstName {wanted : Wanted} {token : Token} (h : token ≠ .closeObject) :
    Due.step? wanted (.firstName stack) token = Due.step? wanted (.name [] stack) token := by
  cases token with
  | closeObject => exact absurd rfl h
  | _ => rfl

theorem heeded_of_step?_name {members : Members} {next : Due} {token : Token} (h : Heeded stack)
    (hstep : Due.step? everything (.name members stack) token = some next) :
    Heeded next.frames := by
  obtain ⟨name, -, rfl⟩ := Option.map_eq_some_iff.mp hstep
  exact h

/-- As everything is wanted, nothing is passed over in an array or object that is not. -/
theorem heeded_of_step? {due next : Due} {token : Token} (h : Heeded due.frames)
    (hstep : due.step? everything token = some next) : Heeded next.frames := by
  cases due with
  | value stack => rwa [frames_of_startValue? hstep]
  | element stack =>
    by_cases htoken : token = .closeArray
    · rw [htoken] at hstep
      rwa [← Option.some.inj hstep, frames_place]
    · rw [step?_element htoken] at hstep
      rw [frames_of_startValue? hstep]
      exact Heeded.array h []
  | firstName stack =>
    by_cases htoken : token = .closeObject
    · rw [htoken] at hstep
      rwa [← Option.some.inj hstep, frames_place]
    · rw [step?_firstName htoken] at hstep
      exact heeded_of_step?_name h hstep
  | name members stack => exact heeded_of_step?_name h hstep
  | colon members name stack =>
    cases token with
    | colon =>
      rw [← Option.some.inj hstep]
      exact List.forall_mem_cons.mpr ⟨passesMember_everything h name, h⟩
    | _ => cases hstep
  | more v frame stack =>
    obtain ⟨hframe, hstack⟩ := List.forall_mem_cons.mp h
    cases frame with
    | array es passed =>
      cases token with
      | comma =>
        rw [← Option.some.inj hstep]
        exact List.forall_mem_cons.mpr ⟨hframe, hstack⟩
      | closeArray => rwa [← Option.some.inj hstep, frames_place]
      | _ => cases hstep
    | object ms name passed =>
      cases token with
      | comma =>
        rw [← Option.some.inj hstep]
        exact hstack
      | closeObject => rwa [← Option.some.inj hstep, frames_place]
      | _ => cases hstep
  | nothing v => cases hstep

/-- A value starts with a token that may start one, and what is due then is demanded. -/
theorem valueCloses_cons_iff (h : Heeded stack) (token : Token) :
    ValueCloses result stack (token :: tokens) ↔
      ∃ next, startValue? token stack = some next ∧ next.Completes result tokens := by
  have hpassed := h.isPassed_eq_false
  cases token with
  | scalar value =>
    simp only [ValueCloses, spells_scalar_iff, startValue?, Option.some.injEq, exists_eq_left',
      completes_place]
    grind
  | text s =>
    simp only [ValueCloses, spells_text_iff, startValue?, Option.some.injEq, exists_eq_left',
      completes_place]
    grind
  | openArray =>
    have hdue : (Due.element stack).Completes result tokens ↔
        ∃ value more, ((tokens = .closeArray :: more ∧ value = .array []) ∨
          ∃ e es after, Spells (room stack - 1) tokens e after ∧
            SpellsElements (room stack - 1) after es more ∧ value = .array (e :: es)) ∧
          Closes result stack value more := by
      simp only [Due.Completes, ValueCloses, Closes, room_cons]
      grind
    simp only [ValueCloses, spells_openArray_iff, startValue?, h.mayOpen_eq]
    by_cases hroom : 0 < room stack
    · simp [hroom, hdue]
    · simp [hroom]
  | openObject =>
    have hdue : (Due.firstName stack).Completes result tokens ↔
        ∃ value more, ((tokens = .closeObject :: more ∧ value = .object []) ∨
          ∃ n v ms after others, tokens = .text n :: .colon :: after ∧
            Spells (room stack - 1) after v others ∧
            SpellsMembers (room stack - 1) others ms more ∧
            value = .object (Members.sorted ((n, v) :: ms))) ∧
          Closes result stack value more := by
      simp only [Due.Completes, MemberCloses, ValueCloses, Closes, room_cons]
      grind
    simp only [ValueCloses, spells_openObject_iff, startValue?, h.mayOpen_eq]
    by_cases hroom : 0 < room stack
    · simp [hroom, hdue]
    · simp [hroom]
  | hugeNumber | brokenText =>
    simp only [startValue?, hpassed, Bool.false_eq_true, if_false, reduceCtorEq, false_and,
      exists_false, iff_false]
    rintro ⟨value, more, hspells, -⟩
    generalize room stack = depth at hspells
    cases hspells
  | closeArray | closeObject | comma | colon =>
    simp only [startValue?, reduceCtorEq, false_and, exists_false, iff_false]
    rintro ⟨value, more, hspells, -⟩
    generalize room stack = depth at hspells
    cases hspells

/-- A member starts with a name, and what is due then is demanded. -/
theorem memberCloses_cons_iff (h : Heeded stack) (members : Members) (token : Token) :
    MemberCloses result members stack (token :: tokens) ↔
      ∃ next, Due.step? everything (.name members stack) token = some next ∧
        next.Completes result tokens := by
  have hpassed := h.isPassed_eq_false
  cases token with
  | text s =>
    simp only [MemberCloses, Due.step?, memberName?, Option.map_some, Option.some.injEq,
      exists_eq_left', Due.Completes, List.cons.injEq, Token.text.injEq, and_assoc, exists_and_left]
  | _ => simp [MemberCloses, Due.step?, memberName?, hpassed]

theorem closes_array_cons_iff (v : Json) (es : List Json) (token : Token) :
    Closes result (.array es false :: stack) v (token :: tokens) ↔
      ∃ next, Due.step? everything (.more v (.array es false) stack) token = some next ∧
        next.Completes result tokens := by
  cases token with
  | comma =>
    simp only [Closes, spellsElements_comma_iff, Due.step?, Option.some.injEq, exists_eq_left',
      Due.Completes, ValueCloses, room_cons, List.reverse_cons, List.append_assoc,
      List.singleton_append]
    grind
  | closeArray =>
    simp only [Closes, spellsElements_close_iff, Due.step?, Option.some.injEq, exists_eq_left',
      completes_place, List.reverse_cons]
    grind
  | _ =>
    simp only [Closes, Due.step?, reduceCtorEq, false_and, exists_false, iff_false]
    rintro ⟨others, more, hothers, -⟩
    cases hothers

theorem closes_object_cons_iff (v : Json) (ms : Members) (name : String) (token : Token) :
    Closes result (.object ms name false :: stack) v (token :: tokens) ↔
      ∃ next, Due.step? everything (.more v (.object ms name false) stack) token = some next ∧
        next.Completes result tokens := by
  cases token with
  | comma =>
    simp only [Closes, spellsMembers_comma_iff, Due.step?, Option.some.injEq, exists_eq_left',
      Due.Completes, MemberCloses, ValueCloses, room_cons, List.reverse_cons, List.append_assoc,
      List.singleton_append]
    grind
  | closeObject =>
    simp only [Closes, spellsMembers_close_iff, Due.step?, everything, Option.some.injEq,
      exists_eq_left', completes_place, List.reverse_cons]
    grind
  | _ =>
    simp only [Closes, Due.step?, reduceCtorEq, false_and, exists_false, iff_false]
    rintro ⟨others, more, hothers, -⟩
    cases hothers

/-- One token of what is demanded is one token of the machine. -/
theorem completes_cons_iff {due : Due} (h : Heeded due.frames) (token : Token) :
    due.Completes result (token :: tokens) ↔
      ∃ next, due.step? everything token = some next ∧ next.Completes result tokens := by
  cases due with
  | value stack => exact valueCloses_cons_iff h token
  | element stack =>
    have hstack : Heeded stack := h
    rw [Due.Completes, ← hstack.isPassed_eq_false, valueCloses_cons_iff (hstack.array [])]
    by_cases htoken : token = .closeArray
    · simp [htoken, Due.step?, startValue?, completes_place]
    · simp [htoken, step?_element]
  | firstName stack =>
    have hstack : Heeded stack := h
    rw [Due.Completes, memberCloses_cons_iff hstack]
    by_cases htoken : token = .closeObject
    · simp [htoken, Due.step?, memberName?, completes_place]
    · simp [htoken, step?_firstName]
  | name members stack => exact memberCloses_cons_iff h members token
  | colon members name stack =>
    have hpassed : passesMember everything name stack = false := passesMember_everything h name
    cases token with
    | colon => simp [Due.Completes, Due.step?, hpassed]
    | _ => simp [Due.Completes, Due.step?]
  | more v frame stack =>
    obtain ⟨hframe, -⟩ := List.forall_mem_cons.mp h
    cases frame with
    | array es passed =>
      obtain rfl : passed = false := hframe
      exact closes_array_cons_iff v es token
    | object ms name passed =>
      obtain rfl : passed = false := hframe
      exact closes_object_cons_iff v ms name token
  | nothing v => simp [Due.Completes, Due.step?]

theorem not_valueCloses_nil : ¬ ValueCloses result stack [] := by
  rintro ⟨value, more, hspells, -⟩
  generalize room stack = depth at hspells
  cases hspells

theorem not_closes_cons_nil (v : Json) (frame : Frame) :
    ¬ Closes result (frame :: stack) v [] := by
  cases frame with
  | array es passed =>
    rintro ⟨others, more, hothers, -⟩
    cases hothers
  | object ms name passed =>
    rintro ⟨others, more, hothers, -⟩
    cases hothers

/-- The machine may end where nothing is demanded. -/
theorem completes_nil_iff {due : Due} : due.Completes result [] ↔ due = .nothing result := by
  cases due with
  | nothing v => simp [Due.Completes]
  | value stack => simp [Due.Completes, not_valueCloses_nil]
  | element stack => simp [Due.Completes, not_valueCloses_nil]
  | firstName stack | name members stack => simp [Due.Completes, MemberCloses]
  | colon members name stack => simp [Due.Completes]
  | more v frame stack => simp [Due.Completes, not_closes_cons_nil]

/-- The machine assembles a value of just the tokens that are demanded for it. -/
theorem assemble?_eq_some_iff {due : Due} (h : Heeded due.frames) :
    assemble? everything due tokens = some result ↔ due.Completes result tokens := by
  induction tokens generalizing due with
  | nil =>
    rw [completes_nil_iff]
    cases due <;> simp [assemble?]
  | cons token tokens ih =>
    have hstep : assemble? everything due (token :: tokens) =
        (due.step? everything token).bind (assemble? everything · tokens) := by
      cases due <;> rfl
    rw [completes_cons_iff h, hstep, Option.bind_eq_some_iff]
    exact exists_congr fun next => and_congr_right fun hnext => ih (heeded_of_step? h hnext)

/-- The text is exactly one JSON value, whose arrays and objects are nested at most `depth` deep. -/
def TextOf (depth : Nat) (value : Json) (text : String) : Prop :=
  ∃ tokens, tokens? text.toList = some tokens ∧ Spells depth tokens value []

/-- A text is read as the value whose text it is, unless that is nested too deep. -/
theorem read?_eq_some_iff {text : String} {value : Json} :
    read? text = some value ↔ TextOf depthLimit value text := by
  rw [read?, TextOf, Option.bind_eq_some_iff]
  refine exists_congr fun tokens => and_congr_right fun _ => ?_
  have hstart : Heeded (Due.value []).frames := List.forall_mem_nil _
  refine (assemble?_eq_some_iff hstart).trans ?_
  simp only [Due.Completes, ValueCloses, Closes]
  grind [room]

end SiteSearch.Json
