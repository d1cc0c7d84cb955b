import Mathlib.Data.List.TakeWhile
import Mathlib.Tactic.SplitIfs
import SiteSearch.Json.Printer
import SiteSearch.Json.Token
import SiteSearch.Proofs.Text.Digits

/-!
# The tokens of printed JSON

The laid-out form of a value is cut into the tokens that spell the value, whatever comes after it
(`tokens?_pretty`). A number or a name is only read to its end where a character comes that cannot
go on with it; in the laid-out form that is a comma or a line end.

All statements are about a text in front of some rest, so that the text of a value is put together
from those of its parts, the last part first.
-/

namespace SiteSearch.Json

open SiteSearch.Decimal SiteSearch.Text

/-! ## Tokens of a value -/

mutual

/-- The tokens that spell a value. -/
def spelled : Json → List Token
  | .null => [.scalar .null]
  | .bool b => [.scalar (.bool b)]
  | .number n => [.scalar (.number n)]
  | .string s => [.text s]
  | .array [] => [.openArray, .closeArray]
  | .array (e :: es) => .openArray :: (spelled e ++ (spelledElements es ++ [.closeArray]))
  | .object [] => [.openObject, .closeObject]
  | .object ((n, v) :: ms) =>
    .openObject :: .text n :: .colon :: (spelled v ++ (spelledMembers ms ++ [.closeObject]))

/-- The tokens of further elements, each after a comma. -/
def spelledElements : List Json → List Token
  | [] => []
  | e :: es => .comma :: (spelled e ++ spelledElements es)

/-- The tokens of further members, each after a comma. -/
def spelledMembers : List (String × Json) → List Token
  | [] => []
  | (n, v) :: ms => .comma :: .text n :: .colon :: (spelled v ++ spelledMembers ms)

end

/-- The text of a number is read as that number. -/
structure LegibleNumber (n : Number) : Prop where
  starts : ∃ c cs, n.text.toList = c :: cs ∧ (c.isDigit || c == '-') = true
  uniform : ∀ c ∈ n.text.toList, isNumberChar c = true
  read : (NumberText.read? n.text.toList).bind NumberText.value? = some n

mutual

/-- Every number in a value is read back from its text. -/
def Legible : Json → Prop
  | .number n => LegibleNumber n
  | .array es => LegibleElements es
  | .object ms => LegibleMembers ms
  | .null | .bool _ | .string _ => True

def LegibleElements : List Json → Prop
  | [] => True
  | e :: es => Legible e ∧ LegibleElements es

def LegibleMembers : List (String × Json) → Prop
  | [] => True
  | (_, v) :: ms => Legible v ∧ LegibleMembers ms

end

theorem legibleElements_iff {es : List Json} : LegibleElements es ↔ ∀ e ∈ es, Legible e := by
  induction es with
  | nil => simp [LegibleElements]
  | cons e es ih => simp [LegibleElements, ih]

theorem legibleMembers_iff {ms : List (String × Json)} :
    LegibleMembers ms ↔ ∀ m ∈ ms, Legible m.2 := by
  induction ms with
  | nil => simp [LegibleMembers]
  | cons m ms ih => simp [LegibleMembers, ih]

theorem legible_ofStrings (texts : List String) : Legible (ofStrings texts) := by
  simp [ofStrings, Legible, legibleElements_iff]

/-! ## Natural numbers -/

theorem isDigit_of_mem_digits {n : Nat} {c : Char} (hc : c ∈ Nat.toDigits 10 n) :
    c.isDigit = true :=
  Nat.isDigit_of_mem_toDigits (by decide) (by decide) hc

theorem exists_digits_eq_cons (n : Nat) :
    ∃ c cs, Nat.toDigits 10 n = c :: cs ∧ c.isDigit = true := by
  obtain ⟨c, cs, hcs⟩ := List.exists_cons_of_ne_nil (@Nat.toDigits_ne_nil n 10)
  refine ⟨c, cs, hcs, isDigit_of_mem_digits (n := n) ?_⟩
  rw [hcs]
  exact List.mem_cons_self

theorem toDigits_head_ne_zero {n : Nat} (hn : 0 < n) : (Nat.toDigits 10 n).head? ≠ some '0' := by
  induction n using Nat.strongRecOn with
  | ind n ih =>
    by_cases hsmall : n < 10
    · have hdigit : ∀ n < 10, 0 < n → n.digitChar ≠ '0' := by decide
      rw [Nat.toDigits_of_lt_base hsmall]
      simpa using hdigit n hsmall hn
    · have hhead := ih (n / 10) (by omega) (by omega)
      obtain ⟨c, cs, hcs, -⟩ := exists_digits_eq_cons (n / 10)
      rw [Nat.toDigits_of_base_le (by decide) (by omega), hcs]
      rw [hcs] at hhead
      exact hhead

/-- A natural number is read from its digits. -/
theorem NumberText.read?_toDigits (n : Nat) :
    NumberText.read? (Nat.toDigits 10 n) = some ⟨false, Nat.toDigits 10 n, none, none⟩ := by
  have hzero : ¬ ((Nat.toDigits 10 n).head? = some '0' ∧ 1 < (Nat.toDigits 10 n).length) := by
    rintro ⟨hhead, hlength⟩
    by_cases hn : n = 0
    · rw [hn] at hlength
      exact absurd hlength (by decide)
    · exact toDigits_head_ne_zero (by omega) hhead
  have hwhole : (Nat.toDigits 10 n).takeWhile Char.isDigit = Nat.toDigits 10 n :=
    List.takeWhile_eq_self_iff.mpr fun _ hc => isDigit_of_mem_digits hc
  have hrest : (Nat.toDigits 10 n).dropWhile Char.isDigit = [] :=
    List.dropWhile_eq_nil_iff.mpr fun _ hc => isDigit_of_mem_digits hc
  obtain ⟨c, cs, hcs, hdigit⟩ := exists_digits_eq_cons n
  have hminus : c ≠ '-' := by
    rintro rfl
    exact absurd hdigit (by decide)
  rw [hcs] at hwhole hrest hzero ⊢
  simpa [NumberText.read?, hminus, hwhole, hrest, readExponent?] using hzero

/-- Natural numbers of 64 bits are read from their texts. -/
theorem legibleNumber_ofNat {n : Nat} (h : n < wordLimit) : LegibleNumber (.integer n) := by
  have htext : (Number.integer n).text.toList = Nat.toDigits 10 n := by
    rw [← Nat.toList_repr]
    rfl
  obtain ⟨c, cs, hcs, hdigit⟩ := exists_digits_eq_cons n
  refine ⟨⟨c, cs, htext.trans hcs, ?_⟩, ?_, ?_⟩
  · rw [hdigit, Bool.true_or]
  · intro d hd
    rw [htext] at hd
    simp [isNumberChar, isDigit_of_mem_digits hd]
  · rw [htext, NumberText.read?_toDigits]
    simp [NumberText.value?, digitsValue_toDigits, h]

/-! ## Marks and line ends -/

theorem tokensFrom?_gap_cons {c : Char} {tokens : List Token}
    (h : stepGap? c = some (.gap, tokens)) (rest : List Char) :
    tokensFrom? .gap (c :: rest) = (tokensFrom? .gap rest).map (tokens ++ ·) := by
  rw [tokensFrom?, Reading.step?, h]

theorem tokensFrom?_newLine (depth : Nat) (rest : List Char) :
    tokensFrom? .gap ((newLine depth).toList ++ rest) = tokensFrom? .gap rest := by
  have hspaces : ∀ n, tokensFrom? .gap (List.replicate n ' ' ++ rest) = tokensFrom? .gap rest := by
    intro n
    induction n with
    | zero => rfl
    | succ n ih =>
      rw [List.replicate_succ, List.cons_append, tokensFrom?_gap_cons rfl, ih]
      simp
  rw [newLine, String.toList_ofList, List.cons_append, tokensFrom?_gap_cons rfl, hspaces]
  simp

/-! ## Strings -/

theorem hexDigit?_hexDigit {n : Nat} (h : n < 16) : hexDigit? (hexDigit n) = some n := by
  have hall : ∀ n < 16, hexDigit? (hexDigit n) = some n := by decide
  exact hall n h

theorem tokensFrom?_escape {run : List Piece} {c d : Char} (hu : c ≠ 'u')
    (h : shortEscape? c = some d) (rest : List Char) :
    tokensFrom? (.string run) ('\\' :: c :: rest) =
      tokensFrom? (.string (.char d :: run)) rest := by
  simp [tokensFrom?, Reading.step?, hu, h]

/-- An escape by number stands for the character of that number. -/
theorem tokensFrom?_unicode {run : List Piece} {c : Char} (hc : c.toNat < 0x20)
    (rest : List Char) :
    tokensFrom? (.string run)
        ('\\' :: 'u' :: '0' :: '0' :: hexDigit (c.toNat / 16) :: hexDigit (c.toNat % 16) :: rest) =
      tokensFrom? (.string (.char c :: run)) rest := by
  have hzero : hexDigit? '0' = some 0 := rfl
  have hhigh := @hexDigit?_hexDigit (c.toNat / 16) (by omega)
  have hlow := @hexDigit?_hexDigit (c.toNat % 16) (by omega)
  have hvalue : 16 * (c.toNat / 16) + c.toNat % 16 = c.toNat := Nat.div_add_mod _ _
  have hpiece : Piece.ofNat c.toNat = .char c := by
    rw [Piece.ofNat, if_neg (by omega), Char.ofNat_toNat]
  simp [tokensFrom?, Reading.step?, hzero, hhigh, hlow, hvalue, hpiece]

theorem tokensFrom?_escapeChar (run : List Piece) (c : Char) (rest : List Char) :
    tokensFrom? (.string run) (escapeChar c ++ rest) =
      tokensFrom? (.string (.char c :: run)) rest := by
  have hshort : ∀ {d e : Char}, c = e → d ≠ 'u' → shortEscape? d = some e →
      tokensFrom? (.string run) ('\\' :: d :: rest) =
        tokensFrom? (.string (.char c :: run)) rest := by
    rintro d e rfl hu hd
    exact tokensFrom?_escape hu hd rest
  rw [escapeChar]
  split_ifs with hquote hbackslash hb hf hn hr ht hcontrol
  · exact hshort hquote (by decide) rfl
  · exact hshort hbackslash (by decide) rfl
  · exact hshort hb (by decide) rfl
  · exact hshort hf (by decide) rfl
  · exact hshort hn (by decide) rfl
  · exact hshort hr (by decide) rfl
  · exact hshort ht (by decide) rfl
  · exact tokensFrom?_unicode hcontrol rest
  · simp [tokensFrom?, Reading.step?, hquote, hbackslash, hcontrol]

theorem tokensFrom?_escaped (cs : List Char) (run : List Piece) (rest : List Char) :
    tokensFrom? (.string run) (cs.flatMap escapeChar ++ rest) =
      tokensFrom? (.string ((cs.map .char).reverse ++ run)) rest := by
  induction cs generalizing run with
  | nil => rfl
  | cons c cs ih =>
    rw [List.flatMap_cons, List.append_assoc, tokensFrom?_escapeChar, ih]
    simp

theorem joinPieces?_chars (after cs : List Char) :
    joinPieces? after (cs.map .char) = some (cs.reverse ++ after) := by
  induction cs generalizing after with
  | nil => rfl
  | cons c cs ih =>
    rw [List.map_cons, joinPieces?, ih]
    simp

theorem textToken_chars (cs : List Char) :
    textToken (cs.map .char).reverse = .text (.ofList cs) := by
  rw [textToken, ← List.map_reverse, joinPieces?_chars]
  simp

/-- A quoted text is read as that text. -/
theorem tokensFrom?_quote (s : String) (rest : List Char) :
    tokensFrom? .gap ((quote s).toList ++ rest) =
      (tokensFrom? .gap rest).map ([.text s] ++ ·) := by
  have hopen : ∀ inside, tokensFrom? .gap ('"' :: inside) = tokensFrom? (.string []) inside := by
    intro inside
    simp [tokensFrom?, Reading.step?, stepGap?]
  have hclose : ∀ run, tokensFrom? (.string run) ('"' :: rest) =
      (tokensFrom? .gap rest).map ([textToken run] ++ ·) := by
    intro run
    rw [tokensFrom?, Reading.step?, if_pos rfl]
  rw [quote, String.toList_ofList, List.cons_append, List.append_assoc, List.singleton_append,
    hopen, tokensFrom?_escaped, List.append_nil, hclose, textToken_chars, String.ofList_toList]

/-! ## Numbers and names -/

/-- The reading gathers the characters of a class, and ends its run at any other character. -/
structure Gathers (gather : List Char → Reading) (goesOn : Char → Bool) : Prop where
  on : ∀ run c, goesOn c = true → (gather run).step? c = some (gather (c :: run), [])
  off : ∀ run c, goesOn c = false → (gather run).step? c = (do
    let tokens ← (gather run).finish?
    let (next, more) ← stepGap? c
    return (next, tokens ++ more))

theorem gathers_number : Gathers .number isNumberChar where
  on run c hc := by rw [Reading.step?, if_pos hc]
  off run c hc := by rw [Reading.step?, if_neg (by simp [hc])]

theorem gathers_letters : Gathers .letters Char.isAlpha where
  on run c hc := by rw [Reading.step?, if_pos hc]
  off run c hc := by rw [Reading.step?, if_neg (by simp [hc])]

section Gathers

variable {gather : List Char → Reading} {goesOn : Char → Bool} {tokens : List Token}

theorem Gathers.tokensFrom?_append (h : Gathers gather goesOn) {cs : List Char}
    (hcs : ∀ c ∈ cs, goesOn c = true) (run rest : List Char) :
    tokensFrom? (gather run) (cs ++ rest) = tokensFrom? (gather (cs.reverse ++ run)) rest := by
  induction cs generalizing run with
  | nil => rfl
  | cons c cs ih =>
    have hstep := h.on run c (hcs c List.mem_cons_self)
    have hrest := ih (fun d hd => hcs d (List.mem_cons_of_mem _ hd)) (c :: run)
    rw [List.cons_append, tokensFrom?, hstep]
    simp [hrest]

theorem Gathers.tokensFrom?_of_finish? (h : Gathers gather goesOn) {run rest : List Char}
    (hfinish : (gather run).finish? = some tokens) (hrest : ∀ c ∈ rest.head?, goesOn c = false) :
    tokensFrom? (gather run) rest = (tokensFrom? .gap rest).map (tokens ++ ·) := by
  cases rest with
  | nil =>
    rw [tokensFrom?, tokensFrom?, hfinish]
    simp [Reading.finish?]
  | cons c rest =>
    have hstep := h.off run c (hrest c rfl)
    rw [tokensFrom?, tokensFrom?, hstep, hfinish, Reading.step?]
    cases stepGap? c with
    | none => rfl
    | some next => simp [Function.comp_def]

/-- A run is read up to where the text does not go on with it. -/
theorem Gathers.tokensFrom?_gap (h : Gathers gather goesOn) {c : Char} {cs rest : List Char}
    (hopen : stepGap? c = some (gather [c], [])) (hcs : ∀ d ∈ cs, goesOn d = true)
    (hfinish : (gather (cs.reverse ++ [c])).finish? = some tokens)
    (hrest : ∀ d ∈ rest.head?, goesOn d = false) :
    tokensFrom? .gap (c :: cs ++ rest) = (tokensFrom? .gap rest).map (tokens ++ ·) := by
  have hstart : tokensFrom? .gap (c :: (cs ++ rest)) = tokensFrom? (gather [c]) (cs ++ rest) := by
    rw [tokensFrom?, Reading.step?, hopen]
    simp
  rw [List.cons_append, hstart, h.tokensFrom?_append hcs, h.tokensFrom?_of_finish? hfinish hrest]

end Gathers

/-- No run of letters or of the characters of numbers goes on into the text. -/
def Stops (rest : List Char) : Prop :=
  ∀ c ∈ rest.head?, isNumberChar c = false ∧ c.isAlpha = false

theorem stops_cons {c : Char} (hnumber : isNumberChar c = false) (halpha : c.isAlpha = false)
    (rest : List Char) : Stops (c :: rest) := by
  intro d hd
  obtain rfl : c = d := Option.some.inj hd
  exact ⟨hnumber, halpha⟩

theorem tokensFrom?_number {n : Number} (h : LegibleNumber n) {rest : List Char}
    (hrest : Stops rest) :
    tokensFrom? .gap (n.text.toList ++ rest) =
      (tokensFrom? .gap rest).map ([.scalar (.number n)] ++ ·) := by
  obtain ⟨c, cs, htext, hc⟩ := h.starts
  have huniform := h.uniform
  have hread := h.read
  rw [htext] at huniform hread
  obtain ⟨t, ht, hvalue⟩ := Option.bind_eq_some_iff.mp hread
  have hopen : stepGap? c = some (.number [c], []) := by
    unfold stepGap?
    -- None of the marks starts a number.
    split
    all_goals first
      | (exfalso; revert hc; decide)
      | simp [hc]
  have hfinish : Reading.finish? (.number (cs.reverse ++ [c])) = some [.scalar (.number n)] := by
    simp [Reading.finish?, readNumber?, ht, hvalue]
  rw [htext]
  exact gathers_number.tokensFrom?_gap hopen (fun d hd => huniform d (List.mem_cons_of_mem _ hd))
    hfinish fun d hd => (hrest d hd).1

theorem tokensFrom?_letters {c : Char} {cs : List Char} {value : Json}
    (hopen : stepGap? c = some (.letters [c], [])) (halpha : cs.all Char.isAlpha = true)
    (hread : readLetters? (c :: cs) = some value) {rest : List Char} (hrest : Stops rest) :
    tokensFrom? .gap (c :: cs ++ rest) = (tokensFrom? .gap rest).map ([.scalar value] ++ ·) := by
  have hfinish : Reading.finish? (.letters (cs.reverse ++ [c])) = some [.scalar value] := by
    simp [Reading.finish?, hread]
  exact gathers_letters.tokensFrom?_gap hopen (List.all_eq_true.mp halpha) hfinish
    fun d hd => (hrest d hd).2

/-! ## Values -/

theorem tokens?_append {a b : String} {before after : List Token}
    (ha : tokensFrom? .gap (a.toList ++ b.toList) =
      (tokensFrom? .gap b.toList).map (before ++ ·))
    (hb : tokens? b.toList = some after) : tokens? (a ++ b).toList = some (before ++ after) := by
  rw [tokens?] at hb ⊢
  rw [String.toList_append, ha, hb, Option.map_some]

section Parts

variable {a b : String} {after : List Token}

/-- A mark is a token of its own. -/
theorem tokens?_mark {c : Char} {token : Token} (htext : a.toList = [c])
    (h : stepGap? c = some (.gap, [token])) (hb : tokens? b.toList = some after) :
    tokens? (a ++ b).toList = some (token :: after) := by
  have ha : tokensFrom? .gap (a.toList ++ b.toList) =
      (tokensFrom? .gap b.toList).map ([token] ++ ·) := by
    rw [htext]
    exact tokensFrom?_gap_cons h _
  exact tokens?_append ha hb

theorem tokens?_newLine (depth : Nat) (hb : tokens? b.toList = some after) :
    tokens? (newLine depth ++ b).toList = some after := by
  rw [tokens?, String.toList_append, tokensFrom?_newLine]
  exact hb

theorem tokens?_name (name : String) (hb : tokens? b.toList = some after) :
    tokens? (quote name ++ (": " ++ b)).toList = some (.text name :: .colon :: after) := by
  have hcolon : tokens? (": " ++ b).toList = some (.colon :: after) := by
    rw [tokens?] at hb
    simp [tokens?, tokensFrom?_gap_cons, stepGap?, hb]
  exact tokens?_append (tokensFrom?_quote name _) hcolon

theorem stops_newLine (depth : Nat) : Stops (newLine depth ++ b).toList := by
  rw [newLine, String.toList_append, String.toList_ofList]
  exact stops_cons rfl rfl _

theorem stops_prettyElements (depth : Nat) (es : List Json) (h : Stops b.toList) :
    Stops (prettyElements depth es ++ b).toList := by
  cases es with
  | nil => simpa [prettyElements] using h
  | cons e es =>
    simp only [prettyElements, String.toList_append, List.append_assoc]
    exact stops_cons rfl rfl _

theorem stops_prettyMembers (depth : Nat) (ms : List (String × Json)) (h : Stops b.toList) :
    Stops (prettyMembers depth ms ++ b).toList := by
  cases ms with
  | nil => simpa [prettyMembers] using h
  | cons m ms =>
    simp only [prettyMembers, String.toList_append, List.append_assoc]
    exact stops_cons rfl rfl _

end Parts

mutual

/-- A printed value is cut into its tokens. -/
theorem tokens?_prettyAt (depth : Nat) (json : Json) (h : Legible json) {b : String}
    {after : List Token} (hstops : Stops b.toList) (hb : tokens? b.toList = some after) :
    tokens? (prettyAt depth json ++ b).toList = some (spelled json ++ after) := by
  -- A value is put in front of what is already read, so its parts come from the last to the first,
  -- and each stops where the one after it begins.
  match json with
  | .null =>
    rw [prettyAt, spelled]
    exact tokens?_append (@tokensFrom?_letters 'n' ['u', 'l', 'l'] _ rfl rfl rfl _ hstops) hb
  | .bool true =>
    rw [prettyAt, spelled]
    exact tokens?_append (@tokensFrom?_letters 't' ['r', 'u', 'e'] _ rfl rfl rfl _ hstops) hb
  | .bool false =>
    rw [prettyAt, spelled]
    exact tokens?_append (@tokensFrom?_letters 'f' ['a', 'l', 's', 'e'] _ rfl rfl rfl _ hstops) hb
  | .number n =>
    rw [Legible] at h
    rw [prettyAt, spelled]
    exact tokens?_append (tokensFrom?_number h hstops) hb
  | .string s =>
    rw [prettyAt, spelled]
    exact tokens?_append (tokensFrom?_quote s _) hb
  | .array [] =>
    rw [prettyAt, spelled, show ("[]" : String) = "[" ++ "]" from rfl, String.append_assoc]
    exact tokens?_mark rfl rfl (tokens?_mark rfl rfl hb)
  | .array (e :: es) =>
    rw [Legible, LegibleElements] at h
    rw [prettyAt, spelled]
    simp only [String.append_assoc, List.cons_append, List.append_assoc]
    have hend : tokens? (newLine depth ++ ("]" ++ b)).toList = some (.closeArray :: after) :=
      tokens?_newLine depth (tokens?_mark rfl rfl hb)
    have hes := tokens?_prettyElements (depth + 1) es h.2 (stops_newLine depth) hend
    have he := tokens?_prettyAt (depth + 1) e h.1
      (stops_prettyElements (depth + 1) es (stops_newLine depth)) hes
    exact tokens?_mark rfl rfl (tokens?_newLine (depth + 1) he)
  | .object [] =>
    rw [prettyAt, spelled, show ("\x7b\x7d" : String) = "\x7b" ++ "\x7d" from rfl,
      String.append_assoc]
    exact tokens?_mark rfl rfl (tokens?_mark rfl rfl hb)
  | .object ((n, v) :: ms) =>
    rw [Legible, LegibleMembers] at h
    rw [prettyAt, spelled]
    simp only [String.append_assoc, List.cons_append, List.append_assoc]
    have hend : tokens? (newLine depth ++ ("\x7d" ++ b)).toList = some (.closeObject :: after) :=
      tokens?_newLine depth (tokens?_mark rfl rfl hb)
    have hms := tokens?_prettyMembers (depth + 1) ms h.2 (stops_newLine depth) hend
    have hv := tokens?_prettyAt (depth + 1) v h.1
      (stops_prettyMembers (depth + 1) ms (stops_newLine depth)) hms
    exact tokens?_mark rfl rfl (tokens?_newLine (depth + 1) (tokens?_name n hv))

theorem tokens?_prettyElements (depth : Nat) (es : List Json) (h : LegibleElements es) {b : String}
    {after : List Token} (hstops : Stops b.toList) (hb : tokens? b.toList = some after) :
    tokens? (prettyElements depth es ++ b).toList = some (spelledElements es ++ after) := by
  match es with
  | [] => simpa [prettyElements, spelledElements] using hb
  | e :: es =>
    rw [LegibleElements] at h
    rw [prettyElements, spelledElements]
    simp only [String.append_assoc, List.cons_append, List.append_assoc]
    have hes := tokens?_prettyElements depth es h.2 hstops hb
    have he := tokens?_prettyAt depth e h.1 (stops_prettyElements depth es hstops) hes
    exact tokens?_mark rfl rfl (tokens?_newLine depth he)

theorem tokens?_prettyMembers (depth : Nat) (ms : List (String × Json)) (h : LegibleMembers ms)
    {b : String} {after : List Token} (hstops : Stops b.toList)
    (hb : tokens? b.toList = some after) :
    tokens? (prettyMembers depth ms ++ b).toList = some (spelledMembers ms ++ after) := by
  match ms with
  | [] => simpa [prettyMembers, spelledMembers] using hb
  | (n, v) :: ms =>
    rw [LegibleMembers] at h
    rw [prettyMembers, spelledMembers]
    simp only [String.append_assoc, List.cons_append, List.append_assoc]
    have hms := tokens?_prettyMembers depth ms h.2 hstops hb
    have hv := tokens?_prettyAt depth v h.1 (stops_prettyMembers depth ms hstops) hms
    exact tokens?_mark rfl rfl (tokens?_newLine depth (tokens?_name n hv))

end

/-- The laid-out form of a value is cut into the tokens that spell the value. -/
theorem tokens?_pretty {json : Json} (h : Legible json) :
    tokens? json.pretty.toList = some (spelled json) := by
  have hempty : tokens? "".toList = some [] := rfl
  have htokens := tokens?_prettyAt 0 json h (by simp [Stops]) hempty
  rwa [String.append_empty, List.append_nil] at htokens

end SiteSearch.Json
