import SiteSearch.Proofs.Text.Words

/-!
# Lines

What is printed item by item, each with a line feed after it, is read line by line. The two agree
as long as no line ends within an item (`linesOf_printed`), and otherwise there is one line more
for each character that ends one there (`length_linesOf_printed`).

Readers differ on which characters end lines. All that is needed here is that a line feed does, and
that nothing but blanks does, of which the space does not (`EndsLines`).
-/

namespace SiteSearch.Text

/-- A notion of which characters end lines. -/
structure EndsLines (ends : Char → Bool) : Prop where
  lineFeed : ends '\n' = true
  space : ends ' ' = false
  blank : ∀ c, ends c = true → isBlank c = true

/-- The characters that Unicode has lines end at. -/
def isLineBreak (c : Char) : Bool :=
  let n := c.toNat
  (0x0a ≤ n && n ≤ 0x0d) || n == 0x85 || n == 0x2028 || n == 0x2029

theorem endsLines_isLineBreak : EndsLines isLineBreak where
  lineFeed := by decide
  space := by decide
  blank c h := by
    simp only [isLineBreak, isBlank, Bool.or_eq_true, Bool.and_eq_true, decide_eq_true_eq,
      beq_iff_eq] at h ⊢
    omega

theorem endsLines_lineFeed : EndsLines (· == '\n') where
  lineFeed := by decide
  space := by decide
  blank c h := by
    obtain rfl := eq_of_beq h
    decide

/-- The lines of a text. The last one may lack the character that ends it. -/
def linesOf (ends : Char → Bool) : List Char → List (List Char)
  | [] => []
  | c :: cs =>
    if ends c then [] :: linesOf ends cs
    else match linesOf ends cs with
      | [] => [[c]]
      | line :: lines => (c :: line) :: lines

/-- No line ends within the text. -/
def Unbroken (ends : Char → Bool) (cs : List Char) : Prop := ∀ c ∈ cs, ends c = false

instance (ends : Char → Bool) (cs : List Char) : Decidable (Unbroken ends cs) :=
  List.decidableBAll (fun c => ends c = false) cs

/-- The only blanks within the text are spaces. -/
def OnlySpaces (cs : List Char) : Prop := ∀ c ∈ cs, isBlank c = true → c = ' '

instance (cs : List Char) : Decidable (OnlySpaces cs) :=
  List.decidableBAll (fun c => isBlank c = true → c = ' ') cs

/-- How many lines end within some texts. -/
def breaks (ends : Char → Bool) (texts : List String) : Nat :=
  (texts.flatMap String.toList).countP ends

/-- What is printed for some items, a line feed after each. -/
def printed (items : List String) : List Char := items.flatMap fun item => item.toList ++ ['\n']

section Lines

variable {ends : Char → Bool}

theorem countP_eq_zero_iff {cs : List Char} : cs.countP ends = 0 ↔ Unbroken ends cs := by
  simp [Unbroken, List.countP_eq_zero]

/-- Where the only blanks are spaces, no line ends. -/
theorem EndsLines.unbroken (h : EndsLines ends) {cs : List Char} (hcs : OnlySpaces cs) :
    Unbroken ends cs := by
  intro c hc
  by_contra hends
  rw [Bool.not_eq_false] at hends
  have hspace := h.space
  rw [← hcs c hc (h.blank c hends), hends] at hspace
  cases hspace

theorem EndsLines.countP_eq_zero (h : EndsLines ends) {cs : List Char} (hcs : OnlySpaces cs) :
    cs.countP ends = 0 :=
  countP_eq_zero_iff.mpr (h.unbroken hcs)

theorem EndsLines.countP_of_visible (h : EndsLines ends) {cs : List Char}
    (hcs : ∀ c ∈ cs, isBlank c = false) : cs.countP ends = 0 := by
  apply h.countP_eq_zero
  intro c hc hblank
  rw [hcs c hc] at hblank
  cases hblank

@[simp] theorem breaks_nil : breaks ends [] = 0 := rfl

@[simp] theorem breaks_cons (text : String) (texts : List String) :
    breaks ends (text :: texts) = text.toList.countP ends + breaks ends texts := by
  rw [breaks, List.flatMap_cons, List.countP_append, breaks]

@[simp] theorem breaks_append (texts more : List String) :
    breaks ends (texts ++ more) = breaks ends texts + breaks ends more := by
  rw [breaks, List.flatMap_append, List.countP_append, breaks, breaks]

theorem breaks_eq_zero_iff {texts : List String} :
    breaks ends texts = 0 ↔ ∀ text ∈ texts, Unbroken ends text.toList := by
  rw [breaks, countP_eq_zero_iff, Unbroken, List.forall_mem_flatMap]
  rfl

/-! ## Reading what was printed -/

theorem linesOf_append_lineFeed (h : EndsLines ends) {line : List Char}
    (hline : Unbroken ends line) (cs : List Char) :
    linesOf ends (line ++ '\n' :: cs) = line :: linesOf ends cs := by
  induction line with
  | nil => simp [linesOf, h.lineFeed]
  | cons c line ih =>
    obtain ⟨hc, hline⟩ := List.forall_mem_cons.mp hline
    rw [List.cons_append, linesOf, ih hline]
    simp [hc]

/-- A text and a line feed make one line, and one more for each line that ends in the text. -/
theorem length_linesOf_append_lineFeed (h : EndsLines ends) (line cs : List Char) :
    (linesOf ends (line ++ '\n' :: cs)).length =
      line.countP ends + 1 + (linesOf ends cs).length := by
  induction line with
  | nil =>
    simp only [List.nil_append, linesOf, h.lineFeed, if_true, List.length_cons, List.countP_nil]
    omega
  | cons c line ih =>
    rw [List.cons_append, linesOf]
    by_cases hc : ends c = true
    · rw [if_pos hc, List.length_cons, ih, List.countP_cons_of_pos hc]
      omega
    · rw [if_neg hc, List.countP_cons_of_neg hc, ← ih]
      split
      · rename_i hnil
        rw [hnil] at ih
        simp at ih
        omega
      · rename_i hcons
        rw [hcons, List.length_cons, List.length_cons]

theorem printed_cons (item : String) (items : List String) :
    printed (item :: items) = item.toList ++ '\n' :: printed items := by
  simp [printed]

theorem linesOf_printed (h : EndsLines ends) {items : List String}
    (hitems : ∀ item ∈ items, Unbroken ends item.toList) :
    linesOf ends (printed items) = items.map String.toList := by
  induction items with
  | nil => rfl
  | cons item items ih =>
    obtain ⟨hitem, hitems⟩ := List.forall_mem_cons.mp hitems
    rw [printed_cons, linesOf_append_lineFeed h hitem, ih hitems, List.map_cons]

theorem length_linesOf_printed (h : EndsLines ends) (items : List String) :
    (linesOf ends (printed items)).length = items.length + breaks ends items := by
  induction items with
  | nil => rfl
  | cons item items ih =>
    rw [printed_cons, length_linesOf_append_lineFeed h, ih, List.length_cons, breaks_cons]
    omega

end Lines

end SiteSearch.Text
