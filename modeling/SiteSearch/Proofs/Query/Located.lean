import SiteSearch.Proofs.Query.Octets

/-!
# Where directives stand in the bytes

The directives of a query, told from its bytes alone. A directive is found at a byte exactly
when it stands there at the start of a word, no directive found before it reaches over that byte,
and none of those is of its kind (`scan_leftmost_first`).
-/

namespace SiteSearch.Query

open SiteSearch.Text

/-! ## Places -/

/-- No letter, digit or underscore stands just before byte `p`. -/
def WordStart (bytes : List Char) (p : Nat) : Prop :=
  p = 0 ∨ ∀ c ∈ bytes[p - 1]?, isWordChar c = false

/-- The directive stands at byte `p`: its keyword in some case, and then the whole value. -/
def Occurrence.StandsAt (o : Occurrence) (bytes : List Char) (p : Nat) : Prop :=
  ∃ rest, bytes.drop p = o.typed ++ rest ∧ o.StandsBefore rest

theorem wordStart_length_iff {before after : List Char} :
    WordStart (before ++ after) before.length ↔ afterWord false before = false := by
  rcases List.eq_nil_or_concat before with rfl | ⟨front, c, rfl⟩
  · simp [WordStart]
  · rw [List.concat_eq_append, afterWord_concat]
    simp [WordStart]

/-! ## Directives in the bytes -/

theorem Occurrence.StandsBefore.isAscii_typed {o : Occurrence} {rest : List Char}
    (h : o.StandsBefore rest) : ∀ c ∈ o.typed, IsAscii c := by
  intro c hc
  rcases h.mem_typed hc with hword | rfl | rfl
  · exact isAscii_of_isWordChar hword
  · decide
  · decide

theorem IsDigits.isAscii {count : Nat} {cs : List Char} (h : IsDigits count cs) :
    ∀ c ∈ cs, IsAscii c := by
  intro c hc
  exact isAscii_of_isWordChar (isWordChar_of_isDigit (h.2 c hc))

/-- Whether a value is the whole one is told from the bytes after it. -/
theorem ValueForm.admits_encoded_iff {form : ValueForm} {value rest : List Char} :
    form.Admits value (encoded rest) ↔ form.Admits value rest := by
  cases form with
  | word => simp only [Admits, head?_encoded_of_isWordChar]
  | year => rfl
  | yearMonth =>
    have hmonth : (∃ month more, encoded rest = '-' :: month ++ more ∧ IsDigits 2 month) ↔
        ∃ month more, rest = '-' :: month ++ more ∧ IsDigits 2 month := by
      have hascii : ∀ {month : List Char}, IsDigits 2 month → ∀ c ∈ '-' :: month, IsAscii c := by
        intro month htwo c hc
        rcases List.mem_cons.mp hc with rfl | hc
        · decide
        · exact htwo.isAscii c hc
      constructor
      · intro h
        obtain ⟨month, more, heq, htwo⟩ := h
        obtain ⟨behind, rfl, -⟩ := (encoded_eq_append_iff (hascii htwo)).mp heq
        exact ⟨month, behind, rfl, htwo⟩
      · intro h
        obtain ⟨month, more, rfl, htwo⟩ := h
        exact ⟨month, encoded more, (encoded_eq_append_iff (hascii htwo)).mpr ⟨more, rfl, rfl⟩, htwo⟩
    simp only [Admits, hmonth]

theorem Occurrence.standsBefore_encoded_iff {o : Occurrence} {rest : List Char} :
    o.StandsBefore (encoded rest) ↔ o.StandsBefore rest := by
  constructor
  · intro h
    obtain ⟨hkeyword, hvalue⟩ := h
    exact ⟨hkeyword, ValueForm.admits_encoded_iff.mp hvalue⟩
  · intro h
    obtain ⟨hkeyword, hvalue⟩ := h
    exact ⟨hkeyword, ValueForm.admits_encoded_iff.mpr hvalue⟩

/-- A directive stands in the characters exactly when it stands in the bytes. -/
theorem Match.standsIn_iff {m : Match} {cs : List Char} :
    m.StandsIn 0 false cs ↔
      WordStart (encoded cs) m.start ∧ m.occurrence.StandsAt (encoded cs) m.start := by
  constructor
  · intro h
    obtain ⟨before, after, rfl, hstart, hword, hstands⟩ := h
    have hlength : m.start = (encoded before).length := by rw [hstart, length_encoded, Nat.zero_add]
    have hsplit : encoded (before ++ m.occurrence.typed ++ after) =
        encoded before ++ (m.occurrence.typed ++ encoded after) := by
      rw [encoded_append, encoded_append, encoded_of_isAscii hstands.isAscii_typed,
        List.append_assoc]
    rw [hsplit, hlength]
    refine ⟨?_, encoded after, List.drop_left, Occurrence.standsBefore_encoded_iff.mpr hstands⟩
    rw [wordStart_length_iff, afterWord_encoded, hword]
  · intro h
    obtain ⟨hword, rest, hdrop, hstands⟩ := h
    have hne := hstands.typed_ne_nil
    have hle : m.start ≤ (encoded cs).length := by
      have hdropne : (encoded cs).drop m.start ≠ [] := by simp [hdrop, hne]
      rw [ne_eq, List.drop_eq_nil_iff] at hdropne
      omega
    obtain ⟨front, hfront, hlength⟩ : ∃ front, encoded cs = front ++ m.occurrence.typed ++ rest ∧
        front.length = m.start := by
      refine ⟨(encoded cs).take m.start, ?_, by simp [hle]⟩
      rw [List.append_assoc, ← hdrop, List.take_append_drop]
    obtain ⟨before, after, rfl, rfl, rfl⟩ :=
      exists_of_encoded_eq_append hfront hne hstands.isAscii_typed
    rw [hfront, ← hlength, List.append_assoc, wordStart_length_iff, afterWord_encoded] at hword
    refine ⟨before, after, rfl, ?_, hword, Occurrence.standsBefore_encoded_iff.mp hstands⟩
    rw [← hlength, length_encoded, Nat.zero_add]

/-! ## Directives of a query -/

theorem mem_scan_iff {query : String} {m : Match} :
    m ∈ scan query ↔
      (WordStart (octets query) m.start ∧ m.occurrence.StandsAt (octets query) m.start) ∧
        ∀ n ∈ scan query, n.start < m.start →
          n.stop ≤ m.start ∧ n.occurrence.directive ≠ m.occurrence.directive := by
  rw [octets_eq_encoded, ← Match.standsIn_iff]
  exact (cut_pieces query.toList).mem_matchesFrom_iff

/-- The directives of a query are the leftmost ones, each the first of its kind, that stand in its
bytes at the start of a word and outside of those found before. Each takes up its keyword and
the whole of its value, and they are listed from left to right. -/
theorem scan_leftmost_first (query : String) :
    (∀ (d : Directive) (p : Nat),
      (∃ m ∈ scan query, m.occurrence.directive = d ∧ m.start = p) ↔
        WordStart (octets query) p ∧
        (∃ o : Occurrence, o.directive = d ∧ o.StandsAt (octets query) p) ∧
        (∀ m ∈ scan query, m.start < p → m.stop ≤ p) ∧
        ∀ m ∈ scan query, m.start < p → m.occurrence.directive ≠ d) ∧
    (∀ m ∈ scan query, m.occurrence.StandsAt (octets query) m.start ∧
      m.stop = m.start + m.occurrence.typed.length) ∧
    (scan query).Pairwise fun m n => m.start < n.start := by
  refine ⟨?_, ?_, ?_⟩
  · intro d p
    constructor
    · intro h
      obtain ⟨m, hm, rfl, rfl⟩ := h
      obtain ⟨⟨hword, hstands⟩, hclear⟩ := mem_scan_iff.mp hm
      exact ⟨hword, ⟨m.occurrence, rfl, hstands⟩, fun n hn hlt => (hclear n hn hlt).1,
        fun n hn hlt => (hclear n hn hlt).2⟩
    · intro h
      obtain ⟨hword, ⟨o, rfl, hstands⟩, hspan, hkind⟩ := h
      refine ⟨⟨o, p⟩, ?_, rfl, rfl⟩
      rw [mem_scan_iff]
      exact ⟨⟨hword, hstands⟩, fun n hn hlt => ⟨hspan n hn hlt, hkind n hn hlt⟩⟩
  · intro m hm
    obtain ⟨⟨-, hstands⟩, -⟩ := mem_scan_iff.mp hm
    refine ⟨hstands, ?_⟩
    obtain ⟨rest, -, hbefore⟩ := hstands
    rw [Match.stop, ← length_encoded, encoded_of_isAscii hbefore.isAscii_typed]
  · refine ((cut_pieces query.toList).pairwise_matchesFrom 0).imp ?_
    intro m n hmn
    have : m.start ≤ m.stop := Nat.le_add_right _ _
    omega

/-- The second directive of a kind takes up nothing, so another kind is found inside it. -/
example : (scan "in:a in:type:file").map (fun m => (m.occurrence.directive, m.start, m.stop)) =
    [(.within, 0, 4), (.type, 8, 17)] := by decide

end SiteSearch.Query
