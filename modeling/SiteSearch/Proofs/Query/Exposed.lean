import SiteSearch.Proofs.Query.Continued
import SiteSearch.Proofs.Query.Located
import SiteSearch.Proofs.Query.Meanings

/-!
# What cutting directives out brings to light

The text of a query may be read as a query again. It then holds directives of other kinds than
the query only where a date was cut out of the middle of a word, so that the two ends of the word
came together (`scan_text_parse`).

Elsewhere a joint has a blank, a mark or an end of the text on its right side and no letter, digit
or underscore on its left. No directive reaches over such a joint, because its marks stand apart,
each between letters or digits; so it stood in the query already, and was refused there for its kind.
-/

namespace SiteSearch.Query

open SiteSearch.Text

/-! ## Marks in a directive -/

/-- No two marks stand side by side. -/
def Tied (cs : List Char) : Prop :=
  cs.IsChain fun c d => isWordChar c = true ∨ isWordChar d = true

theorem tied_of_forall {cs : List Char} (h : ∀ c ∈ cs, isWordChar c = true) : Tied cs := by
  induction cs with
  | nil => exact .nil
  | cons c cs ih =>
    refine List.isChain_cons.mpr ⟨fun d _ => .inl (h c List.mem_cons_self), ih ?_⟩
    exact fun d hd => h d (List.mem_cons_of_mem c hd)

theorem tied_append_cons {a b : List Char} {mark : Char} (ha : ∀ c ∈ a, isWordChar c = true)
    (hb : Tied b) (hhead : ∀ c ∈ b.head?, isWordChar c = true) : Tied (a ++ mark :: b) := by
  refine List.isChain_append.mpr ⟨tied_of_forall ha, List.isChain_cons.mpr ⟨?_, hb⟩, ?_⟩
  · exact fun c hc => .inr (hhead c hc)
  · exact fun c hc d _ => .inl (ha c (List.mem_of_mem_getLast? hc))

theorem IsDigits.isWordChar {count : Nat} {cs : List Char} (h : IsDigits count cs) :
    ∀ c ∈ cs, isWordChar c = true :=
  fun c hc => isWordChar_of_isDigit (h.2 c hc)

theorem ValueForm.Admits.tied {form : ValueForm} {value rest : List Char}
    (h : form.Admits value rest) : Tied value ∧ ∀ c ∈ value.head?, isWordChar c = true := by
  have hrun : ∀ {run : List Char}, (∀ c ∈ run, isWordChar c = true) →
      Tied run ∧ ∀ c ∈ run.head?, isWordChar c = true :=
    fun h => ⟨tied_of_forall h, fun c hc => h c (List.mem_of_mem_head? hc)⟩
  cases form with
  | word => exact hrun h.2.1
  | year => exact hrun h.isWordChar
  | yearMonth =>
    obtain ⟨hyear, -⟩ | ⟨year, month, rfl, hyear, hmonth⟩ := h
    · exact hrun hyear.isWordChar
    · obtain ⟨htied, hhead⟩ := hrun hmonth.isWordChar
      refine ⟨tied_append_cons hyear.isWordChar htied hhead, ?_⟩
      intro c hc
      have hne : year ≠ [] := List.ne_nil_of_length_eq_add_one hyear.1
      rw [List.head?_append_of_ne_nil _ hne] at hc
      exact hyear.isWordChar c (List.mem_of_mem_head? hc)

namespace Occurrence.StandsBefore

variable {o : Occurrence} {rest : List Char}

theorem tied_typed (h : o.StandsBefore rest) : Tied o.typed := by
  obtain ⟨name, hkeyword, hname⟩ := h.exists_name
  obtain ⟨htied, hhead⟩ := h.value.tied
  rw [typed, hkeyword, List.append_assoc]
  exact tied_append_cons hname htied hhead

/-- A directive starts with a letter. -/
theorem isWordChar_of_mem_head? (h : o.StandsBefore rest) :
    ∀ c ∈ o.typed.head?, isWordChar c = true := by
  have hletter : ∀ d : Directive, d.keyword.head?.all isWordChar = true := by
    intro d
    cases d <;> rfl
  intro c hc
  obtain ⟨name, hkeyword, -⟩ := h.exists_name
  have hne : o.keyword ≠ [] := by simp [hkeyword]
  rw [typed, List.head?_append_of_ne_nil _ hne] at hc
  rw [← isWordChar_toLower]
  apply (Option.all_eq_true _ _).mp (hletter o.directive)
  rw [← h.keyword, asciiLower, List.head?_map]
  exact Option.mem_map_of_mem Char.toLower hc

end Occurrence.StandsBefore

/-! ## Longer values -/

/-- Where a value stands, a whole value stands whatever comes after it. -/
theorem ValueForm.Admits.exists_longer {form : ValueForm} {value rest : List Char}
    (h : form.Admits value rest) (cs : List Char) :
    ∃ longer more, value ++ cs = longer ++ more ∧ form.Admits longer more := by
  cases form with
  | word =>
    obtain ⟨hne, hvalue, -⟩ := h
    refine ⟨value ++ cs.takeWhile isWordChar, cs.dropWhile isWordChar, ?_, by simp [hne], ?_, ?_⟩
    · rw [List.append_assoc, List.takeWhile_append_dropWhile]
    · intro c hc
      rcases List.mem_append.mp hc with hc | hc
      · exact hvalue c hc
      · exact List.all_eq_true.mp List.all_takeWhile c hc
    · intro c hc
      have hhead := List.head?_dropWhile_not isWordChar cs
      rw [Option.mem_def.mp hc] at hhead
      simpa using hhead
  | year => exact ⟨value, cs, rfl, h⟩
  | yearMonth =>
    obtain ⟨hyear, -⟩ | hmonth := h
    · by_cases hdash : ∃ month more, cs = '-' :: month ++ more ∧ IsDigits 2 month
      · obtain ⟨month, more, rfl, hmonth⟩ := hdash
        exact ⟨value ++ '-' :: month, more, by simp, .inr ⟨value, month, rfl, hyear, hmonth⟩⟩
      · exact ⟨value, cs, rfl, .inl ⟨hyear, hdash⟩⟩
    · exact ⟨value, cs, rfl, .inr hmonth⟩

theorem Occurrence.StandsBefore.exists_longer {o : Occurrence} {rest : List Char}
    (h : o.StandsBefore rest) (cs : List Char) :
    ∃ (p : Occurrence) (more : List Char), o.typed ++ cs = p.typed ++ more ∧ p.StandsBefore more ∧
      p.directive = o.directive := by
  obtain ⟨longer, more, hvalue, hadmits⟩ := h.value.exists_longer cs
  refine ⟨⟨o.directive, o.keyword, longer⟩, more, ?_, ⟨h.keyword, hadmits⟩, rfl⟩
  rw [typed, typed, List.append_assoc, List.append_assoc, hvalue]

/-! ## Joints -/

/-- The pieces may stand side by side: no letter, digit or underscore follows a directive. -/
def Piece.Apart : Piece → Piece → Prop
  | .taken _, .kept c => isWordChar c = false
  | _, _ => True

variable {done : List Directive} {start : Bool} {cs : List Char} {ps : List Piece}

/-- Behind a directive that nothing runs on from there is no letter, digit or underscore. -/
theorem Cut.isWordChar_eq_false {o : Occurrence} (h : Cut done true cs ps)
    (hchain : (Piece.taken o :: ps).IsChain Piece.Apart) : ∀ c ∈ cs.head?, isWordChar c = false := by
  cases h with
  | nil => simp
  | @within done c cs ps _ =>
    rintro d ⟨⟩
    exact (List.isChain_cons.mp hchain).1 (.kept c) rfl

/-- A character of the text that is not at a joint stands at the front of the query too. -/
theorem Cut.exists_of_keptText_eq_cons {c : Char} {rest : List Char} (h : Cut done start cs ps)
    (hchain : ps.IsChain Piece.Apart) (hkept : keptText ps = c :: rest)
    (hc : start = true ∨ isWordChar c = true) :
    ∃ behind qs, cs = c :: behind ∧ ps = .kept c :: qs ∧ Cut done (isWordChar c) behind qs ∧
      keptText qs = rest := by
  cases h with
  | nil => cases hkept
  | within hrest =>
    obtain ⟨rfl, rfl⟩ := List.cons.inj hkept
    exact ⟨_, _, rfl, rfl, hrest, rfl⟩
  | pass _ hrest =>
    obtain ⟨rfl, rfl⟩ := List.cons.inj hkept
    exact ⟨_, _, rfl, rfl, hrest, rfl⟩
  | take _ _ hrest =>
    have hclear := hrest.isWordChar_eq_false hchain
    cases hrest with
    | nil => cases hkept
    | within _ =>
      obtain ⟨rfl, -⟩ := List.cons.inj hkept
      have hmark := hclear _ rfl
      rw [hmark] at hc
      simp at hc

/-- A run of the text in which no two marks stand side by side has no joints in it. -/
theorem Cut.exists_of_keptText_eq_append {run rest : List Char} (h : Cut done start cs ps)
    (hchain : ps.IsChain Piece.Apart) (hkept : keptText ps = run ++ rest) (hrun : Tied run)
    (hhead : ∀ c ∈ run.head?, start = true ∨ isWordChar c = true) :
    ∃ behind, cs = run ++ behind := by
  induction run generalizing start cs ps with
  | nil => exact ⟨cs, rfl⟩
  | cons c run ih =>
    obtain ⟨behind, qs, rfl, rfl, hcut, hqs⟩ :=
      h.exists_of_keptText_eq_cons hchain hkept (hhead c rfl)
    obtain ⟨hnext, hrun⟩ := List.isChain_cons.mp hrun
    obtain ⟨behind, rfl⟩ := ih hcut hchain.tail hqs hrun hnext
    exact ⟨behind, rfl⟩

/-- Where no joint has a letter, digit or underscore on its right, a directive in the text is of a
kind that was taken. The flag says what stands just before the text; where it differs from what
stands before the query, a directive lies between. -/
theorem Cut.directive_mem_kindsAfter {o : Occurrence} {before after : List Char} {flag : Bool}
    (h : Cut done start cs ps) (hchain : ps.IsChain Piece.Apart)
    (hflag : start = true → flag = true ∨ ∀ c ∈ cs.head?, isWordChar c = false)
    (hkept : keptText ps = before ++ (o.typed ++ after)) (hword : afterWord flag before = false)
    (hstands : o.StandsBefore after) : o.directive ∈ kindsAfter done ps := by
  induction h generalizing before flag with
  | nil =>
    have hnil := List.append_eq_nil_iff.mp hkept.symm
    exact absurd (List.append_eq_nil_iff.mp hnil.2).1 hstands.typed_ne_nil
  | @within done c cs ps rest ih =>
    cases before with
    | nil =>
      -- A directive at the front starts with a letter, which cannot stand here.
      obtain ⟨d, tail, htyped⟩ := hstands.exists_typed_cons
      have hd := hstands.isWordChar_of_mem_head? d (by rw [htyped]; rfl)
      rw [htyped] at hkept
      obtain ⟨rfl, -⟩ := List.cons.inj hkept
      rcases hflag rfl with hafter | hmark
      · rw [afterWord_nil, hafter] at hword
        cases hword
      · rw [hmark c rfl] at hd
        cases hd
    | cons b before =>
      obtain ⟨rfl, hrest⟩ := List.cons.inj hkept
      exact ih hchain.tail .inl hrest hword
  | @pass done c cs ps old rest ih =>
    cases before with
    | nil =>
      rw [List.nil_append] at hkept
      have hcut : Cut done false (c :: cs) (.kept c :: ps) := .pass old rest
      obtain ⟨behind, hbehind⟩ := hcut.exists_of_keptText_eq_append hchain hkept
        hstands.tied_typed fun d hd => .inr (hstands.isWordChar_of_mem_head? d hd)
      obtain ⟨p, more, htyped, hp, hkind⟩ := hstands.exists_longer behind
      have hold := old p more (hbehind.trans htyped) hp
      rw [hkind] at hold
      exact List.mem_append_right _ hold
    | cons b before =>
      obtain ⟨rfl, hrest⟩ := List.cons.inj hkept
      exact ih hchain.tail .inl hrest hword
  | @take done p cs ps new stands rest ih =>
    rw [kindsAfter_taken]
    refine ih hchain.tail ?_ hkept hword
    exact fun _ => .inr (rest.isWordChar_eq_false hchain)

/-! ## Dates that run on -/

/-- The directive is a date, and a letter, digit or underscore follows it at once. -/
def Match.RunsOn (m : Match) (bytes : List Char) : Prop :=
  m.occurrence.directive ∈ [.year, .before, .after] ∧ ∃ c ∈ bytes[m.stop]?, isWordChar c = true

instance (m : Match) (bytes : List Char) : Decidable (m.RunsOn bytes) :=
  inferInstanceAs (Decidable (_ ∧ _))

/-- Behind some of its pieces a text is cut like a text of its own. -/
theorem Cut.exists_drop {front back : List Piece} (h : Cut done start cs (front ++ back)) :
    ∃ done' start' rest, cs = front.flatMap Piece.typed ++ rest ∧ Cut done' start' rest back := by
  induction front generalizing done start cs with
  | nil => exact ⟨done, start, cs, rfl, h⟩
  | cons p front ih =>
    cases h with
    | within hrest =>
      obtain ⟨done', start', rest, rfl, hback⟩ := ih hrest
      exact ⟨done', start', rest, rfl, hback⟩
    | pass _ hrest =>
      obtain ⟨done', start', rest, rfl, hback⟩ := ih hrest
      exact ⟨done', start', rest, rfl, hback⟩
    | take _ _ hrest =>
      obtain ⟨done', start', rest, rfl, hback⟩ := ih hrest
      exact ⟨done', start', rest, by simp [Piece.typed], hback⟩

theorem head?_encoded_eq_of_isWordChar {c : Char} (hc : isWordChar c = true) (cs : List Char) :
    (encoded (c :: cs)).head? = some c := by
  rw [encoded_cons, encodedChar_of_isAscii (isAscii_of_isWordChar hc)]
  rfl

theorem Directive.mem_dates_of_form_ne {d : Directive} (h : d.form ≠ .word) :
    d ∈ [Directive.year, .before, .after] := by
  revert h
  cases d <;> decide

/-- A letter, digit or underscore follows no directive but a date. -/
theorem exists_runsOn {query : String} (h : ¬ (pieces query.toList).IsChain Piece.Apart) :
    ∃ m ∈ scan query, m.RunsOn (octets query) := by
  simp only [List.isChain_iff_forall_rel_of_append_cons_cons, not_forall] at h
  obtain ⟨p, q, front, back, hps, hjoint⟩ := h
  obtain ⟨o, c, rfl, rfl, hc⟩ : ∃ o c, p = .taken o ∧ q = .kept c ∧ isWordChar c = true := by
    cases p with
    | kept c => exact absurd trivial hjoint
    | taken o =>
      cases q with
      | taken _ => exact absurd trivial hjoint
      | kept c => exact ⟨o, c, rfl, rfl, by simpa [Piece.Apart] using hjoint⟩
  have hcut := cut_pieces query.toList
  rw [hps] at hcut
  obtain ⟨_, _, rest, hquery, hrest⟩ := hcut.exists_drop
  cases hrest with
  | @take done _ rest _ _ stands hbehind =>
    cases hbehind with
    | @within _ _ rest _ _ =>
      let m : Match := ⟨o, utf8Length (front.flatMap Piece.typed)⟩
      have hm : m ∈ scan query := by
        rw [scan, hps, matchesFrom_append, Nat.zero_add]
        exact List.mem_append_right _ List.mem_cons_self
      have hform : o.directive.form ≠ .word := by
        intro hword
        have hvalue := stands.value
        rw [hword] at hvalue
        rw [hvalue.2.2 c rfl] at hc
        cases hc
      have hbytes : octets query =
          encoded (front.flatMap Piece.typed ++ o.typed) ++ encoded (c :: rest) := by
        rw [octets_eq_encoded, hquery, ← List.append_assoc, encoded_append]
      have hstop : m.stop = (encoded (front.flatMap Piece.typed ++ o.typed)).length := by
        rw [length_encoded, utf8Length_append]
        rfl
      refine ⟨m, hm, Directive.mem_dates_of_form_ne hform, c, ?_, hc⟩
      rw [hbytes, hstop, List.getElem?_append_right (Nat.le_refl _), Nat.sub_self,
        ← List.head?_eq_getElem?, head?_encoded_eq_of_isWordChar hc]
      rfl

/-! ## The text as a query -/

theorem occurrences_pieces_collapse (cs : List Char) :
    occurrences (pieces (collapse cs)) = occurrences (pieces cs) := by
  rw [occurrences_pieces_eq_wordsTaken, occurrences_pieces_eq_wordsTaken, words_collapse]

theorem exists_mem_scan_of_mem_occurrences {query : String} {o : Occurrence}
    (h : o ∈ occurrences (pieces query.toList)) : ∃ m ∈ scan query, m.occurrence = o := by
  rwa [occurrences_pieces_eq_map_scan, List.mem_map] at h

/-- Where no date runs on, the text of a query holds directives of the kinds of the query alone. -/
theorem exists_mem_scan_of_isChain {query : String}
    (hchain : (pieces query.toList).IsChain Piece.Apart) {m : Match}
    (hm : m ∈ scan (parse query).text) :
    ∃ n ∈ scan query, n.occurrence.directive = m.occurrence.directive := by
  have htext : (parse query).text.toList = collapse (keptText (pieces query.toList)) := by
    rw [parse, String.toList_ofList]
  have hin : m.occurrence ∈ occurrences (pieces (keptText (pieces query.toList))) := by
    rw [← occurrences_pieces_collapse, ← htext, occurrences_pieces_eq_map_scan]
    exact List.mem_map_of_mem hm
  rw [occurrences_eq_map_matchesFrom 0] at hin
  obtain ⟨n, hn, hoccurrence⟩ := List.mem_map.mp hin
  obtain ⟨⟨before, after, hkept, -, hword, hstands⟩, -⟩ := (cut_pieces _).standsIn 0 n hn
  rw [hoccurrence] at hkept hstands
  rw [List.append_assoc] at hkept
  have hkind := (cut_pieces query.toList).directive_mem_kindsAfter hchain
    (fun hstart => absurd hstart Bool.false_ne_true) hkept hword hstands
  rw [kindsAfter, List.append_nil, List.mem_reverse] at hkind
  obtain ⟨o, ho, hsame⟩ := List.mem_map.mp hkind
  obtain ⟨k, hk, rfl⟩ := exists_mem_scan_of_mem_occurrences ho
  exact ⟨k, hk, hsame⟩

/-- If the text of a query, read as a query, holds a kind of directive that the query does not hold,
then a date in the query is followed at once by a letter, digit or underscore. Where no date is, the
text holds only kinds that the query holds. -/
theorem scan_text_parse (query : String) :
    (∀ d : Directive, (∃ m ∈ scan (parse query).text, m.occurrence.directive = d) →
      (∀ m ∈ scan query, m.occurrence.directive ≠ d) →
      ∃ m ∈ scan query, m.RunsOn (octets query)) ∧
    ((∀ m ∈ scan query, ¬ m.RunsOn (octets query)) →
      ∀ m ∈ scan (parse query).text,
        ∃ n ∈ scan query, n.occurrence.directive = m.occurrence.directive) := by
  constructor
  · rintro d ⟨m, hm, rfl⟩ hnew
    apply exists_runsOn
    intro hchain
    obtain ⟨n, hn, hkind⟩ := exists_mem_scan_of_isChain hchain hm
    exact hnew n hn hkind
  · intro hclear m hm
    apply exists_mem_scan_of_isChain _ hm
    by_contra hchain
    obtain ⟨n, hn, hruns⟩ := exists_runsOn hchain
    exact hclear n hn hruns

/-- A date that runs on into a directive, and a query that holds the same kind twice. -/
theorem scan_text_parse_gluedYear :
    let query := "year:2024type:file"
    let twice := "in:a x in:b"
    (∃ m ∈ scan (parse query).text, m.occurrence.directive = .type) ∧
      (∀ m ∈ scan query, m.occurrence.directive ≠ .type) ∧
      (∃ m ∈ scan query, m.RunsOn (octets query)) ∧
      (∀ m ∈ scan twice, ¬ m.RunsOn (octets twice)) ∧
      ∀ m ∈ scan (parse twice).text,
        ∃ n ∈ scan twice, n.occurrence.directive = m.occurrence.directive := by
  intro query twice
  have hfound : ∃ m ∈ scan (parse query).text, m.occurrence.directive = .type := by decide
  have hnew : ∀ m ∈ scan query, m.occurrence.directive ≠ .type := by decide
  have hclear : ∀ m ∈ scan twice, ¬ m.RunsOn (octets twice) := by decide
  exact ⟨hfound, hnew, (scan_text_parse query).1 .type hfound hnew, hclear,
    (scan_text_parse twice).2 hclear⟩

/-- The joint may lie between the keyword and the value. -/
example : (scan (parse "before:year:20202021").text).map (·.occurrence.directive) = [.before] := by
  decide

end SiteSearch.Query
