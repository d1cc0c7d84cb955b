import SiteSearch.Proofs.Text.Ascii
import SiteSearch.Query.Scan

/-!
# Directives at the front of a text

When a directive stands at the front of a text: its keyword in some case, then the longest value
of its form. At most one directive does, since a keyword ends at the first colon.

Main statements: a directive is read from the front exactly when it stands there
(`ofFront?_eq_some_iff`), and among the kinds that were not taken yet the order in which they
are tried does not matter (`nextOccurrence?_eq_some_iff`, `nextOccurrence?_eq_none_iff`).
-/

namespace SiteSearch.Query

open SiteSearch.Text

/-! ## Values -/

/-- So many characters, all of them digits. -/
def IsDigits (count : Nat) (cs : List Char) : Prop :=
  cs.length = count ∧ ∀ c ∈ cs, c.isDigit = true

/-- The text is a value of the form, and the whole value when `rest` comes after it. -/
def ValueForm.Admits : ValueForm → (value rest : List Char) → Prop
  | .word, value, rest =>
    value ≠ [] ∧ (∀ c ∈ value, isWordChar c = true) ∧ ∀ c ∈ rest.head?, isWordChar c = false
  | .year, value, _ => IsDigits 4 value
  | .yearMonth, value, rest =>
    (IsDigits 4 value ∧ ¬ ∃ month more, rest = '-' :: month ++ more ∧ IsDigits 2 month) ∨
      ∃ year month, value = year ++ '-' :: month ∧ IsDigits 4 year ∧ IsDigits 2 month

theorem takeDigits?_eq_some_iff {count : Nat} {cs digits : List Char} :
    takeDigits? count cs = some digits ↔ IsDigits count digits ∧ ∃ rest, cs = digits ++ rest := by
  simp only [takeDigits?]
  constructor
  · intro h
    split at h
    · rename_i hdigits
      obtain rfl := Option.some.inj h
      refine ⟨⟨hdigits.1, ?_⟩, cs.drop count, (List.take_append_drop count cs).symm⟩
      simpa using hdigits.2
    · simp at h
  · intro h
    obtain ⟨⟨hlen, hdigits⟩, rest, rfl⟩ := h
    have htake : (digits ++ rest).take count = digits := by rw [← hlen, List.take_left]
    rw [htake, if_pos ⟨hlen, by simpa using hdigits⟩]

theorem takeDigits?_eq_none_iff {count : Nat} {cs : List Char} :
    takeDigits? count cs = none ↔ ¬ ∃ digits rest, cs = digits ++ rest ∧ IsDigits count digits := by
  rw [Option.eq_none_iff_forall_ne_some]
  constructor
  · rintro h ⟨digits, rest, hcs, hdigits⟩
    exact h digits (takeDigits?_eq_some_iff.mpr ⟨hdigits, rest, hcs⟩)
  · intro h digits hdigits
    obtain ⟨hd, rest, hcs⟩ := takeDigits?_eq_some_iff.mp hdigits
    exact h ⟨digits, rest, hcs, hd⟩

theorem take?_word_eq_some_iff {cs value : List Char} :
    ValueForm.word.take? cs = some value ↔
      ∃ rest, cs = value ++ rest ∧ ValueForm.word.Admits value rest := by
  constructor
  · intro h
    simp only [ValueForm.take?] at h
    split at h
    · simp at h
    · rename_i run hne
      obtain rfl := Option.some.inj h
      refine ⟨cs.dropWhile isWordChar, List.takeWhile_append_dropWhile.symm, hne, ?_, ?_⟩
      · intro c hc
        exact List.all_eq_true.mp List.all_takeWhile c hc
      · intro c hc
        have := List.head?_dropWhile_not isWordChar cs
        rw [Option.mem_def.mp hc] at this
        simpa using this
  · intro h
    obtain ⟨rest, rfl, hne, hvalue, hrest⟩ := h
    simp only [ValueForm.take?]
    rw [takeWhile_append_of_head hvalue hrest]
    cases value with
    | nil => exact absurd rfl hne
    | cons c cs => rfl

theorem take?_yearMonth_of_month {year month : List Char} (hyear : IsDigits 4 year)
    (hmonth : IsDigits 2 month) (rest : List Char) :
    ValueForm.yearMonth.take? (year ++ '-' :: month ++ rest) = some (year ++ '-' :: month) := by
  rw [List.append_assoc, List.cons_append]
  have hfour : takeDigits? 4 (year ++ '-' :: (month ++ rest)) = some year :=
    takeDigits?_eq_some_iff.mpr ⟨hyear, _, rfl⟩
  have htwo : takeDigits? 2 (month ++ rest) = some month :=
    takeDigits?_eq_some_iff.mpr ⟨hmonth, rest, rfl⟩
  simp only [ValueForm.take?, hfour, Option.map_some]
  rw [← hyear.1, List.drop_left]
  simp only [htwo]

theorem take?_yearMonth_of_no_month {year rest : List Char} (hyear : IsDigits 4 year)
    (hrest : ¬ ∃ month more, rest = '-' :: month ++ more ∧ IsDigits 2 month) :
    ValueForm.yearMonth.take? (year ++ rest) = some year := by
  have hfour : takeDigits? 4 (year ++ rest) = some year :=
    takeDigits?_eq_some_iff.mpr ⟨hyear, rest, rfl⟩
  simp only [ValueForm.take?, hfour, Option.map_some]
  rw [← hyear.1, List.drop_left]
  split
  · rename_i after
    have hnone : takeDigits? 2 after = none := by
      rw [takeDigits?_eq_none_iff]
      intro h
      obtain ⟨month, more, rfl, htwo⟩ := h
      exact hrest ⟨month, more, rfl, htwo⟩
    rw [hnone]
  · rfl

theorem take?_yearMonth_eq_some_iff {cs value : List Char} :
    ValueForm.yearMonth.take? cs = some value ↔
      ∃ rest, cs = value ++ rest ∧ ValueForm.yearMonth.Admits value rest := by
  constructor
  · intro h
    obtain ⟨year, hyear, -⟩ := Option.map_eq_some_iff.mp h
    obtain ⟨hdigits, rest, rfl⟩ := takeDigits?_eq_some_iff.mp hyear
    by_cases hmonth : ∃ month more, rest = '-' :: month ++ more ∧ IsDigits 2 month
    · obtain ⟨month, more, rfl, htwo⟩ := hmonth
      rw [← List.append_assoc, take?_yearMonth_of_month hdigits htwo] at h
      obtain rfl := Option.some.inj h
      exact ⟨more, by simp, .inr ⟨year, month, rfl, hdigits, htwo⟩⟩
    · rw [take?_yearMonth_of_no_month hdigits hmonth] at h
      obtain rfl := Option.some.inj h
      exact ⟨rest, rfl, .inl ⟨hdigits, hmonth⟩⟩
  · intro h
    obtain ⟨rest, rfl, ⟨hyear, hrest⟩ | ⟨year, month, rfl, hyear, hmonth⟩⟩ := h
    · exact take?_yearMonth_of_no_month hyear hrest
    · exact take?_yearMonth_of_month hyear hmonth rest

/-- A value is read from the front of a text exactly when it is the whole value there. -/
theorem take?_eq_some_iff {form : ValueForm} {cs value : List Char} :
    form.take? cs = some value ↔ ∃ rest, cs = value ++ rest ∧ form.Admits value rest := by
  cases form with
  | word => exact take?_word_eq_some_iff
  | year =>
    constructor
    · intro h
      obtain ⟨hdigits, rest, hcs⟩ := takeDigits?_eq_some_iff.mp h
      exact ⟨rest, hcs, hdigits⟩
    · intro h
      obtain ⟨rest, hcs, hdigits⟩ := h
      exact takeDigits?_eq_some_iff.mpr ⟨hdigits, rest, hcs⟩
  | yearMonth => exact take?_yearMonth_eq_some_iff

theorem isWordChar_of_isDigit {c : Char} (h : c.isDigit = true) : isWordChar c = true := by
  simp [isWordChar, Char.isAlphanum, h]

/-- A value is not empty and ends in a letter, digit or underscore. -/
theorem ValueForm.Admits.exists_last {form : ValueForm} {value rest : List Char}
    (h : form.Admits value rest) : ∃ cs c, value = cs ++ [c] ∧ isWordChar c = true := by
  have hlast : ∀ {run : List Char}, run ≠ [] → (∀ c ∈ run, isWordChar c = true) →
      ∃ cs c, run = cs ++ [c] ∧ isWordChar c = true := by
    intro run hne hall
    exact ⟨run.dropLast, run.getLast hne, (List.dropLast_concat_getLast hne).symm,
      hall _ (List.getLast_mem hne)⟩
  have hdigits : ∀ {count : Nat} {ds : List Char}, IsDigits (count + 1) ds →
      ∃ cs c, ds = cs ++ [c] ∧ isWordChar c = true := by
    rintro count ds ⟨hlen, hall⟩
    apply hlast
    · rintro rfl
      simp at hlen
    · intro c hc
      exact isWordChar_of_isDigit (hall c hc)
  cases form with
  | word => exact hlast h.1 h.2.1
  | year => exact hdigits h
  | yearMonth =>
    obtain ⟨hfour, -⟩ | ⟨year, month, rfl, -, hmonth⟩ := h
    · exact hdigits hfour
    · obtain ⟨cs, c, rfl, hc⟩ := hdigits hmonth
      exact ⟨year ++ '-' :: cs, c, by simp, hc⟩

theorem ValueForm.Admits.isWordChar_or_dash {form : ValueForm} {value rest : List Char}
    (h : form.Admits value rest) : ∀ c ∈ value, isWordChar c = true ∨ c = '-' := by
  have hdigits : ∀ {count : Nat} {ds : List Char}, IsDigits count ds →
      ∀ c ∈ ds, isWordChar c = true ∨ c = '-' := by
    intro count ds hds c hc
    exact .inl (isWordChar_of_isDigit (hds.2 c hc))
  cases form with
  | word =>
    intro c hc
    exact .inl (h.2.1 c hc)
  | year => exact hdigits h
  | yearMonth =>
    obtain ⟨hfour, -⟩ | ⟨year, month, rfl, hyear, hmonth⟩ := h
    · exact hdigits hfour
    · intro c hc
      rcases List.mem_append.mp hc with hc | hc
      · exact hdigits hyear c hc
      · rcases List.mem_cons.mp hc with rfl | hc
        · exact .inr rfl
        · exact hdigits hmonth c hc

/-! ## Directives -/

namespace Directive

theorem name_injective {d e : Directive} (h : d.name.toList = e.name.toList) : d = e := by
  have hname : d.name = e.name := String.toList_inj.mp h
  have := ofName?_name d
  rw [hname, ofName?_name] at this
  exact (Option.some.inj this).symm

theorem colon_notMem_name (d : Directive) : ':' ∉ d.name.toList := by
  cases d <;> decide

theorem isWordChar_of_mem_name {d : Directive} : ∀ c ∈ d.name.toList, isWordChar c = true := by
  have hall : d.name.toList.all isWordChar = true := by cases d <;> decide
  exact List.all_eq_true.mp hall

/-- A keyword ends at the first colon, so no keyword starts another. -/
theorem eq_of_keyword_append {d e : Directive} {a b : List Char}
    (h : d.keyword ++ a = e.keyword ++ b) : d = e := by
  have hname : ∀ (d : Directive) (rest : List Char),
      (d.keyword ++ rest).takeWhile (· != ':') = d.name.toList := by
    intro d rest
    rw [keyword, List.append_assoc]
    apply takeWhile_append_of_head
    · intro c hc
      rw [bne_iff_ne]
      rintro rfl
      exact colon_notMem_name d hc
    · simp
  apply name_injective
  rw [← hname d a, ← hname e b, h]

end Directive

/-- The directive as it may stand before `rest`: a keyword in some case and the whole value. -/
structure Occurrence.StandsBefore (o : Occurrence) (rest : List Char) : Prop where
  keyword : asciiLower o.keyword = o.directive.keyword
  value : o.directive.form.Admits o.value rest

/-- A keyword is letters and a colon. -/
theorem Occurrence.StandsBefore.exists_name {o : Occurrence} {rest : List Char}
    (h : o.StandsBefore rest) :
    ∃ name, o.keyword = name ++ [':'] ∧ ∀ c ∈ name, isWordChar c = true := by
  obtain ⟨name, colon, hkeyword, hname, hcolon⟩ := List.map_eq_append_iff.mp h.keyword
  obtain ⟨c, rfl, hc⟩ := List.map_eq_singleton_iff.mp hcolon
  obtain rfl := eq_of_toLower_eq (by decide) hc
  exact ⟨name, hkeyword, isWordChar_of_asciiLower hname o.directive.isWordChar_of_mem_name⟩

/-- What is typed for a directive holds letters, digits and three marks. -/
theorem Occurrence.StandsBefore.mem_typed {o : Occurrence} {rest : List Char}
    (h : o.StandsBefore rest) {c : Char} (hc : c ∈ o.typed) :
    isWordChar c = true ∨ c = ':' ∨ c = '-' := by
  obtain ⟨name, hkeyword, hname⟩ := h.exists_name
  rw [typed, hkeyword, List.append_assoc, List.mem_append, List.singleton_append,
    List.mem_cons] at hc
  rcases hc with hc | rfl | hc
  · exact .inl (hname c hc)
  · exact .inr (.inl rfl)
  · exact (h.value.isWordChar_or_dash c hc).imp id .inr

/-- A directive is read from the front of a text exactly when it stands there. -/
theorem ofFront?_eq_some_iff {d : Directive} {cs : List Char} {o : Occurrence} :
    Occurrence.ofFront? d cs = some o ↔
      o.directive = d ∧ ∃ rest, cs = o.typed ++ rest ∧ o.StandsBefore rest := by
  constructor
  · intro h
    obtain ⟨after, hafter, hvalue⟩ := Option.bind_eq_some_iff.mp h
    obtain ⟨keyword, hlower, rfl⟩ := dropFolded?_eq_some_iff.mp hafter
    obtain ⟨value, htake, rfl⟩ := Option.map_eq_some_iff.mp hvalue
    obtain ⟨rest, rfl, hadmits⟩ := take?_eq_some_iff.mp htake
    have hlen : d.keyword.length = keyword.length := by
      rw [← hlower, asciiLower, List.length_map]
    have hfront : (keyword ++ (value ++ rest)).take d.keyword.length = keyword := by
      rw [hlen, List.take_left]
    rw [hfront]
    exact ⟨rfl, rest, by simp [Occurrence.typed], hlower, hadmits⟩
  · intro h
    obtain ⟨rfl, rest, rfl, hlower, hadmits⟩ := h
    obtain ⟨d, keyword, value⟩ := o
    have hdrop : dropFolded? d.keyword (keyword ++ value ++ rest) = some (value ++ rest) := by
      rw [dropFolded?_eq_some_iff]
      exact ⟨keyword, hlower, by simp⟩
    have htake : d.form.take? (value ++ rest) = some value :=
      take?_eq_some_iff.mpr ⟨rest, rfl, hadmits⟩
    have hlen : d.keyword.length = keyword.length := by
      rw [← hlower, asciiLower, List.length_map]
    have hfront : (keyword ++ value ++ rest).take d.keyword.length = keyword := by
      rw [hlen, List.append_assoc, List.take_left]
    simp only [Occurrence.ofFront?, Occurrence.typed, hdrop, Option.bind_some, htake,
      Option.map_some, hfront]

/-- No two directives stand at the front of a text. -/
theorem Occurrence.StandsBefore.unique {o p : Occurrence} {a b : List Char}
    (ho : o.StandsBefore a) (hp : p.StandsBefore b) (h : o.typed ++ a = p.typed ++ b) :
    o = p ∧ a = b := by
  have hkind : o.directive = p.directive := by
    apply Directive.eq_of_keyword_append
    rw [← ho.keyword, ← hp.keyword]
    have hlower := congrArg asciiLower h
    simp only [Occurrence.typed, asciiLower_append, List.append_assoc] at hlower
    exact hlower
  have hfront : Occurrence.ofFront? o.directive (o.typed ++ a) = some o :=
    ofFront?_eq_some_iff.mpr ⟨rfl, a, rfl, ho⟩
  have hfront' : Occurrence.ofFront? o.directive (o.typed ++ a) = some p :=
    ofFront?_eq_some_iff.mpr ⟨hkind.symm, b, h, hp⟩
  obtain rfl : o = p := Option.some.inj (hfront.symm.trans hfront')
  exact ⟨rfl, List.append_cancel_left h⟩

theorem nextOccurrence?_eq_some_iff {done : List Directive} {cs : List Char} {o : Occurrence} :
    nextOccurrence? done cs = some o ↔
      o.directive ∉ done ∧ ∃ rest, cs = o.typed ++ rest ∧ o.StandsBefore rest := by
  have hsound : ∀ {p : Occurrence}, nextOccurrence? done cs = some p →
      p.directive ∉ done ∧ ∃ rest, cs = p.typed ++ rest ∧ p.StandsBefore rest := by
    intro p h
    obtain ⟨d, -, hd⟩ := List.exists_of_findSome?_eq_some h
    split at hd
    · simp at hd
    · rename_i hnew
      obtain ⟨rfl, hstands⟩ := ofFront?_eq_some_iff.mp hd
      exact ⟨hnew, hstands⟩
  constructor
  · exact hsound
  · intro h
    obtain ⟨hnew, rest, rfl, hstands⟩ := h
    cases hnext : nextOccurrence? done (o.typed ++ rest) with
    | none =>
      have := List.findSome?_eq_none_iff.mp hnext o.directive (Directive.mem_all _)
      rw [if_neg hnew, ofFront?_eq_some_iff.mpr ⟨rfl, rest, rfl, hstands⟩] at this
      cases this
    | some p =>
      obtain ⟨-, rest', heq, hstands'⟩ := hsound hnext
      rw [(hstands.unique hstands' heq).1]

theorem nextOccurrence?_eq_none_iff {done : List Directive} {cs : List Char} :
    nextOccurrence? done cs = none ↔
      ∀ (o : Occurrence) (rest : List Char), cs = o.typed ++ rest → o.StandsBefore rest →
        o.directive ∈ done := by
  rw [Option.eq_none_iff_forall_ne_some]
  constructor
  · intro h o rest hcs hstands
    by_cases hnew : o.directive ∈ done
    · exact hnew
    · exact absurd (nextOccurrence?_eq_some_iff.mpr ⟨hnew, rest, hcs, hstands⟩) (h o)
  · intro h o hnext
    obtain ⟨hnew, rest, hcs, hstands⟩ := nextOccurrence?_eq_some_iff.mp hnext
    exact hnew (h o rest hcs hstands)

end SiteSearch.Query
