import SiteSearch.Proofs.Text.Lines
import SiteSearch.Text.LetterCase

/-!
# Capital letters and blanks

A blank is its own capital form, and it is the capital form of nothing else. So a text has as many
line ends with its first letter made capital as it has without (`countP_capitalize`).
-/

namespace SiteSearch.Text

/-- The code points of blanks, as ranges. -/
def blankRanges : List (Nat × Nat) := [(0x09, 0x0d), (0x20, 0x20), (0x85, 0x85), (0xa0, 0xa0),
  (0x1680, 0x1680), (0x2000, 0x200a), (0x2028, 0x2029), (0x202f, 0x202f), (0x205f, 0x205f),
  (0x3000, 0x3000)]

theorem isBlank_iff {c : Char} :
    isBlank c = true ↔ ∃ range ∈ blankRanges, range.1 ≤ c.toNat ∧ c.toNat ≤ range.2 := by
  simp only [isBlank, blankRanges, List.exists_mem_cons_iff, List.not_mem_nil, false_and,
    exists_false, or_false, Bool.or_eq_true, Bool.and_eq_true, decide_eq_true_eq, beq_iff_eq]
  omega

theorem pos_of_mem_blankRanges : ∀ range ∈ blankRanges, 0 < range.1 := by decide

/-- Numbers that are no code points stand for the character zero, which is no blank. -/
theorem exists_range_of_isBlank_ofNat {n : Nat} (h : isBlank (.ofNat n) = true) :
    ∃ range ∈ blankRanges, range.1 ≤ n ∧ n ≤ range.2 := by
  by_cases hvalid : n.isValidChar
  · have hnat : (Char.ofNat n).toNat = n := by
      rw [Char.ofNat, dif_pos hvalid]
      rfl
    rwa [isBlank_iff, hnat] at h
  · have hzero : Char.ofNat n = Char.ofNat 0 := by
      rw [Char.ofNat, dif_neg hvalid]
      rfl
    rw [hzero] at h
    exact absurd h (by decide)

/-- Neither the letters of a run nor their capitals are blanks. -/
theorem blankRanges_of_mem_capitalRuns : ∀ run ∈ capitalRuns.toList, ∀ range ∈ blankRanges,
    (range.2 < run.low ∨ run.high < range.1) ∧
      (range.2 < run.low + run.shift ∨ run.high + run.shift < range.1) := by
  decide +kernel

theorem blankRanges_of_mem_capitalSequences : ∀ entry ∈ capitalSequences,
    ∀ n ∈ entry.1 :: entry.2, ∀ range ∈ blankRanges, ¬ (range.1 ≤ n ∧ n ≤ range.2) := by
  decide +kernel

theorem capitals_of_isBlank {c : Char} (h : isBlank c = true) : capitals c = [c] := by
  obtain ⟨range, hrange, hc⟩ := isBlank_iff.mp h
  have hsequences : capitalSequences.lookup c.toNat = none := by
    rw [List.lookup_eq_none_iff]
    intro entry hentry
    rw [bne_iff_ne]
    intro heq
    apply blankRanges_of_mem_capitalSequences entry hentry entry.1 List.mem_cons_self range hrange
    rwa [← heq]
  have hruns : capitalRuns.findSome? (·.partner? c.toNat) = none := by
    rw [← Array.findSome?_toList, List.findSome?_eq_none_iff]
    intro run hrun
    obtain ⟨hletters, -⟩ := blankRanges_of_mem_capitalRuns run hrun range hrange
    rw [CaseRun.partner?, if_neg (by omega)]
  rw [capitals, hsequences, partner, hruns]

theorem eq_of_isBlank_of_mem_capitals {c d : Char} (hd : d ∈ capitals c)
    (h : isBlank d = true) : d = c := by
  rw [capitals] at hd
  cases hsequence : capitalSequences.lookup c.toNat with
  | some ns =>
    simp only [hsequence] at hd
    obtain ⟨n, hn, rfl⟩ := List.mem_map.mp hd
    obtain ⟨range, hrange, hwithin⟩ := exists_range_of_isBlank_ofNat h
    obtain ⟨before, after, hentry, -⟩ := List.lookup_eq_some_iff.mp hsequence
    have hmem : (c.toNat, ns) ∈ capitalSequences := by simp [hentry]
    exact absurd hwithin (blankRanges_of_mem_capitalSequences _ hmem n
      (List.mem_cons_of_mem _ hn) range hrange)
  | none =>
    simp only [hsequence, List.mem_singleton] at hd
    rw [partner] at hd
    cases hrun : capitalRuns.findSome? (·.partner? c.toNat) with
    | none => simpa only [hrun] using hd
    | some n =>
      simp only [hrun] at hd
      rw [hd] at h
      obtain ⟨range, hrange, hwithin⟩ := exists_range_of_isBlank_ofNat h
      rw [← Array.findSome?_toList] at hrun
      obtain ⟨run, hmem, hpartner⟩ := List.exists_of_findSome?_eq_some hrun
      obtain ⟨-, hcapitals⟩ := blankRanges_of_mem_capitalRuns run hmem range hrange
      have hpos := pos_of_mem_blankRanges range hrange
      rw [CaseRun.partner?] at hpartner
      split at hpartner
      · obtain rfl := Option.some.inj hpartner
        omega
      · cases hpartner

section Ends

variable {ends : Char → Bool}

theorem countP_capitals (h : EndsLines ends) (c : Char) :
    (capitals c).countP ends = [c].countP ends := by
  by_cases hc : isBlank c = true
  · rw [capitals_of_isBlank hc]
  · have hnone : ∀ d ∈ capitals c, ends d = false := by
      intro d hd
      by_contra hends
      have hblank := h.blank d (by simpa using hends)
      rw [eq_of_isBlank_of_mem_capitals hd hblank] at hblank
      exact hc hblank
    have hself : ends c = false := by
      by_contra hends
      exact hc (h.blank c (by simpa using hends))
    rw [countP_eq_zero_iff.mpr hnone, List.countP_singleton, hself]
    rfl

theorem countP_capitalize (h : EndsLines ends) (s : String) :
    (capitalize s).toList.countP ends = s.toList.countP ends := by
  rw [capitalize]
  cases s.toList with
  | nil => rfl
  | cons c cs =>
    rw [String.toList_ofList, List.countP_append, countP_capitals h, ← List.countP_append,
      List.singleton_append]

end Ends

end SiteSearch.Text
