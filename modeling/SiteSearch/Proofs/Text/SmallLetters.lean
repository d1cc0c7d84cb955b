import SiteSearch.Proofs.Text.Ascii
import SiteSearch.Text.LetterCase

/-!
# Small letters and ASCII

Texts of ASCII are made small letter by letter. Outside ASCII only two characters have a small form
in it, and those are an `i` and a `k`; so a word without these two letters is the small form of
nothing but its own casings (`lower_eq_iff`).
-/

namespace SiteSearch.Text

/-- The first run of capital letters is that of ASCII, and the others start beyond it. -/
theorem exists_smallRuns_eq_cons : ∃ runs,
    smallRuns.toList = ⟨0x41, 0x5a, 1, 32⟩ :: runs ∧ ∀ run ∈ runs, 128 ≤ run.low :=
  ⟨smallRuns.toList.tail, rfl, by decide +kernel⟩

theorem smalls_of_isAscii {c : Char} (h : IsAscii c) : smalls c = [c.toLower] := by
  obtain ⟨runs, hruns, hbeyond⟩ := exists_smallRuns_eq_cons
  have hnone : runs.findSome? (·.partner? c.toNat) = none := by
    rw [List.findSome?_eq_none_iff]
    intro run hrun
    have hlow := hbeyond run hrun
    rw [IsAscii] at h
    rw [CaseRun.partner?, if_neg (by omega)]
  have hdot : c.toNat ≠ 0x130 := by
    rw [IsAscii] at h
    omega
  have hfirst :
      ((CaseRun.partner? ⟨0x41, 0x5a, 1, 32⟩ c.toNat).map Char.ofNat).getD c = c.toLower :=
    @forall_isAscii (fun c =>
      ((CaseRun.partner? ⟨0x41, 0x5a, 1, 32⟩ c.toNat).map Char.ofNat).getD c = c.toLower)
      (by decide) c h
  rw [smalls, if_neg hdot, partner, ← Array.findSome?_toList, hruns, List.findSome?_cons, hnone,
    ← hfirst]
  cases CaseRun.partner? ⟨0x41, 0x5a, 1, 32⟩ c.toNat <;> rfl

theorem lowerFrom_of_isAscii {cs : List Char} (h : ∀ c ∈ cs, IsAscii c) (afterCase : Bool) :
    lowerFrom afterCase cs = asciiLower cs := by
  induction cs generalizing afterCase with
  | nil => rfl
  | cons c cs ih =>
    have hc := h c List.mem_cons_self
    have hsigma : c.toNat ≠ 0x3a3 := by
      intro heq
      rw [IsAscii, heq] at hc
      omega
    have hrest := ih fun d hd => h d (List.mem_cons_of_mem _ hd)
    simp [lowerFrom, hsigma, smalls_of_isAscii hc, hrest, asciiLower]

theorem lower_of_isAscii {s : String} (h : s.toList.all (IsAscii ·) = true) :
    lower s = foldCase s := by
  have hascii : ∀ c ∈ s.toList, IsAscii c := by simpa using h
  rw [lower, lowerFrom_of_isAscii hascii, foldCase]

/-- Of the runs of capital letters one is that of ASCII and one is the Kelvin sign; all others lead
to characters outside ASCII. -/
theorem capitals_of_mem_smallRuns : ∀ run ∈ smallRuns.toList,
    (run.low = 0x41 ∧ run.high = 0x5a) ∨
      (run.low = 0x212a ∧ run.high = 0x212a ∧ run.shift = -8383) ∨
      (128 ≤ run.low + run.shift ∧
        (run.high + run.shift < 0xd800 ∨
          (0xe000 ≤ run.low + run.shift ∧ run.high + run.shift < 0x110000))) := by
  decide +kernel

/-- What has a small form in ASCII is in ASCII itself, but for two characters. -/
theorem isAscii_of_mem_smalls {c d : Char} (hd : d ∈ smalls c) (hascii : IsAscii d) (hi : d ≠ 'i')
    (hk : d ≠ 'k') : IsAscii c := by
  rw [smalls] at hd
  split at hd
  · simp only [List.mem_cons, List.not_mem_nil, or_false] at hd
    rcases hd with rfl | rfl
    · exact absurd rfl hi
    · exact absurd hascii (by decide)
  · rw [List.mem_singleton] at hd
    rw [hd, partner] at hascii hk
    cases hrun : smallRuns.findSome? (·.partner? c.toNat) with
    | none => simpa only [hrun] using hascii
    | some n =>
      simp only [hrun] at hascii hk
      rw [← Array.findSome?_toList] at hrun
      obtain ⟨run, hmem, hpartner⟩ := List.exists_of_findSome?_eq_some hrun
      rw [CaseRun.partner?] at hpartner
      split at hpartner
      · rename_i hrange
        obtain rfl := Option.some.inj hpartner
        rcases capitals_of_mem_smallRuns run hmem with hletters | hkelvin | hbeyond
        · rw [IsAscii]
          omega
        · have hc : c.toNat = 0x212a := by omega
          rw [hc, hkelvin.2.2] at hk
          exact absurd rfl hk
        · have hvalid : ((c.toNat : Int) + run.shift).toNat.isValidChar := by
            rw [Nat.isValidChar]
            omega
          rw [IsAscii, Char.ofNat, dif_pos hvalid] at hascii
          have hnat : ((c.toNat : Int) + run.shift).toNat < 128 := hascii
          omega
      · cases hpartner

/-- The small form of a text holds a small form of each of its characters, or of a sigma at the end
of a word. -/
theorem exists_mem_lowerFrom {cs : List Char} {afterCase : Bool} {c : Char} (hc : c ∈ cs) :
    ∃ d ∈ lowerFrom afterCase cs, d ∈ smalls c ∨ d = .ofNat 0x3c2 := by
  induction cs generalizing afterCase with
  | nil => cases hc
  | cons e cs ih =>
    rw [lowerFrom]
    rcases List.mem_cons.mp hc with rfl | hc
    · split
      · exact ⟨_, by simp, .inr rfl⟩
      · obtain ⟨d, ds, hsmalls⟩ : ∃ d ds, smalls c = d :: ds := by
          rw [smalls]
          split <;> exact ⟨_, _, rfl⟩
        exact ⟨d, by simp [hsmalls], .inl (by simp [hsmalls])⟩
    · obtain ⟨d, hd, hsmall⟩ := ih hc
      exact ⟨d, List.mem_append_right _ hd, hsmall⟩

/-- A text has a small form of ASCII letters other than `i` and `k` only if it is a casing of it. -/
theorem lower_eq_iff {s word : String}
    (h : word.toList.all (fun d => IsAscii d ∧ d ≠ 'i' ∧ d ≠ 'k') = true) :
    lower s = word ↔ foldCase s = word := by
  have hword : ∀ d ∈ word.toList, IsAscii d ∧ d ≠ 'i' ∧ d ≠ 'k' := by simpa using h
  constructor
  · intro h
    have hchars : lowerFrom false s.toList = word.toList := by
      rw [← h, lower, String.toList_ofList]
    have hascii : ∀ c ∈ s.toList, IsAscii c := by
      intro c hc
      obtain ⟨d, hd, hsmall⟩ := @exists_mem_lowerFrom _ false _ hc
      obtain ⟨hdascii, hi, hk⟩ := hword d (hchars ▸ hd)
      rcases hsmall with hsmall | rfl
      · exact isAscii_of_mem_smalls hsmall hdascii hi hk
      · exact absurd hdascii (by decide)
    rw [← lower_of_isAscii (by simpa using hascii), h]
  · intro h
    have hascii : ∀ c ∈ s.toList, IsAscii c := by
      intro c hc
      apply isAscii_of_toLower
      apply (hword c.toLower _).1
      rw [← h, foldCase, String.toList_ofList]
      exact List.mem_map_of_mem hc
    rw [lower_of_isAscii (by simpa using hascii), h]

end SiteSearch.Text
