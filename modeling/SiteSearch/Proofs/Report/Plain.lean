import SiteSearch.Report
import SiteSearch.Proofs.Text.Lines
import SiteSearch.Proofs.Text.Substituted

/-!
# Titles and contents in print

The engine marks the words found, and what is printed of a title or a content has stars in the
place of the marks. The two marks are replaced one after the other, and blanks are collapsed last.
Neither brings a mark about: a mark starts nowhere within the other one, a star is no part of a
mark, and no blank is. So it is as if one pass had replaced both marks, and what was printed once
is not changed by printing it again (`plainText_unmarked`).
-/

namespace SiteSearch.Report

open SiteSearch.Text

/-- What the engine puts before and after the words found. -/
def marks : List (List Char) := [Request.markStart.toList, Request.markEnd.toList]

theorem prefixFree_marks : PrefixFree marks where
  ne_nil := by decide
  eq_of_starts := by decide

theorem notMem_emphasis_of_mem_marks : ∀ mark ∈ marks, ∀ c ∈ mark, c ∉ emphasis := by
  have hall : marks.all (fun mark => mark.all fun c => c ∉ emphasis) = true := by decide
  simpa only [List.all_eq_true, decide_eq_true_eq] using hall

theorem visible_of_mem_marks : ∀ mark ∈ marks, ∀ c ∈ mark, isBlank c = false := by
  have hall : marks.all (fun mark => mark.all fun c => isBlank c = false) = true := by decide
  simpa only [List.all_eq_true, decide_eq_true_eq] using hall

/-- Both marks can be replaced in one pass. -/
theorem plain_eq_collapse (cs : List Char) :
    plain cs = collapse (substitute marks emphasis cs) := by
  have hstart : StartsOutside Request.markStart.toList Request.markEnd.toList := by decide
  have hend : StartsOutside Request.markEnd.toList emphasis := by decide
  have hfresh := notMem_emphasis_of_mem_marks Request.markEnd.toList (by simp [marks])
  rw [plain, substitute_substitute prefixFree_marks (by decide) hstart hend hfresh, marks]

theorem spaced_plain (cs : List Char) : Spaced (plain cs) := by
  rw [plain_eq_collapse]
  exact spaced_collapse _

theorem not_infix_plain (cs : List Char) : ∀ mark ∈ marks, ¬ mark <:+: plain cs := by
  intro mark hmark hinfix
  have hne := prefixFree_marks.ne_nil mark hmark
  have hfresh := notMem_emphasis_of_mem_marks mark hmark
  have hpass := substituted_substitute (r := emphasis) prefixFree_marks cs
  rw [plain_eq_collapse] at hinfix
  exact hpass.not_infix (by decide) hmark hne hfresh
    (infix_of_infix_collapse (visible_of_mem_marks mark hmark) hinfix)

/-- A text without marks is only collapsed. -/
theorem plain_of_unmarked {cs : List Char} (h : ∀ mark ∈ marks, ¬ mark <:+: cs) :
    plain cs = collapse cs := by
  rw [plain_eq_collapse, substitute_of_not_infix h]

theorem plain_plain (cs : List Char) : plain (plain cs) = plain cs := by
  rw [plain_of_unmarked (not_infix_plain cs), plain_eq_collapse, collapse_collapse]

theorem toList_plainText (s : String) : (plainText s).toList = plain s.toList := by
  rw [plainText, String.toList_ofList]

/-- Where lines end at blanks other than the space, none ends in what is printed of a text. -/
theorem unbroken_plainText {ends : Char → Bool} (h : EndsLines ends) (s : String) :
    Unbroken ends (plainText s).toList := by
  rw [toList_plainText]
  exact h.unbroken (spaced_plain s.toList).only_spaces

/-- What is printed of a text holds no mark and no line break, and its blanks are single spaces
between words. It is what one pass over the text comes to that puts a star for each mark of either
kind, with the blanks collapsed. Printed again, it stays the same. -/
theorem plainText_unmarked (s : String) :
    let printed := (plainText s).toList
    (∀ mark ∈ marks, ¬ mark <:+: printed) ∧ Unbroken isLineBreak printed ∧ Spaced printed ∧
      (∃ starred, (∀ out, Substituted marks emphasis s.toList out ↔ out = starred) ∧
        printed = collapse starred) ∧
      plainText (plainText s) = plainText s := by
  intro printed
  have hprinted : printed = plain s.toList := toList_plainText s
  have hunbroken : Unbroken isLineBreak printed := unbroken_plainText endsLines_isLineBreak s
  have hpass : ∀ out, Substituted marks emphasis s.toList out ↔
      out = substitute marks emphasis s.toList := by
    intro out
    rw [← substitute_eq_iff prefixFree_marks, eq_comm]
  have hagain : plainText (plainText s) = plainText s := by
    rw [← String.toList_inj, toList_plainText, toList_plainText, plain_plain]
  rw [hprinted] at hunbroken ⊢
  exact ⟨not_infix_plain s.toList, hunbroken, spaced_plain s.toList,
    ⟨_, hpass, plain_eq_collapse s.toList⟩, hagain⟩

/-- Marks within marks, and one cut by a line feed: a star is left where the inner one stood. -/
example : plain "<<mark>mark> </<mark>mark>\n<ma\nrk> </mark>".toList =
    "<*mark> </*mark> <ma rk> *".toList := by decide

end SiteSearch.Report
