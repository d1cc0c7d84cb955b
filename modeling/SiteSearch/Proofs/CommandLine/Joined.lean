import SiteSearch.CommandLine.Run
import SiteSearch.Proofs.Query.Wordwise

/-!
# Queries in parts

The words of a command line are joined by spaces, and only the words of a query matter. So it does
not matter either whether several words were given as one argument or each on its own
(`parse_eq_of_words_eq`).
-/

namespace SiteSearch.CommandLine

open SiteSearch.Text SiteSearch.Query

/-- The parts of an argument between its spaces. Where two spaces stand side by side, and where one
stands at an end, there is an empty part. -/
def partsAtSpaces (arg : String) : List String := (arg.toList.splitOn ' ').map String.ofList

/-- The words of texts, one text after the other. -/
def wordsOfAll (texts : List String) : List (List Char) :=
  texts.flatMap fun text => words text.toList

theorem wordsOfAll_cons (text : String) (texts : List String) :
    wordsOfAll (text :: texts) = words text.toList ++ wordsOfAll texts := List.flatMap_cons

theorem wordsOfAll_append (texts more : List String) :
    wordsOfAll (texts ++ more) = wordsOfAll texts ++ wordsOfAll more := List.flatMap_append

/-- Joining by spaces keeps the words. -/
theorem words_intercalate (texts : List String) :
    words (" ".intercalate texts).toList = wordsOfAll texts := by
  induction texts with
  | nil => rfl
  | cons text texts ih =>
    cases texts with
    | nil => rw [String.intercalate_singleton, wordsOfAll_cons, wordsOfAll, List.flatMap_nil,
        List.append_nil]
    | cons next texts =>
      have hspace : " ".toList = [' '] := rfl
      have hblank : isBlank ' ' = true := by decide
      rw [String.intercalate_cons_cons, String.toList_append, String.toList_append, hspace,
        List.append_assoc, List.singleton_append, words_append (by simp [hblank]),
        words_cons_blank hblank, ih, ← wordsOfAll_cons]

theorem wordsOfAll_partsAtSpaces (arg : String) :
    wordsOfAll (partsAtSpaces arg) = words arg.toList := by
  have hjoined : (" ".intercalate (partsAtSpaces arg)).toList = arg.toList := by
    have hchars : (partsAtSpaces arg).map String.toList = arg.toList.splitOn ' ' := by
      simp [partsAtSpaces, Function.comp_def]
    rw [String.toList_intercalate, hchars]
    exact List.intercalate_splitOn ' '
  rw [← words_intercalate, hjoined]

/-- Empty texts have no words. -/
theorem wordsOfAll_filter (texts : List String) :
    wordsOfAll (texts.filter (· ≠ "")) = wordsOfAll texts := by
  induction texts with
  | nil => rfl
  | cons text texts ih =>
    by_cases hempty : text = ""
    · subst hempty
      rw [List.filter_cons_of_neg (by simp), ih, wordsOfAll_cons]
      rfl
    · rw [List.filter_cons_of_pos (by simpa using hempty), wordsOfAll_cons, wordsOfAll_cons, ih]

/-- Queries with the same words are read alike. So are a query and the query with its blanks
collapsed. And cutting an argument at its spaces, with or without the empty parts, changes no plan
and nothing of what is explained. -/
theorem parse_eq_of_words_eq :
    (∀ a b : String, words a.toList = words b.toList → parse a = parse b) ∧
    (∀ query, parse (collapseBlanks query) = parse query) ∧
    ∀ (args : SearchArguments) (prior later parts : List String) (arg : String),
      parts.filter (· ≠ "") = (partsAtSpaces arg).filter (· ≠ "") →
        let whole := { args with words := prior ++ arg :: later }
        let cut := { args with words := prior ++ parts ++ later }
        (∀ options enabled,
          Plan.prepare cut.query options enabled = Plan.prepare whole.query options enabled) ∧
        ∀ s, explain s cut = explain s whole := by
  have hparse : ∀ a b : String, words a.toList = words b.toList → parse a = parse b := by
    intro a b hwords
    rw [parse_eq_of_words, parse_eq_of_words, hwords]
  refine ⟨hparse, ?_, ?_⟩
  · intro query
    apply hparse
    rw [collapseBlanks, String.toList_ofList, words_collapse]
  · intro args prior later parts arg hparts whole cut
    have hwords : wordsOfAll parts = words arg.toList := by
      rw [← wordsOfAll_filter, hparts, wordsOfAll_filter, wordsOfAll_partsAtSpaces]
    have hquery : parse cut.query = parse whole.query := by
      apply hparse
      rw [SearchArguments.query, SearchArguments.query, words_intercalate, words_intercalate,
        wordsOfAll_append, wordsOfAll_append, wordsOfAll_append, wordsOfAll_cons, hwords,
        List.append_assoc]
    have hprepare : ∀ options enabled,
        Plan.prepare cut.query options enabled = Plan.prepare whole.query options enabled := by
      intro options enabled
      rw [Plan.prepare, Plan.prepare, hquery]
    exact ⟨hprepare, fun s => hprepare _ _⟩

/-- An argument with spaces at its front and side by side. -/
theorem parse_eq_of_words_eq_hall :
    parse "\thall  hire" = parse "hall hire" ∧
      explain {} { words := ["year:2024", "type:file", "hall"] } =
        explain {} { words := ["year:2024", " type:file  hall"] } := by
  have hparts : ["type:file", "hall"].filter (· ≠ "") =
      (partsAtSpaces " type:file  hall").filter (· ≠ "") := by decide
  obtain ⟨hparse, -, hcut⟩ := parse_eq_of_words_eq
  exact ⟨hparse _ _ (by decide), (hcut { words := [] } ["year:2024"] [] _ _ hparts).2 {}⟩

end SiteSearch.CommandLine
