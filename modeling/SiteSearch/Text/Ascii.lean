/-!
# ASCII letters, digits and words

Keywords and fixed names are compared without regard to the case of `A` to `Z`; letters
outside ASCII are left as they are, which is why the maps below are core's own, whose
classes know ASCII alone.
-/

namespace SiteSearch.Text

/-- The letters `A` to `Z` made small, everything else kept. -/
def asciiLower (cs : List Char) : List Char := cs.map Char.toLower

def foldCase (s : String) : String := .ofList (asciiLower s.toList)

/-- Equal but for the case of ASCII letters. -/
def sameFolded (s t : String) : Bool := foldCase s == foldCase t

/-- A letter, digit or underscore, all of ASCII. -/
def isWordChar (c : Char) : Bool := c.isAlphanum || c == '_'

def digitValue (c : Char) : Nat := c.toNat - '0'.toNat

/-- The value of a hexadecimal digit, in either case. -/
def hexDigit? (c : Char) : Option Nat :=
  if c.isDigit then some (digitValue c)
  else if 'a' ≤ c.toLower ∧ c.toLower ≤ 'f' then some (c.toLower.toNat - 'a'.toNat + 10)
  else none

/-- The number that a run of digits denotes, most significant digit first. -/
def digitsValue (cs : List Char) : Nat := cs.foldl (fun n c => 10 * n + digitValue c) 0

/-- What is left of a text after a lower-case word that it starts with in some case. -/
def dropFolded? : (word : List Char) → List Char → Option (List Char)
  | [], cs => some cs
  | _ :: _, [] => none
  | w :: ws, c :: cs => if c.toLower = w then dropFolded? ws cs else none

theorem asciiLower_append (a b : List Char) :
    asciiLower (a ++ b) = asciiLower a ++ asciiLower b := by
  simp [asciiLower]

/-- A word is found at the front exactly when the text is some casing of it and a rest. -/
theorem dropFolded?_eq_some_iff {word cs rest : List Char} :
    dropFolded? word cs = some rest ↔ ∃ typed, asciiLower typed = word ∧ cs = typed ++ rest := by
  induction word generalizing cs with
  | nil => simp [dropFolded?, asciiLower]
  | cons w ws ih =>
    cases cs with
    | nil =>
      simp only [dropFolded?, reduceCtorEq, false_iff, not_exists, not_and]
      intro t ht hcs
      cases t with
      | nil => simp [asciiLower] at ht
      | cons d t => simp at hcs
    | cons c cs =>
      simp only [dropFolded?]
      split
      · rename_i h
        rw [ih]
        constructor
        · rintro ⟨t, ht, rfl⟩
          exact ⟨c :: t, by simpa [asciiLower, h] using ht, rfl⟩
        · rintro ⟨t, ht, hcs⟩
          cases t with
          | nil => simp [asciiLower] at ht
          | cons d t =>
            simp only [List.cons_append, List.cons.injEq] at hcs
            simp only [asciiLower, List.map_cons, List.cons.injEq] at ht
            exact ⟨t, ht.2, hcs.2⟩
      · rename_i h
        simp only [reduceCtorEq, false_iff, not_exists, not_and]
        intro t ht hcs
        cases t with
        | nil => simp [asciiLower] at ht
        | cons d t =>
          simp only [List.cons_append, List.cons.injEq] at hcs
          simp only [asciiLower, List.map_cons, List.cons.injEq] at ht
          exact h (hcs.1 ▸ ht.1)

end SiteSearch.Text
