/-!
# Substituting in text

One pass from left to right puts a replacement in the place of every occurrence of some
patterns. What was put in is not looked at again.
-/

namespace SiteSearch.Text

/-- A text of which the first `inside` characters were replaced already, with every further
occurrence of a pattern replaced. Where several patterns match, the first in the list does.
No pattern is empty. -/
def substituteFrom (patterns : List (List Char)) (replacement : List Char) :
    (inside : Nat) → List Char → List Char
  | _, [] => []
  | inside + 1, _ :: cs => substituteFrom patterns replacement inside cs
  | 0, c :: cs =>
    match patterns.find? (·.isPrefixOf (c :: cs)) with
    | some pattern =>
      replacement ++ substituteFrom patterns replacement (pattern.length - 1) cs
    | none => c :: substituteFrom patterns replacement 0 cs

/-- A text with every occurrence of a pattern replaced. -/
def substitute (patterns : List (List Char)) (replacement cs : List Char) : List Char :=
  substituteFrom patterns replacement 0 cs

end SiteSearch.Text
