/-!
# Quoted values in filters

A filter quotes its values. Inside the quotes a backslash makes the next character a plain
one, so a value escapes quotes and backslashes.
-/

namespace SiteSearch.Filter

/-- The value with a backslash before every quote and every backslash. -/
def escape (cs : List Char) : List Char :=
  cs.flatMap fun c => if c = '"' ∨ c = '\\' then ['\\', c] else [c]

/-- The value that a text between quotes stands for; nothing when the text would end the
quotes, or when it would hide the one that ends them. -/
def unescape? : List Char → Option (List Char)
  | [] => some []
  | '\\' :: c :: cs => (unescape? cs).map (c :: ·)
  | c :: cs => if c = '"' ∨ c = '\\' then none else (unescape? cs).map (c :: ·)

def escapeValue (s : String) : String := .ofList (escape s.toList)

/-- A value between quotes. -/
def quoted (s : String) : String := "\"" ++ escapeValue s ++ "\""

theorem escape_cons (c : Char) (cs : List Char) :
    escape (c :: cs) = (if c = '"' ∨ c = '\\' then ['\\', c] else [c]) ++ escape cs := by
  simp [escape]

/-- What is escaped can be read back. -/
theorem unescape?_escape (cs : List Char) : unescape? (escape cs) = some cs := by
  induction cs with
  | nil => rfl
  | cons c cs ih =>
    rw [escape_cons]
    split
    · simp [unescape?, ih]
    · rename_i h
      have hc : c ≠ '"' ∧ c ≠ '\\' := by simpa using h
      simp only [List.singleton_append]
      rw [unescape?]
      · simp [hc, ih]
      · intro d ds hd _
        exact absurd hd hc.2

end SiteSearch.Filter
