import SiteSearch.Json.Basic

/-!
# Writing JSON

The compact form has no spaces. The laid-out form puts every element and member on a line of
its own, two spaces deeper than what holds it, and writes an empty array or object on one
line. In both, strings escape the quote, the backslash and the characters below U+0020, and
nothing else.
-/

namespace SiteSearch.Json

/-- A hexadecimal digit, with small letters. -/
def hexDigit (n : Nat) : Char := Nat.digitChar n

/-- One character as it stands in a string. -/
def escapeChar (c : Char) : List Char :=
  if c = '"' then ['\\', '"']
  else if c = '\\' then ['\\', '\\']
  else if c = '\x08' then ['\\', 'b']
  else if c = '\x0c' then ['\\', 'f']
  else if c = '\n' then ['\\', 'n']
  else if c = '\r' then ['\\', 'r']
  else if c = '\t' then ['\\', 't']
  else if c.toNat < 0x20 then
    ['\\', 'u', '0', '0', hexDigit (c.toNat / 16), hexDigit (c.toNat % 16)]
  else [c]

def quote (s : String) : String :=
  .ofList ('"' :: (s.toList.flatMap escapeChar ++ ['"']))

mutual

def compact : Json → String
  | .null => "null"
  | .bool true => "true"
  | .bool false => "false"
  | .number n => n.text
  | .string s => quote s
  | .array [] => "[]"
  | .array (e :: es) => "[" ++ compact e ++ compactElements es ++ "]"
  | .object [] => "\x7b\x7d"
  | .object ((n, v) :: ms) =>
    "\x7b" ++ quote n ++ ":" ++ compact v ++ compactMembers ms ++ "\x7d"

/-- Further elements, each after a comma. -/
def compactElements : List Json → String
  | [] => ""
  | e :: es => "," ++ compact e ++ compactElements es

/-- Further members, each after a comma. -/
def compactMembers : List (String × Json) → String
  | [] => ""
  | (n, v) :: ms => "," ++ quote n ++ ":" ++ compact v ++ compactMembers ms

end

/-- A new line, indented for a depth. -/
def newLine (depth : Nat) : String := .ofList ('\n' :: List.replicate (2 * depth) ' ')

mutual

/-- The laid-out form of a value that stands at a depth. -/
def prettyAt (depth : Nat) : Json → String
  | .null => "null"
  | .bool true => "true"
  | .bool false => "false"
  | .number n => n.text
  | .string s => quote s
  | .array [] => "[]"
  | .array (e :: es) =>
    "[" ++ newLine (depth + 1) ++ prettyAt (depth + 1) e ++ prettyElements (depth + 1) es ++
      newLine depth ++ "]"
  | .object [] => "\x7b\x7d"
  | .object ((n, v) :: ms) =>
    "\x7b" ++ newLine (depth + 1) ++ quote n ++ ": " ++ prettyAt (depth + 1) v ++
      prettyMembers (depth + 1) ms ++ newLine depth ++ "\x7d"

/-- Further elements, each on a line of its own. -/
def prettyElements (depth : Nat) : List Json → String
  | [] => ""
  | e :: es => "," ++ newLine depth ++ prettyAt depth e ++ prettyElements depth es

/-- Further members, each on a line of its own. -/
def prettyMembers (depth : Nat) : List (String × Json) → String
  | [] => ""
  | (n, v) :: ms =>
    "," ++ newLine depth ++ quote n ++ ": " ++ prettyAt depth v ++ prettyMembers depth ms

end

/-- The laid-out form. -/
def pretty (json : Json) : String := prettyAt 0 json

end SiteSearch.Json
