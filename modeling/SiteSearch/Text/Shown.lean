import SiteSearch.Text.Unprintable

/-!
# Strings in messages

A string is shown between quotes, so that blanks at its ends can be seen. Quotes, backslashes,
line ends, tabs and NUL have short escapes; whatever else cannot be shown alone is given by
its code point in hexadecimal.
-/

namespace SiteSearch.Text

def shownChar (c : Char) : List Char :=
  if c = '"' then ['\\', '"']
  else if c = '\\' then ['\\', '\\']
  else if c = '\n' then ['\\', 'n']
  else if c = '\r' then ['\\', 'r']
  else if c = '\t' then ['\\', 't']
  else if c.toNat = 0 then ['\\', '0']
  else if isUnprintable c then '\\' :: 'u' :: '\x7b' :: (Nat.toDigits 16 c.toNat ++ ['\x7d'])
  else [c]

def shown (s : String) : String := .ofList ('"' :: (s.toList.flatMap shownChar ++ ['"']))

end SiteSearch.Text
