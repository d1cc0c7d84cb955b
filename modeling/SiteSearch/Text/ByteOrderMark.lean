/-!
# The byte order mark

Some programs put an invisible character before a text. It is no part of the text.
-/

namespace SiteSearch.Text

def byteOrderMark : Char := .ofNat 0xfeff

/-- A text without the mark before it. -/
def dropMark (text : String) : String :=
  match text.toList with
  | c :: cs => if c = byteOrderMark then .ofList cs else text
  | [] => text

end SiteSearch.Text
