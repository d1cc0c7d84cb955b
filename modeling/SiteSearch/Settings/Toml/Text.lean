import SiteSearch.Text.Ascii

/-!
# Texts and keys in TOML

A text stands between double quotes, where a backslash starts an escape, or between single quotes,
where each character stands for itself. Between three quotes of either kind it may go over several
lines. A key is a text on one line or a bare word; points join keys that lead into tables.
-/

namespace SiteSearch.Settings.Toml

open SiteSearch.Text

/-- A text with a line feed alone at the end of each line. A return anywhere else stays. -/
def joinLineEnds : List Char → List Char
  | [] => []
  | '\r' :: '\n' :: cs => '\n' :: joinLineEnds cs
  | c :: cs => c :: joinLineEnds cs

/-- A blank within a line. -/
def isSpace (c : Char) : Bool := c == ' ' || c == '\t'

def skipSpaces (cs : List Char) : List Char := cs.dropWhile isSpace

/-- A control character, which may stand nowhere but as an escape; the tab is none. -/
def isControl (c : Char) : Bool := (c.toNat < 0x20 && c != '\t') || c.toNat == 0x7f

/-- A character of a key without quotes. -/
def isBareKeyChar (c : Char) : Bool := c.isAlphanum || c == '_' || c == '-'

/-- Reads items one after the other. An item is read at the front of a text, beside what was read
before it, and tells what is left and whether another item follows. The next `skip` characters
belong to an item that was read. Where another item follows, the text may not end. -/
def readItems? {σ : Type} (item? : σ → List Char → Option (σ × List Char × Bool)) :
    (skip : Nat) → σ → List Char → Option (σ × List Char)
  | _, _, [] => none
  | skip + 1, s, _ :: cs => readItems? item? skip s cs
  | 0, s, c :: cs =>
    match item? s (c :: cs) with
    | none => none
    | some (s, rest, false) => some (s, rest)
    | some (s, rest, true) => readItems? item? (cs.length - rest.length) s cs

/-! ## Texts -/

/-- The character of a code point given by hexadecimal digits. -/
def charOfHex? (digits : List Char) : Option Char :=
  (digits.foldl (fun n c => n.bind fun n => (hexDigit? c).map (16 * n + ·)) (some 0)).bind
    fun n => if h : n.isValidChar then some (Char.ofNatAux n h) else none

/-- The text that a quote ends, and what follows it. `run` holds the characters of the text, last
first, and `cs` what comes after the quote. A text over several lines is ended by three quotes, and
one or two more before them belong to it. -/
def ended? (quote : Char) (lines : Bool) (run cs : List Char) : Option (String × List Char) :=
  if lines then
    let quotes := quote :: cs.takeWhile (· == quote)
    if quotes.length < 3 then none
    else
      let inside := min quotes.length 5 - 3
      some (.ofList (quotes.take inside ++ run).reverse, (quote :: cs).drop (inside + 3))
  else some (.ofList run.reverse, cs)

/-- The rest of a text between double quotes and what follows it. A backslash at the end of a line
takes away all blanks and line ends up to the next character; `trimming` is where this goes on. -/
def readQuoted? (lines : Bool) :
    (trimming : Bool) → (run : List Char) → List Char → Option (String × List Char)
  | _, _, [] => none
  | trimming, run, c :: cs =>
    if trimming && (isSpace c || c == '\n') then readQuoted? lines true run cs
    else match c, cs with
      | '"', cs =>
        match ended? '"' lines run cs with
        | some done => some done
        | none => readQuoted? lines false ('"' :: run) cs
      | '\\', 'b' :: cs => readQuoted? lines false ('\x08' :: run) cs
      | '\\', 't' :: cs => readQuoted? lines false ('\t' :: run) cs
      | '\\', 'n' :: cs => readQuoted? lines false ('\n' :: run) cs
      | '\\', 'f' :: cs => readQuoted? lines false ('\x0c' :: run) cs
      | '\\', 'r' :: cs => readQuoted? lines false ('\r' :: run) cs
      | '\\', '"' :: cs => readQuoted? lines false ('"' :: run) cs
      | '\\', '\\' :: cs => readQuoted? lines false ('\\' :: run) cs
      | '\\', 'u' :: x₁ :: x₂ :: x₃ :: x₄ :: cs =>
        match charOfHex? [x₁, x₂, x₃, x₄] with
        | none => none
        | some x => readQuoted? lines false (x :: run) cs
      | '\\', 'U' :: x₁ :: x₂ :: x₃ :: x₄ :: x₅ :: x₆ :: x₇ :: x₈ :: cs =>
        match charOfHex? [x₁, x₂, x₃, x₄, x₅, x₆, x₇, x₈] with
        | none => none
        | some x => readQuoted? lines false (x :: run) cs
      | '\\', cs =>
        if lines && (skipSpaces cs).head? == some '\n' then readQuoted? lines true run cs
        else none
      | c, cs =>
        if isControl c && !(lines && c == '\n') then none
        else readQuoted? lines false (c :: run) cs

/-- The rest of a text between single quotes, without escapes, and what follows it. -/
def readLiteral? (lines : Bool) : (run : List Char) → List Char → Option (String × List Char)
  | _, [] => none
  | run, c :: cs =>
    if c = '\'' then
      match ended? '\'' lines run cs with
      | some done => some done
      | none => readLiteral? lines ('\'' :: run) cs
    else if isControl c && !(lines && c == '\n') then none
    else readLiteral? lines (c :: run) cs

/-- A text over several lines may start on the line after its quotes. -/
def skipLineEnd : List Char → List Char
  | '\n' :: cs => cs
  | cs => cs

/-- A text in quotes of any kind. -/
def readText? : List Char → Option (String × List Char)
  | '"' :: '"' :: '"' :: cs => readQuoted? true false [] (skipLineEnd cs)
  | '"' :: cs => readQuoted? false false [] cs
  | '\'' :: '\'' :: '\'' :: cs => readLiteral? true [] (skipLineEnd cs)
  | '\'' :: cs => readLiteral? false [] cs
  | _ => none

/-! ## Keys -/

/-- What a file may nest, be it values or keys, is less deep than this. -/
def depthLimit : Nat := 80

def readKey? : List Char → Option (String × List Char)
  | '"' :: cs => readQuoted? false false [] cs
  | '\'' :: cs => readLiteral? false [] cs
  | cs =>
    match cs.takeWhile isBareKeyChar with
    | [] => none
    | key => some (.ofList key, cs.dropWhile isBareKeyChar)

/-- One more of the keys that points join; `keys` holds those before, last first. -/
def nextKey? (keys : List String) (cs : List Char) : Option (List String × List Char × Bool) :=
  (readKey? (skipSpaces cs)).map fun (key, rest) =>
    match skipSpaces rest with
    | '.' :: rest => (key :: keys, rest, true)
    | rest => (key :: keys, rest, false)

/-- Keys joined by points, and what follows them and the blanks around them. -/
def readKeys? (cs : List Char) : Option (List String × List Char) :=
  match readItems? nextKey? 0 [] cs with
  | none => none
  | some (keys, rest) => if keys.length < depthLimit then some (keys.reverse, rest) else none

end SiteSearch.Settings.Toml
