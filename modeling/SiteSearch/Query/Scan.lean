import SiteSearch.Query.Directive

/-!
# Finding directives

A query is cut into pieces from left to right: directives, and the characters that stay. A
directive starts at the front or after a character that is no letter, digit or underscore.
The first of each kind is taken; later ones of that kind stay in the text, so that what they
hold may itself be taken. Nothing inside a directive is looked at again.
-/

namespace SiteSearch.Query

open SiteSearch.Text

inductive Piece where
  /-- A character that stays in the text. -/
  | kept (c : Char)
  /-- A directive. -/
  | taken (o : Occurrence)
  deriving DecidableEq, Repr

def Piece.typed : Piece → List Char
  | .kept c => [c]
  | .taken o => o.typed

/-- The directive at the front of a text, of a kind that was not taken yet. -/
def nextOccurrence? (done : List Directive) (cs : List Char) : Option Occurrence :=
  Directive.all.findSome? fun d => if d ∈ done then none else Occurrence.ofFront? d cs

/--
The pieces of a text, when directives of the kinds `done` were taken before it, `afterWord`
says whether a letter, digit or underscore stands just before it, and its first `inside`
characters belong to the directive taken last.
-/
def piecesFrom (done : List Directive) : (afterWord : Bool) → (inside : Nat) → List Char → List Piece
  | _, _, [] => []
  | _, inside + 1, c :: cs => piecesFrom done (isWordChar c) inside cs
  | true, 0, c :: cs => .kept c :: piecesFrom done (isWordChar c) 0 cs
  | false, 0, c :: cs =>
    match nextOccurrence? done (c :: cs) with
    | none => .kept c :: piecesFrom done (isWordChar c) 0 cs
    | some o =>
      .taken o :: piecesFrom (o.directive :: done) (isWordChar c) (o.typed.length - 1) cs

def pieces (query : List Char) : List Piece := piecesFrom [] false 0 query

/-- The directives among pieces. -/
def occurrences (ps : List Piece) : List Occurrence :=
  ps.filterMap fun
    | .taken o => some o
    | .kept _ => none

/-- The characters among pieces that stay in the text. -/
def keptText (ps : List Piece) : List Char :=
  ps.filterMap fun
    | .kept c => some c
    | .taken _ => none

/-- A directive and where it stands. -/
structure Match where
  occurrence : Occurrence
  /-- The bytes before it, when the query is written in UTF-8. -/
  start : Nat
  deriving DecidableEq, Repr

/-- How many bytes characters take in UTF-8. -/
def utf8Length : List Char → Nat
  | [] => 0
  | c :: cs => c.utf8Size + utf8Length cs

/-- The bytes up to the end of the directive. -/
def Match.stop (m : Match) : Nat := m.start + utf8Length m.occurrence.typed

/-- The directives among pieces that stand after `offset` bytes. -/
def matchesFrom (offset : Nat) : List Piece → List Match
  | [] => []
  | .kept c :: ps => matchesFrom (offset + c.utf8Size) ps
  | .taken o :: ps => ⟨o, offset⟩ :: matchesFrom (offset + utf8Length o.typed) ps

/-- The directives of a query, from left to right. -/
def scan (query : String) : List Match := matchesFrom 0 (pieces query.toList)

end SiteSearch.Query
