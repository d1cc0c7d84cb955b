import SiteSearch.Text.Ascii

/-!
# Directives

A query may hold directives: a keyword, a colon and a value with no blank between them. Each
kind has its keyword and its form of value. Keywords are known in any ASCII case.
-/

namespace SiteSearch.Query

open SiteSearch.Text

/-- The kinds of directive, in the order in which their conditions are listed. -/
inductive Directive where
  | type
  | year
  /-- The document category. -/
  | doctype
  /-- The latest date. -/
  | before
  /-- The earliest date. -/
  | after
  /-- A part of the path. -/
  | within
  deriving DecidableEq, Repr

/-- The forms of a directive's value. -/
inductive ValueForm where
  /-- Letters, digits and underscores, as many as there are. -/
  | word
  /-- Four digits. -/
  | year
  /-- Four digits, and a dash and two digits when those follow. -/
  | yearMonth
  deriving DecidableEq, Repr

namespace Directive

/-- Every kind, in order. -/
def all : List Directive := [.type, .year, .doctype, .before, .after, .within]

def name : Directive → String
  | .type => "type"
  | .year => "year"
  | .doctype => "doctype"
  | .before => "before"
  | .after => "after"
  | .within => "in"

def ofName? (s : String) : Option Directive := all.find? (·.name == s)

/-- The keyword: the name and a colon. -/
def keyword (d : Directive) : List Char := d.name.toList ++ [':']

def form : Directive → ValueForm
  | .type | .doctype | .within => .word
  | .year => .year
  | .before | .after => .yearMonth

theorem mem_all (d : Directive) : d ∈ all := by cases d <;> decide

theorem ofName?_name (d : Directive) : ofName? d.name = some d := by cases d <;> decide

end Directive

/-- The first `count` characters, if there are so many and all are digits. -/
def takeDigits? (count : Nat) (cs : List Char) : Option (List Char) :=
  let digits := cs.take count
  if digits.length = count ∧ digits.all Char.isDigit then some digits else none

/-- The value of a form that a text starts with. -/
def ValueForm.take? : ValueForm → List Char → Option (List Char)
  | .word, cs =>
    match cs.takeWhile isWordChar with
    | [] => none
    | run => some run
  | .year, cs => takeDigits? 4 cs
  | .yearMonth, cs =>
    (takeDigits? 4 cs).map fun digits =>
      match cs.drop 4 with
      | '-' :: rest =>
        match takeDigits? 2 rest with
        | some more => digits ++ '-' :: more
        | none => digits
      | _ => digits

/-- A directive as it stands in a query. -/
structure Occurrence where
  directive : Directive
  /-- The keyword, in the case in which it was typed. -/
  keyword : List Char
  /-- The value, in the case in which it was typed. -/
  value : List Char
  deriving DecidableEq, Repr

namespace Occurrence

def typed (o : Occurrence) : List Char := o.keyword ++ o.value

/-- A directive of one kind at the front of a text. -/
def ofFront? (d : Directive) (cs : List Char) : Option Occurrence :=
  (dropFolded? d.keyword cs).bind fun rest =>
    (d.form.take? rest).map fun value => ⟨d, cs.take d.keyword.length, value⟩

end Occurrence

end SiteSearch.Query
