import SiteSearch.Json.Token

/-!
# Reading JSON

A value is assembled from tokens by a machine whose stack holds the arrays and objects that
are still open. It takes each token once. A text is a value if the machine ends with exactly
one, arrays and objects are nested at most `depthLimit` deep, every string has a text and every
number a value.

A reader that wants only some members of an object passes over the others: their values must
be well formed, but may be nested to any depth and hold strings without a text and numbers
without a value.
-/

namespace SiteSearch.Json

/-- How deep arrays and objects may be nested. -/
def depthLimit : Nat := 127

/-- What a reader wants of a text. -/
structure Wanted where
  /-- The members of the outermost object that are not passed over. -/
  names : String → Bool
  /-- How the members of an object are kept at its end. -/
  close : Members → Members

/-- An array or object that is still open, with what it holds so far, last first, and whether
it, or the member of an object that comes next, is passed over. -/
inductive Frame where
  | array (elements : List Json) (isPassed : Bool)
  | object (members : Members) (name : String) (isPassed : Bool)

/-- The value that comes next is passed over. -/
def isPassed : List Frame → Bool
  | [] => false
  | .array _ isPassed :: _ => isPassed
  | .object _ _ isPassed :: _ => isPassed

/-- What may come next. -/
inductive Due where
  /-- A value. -/
  | value (stack : List Frame)
  /-- The first element of an array, or its end. -/
  | element (stack : List Frame)
  /-- The first name of an object, or its end. -/
  | firstName (stack : List Frame)
  /-- The next name of an object. -/
  | name (members : Members) (stack : List Frame)
  /-- The colon after a name. -/
  | colon (members : Members) (name : String) (stack : List Frame)
  /-- A comma, or the end of the innermost open array or object. -/
  | more (value : Json) (frame : Frame) (stack : List Frame)
  /-- Nothing. -/
  | nothing (value : Json)

/-- A complete value goes into the innermost open array or object. -/
def place (value : Json) : List Frame → Due
  | [] => .nothing value
  | frame :: stack => .more value frame stack

/-- An array or object may be opened: it is passed over, or not too deep. -/
def mayOpen (stack : List Frame) : Bool := isPassed stack || stack.length < depthLimit

def startValue? (token : Token) (stack : List Frame) : Option Due :=
  match token with
  | .scalar value => some (place value stack)
  | .text s => some (place (.string s) stack)
  | .hugeNumber | .brokenText => if isPassed stack then some (place .null stack) else none
  | .openArray => if mayOpen stack then some (.element stack) else none
  | .openObject => if mayOpen stack then some (.firstName stack) else none
  | _ => none

def memberName? (stack : List Frame) : Token → Option String
  | .text name => some name
  | .brokenText => if isPassed stack then some "" else none
  | _ => none

/-- The member of an object that is next to come is passed over: the object is, or it is the
outermost one and nobody wants the member. -/
def passesMember (wanted : Wanted) (name : String) (stack : List Frame) : Bool :=
  isPassed stack || (stack.isEmpty && !wanted.names name)

/-- One token. -/
def Due.step? (wanted : Wanted) (due : Due) (token : Token) : Option Due :=
  match due, token with
  | .value stack, token => startValue? token stack
  | .element stack, .closeArray => some (place (.array []) stack)
  | .element stack, token => startValue? token (.array [] (isPassed stack) :: stack)
  | .firstName stack, .closeObject => some (place (.object []) stack)
  | .firstName stack, token => (memberName? stack token).map (.colon [] · stack)
  | .name members stack, token => (memberName? stack token).map (.colon members · stack)
  | .colon members key stack, .colon =>
    some (.value (.object members key (passesMember wanted key stack) :: stack))
  | .more v (.array elements passed) stack, .comma =>
    some (.value (.array (v :: elements) passed :: stack))
  | .more v (.array elements _) stack, .closeArray =>
    some (place (.array (v :: elements).reverse) stack)
  | .more v (.object members key _) stack, .comma =>
    some (.name ((key, v) :: members) stack)
  | .more v (.object members key _) stack, .closeObject =>
    some (place (.object (wanted.close ((key, v) :: members).reverse)) stack)
  | _, _ => none

/-- The value that a list of tokens spells, starting from what is due. -/
def assemble? (wanted : Wanted) : Due → List Token → Option Json
  | .nothing value, [] => some value
  | _, [] => none
  | due, token :: tokens => (due.step? wanted token).bind (assemble? wanted · tokens)

/-- The value that a text spells, with the members of objects in ascending order of name. -/
def read? (text : String) : Option Json :=
  (tokens? text.toList).bind (assemble? ⟨fun _ => true, Members.sorted⟩ (.value []))

/-- The value that a text spells, with the members of objects as they were written; of the
outermost object only the members that are wanted count. -/
def readWanted? (names : String → Bool) (text : String) : Option Json :=
  (tokens? text.toList).bind (assemble? ⟨names, id⟩ (.value []))

end SiteSearch.Json
