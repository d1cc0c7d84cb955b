import SiteSearch.Engine.Host

/-!
# Addresses

An address has a scheme, perhaps a host with a port, a path, and perhaps a query and a
fragment. It is read leniently: blanks around it and line ends in it do not count, and
characters that may not stand in it are escaped. What it is read as has one way of being
written. A name and password before the host are not kept.

Some schemes are known to have a host. After them slashes may be given in any number and may
lean backwards, and the port that is usual for them is left out. A file has no port, and a host
only after two slashes.
-/

namespace SiteSearch.Engine

open SiteSearch.Text

/-- A host and its port, if that is not the usual one. -/
structure Authority where
  host : Host
  port : Option Nat
  deriving DecidableEq, Repr

structure Address where
  scheme : String
  authority : Option Authority
  path : String
  query : Option String
  fragment : Option String
  deriving DecidableEq, Repr

namespace Address

/-! ## Characters -/

def isSchemeChar (c : Char) : Bool := c.isAlphanum || c == '+' || c == '-' || c == '.'

/-- A line end or a tab, which does not count wherever it stands. -/
def isUncounted (c : Char) : Bool := c == '\t' || c == '\n' || c == '\r'

/-- A control character or a space, which does not count around an address. -/
def isEdge (c : Char) : Bool := c.toNat ≤ 0x20

/-- A character that stands for itself in a fragment. -/
def isFragmentChar (c : Char) : Bool :=
  !(Host.isControl c || c == ' ' || c == '"' || c == '<' || c == '>' || c == '\x60')

/-- A character that stands for itself in a part of a path. -/
def isPathChar (c : Char) : Bool :=
  isFragmentChar c && !(c == '#' || c == '?' || c == '\x7b' || c == '\x7d')

/-- A character that stands for itself in a query; the apostrophe only where the scheme is not
a known one. -/
def isQueryChar (isKnown : Bool) (c : Char) : Bool :=
  !(Host.isControl c || c == ' ' || c == '"' || c == '#' || c == '<' || c == '>' ||
    (isKnown && c == '\''))

/-- The characters of an address that count. -/
def counted (cs : List Char) : List Char :=
  ((cs.dropWhile isEdge).reverse.dropWhile isEdge).reverse.filter fun c => !isUncounted c

/-! ## Schemes -/

/-- The known schemes, each with its usual port. -/
def usualPorts : List (String × Nat) :=
  [("http", 80), ("https", 443), ("ws", 80), ("wss", 443), ("ftp", 21)]

/-- The scheme that an address starts with, in small letters, and what follows its colon. -/
def readScheme? (cs : List Char) : Option (String × List Char) :=
  let scheme := cs.takeWhile isSchemeChar
  match scheme, cs.dropWhile isSchemeChar with
  | c :: _, ':' :: rest => if c.isAlpha then some (.ofList (asciiLower scheme), rest) else none
  | _, _ => none

/-! ## Hosts and ports -/

/-- What follows the last `@`, and whether there is one. -/
def dropUser (cs : List Char) : List Char × Bool :=
  ((cs.reverse.takeWhile (· != '@')).reverse, cs.contains '@')

/-- The host before a port, and what follows it. Colons between brackets are part of the host. -/
def splitPort : (inBrackets : Bool) → List Char → List Char × List Char
  | _, [] => ([], [])
  | inBrackets, c :: cs =>
    if c = ':' ∧ inBrackets = false then ([], c :: cs)
    else
      let (host, rest) := splitPort (c = '[' || (inBrackets && c != ']')) cs
      (c :: host, rest)

/-- The port after a host, if one is given and it is not the usual one. -/
def readPort? (usual : Option Nat) : List Char → Option (Option Nat)
  | [] => some none
  | ':' :: digits =>
    if !digits.all Char.isDigit then none
    else if 0xffff < digitsValue digits then none
    else if digits = [] ∨ usual = some (digitsValue digits) then some none
    else some (some (digitsValue digits))
  | _ => none

/-- The host and the port between the slashes and the path. -/
def readAuthority? (scheme : String) (cs : List Char) : Option Authority := do
  let usual := usualPorts.lookup scheme
  let (given, hasUser) := dropUser cs
  let (host, port) := splitPort false given
  if host = [] ∧ (usual.isSome ∨ hasUser ∨ port ≠ []) then none
  else
    return {
      host := ← if usual.isSome then Host.read? host else Host.readOpaque? host
      port := ← readPort? usual port }

/-! ## Paths -/

/-- The part of a path leads nowhere. -/
def staysHere (part : List Char) : Bool :=
  asciiLower part ∈ [['.'], ['%', '2', 'e']]

/-- The part of a path leads up. -/
def leadsUp (part : List Char) : Bool :=
  asciiLower part ∈ [['.', '.'], ['.', '%', '2', 'e'], ['%', '2', 'e', '.'],
    ['%', '2', 'e', '%', '2', 'e']]

/-- The parts of a path once those that lead nowhere or up have been followed; `before` holds
the parts so far, last first. -/
def followParts (before : List (List Char)) : List (List Char) → List (List Char)
  | [] => before.reverse
  | part :: parts =>
    let before :=
      if staysHere part then before else if leadsUp part then before.drop 1 else part :: before
    let endsHere := parts.isEmpty && (staysHere part || leadsUp part)
    followParts (if endsHere then [] :: before else before) parts

/-- A path that starts at the top. -/
def topPath (parts : List (List Char)) : String :=
  .ofList ('/' :: ['/'].intercalate ((followParts [] parts).map (percentEncode isPathChar)))

/-! ## Addresses -/

def endsPath (c : Char) : Bool := c == '?' || c == '#'

/-- A slash; it may lean backwards where the scheme is a known one. -/
def isSlash (isKnown : Bool) (c : Char) : Bool := c == '/' || (isKnown && c == '\\')

/-- The path between the host and what ends it. -/
def readPath (isKnown : Bool) (cs : List Char) : String :=
  let cs := if isKnown then cs.map fun c => if c = '\\' then '/' else c else cs
  match cs with
  | [] => if isKnown then "/" else ""
  | '/' :: cs => topPath (cs.splitOn '/')
  | cs => topPath (cs.splitOn '/')

/-- A path that does not start at the top is kept as it is written. -/
def readLoosePath (cs : List Char) : String :=
  match cs with
  | '/' :: cs => topPath (cs.splitOn '/')
  | cs => .ofList (percentEncode (fun c => !Host.isControl c) cs)

/-- The query and the fragment after a path. -/
def readEnd (isKnown : Bool) (cs : List Char) : Option String × Option String :=
  let query : Option String := match cs with
    | '?' :: cs => some (.ofList (percentEncode (isQueryChar isKnown) (cs.takeWhile (· != '#'))))
    | _ => none
  let fragment : Option String := match cs.dropWhile (· != '#') with
    | _ :: cs => some (.ofList (percentEncode isFragmentChar cs))
    | [] => none
  (query, fragment)

/-- The host and the path of an address with a known scheme, which slashes come before. -/
def readKnown? (scheme : String) (cs : List Char) : Option (Option Authority × String) := do
  let cs := cs.dropWhile (isSlash true)
  let given := cs.takeWhile fun c => !isSlash true c
  return (some (← readAuthority? scheme given), readPath true (cs.drop given.length))

/-- The host and the path of a file. The host may be missing, and the machine itself is none. -/
def readFile? (cs : List Char) : Option (Option Authority × String) := do
  let parts := (cs.map fun c => if isSlash true c then '/' else c).splitOn '/'
  let (host, parts) := match parts with
    | [] :: [] :: host :: parts => (host, parts)
    | parts => ([], parts)
  let host ← if host = [] then some (.name "") else Host.read? host
  let host := if host = .name "localhost" then .name "" else host
  return (some ⟨host, none⟩, topPath (parts.dropWhile (· == [])))

/-- The host and the path of any other address, whose host comes after two slashes. -/
def readOther? (scheme : String) : List Char → Option (Option Authority × String)
  | '/' :: '/' :: cs => do
    let given := cs.takeWhile (· != '/')
    return (some (← readAuthority? scheme given), readPath false (cs.drop given.length))
  | cs => some (none, readLoosePath cs)

/-- An address; none if it has no scheme, or its host or port cannot be read. -/
def read? (s : String) : Option Address := do
  let (scheme, rest) ← readScheme? (counted s.toList)
  let hasPort := (usualPorts.lookup scheme).isSome
  let isFile := scheme == "file"
  let place := rest.takeWhile fun c => !endsPath c
  let (query, fragment) := readEnd (hasPort || isFile) (rest.dropWhile fun c => !endsPath c)
  let (authority, path) ←
    if hasPort then readKnown? scheme place
    else if isFile then readFile? place
    else readOther? scheme place
  return ⟨scheme, authority, path, query, fragment⟩

def hasHost (a : Address) : Bool := a.authority.any fun authority => authority.host != .name ""

def text (a : Address) : String :=
  let authority := match a.authority with
    | none => ""
    | some ⟨host, port⟩ =>
      "//" ++ host.text ++ (match port with | none => "" | some n => ":" ++ toString n)
  a.scheme ++ ":" ++ authority ++ a.path ++
    (match a.query with | none => "" | some query => "?" ++ query) ++
    (match a.fragment with | none => "" | some fragment => "#" ++ fragment)

end Address

end SiteSearch.Engine
