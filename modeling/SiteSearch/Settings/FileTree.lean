import SiteSearch.Text.Ascii

/-!
# Paths to files

A path is a list of parts between slashes. It leads through directories: a name goes down, two
points go up, one point and nothing at all stay. A path that leads to a file may not go on, not
even with a slash.
-/

namespace SiteSearch.Settings

/-- The part of a path stays where it is. -/
def staysHere (part : List Char) : Bool := part == [] || part == ['.']

/-- The part of a path leads up. -/
def leadsUp (part : List Char) : Bool := part == ['.', '.']

def pathParts (path : String) : List (List Char) := path.toList.splitOn '/'

def pathOfParts (parts : List (List Char)) : String := .ofList (['/'].intercalate parts)

/-- The path starts at the root of all directories. -/
def isAbsolute (path : String) : Bool := path.toList.head? == some '/'

/-- A path without the parts that stay. -/
def plainPath (path : String) : String :=
  let plain := pathOfParts ((pathParts path).filter fun part => !staysHere part)
  if isAbsolute path then "/" ++ plain else plain

/-- A path up to its last name, which the parts that stay may follow; none if it does not end
in a name. -/
def pathToName? (path : String) : Option String :=
  match (pathParts path).reverse.dropWhile staysHere with
  | [] => none
  | name :: before => if leadsUp name then none else some (pathOfParts (name :: before).reverse)

/-- What follows the last point in a file's name, if something stands before that point. -/
def extension (path : String) : String :=
  let file := (path.toList.reverse.takeWhile (· != '/')).reverse
  let back := file.reverse
  let after := back.takeWhile (· != '.')
  match back.drop after.length with
  | '.' :: _ :: _ => .ofList after.reverse
  | _ => ""

/-- The files below a directory. Files and directories are given by the names that lead to
them. -/
structure FileTree where
  files : List (List (List Char) × String)
  /-- Directories that need not hold a file. -/
  directories : List (List (List Char))

namespace FileTree

/-- There is a directory of this place: the one that all is below, or one on the way to a file
or to another directory. -/
def isDirectory (tree : FileTree) (place : List (List Char)) : Bool :=
  place == [] || tree.directories.any place.isPrefixOf ||
    tree.files.any fun file => file.1 != place && place.isPrefixOf file.1

/-- The place to which the parts of a path lead from another one. -/
def follow? (tree : FileTree) (place : List (List Char)) :
    List (List Char) → Option (List (List Char))
  | [] => some place
  | part :: parts =>
    if !tree.isDirectory place then none
    else if staysHere part then follow? tree place parts
    else if leadsUp part then
      if place == [] then none else follow? tree place.dropLast parts
    else follow? tree (place ++ [part]) parts

/-- The text of the file to which a path leads. -/
def text? (tree : FileTree) (path : String) : Option String :=
  if isAbsolute path then none
  else (tree.follow? [] (pathParts path)).bind fun place => tree.files.lookup place

end FileTree

end SiteSearch.Settings
