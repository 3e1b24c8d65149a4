import Formwork.Text.Basic

/-!
# Paths

A path is a text whose parts stand between slashes. A path that starts with a slash is absolute; any
other is meant relative to some directory. The extension is that of the last part.
-/

namespace Formwork.Path

/-- The path starts at the root. -/
def isAbsolute (path : String) : Bool := path.toList.head? == some '/'

/-- A path seen from a directory. An absolute path stays what it is. -/
def join (directory path : String) : String :=
  if isAbsolute path ∨ directory = "" then path
  else if directory.toList.getLast? = some '/' then directory ++ path
  else directory ++ "/" ++ path

/-- The parts between slashes, empty ones included. -/
def parts (path : String) : List String := Text.split '/' path

/-- The last part. Empty parts and single points behind it do not count, and two points are no
name. -/
def fileName? (path : String) : Option String :=
  match (parts path).reverse.dropWhile fun part => part = "" ∨ part = "." with
  | [] | ".." :: _ => none
  | name :: _ => some name

/-- What follows the last point of the file name. A point in front of everything else starts no
extension. -/
def extension? (path : String) : Option String := do
  let name ← fileName? path
  match (Text.split '.' name).reverse with
  | [] | [_] | [_, ""] => none
  | last :: _ => some last

end Formwork.Path
