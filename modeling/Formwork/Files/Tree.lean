import Formwork.Files.Path
import Formwork.Text.Utf8

/-!
# File trees

Files lie in directories, which begin at a root. A path is followed part by part: an empty part and a
single point stay where they are, two points lead to the directory above, and any other part must
name something in the directory reached so far. Nothing lies behind a file. A path that does not start
at the root starts at the working directory.
-/

namespace Formwork

/-- Why a file cannot be read. -/
inductive FileFault where
  /-- Nothing lies at the path. -/
  | missing
  /-- The path leads through a file. -/
  | notDirectory
  /-- The path leads to a directory. -/
  | isDirectory
  /-- The path is too long, or a part of it is too long for a name. -/
  | nameTooLong
  /-- The path holds a null character. -/
  | nullCharacter
  /-- The octets of the file are no text. -/
  | notText
deriving DecidableEq, Repr

/-- The fault in words. -/
def FileFault.message : FileFault → String
  | .missing => "No such file or directory (os error 2)"
  | .notDirectory => "Not a directory (os error 20)"
  | .isDirectory => "Is a directory (os error 21)"
  | .nameTooLong => "File name too long (os error 36)"
  | .nullCharacter => "file name contained an unexpected NUL byte"
  | .notText => "stream did not contain valid UTF-8"

/-- What lies at a path. -/
inductive FileNode where
  /-- A file with its octets. -/
  | file (octets : List UInt8)
  /-- A directory by the names on the way to it, innermost first. -/
  | directory (reversed : List String)
deriving DecidableEq, Repr

/-- Files and directories. Names on the way from the root are given innermost first. -/
structure FileTree where
  /-- The files with their octets. -/
  files : List (List String × List UInt8) := []
  /-- The directories that are there whether or not a file lies in them. -/
  directories : List (List String) := []
  /-- The names on the way to the working directory. -/
  workingDirectory : List String := []
deriving Repr

namespace FileTree

/-- No files. -/
def empty : FileTree := {}

/-- The names on the way to an absolute path without points. -/
def namesOf (path : String) : List String := ((Path.parts path).filter (· ≠ "")).reverse

/-- The tree with one more file. -/
def addFile (tree : FileTree) (path : String) (octets : List UInt8) : FileTree :=
  { tree with files := (namesOf path, octets) :: tree.files }

/-- The tree with one more directory. -/
def addDirectory (tree : FileTree) (path : String) : FileTree :=
  { tree with directories := namesOf path :: tree.directories }

/-- The names lead to a directory. -/
def isDirectory (tree : FileTree) (reversed : List String) : Bool :=
  let leadsTo (below : List String) : Bool := reversed.isSuffixOf below
  reversed.isEmpty || tree.directories.any leadsTo || tree.files.any fun file => leadsTo file.1

/-- The longest name of a file, in octets. -/
def nameLimit : Nat := 255

/-- The longest path, in octets. -/
def pathLimit : Nat := 4095

/-- Follows one part of a path from a directory. -/
def enter (tree : FileTree) (reversed : List String) (part : String) :
    Except FileFault FileNode :=
  if part = "" ∨ part = "." then .ok (.directory reversed)
  else if part = ".." then .ok (.directory reversed.tail)
  else if nameLimit < part.utf8ByteSize then .error .nameTooLong
  else
    match tree.files.find? fun file => file.1 = part :: reversed with
    | some file => .ok (.file file.2)
    | none =>
      if tree.isDirectory (part :: reversed) then .ok (.directory (part :: reversed))
      else .error .missing

/-- Follows parts of a path. -/
def follow (tree : FileTree) : FileNode → List String → Except FileFault FileNode
  | node, [] => .ok node
  | .file _, _ :: _ => .error .notDirectory
  | .directory reversed, part :: parts => do follow tree (← tree.enter reversed part) parts

/-- What lies at a path. The empty path leads nowhere. -/
def node (tree : FileTree) (path : String) : Except FileFault FileNode :=
  if path.toList.contains '\x00' then .error .nullCharacter
  else if pathLimit < path.utf8ByteSize then .error .nameTooLong
  else if path = "" then .error .missing
  else
    let start := if Path.isAbsolute path then [] else tree.workingDirectory
    tree.follow (.directory start) (Path.parts path)

/-- A file lies at the path. -/
def isFile (tree : FileTree) (path : String) : Bool :=
  match tree.node path with
  | .ok (.file _) => true
  | _ => false

/-- The text of the file at a path. -/
def read (tree : FileTree) (path : String) : Except FileFault String := do
  match ← tree.node path with
  | .directory _ => throw .isDirectory
  | .file octets =>
    match Text.Utf8.decode? octets with
    | some text => return text
    | none => throw .notText

end FileTree

end Formwork
