import Formwork.Failure
import Formwork.Files.Tree

/-!
# Where templates come from

Templates are found by name, in memory or in directories that are searched in order. A template set
is found by its own name and the variant; a name that is no set but a template stands for both
variants.
-/

namespace Formwork

/-- Where templates come from. -/
inductive TemplateSource where
  /-- Templates kept in memory. -/
  | inMemory (templates : TextMap String)
  /-- Directories to search, first to last. -/
  | inDirectories (directories : List String) (tree : FileTree)

namespace TemplateSource

/-- The text of a file that is there. -/
def readFile (tree : FileTree) (path : String) : Except Failure String :=
  (tree.read path).mapError fun fault => .template (.unreadable path fault.message)

/-- The text found under a name. Absolute names are not searched for. -/
def load (source : TemplateSource) (name : String) : Except Failure String :=
  match source with
  | .inMemory templates =>
    match templates.get? name with
    | some text => .ok text
    | none => .error (.template (.notInMemory name))
  | .inDirectories searched tree =>
    let candidates :=
      if Path.isAbsolute name then [name]
      else searched.map fun directory => Path.join directory name
    match candidates.find? tree.isFile with
    | some path => readFile tree path
    | none => .error (.template (.notInDirectories name searched))

/-- The template of a set for a variant. -/
def loadVariant (source : TemplateSource) (set : String) (variant : Variant) :
    Except Failure String :=
  let set := Text.trim set
  match source.load (set ++ "/" ++ variant.name ++ ".html") with
  | .ok text => .ok text
  | .error _ =>
    match source.load set with
    | .ok text => .ok text
    | .error _ => .error (.template (.noVariant set variant))

/-- The source with one more template in memory; a template of the same name is replaced. -/
def add (source : TemplateSource) (name text : String) : TemplateSource :=
  match source with
  | .inMemory templates => .inMemory (templates.insert name text)
  | .inDirectories searched tree => .inDirectories searched tree

end TemplateSource

end Formwork
