import Formwork.Template.Attributes
import Formwork.TextMap

/-!
# Options of one display

What a page asks for when it displays a form. Options can be read from the attributes of a tag; an
attribute that names no option is kept among the values.
-/

namespace Formwork

/-- Options of one display of a form. -/
structure PageOptions where
  /-- The title of the form. -/
  title : Option String := none
  /-- The address that the form is posted to. -/
  action : Option String := none
  /-- The start and end tag of the form are left out. -/
  noFormTag : Bool := false
  /-- The `rel` attribute of the form. -/
  rel : Option String := none
  /-- The `rev` attribute of the form. -/
  rev : Option String := none
  /-- Sections for expandable forms are kept, and those for other forms dropped. -/
  expandable : Bool := false
  /-- Attributes of the form. -/
  formAttributes : Attributes := .empty
  /-- Data attributes of the form, named without their first part. -/
  dataAttributes : Attributes := .empty
  /-- The template, in place of the one that the form names. -/
  template : Option String := none
  /-- The address that gives rows for insertion into a table. -/
  insertFormUrl : Option String := none
  /-- The script function that takes such rows. -/
  insertFormCallback : Option String := none
  /-- Everything else. -/
  values : TextMap String := .empty

namespace PageOptions

/-- The options with one attribute read. -/
def readAttribute (options : PageOptions) (name value : String) : PageOptions :=
  let flag := (Text.truth? value).getD false
  match name.toLower with
  | "title" => { options with title := some value }
  | "action" | "formaction" => { options with action := some value }
  | "noformtag" => { options with noFormTag := flag }
  | "rel" => { options with rel := some value }
  | "rev" => { options with rev := some value }
  | "expandable" => { options with expandable := flag }
  | "template" => { options with template := some value }
  | "insertformurl" => { options with insertFormUrl := some value }
  | "insertformcallback" => { options with insertFormCallback := some value }
  | _ => { options with values := options.values.insert name value }

/-- The options that attributes ask for. -/
def ofAttributes (attributes : Attributes) : PageOptions :=
  attributes.pairs.foldl (fun options (name, value) => options.readAttribute name value) {}

end PageOptions

end Formwork
