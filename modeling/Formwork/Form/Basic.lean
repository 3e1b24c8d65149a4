import Formwork.Digest.Sha256
import Formwork.Form.Binding
import Formwork.Form.Catalog
import Formwork.Settings.Basic
import Formwork.Text.Lowercase

/-!
# Forms

A form has a name, a catalog of fields, perhaps a table, and what its pages need to know. When a
table of rows was displayed the form also holds the primary key of every row under the row's
identifier, so that posted rows can be found again.
-/

namespace Formwork

/-- The columns of a primary key with their values, in the order of the catalog. -/
abbrev PrimaryKey := List (String × String)

/-- A form. -/
structure Form where
  /-- The name, trimmed and in lower case. -/
  name : String
  /-- The fields. -/
  catalog : Catalog := .empty
  /-- The table, if the form is linked to one. -/
  binding : Option Binding := none
  /-- The template set for single records. -/
  insertTemplate : String
  /-- The template set for tables. -/
  editTemplate : String
  /-- The address that the form is posted to. -/
  action : Option String := none
  /-- How the browser encodes what it posts, if not in its usual way. -/
  encoding : Option String := none
  /-- The browser checks inputs before they are sent. -/
  browserValidation : Bool
  /-- The address that gives rows for insertion into a table. -/
  insertFormUrl : Option String := none
  /-- The script function that takes such rows. -/
  insertFormCallback : Option String := none
  /-- The primary keys of displayed rows by row identifier. -/
  rowKeys : TextMap PrimaryKey := .empty
deriving DecidableEq

namespace Form

/-- The name under which a form is known: trimmed and in lower case. -/
def normalizeName (name : String) : String := Text.lowercase (Text.trim name)

/-- The identifier of a row: the digest of its key's values with bars between them. -/
def rowIdentifier (key : PrimaryKey) : String :=
  Sha256.ofText (Text.joinWith "|" (key.map (·.2)))

/-- A form without fields. -/
def named (name : String) (settings : Settings) : Form :=
  { name := normalizeName name
    insertTemplate := settings.insertTemplate
    editTemplate := settings.editTemplate
    browserValidation := settings.browserValidation }

/-- The encoding of a form that posts files. -/
def multipart : String := "multipart/form-data"

/-- The form with one more widget. A file changes the encoding of the form. -/
def addWidget (form : Form) (widget : Widget) : Except Failure Form :=
  (form.catalog.add widget).map fun catalog =>
    { form with
      catalog
      encoding := if widget.field.input = .file then some multipart else form.encoding }

/-- The form with one more field. -/
def addField (form : Form) (field : Field) : Except Failure Form := form.addWidget { field }

/-- The button that submits a form that has none of its own. -/
def submitButton : Field := { name := "submit", input := .submit, value := "Submit" }

/-- The form with a button that submits it. -/
def ensureSubmit (form : Form) : Except Failure Form :=
  if form.catalog.hasInput .submit then .ok form else form.addField submitButton

/-- The form without its fields. -/
def clear (form : Form) : Form := { form with catalog := .empty }

/-- The form linked to a table. -/
def link (form : Form) (binding : Binding) : Form := { form with binding := some binding }

/-- The form with the primary key of a row. -/
def recordRow (form : Form) (rowId : String) (key : PrimaryKey) : Form :=
  { form with rowKeys := form.rowKeys.insert rowId key }

/-- Where problems with what was put into the form are reported. -/
def errorScope (form : Form) (kind : FormKind) : String := form.name ++ "_" ++ kind.name

/-- The template set that the form is displayed with. -/
def template (form : Form) (kind : FormKind) : String :=
  match kind with
  | .table => form.editTemplate
  | .insert | .update => form.insertTemplate

end Form

end Formwork
