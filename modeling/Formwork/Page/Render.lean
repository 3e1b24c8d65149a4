import Formwork.Page.FieldsLoop
import Formwork.Page.RowLoop
import Formwork.Page.Sections
import Formwork.Page.Tags

/-!
# Writing a page

A page is written in passes over its text, each of which settles the tags it knows and leaves the
others: sections that depend on errors, then in every form section the sections for expandable forms,
the loops over fields and the loops over rows, and at last the single tags. Before all this the
fields of the primary key are disabled.
-/

namespace Formwork.Page

/-- Disables the fields of the primary key. -/
def disablePrimary (catalog : Catalog) : Catalog :=
  catalog.primaryNames.foldl (fun catalog name =>
    catalog.modifyField name fun field => { field with disabled := true }) catalog

/-- Writes one form section. A section without rows is replaced by a notice. -/
def writeSection (request : Request) (source : String) : StateM Page String := do
  let settled := Node.settleExpandable request.options.expandable source
  let looped ← writeFieldsLoops request settled
  match ← writeRowLoops request looped with
  | .ok written => return written
  | .error failure => return failure.userMessage

/-- Writes the form sections of a text. -/
def writeSections (request : Request) (source : String) : StateM Page String :=
  writeAll (Node.parse ["form"] source) fun
    | .section opening children closing =>
      writeSection request (Node.source (.section opening children closing))
    | node => return node.source

/-- Starts a page afresh: nothing is emitted yet and the primary key is disabled. -/
def start (page : Page) : Page :=
  { page with emitted := [], form.catalog := disablePrimary page.form.catalog }

/-- Writes a page from its template. -/
def render (request : Request) (template : String) : StateM Page String := do
  modify start
  let page ← get
  let errors := page.diagnostics.errorsHtml (page.form.errorScope request.kind)
  let sections ← writeSections request (Node.settleErrors errors template)
  writeTags request sections

end Formwork.Page
