import Formwork.Failure

/-!
# Settings

Everything about the life of a form that an application can set.
-/

namespace Formwork

/-- The settings of an application. -/
structure Settings where
  /-- Problems are logged for a developer to read. -/
  debug : Bool := true
  /-- How long a displayed form can be sent back, in seconds. -/
  formTimeout : Nat := 300
  /-- What the keys of saved forms begin with. -/
  sessionNamespace : String := "formBuilderForms"
  /-- The connection that is meant when a form names none. -/
  defaultConnection : String := "appDB"
  /-- The directories that templates are searched in. -/
  templateDirectories : List String := []
  /-- The template set for single records. -/
  insertTemplate : String := "default"
  /-- The template set for tables. -/
  editTemplate : String := "default"
  /-- Where scripts and styles are. -/
  assetsUrl : String := "formBuilderAssets"
  /-- The browser checks inputs before they are sent. -/
  browserValidation : Bool := true
  /-- How much is logged. -/
  logLevel : String := "info"
deriving DecidableEq, Repr

namespace Settings

/-- The key that a form is saved under. -/
def sessionKey (settings : Settings) (formId : String) : String :=
  settings.sessionNamespace ++ "." ++ formId

/-- The parts of the program whose log can be switched. -/
def logTargets : List String :=
  ["formbuilder", "formbuilder_core", "formbuilder_db", "formbuilder_session",
   "formbuilder_template", "formbuilder_forms"]

/-- The log filter: a level that is a filter itself stands as it is, and any other level is set for
the parts of the program while everything else only warns. -/
def logFilter (settings : Settings) : String :=
  let level := Text.trim settings.logLevel
  if Text.occursIn "=" level || Text.occursIn "," level then level
  else
    let level := if level = "" then "info" else level
    Text.joinWith "," ("warn" :: logTargets.map fun target => target ++ "=" ++ level)

/-- The settings as a JSON document. -/
def toJson (settings : Settings) : Json :=
  .object [
    ("debug", .bool settings.debug),
    ("form_timeout", Json.ofNat settings.formTimeout),
    ("session_namespace", .string settings.sessionNamespace),
    ("default_connection", .string settings.defaultConnection),
    ("template_dirs", Json.ofTexts settings.templateDirectories),
    ("default_insert_template", .string settings.insertTemplate),
    ("default_edit_template", .string settings.editTemplate),
    ("assets_url", .string settings.assetsUrl),
    ("browser_validation", .bool settings.browserValidation),
    ("log_level", .string settings.logLevel)]

end Settings

end Formwork
