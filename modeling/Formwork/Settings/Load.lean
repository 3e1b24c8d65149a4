import Formwork.Files.Tree
import Formwork.Json.Reader
import Formwork.Settings.Basic
import Formwork.Toml.Reader

/-!
# Loading settings

A document is laid over the settings that are usual: it gives the settings that it names, leaves the
others as they are, and may have members that name no setting. A document that is a list takes the
place of all of them and gives all settings in order. Documents are written in TOML or JSON.
-/

namespace Formwork

/-- How settings are written. -/
inductive SettingsFormat where
  /-- As a TOML document. -/
  | toml
  /-- As a JSON document. -/
  | json
deriving DecidableEq, Repr

namespace Json

mutual

/-- A document with another one laid over it: two objects become one with the members of both, and
anything else takes the place of what was there. -/
def overlay (below : Json) : Json → Json
  | .object above =>
    match below with
    | .object members => .object (overlayMembers (.ofList members) above).entries
    | _ => .object above
  | above => above

/-- Members with others laid over them one after another. -/
def overlayMembers (below : TextMap Json) : Entries Json → TextMap Json
  | [] => below
  | (name, value) :: rest =>
    match below.get? name with
    | some known => overlayMembers (below.insert name (known.overlay value)) rest
    | none => overlayMembers (below.insert name value) rest

end

end Json

namespace Settings

/-- The names of the settings in documents. -/
def memberNames : List String :=
  ["debug", "form_timeout", "session_namespace", "default_connection", "template_dirs",
   "default_insert_template", "default_edit_template", "assets_url", "browser_validation",
   "log_level"]

/-- The settings that a document gives, all of them. -/
def ofJson (json : Json) : Except Json.Fault Settings := do
  let members ← Json.asRecord memberNames .refused json
  return {
    debug := ← Json.required Json.asFlag "debug" members
    formTimeout := ← Json.required Json.asNatural "form_timeout" members
    sessionNamespace := ← Json.required Json.asText "session_namespace" members
    defaultConnection := ← Json.required Json.asText "default_connection" members
    templateDirectories := ← Json.required (Json.asList Json.asText) "template_dirs" members
    insertTemplate := ← Json.required Json.asText "default_insert_template" members
    editTemplate := ← Json.required Json.asText "default_edit_template" members
    assetsUrl := ← Json.required Json.asText "assets_url" members
    browserValidation := ← Json.required Json.asFlag "browser_validation" members
    logLevel := ← Json.required Json.asText "log_level" members }

/-- The usual settings with a document laid over them, or the failure of a configuration. -/
def load (json : Json) : Except Failure Settings :=
  (ofJson (({} : Settings).toJson.overlay json)).mapError fun fault =>
    .configuration (.undecodable fault)

/-- The document that a text writes. -/
def readText (format : SettingsFormat) (text : String) : Except ConfigurationFault Json :=
  match format with
  | .toml => ((Toml.value? text).map .ok).getD (.error .malformedToml)
  | .json => ((Json.value? text).map .ok).getD (.error .malformedJson)

/-- The settings that a text gives. -/
def ofText (format : SettingsFormat) (text : String) : Except Failure Settings := do
  load (← (readText format text).mapError .configuration)

/-- The settings that a file gives. -/
def ofFile (format : SettingsFormat) (tree : FileTree) (path : String) :
    Except Failure Settings := do
  let text ← (tree.read path).mapError fun fault =>
    Failure.configuration (.unreadable path fault.message)
  ofText format text

end Settings

end Formwork
