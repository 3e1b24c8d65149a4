import Formwork.Json.Decode
import Formwork.Template.Variant
import Formwork.Text.Quoted

/-!
# Failures and their wording

Every operation that can fail says why by a value of `Failure`; the wording is given once, by
`Failure.message`. Two failures end only one section of a page and have a text of their own for it,
which never shows what the database said.
-/

namespace Formwork

/-- Why a template is not available. -/
inductive TemplateFault where
  /-- The templates kept in memory have none of this name. -/
  | notInMemory (name : String)
  /-- No searched directory has a file of this name. -/
  | notInDirectories (name : String) (directories : List String)
  /-- The file cannot be read. -/
  | unreadable (path reason : String)
  /-- A template set lacks a variant and is no template itself. -/
  | noVariant (set : String) (variant : Variant)
  /-- Some other reason. -/
  | other (reason : String)
deriving DecidableEq, Repr

/-- The fault in words. -/
def TemplateFault.message : TemplateFault → String
  | .notInMemory name => s!"Template '{name}' not found in StringLoader"
  | .notInDirectories name directories =>
    let listed := Text.bracketed (directories.map Text.quoted)
    s!"Template '{name}' not found in directories: {listed}"
  | .unreadable path reason => s!"Error reading template '{path}': {reason}"
  | .noVariant set variant => s!"No {variant.name} template found for '{set}'"
  | .other reason => reason

/-- What is wrong with a configuration. -/
inductive ConfigurationFault where
  /-- A field has a blank name. -/
  | emptyFieldName
  /-- A form has a field of this name already. -/
  | fieldDefined (name : String)
  /-- No form has this name. -/
  | unknownForm (name : String)
  /-- No kind of input has this name. -/
  | unknownInput (name : String)
  /-- A settings file cannot be read. -/
  | unreadable (path reason : String)
  /-- A settings text is no TOML document. -/
  | malformedToml
  /-- A settings text is no JSON document. -/
  | malformedJson
  /-- A setting has a value of the wrong form. -/
  | undecodable (fault : Json.Fault)
  /-- Some other reason. -/
  | other (reason : String)
deriving DecidableEq, Repr

/-- The fault in words. -/
def ConfigurationFault.message : ConfigurationFault → String
  | .emptyFieldName => "Field name must not be empty"
  | .fieldDefined name => s!"Field '{name}' is already defined"
  | .unknownForm name => s!"No form defined with name '{name}'"
  | .unknownInput name => s!"Unknown field type '{name}'"
  | .unreadable path reason => s!"Failed to read settings file '{path}': {reason}"
  | .malformedToml => "Failed to parse TOML"
  | .malformedJson => "Failed to parse JSON"
  | .undecodable _ => "Failed to deserialize settings"
  | .other reason => reason

/-- Why saved data cannot be written or read back. -/
inductive SerializationFault where
  /-- A document is not of the expected form. -/
  | undecodable (fault : Json.Fault)
  /-- Some other reason. -/
  | other (reason : String)
deriving DecidableEq, Repr

/-- The fault in words. -/
def SerializationFault.message : SerializationFault → String
  | .undecodable fault => fault.message
  | .other reason => reason

/-- Why an operation failed. -/
inductive Failure where
  /-- A form of this name is registered already. -/
  | duplicateName (name : String)
  /-- A link to the database names no table. -/
  | missingTable
  /-- A form without a table is to be processed. -/
  | noDatabaseLink (form : String)
  /-- No form identifier was given or posted. -/
  | noId
  /-- Nothing is saved under the form identifier, or nothing that can be read. -/
  | invalidId (id : String)
  /-- A form is to be displayed in an unknown way. -/
  | unknownDisplay (name : String)
  /-- A form has no field of this name. -/
  | unknownField (name : String)
  /-- No connection has this name. -/
  | unknownConnection (name : String)
  /-- The database refused a query. -/
  | query (reason : String)
  /-- A query that must give rows gave none; the notice is for the page. -/
  | emptyResult (notice : String)
  /-- A template is not available. -/
  | template (fault : TemplateFault)
  /-- Something is configured wrongly. -/
  | configuration (fault : ConfigurationFault)
  /-- The session store refused an operation. -/
  | session (reason : String)
  /-- Saved data cannot be written or read back. -/
  | serialization (fault : SerializationFault)
  /-- Reading or writing outside the program failed. -/
  | io (reason : String)
deriving DecidableEq, Repr

namespace Failure

/-- The failure in words. -/
def message : Failure → String
  | .duplicateName name => s!"Form already created with given name: '{name}'"
  | .missingTable => "Database options must include a 'table' element"
  | .noDatabaseLink form => s!"No database link defined for form '{form}'"
  | .noId => "No form ID supplied"
  | .invalidId id => s!"Invalid or expired form ID: '{id}'"
  | .unknownDisplay name => s!"Unsupported display type '{name}'"
  | .unknownField name => s!"No field defined for '{name}'"
  | .unknownConnection name => s!"Unknown database connection '{name}'"
  | .query reason => s!"Query error: {reason}"
  | .emptyResult notice => notice
  | .template fault => s!"Template error: {fault.message}"
  | .configuration fault => s!"Configuration error: {fault.message}"
  | .session reason => s!"Session error: {reason}"
  | .serialization fault => s!"Serialization error: {fault.message}"
  | .io reason => s!"IO error: {reason}"

/-- The failure ends one section of a page and not the page. -/
def isRecoverable : Failure → Bool
  | .query _ | .emptyResult _ => true
  | _ => false

/-- What the page shows in place of the section that failed. -/
def userMessage : Failure → String
  | .query _ => "Internal database error!"
  | .emptyResult notice => notice
  | failure => failure.message

end Failure

end Formwork
