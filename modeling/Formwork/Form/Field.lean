import Formwork.Form.Kind

/-!
# Descriptions of fields

A field is plain data: its name, how it is put in, its label and value, and what else belongs to the
input. The description is what is saved with a form, and all that is needed to show it again.
-/

namespace Formwork

/-- How a field is put in. -/
inductive InputKind where
  /-- A line of text. -/
  | text
  /-- An input that is not shown. -/
  | hidden
  /-- A secret. -/
  | password
  /-- A mail address. -/
  | email
  /-- A number. -/
  | number
  /-- A date. -/
  | date
  /-- An address of a page. -/
  | url
  /-- A telephone number. -/
  | tel
  /-- Several lines of text. -/
  | textarea
  /-- One of several choices, from a list. -/
  | select
  /-- A checkbox, or one for each choice. -/
  | checkbox
  /-- One of several choices, each with a button. -/
  | radio
  /-- A file. -/
  | file
  /-- Text that is shown and cannot be changed. -/
  | plaintext
  /-- A button that submits the form. -/
  | submit
  /-- A button without an action of its own. -/
  | button
deriving DecidableEq, Repr

namespace InputKind

/-- Every kind of input. -/
def all : List InputKind :=
  [.text, .hidden, .password, .email, .number, .date, .url, .tel, .textarea, .select, .checkbox,
   .radio, .file, .plaintext, .submit, .button]

/-- The name of the kind. -/
def name : InputKind → String
  | .text => "text"
  | .hidden => "hidden"
  | .password => "password"
  | .email => "email"
  | .number => "number"
  | .date => "date"
  | .url => "url"
  | .tel => "tel"
  | .textarea => "textarea"
  | .select => "select"
  | .checkbox => "checkbox"
  | .radio => "radio"
  | .file => "file"
  | .plaintext => "plaintext"
  | .submit => "submit"
  | .button => "button"

/-- The kind with exactly the given name. -/
def ofName? (name : String) : Option InputKind := all.find? fun kind => kind.name = name

/-- The kind meant by a word, in any case of letters. -/
def parse (word : String) : Except Failure InputKind :=
  let folded := (Text.trim word).toLower
  match ofName? folded with
  | some kind => .ok kind
  | none => .error (.configuration (.unknownInput folded))

/-- The value of such a field is never posted back. -/
def isDisplayOnly : InputKind → Bool
  | .plaintext | .submit | .button => true
  | _ => false

end InputKind

/-- One choice of a list or group. -/
structure Choice where
  /-- What is posted. -/
  value : String
  /-- What is shown. -/
  label : String
deriving DecidableEq, Repr

/-- The description of a field. -/
structure Field where
  /-- The name, unique within a form. -/
  name : String := ""
  /-- How the field is put in. -/
  input : InputKind := .text
  /-- The label; the name is shown if it is empty. -/
  label : String := ""
  /-- The value shown first. -/
  value : String := ""
  /-- The kinds of form that show the field; all of them if there are none. -/
  showIn : List FormKind := []
  /-- The field belongs to the primary key. -/
  primary : Bool := false
  /-- The input cannot be changed. -/
  disabled : Bool := false
  /-- The input must be filled in. -/
  required : Bool := false
  /-- Further attributes of the input. -/
  attributes : TextMap String := .empty
  /-- The choices of a list or group. -/
  choices : List Choice := []
  /-- Scripts and styles that the field needs on the page. -/
  assets : List String := []
  /-- The value last taken from a row. -/
  renderedValue : Option String := none
deriving DecidableEq

namespace Field

/-- The text shown beside the input. -/
def displayLabel (field : Field) : String :=
  if field.label = "" then field.name else field.label

/-- Forms of the kind show the field. -/
def isShownIn (field : Field) (kind : FormKind) : Bool :=
  field.showIn.isEmpty || field.showIn.contains kind

/-- The field is not shown. -/
def isHidden (field : Field) : Bool := field.input = .hidden

/-- The value cannot be changed on the page. -/
def isReadOnly (field : Field) : Bool :=
  field.primary || field.disabled || field.input = .plaintext

/-! ## JSON -/

/-- A choice as a JSON document. -/
def choiceToJson (choice : Choice) : Json :=
  .object [("value", .string choice.value), ("label", .string choice.label)]

/-- Reads a choice from a JSON document. -/
def choiceOfJson (json : Json) : Except Json.Fault Choice := do
  let members ← Json.asRecord ["value", "label"] .refused json
  return {
    value := ← Json.required Json.asText "value" members
    label := ← Json.required Json.asText "label" members }

/-- The description as a JSON document. -/
def toJson (field : Field) : Json :=
  .object [
    ("name", .string field.name),
    ("type", .string field.input.name),
    ("label", .string field.label),
    ("value", .string field.value),
    ("show_in", .array (field.showIn.map FormKind.toJson)),
    ("primary", .bool field.primary),
    ("disabled", .bool field.disabled),
    ("required", .bool field.required),
    ("attributes", Json.ofMap .string field.attributes),
    ("options", .array (field.choices.map choiceToJson)),
    ("assets", Json.ofTexts field.assets),
    ("rendered_value", Json.ofText? field.renderedValue)]

/-- Reads a description from a JSON document; every member has a default. -/
def ofJson (json : Json) : Except Json.Fault Field := do
  let members ← Json.asRecord
    ["name", "type", "label", "value", "show_in", "primary", "disabled", "required", "attributes",
      "options", "assets", "rendered_value"] .allowed json
  return {
    name := ← Json.defaulted "" Json.asText "name" members
    input := ← Json.defaulted .text (Json.asName InputKind.ofName?) "type" members
    label := ← Json.defaulted "" Json.asText "label" members
    value := ← Json.defaulted "" Json.asText "value" members
    showIn := ← Json.defaulted [] (Json.asList FormKind.ofJson) "show_in" members
    primary := ← Json.defaulted false Json.asFlag "primary" members
    disabled := ← Json.defaulted false Json.asFlag "disabled" members
    required := ← Json.defaulted false Json.asFlag "required" members
    attributes := ← Json.defaulted .empty (Json.asMap Json.asText) "attributes" members
    choices := ← Json.defaulted [] (Json.asList choiceOfJson) "options" members
    assets := ← Json.defaulted [] (Json.asList Json.asText) "assets" members
    renderedValue := ← Json.optional Json.asText "rendered_value" members }

end Field

end Formwork
