import Formwork.Form.Field
import Formwork.Html
import Formwork.Template.Attributes

/-!
# Widgets

A widget shows a field as HTML. The attributes of the tag that asks for it take precedence over the
description: `name` renames the input, `value` sets its value, `label` replaces the label, and all
but a few reserved ones become attributes of the input.
-/

namespace Formwork

/-- A field that can be shown. -/
structure Widget where
  /-- The description of the field. -/
  field : Field
  /-- The kind of form that showed the field last. -/
  shownIn : Option FormKind := none
  /-- The identifier of the form that showed the field last. -/
  formId : Option String := none
deriving DecidableEq

namespace Widget

/-- Attributes of a tag that do not become attributes of the input. -/
def reserved : List String := ["name", "value", "display", "template", "label"]

/-- The name of the input. -/
def inputName (widget : Widget) (attributes : Attributes) : String :=
  (attributes.get? "name").getD widget.field.name

/-- The value shown: that of the tag, for plain text the value last taken from a row, or the value
of the description. -/
def currentValue (widget : Widget) (attributes : Attributes) : String :=
  match attributes.get? "value" with
  | some value => value
  | none =>
    if widget.field.input = .plaintext then
      widget.field.renderedValue.getD widget.field.value
    else widget.field.value

/-- The attribute that says that something holds, if it does. -/
def flagAttribute (name : String) (holds : Bool) : List (String × String) :=
  if holds then [(name, name)] else []

/-- Further attributes of the input: those of the description, overlaid by those of the tag and by
what the description says about the input's state. -/
def extraAttributes (widget : Widget) (attributes : Attributes) : Attributes :=
  let own := attributes.pairs.filter fun pair => !reserved.contains pair.1
  (((Attributes.ofList widget.field.attributes.entries).setAll own).setAll
    (flagAttribute "disabled" widget.field.disabled)).setAll
      (flagAttribute "required" widget.field.required)

/-- A mark in a start tag, if it is to be set. -/
def mark (name : String) (set : Bool) : String :=
  if set then Html.attributeText name name else ""

/-- One entry of a list of choices. -/
def optionHtml (value : String) (choice : Choice) : String :=
  "<option value=\"" ++ Html.escape choice.value ++ "\""
    ++ mark "selected" (choice.value = value) ++ ">" ++ Html.escape choice.label ++ "</option>"

/-- One button or checkbox of a group of choices. -/
def choiceHtml (input : InputKind) (name value extra : String) (choice : Choice) : String :=
  "<label><input type=\"" ++ input.name ++ "\" name=\"" ++ Html.escape name ++ "\" value=\""
    ++ Html.escape choice.value ++ "\"" ++ mark "checked" (choice.value = value) ++ extra ++ " /> "
    ++ Html.escape choice.label ++ "</label>"

/-- The input alone. -/
def inputHtml (widget : Widget) (attributes : Attributes) : String :=
  let input := widget.field.input
  let inputName := widget.inputName attributes
  let id := " id=\"" ++ Html.elementId inputName ++ "\""
  let named := " name=\"" ++ Html.escape inputName ++ "\"" ++ id
  let value := widget.currentValue attributes
  let valued := " value=\"" ++ Html.escape value ++ "\""
  let extra := Html.attributesText (widget.extraAttributes attributes).pairs
  let typed := "<input type=\"" ++ input.name ++ "\""
  let group :=
    String.join (widget.field.choices.map (choiceHtml input inputName value extra))
  match input with
  | .textarea => "<textarea" ++ named ++ extra ++ ">" ++ Html.escape value ++ "</textarea>"
  | .select =>
    "<select" ++ named ++ extra ++ ">"
      ++ String.join (widget.field.choices.map (optionHtml value)) ++ "</select>"
  | .radio =>
    if widget.field.choices.isEmpty then typed ++ named ++ valued ++ extra ++ " />" else group
  | .checkbox =>
    if widget.field.choices.isEmpty then
      typed ++ named ++ " value=\"1\"" ++ mark "checked" (Text.truth? value = some true)
        ++ extra ++ " />"
    else group
  | .plaintext => "<span" ++ id ++ extra ++ ">" ++ Html.escape value ++ "</span>"
  | .file | .password => typed ++ named ++ extra ++ " />"
  | _ => typed ++ named ++ valued ++ extra ++ " />"

/-- The label alone. Hidden inputs and buttons have none. -/
def labelHtml (widget : Widget) (attributes : Attributes) : String :=
  match widget.field.input with
  | .hidden | .submit | .button => ""
  | _ =>
    let text := (attributes.get? "label").getD widget.field.displayLabel
    "<label for=\"" ++ Html.elementId (widget.inputName attributes) ++ "\">" ++ Html.escape text
      ++ "</label>"

/-- The layout used when a tag names none: rows of a table are laid out in line. -/
def defaultLayout (widget : Widget) : String :=
  if widget.shownIn = some .table then "inline" else "default"

/-- Label and input in the named layout, or in the default one. -/
def html (widget : Widget) (layout : Option String) (attributes : Attributes) : String :=
  let input := widget.inputHtml attributes
  let label := widget.labelHtml attributes
  if widget.field.isHidden then input
  else
    match layout.getD widget.defaultLayout with
    | "inline" => label ++ input
    | "table" => "<tr><th>" ++ label ++ "</th><td>" ++ input ++ "</td></tr>"
    | _ =>
      "<div class=\"formField " ++ widget.field.input.name ++ "Field\">" ++ label ++ input ++ "</div>"

/-- What a layout puts in front of the input: its markup, and the label in it. A hidden input has
nothing around it. -/
def front (widget : Widget) (layout : Option String) (attributes : Attributes) : String :=
  if widget.field.isHidden then ""
  else
    match layout.getD widget.defaultLayout with
    | "inline" => widget.labelHtml attributes
    | "table" => "<tr><th>" ++ widget.labelHtml attributes ++ "</th><td>"
    | _ =>
      "<div class=\"formField " ++ widget.field.input.name ++ "Field\">" ++ widget.labelHtml attributes

/-- What a layout puts behind the input. -/
def behind (widget : Widget) (layout : Option String) : String :=
  if widget.field.isHidden then ""
  else
    match layout.getD widget.defaultLayout with
    | "inline" => ""
    | "table" => "</td></tr>"
    | _ => "</div>"

/-- In every layout the input stands as it is written alone. -/
theorem html_eq (widget : Widget) (layout : Option String) (attributes : Attributes) :
    widget.html layout attributes =
      widget.front layout attributes ++ widget.inputHtml attributes ++ widget.behind layout := by
  unfold html front behind
  dsimp only
  split
  · rw [String.empty_append, String.append_empty]
  · split <;> simp only [String.append_assoc, String.append_empty]

end Widget

end Formwork
