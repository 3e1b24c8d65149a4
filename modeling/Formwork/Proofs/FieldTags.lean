import Formwork.Proofs.LoopFields

/-!
# The tag for all fields and the tag for one

On a page that has one field left to show, the tag for all fields and the tag that names
this one leave the same page, and they show the same widget. But only the tag that names
the field looks for what was posted: it writes what the tag for all fields would write if
the posted value were the field's own.
-/

namespace Formwork

open Text (Plain)

/-- The widget has a value of its own, and none from a row. -/
def Widget.holding (value : String) (widget : Widget) : Widget :=
  { widget with field := { widget.field with value, renderedValue := none } }

/-- A value given to a widget is shown as its own would be. -/
theorem Widget.html_holding (widget : Widget) (layout : Option String) (value : String) :
    (widget.holding value).html layout .empty =
      widget.html layout (Attributes.empty.set "value" value) := by
  have given : Attributes.empty.set "value" value = ⟨[("value", value)]⟩ := rfl
  have current : (widget.holding value).currentValue .empty =
      widget.currentValue ⟨[("value", value)]⟩ := by
    have own : (widget.holding value).currentValue .empty =
        if widget.field.input = .plaintext then value else value := rfl
    rw [own, ite_self]
    rfl
  have extra : (widget.holding value).extraAttributes .empty =
      widget.extraAttributes ⟨[("value", value)]⟩ := by
    simp [extraAttributes, reserved, holding, Attributes.empty]
  have input : (widget.holding value).inputHtml .empty =
      widget.inputHtml ⟨[("value", value)]⟩ := by
    simp only [inputHtml, current, extra]
    rfl
  have label : (widget.holding value).labelHtml .empty =
      widget.labelHtml ⟨[("value", value)]⟩ := rfl
  rw [given, html, html, input, label]
  rfl

namespace Page

/-- The names of the fields that are shown in the kind of form and were not emitted. -/
def pending (request : Request) (page : Page) : List String :=
  (page.form.catalog.fields.filter fun field =>
    field.isShownIn request.kind && !page.isEmitted field.name).map (·.name)

/-- The page on which a field has a value of its own, and none from a row. -/
def holding (name value : String) (page : Page) : Page :=
  { page with form.catalog := page.form.catalog.modify name (Widget.holding value) }

variable {request : Request} {page : Page} {name : String}

/-- A field that waits is there and was not emitted. -/
theorem of_mem_pending (waits : name ∈ pending request page) :
    page.isEmitted name = false ∧ ∃ widget, page.form.catalog.get? name = some widget ∧
      widget.field.name = name := by
  obtain ⟨field, there, rfl⟩ := List.mem_map.mp waits
  obtain ⟨member, shown⟩ := List.mem_filter.mp there
  rw [Bool.and_eq_true, Bool.not_eq_true'] at shown
  have known : field.name ∈ page.form.catalog.names := List.mem_map_of_mem member
  rw [← Catalog.contains_iff] at known
  obtain ⟨widget, found⟩ := Option.isSome_iff_exists.mp known
  exact ⟨shown.2, widget, found, by simpa using List.find?_some found⟩

/-- The same fields wait if one of them has another value. -/
theorem pending_holding (request : Request) (name value : String) (page : Page) :
    pending request (page.holding name value) = pending request page := by
  -- Which fields wait is said by their names and by the kinds of form that show them.
  have said (fields : List Field) : (fields.filter fun field =>
      field.isShownIn request.kind && !page.isEmitted field.name).map (·.name) =
        ((fields.map fun field => (field.name, field.showIn)).filter fun entry =>
          (entry.2.isEmpty || entry.2.contains request.kind) && !page.isEmitted entry.1).map
            Prod.fst := by
    rw [List.filter_map, List.map_map]
    rfl
  have same : ((page.holding name value).form.catalog.fields.map fun field =>
      (field.name, field.showIn)) =
        page.form.catalog.fields.map fun field => (field.name, field.showIn) := by
    rw [Catalog.fields, Catalog.fields, List.map_map, List.map_map]
    exact Catalog.map_modify _ _ name _ fun _ => rfl
  have whole := said (page.holding name value).form.catalog.fields
  rw [same, ← said] at whole
  exact whole

/-- The tag for all fields shows a field that waits alone as its widget is. -/
theorem writeTags_fields (only : pending request page = [name]) {widget : Widget}
    (found : page.form.catalog.get? name = some widget) :
    (writeTags request (Tag.written "fields" "").source).run page =
      ((presented request widget).html none .empty, (page.presenting request name).marking name) := by
  have spelled : (Tag.written "fields" "").Spelled := Tag.bare_spelled (by decide)
  have key : (Tag.written "fields" "").key = "fields" := Tag.written_key (by decide) ""
  have bare : (Tag.written "fields" "").attributes = .empty :=
    Tag.written_attributes (fun _ none => by cases none) "fields"
  have shown : (page.presenting request name).form.catalog.get? name =
      some (presented request widget) := by
    have looked := page.form.catalog.get?_modify name (presented request) (fun _ => rfl) name
    rw [if_pos rfl, found] at looked
    exact looked
  have one : (writeListed request "full" none name).run page =
      ((presented request widget).html none .empty, (page.presenting request name).marking name) := by
    unfold writeListed
    rw [run_then, present_run, shown]
    rfl
  have listed : (writeFields request .empty).run page =
      (writeAll (pending request page) (writeListed request "full" none)).run page := by
    rfl
  rw [writeTags_tag request spelled, writeTag]
  simp only [key, bare]
  have nothing (page : Page) :
      (writeAll [] (writeListed request "full" none)).run page = ("", page) := rfl
  rw [listed, only, writeAll_cons, run_then, one, run_then, nothing, run_return,
    String.append_empty]

/-- The tag that names the field shows it with what was posted for it. -/
theorem writeTags_naming (waits : name ∈ pending request page) (filled : name ≠ "")
    (plain : Plain name) (unquoted : '"' ∉ name.toList) {widget : Widget}
    (found : page.form.catalog.get? name = some widget) :
    (writeTags request (Tag.naming name).source).run page =
      ((presented request widget).html none
        (setGiven "value" (request.submission.value? name) .empty),
        (page.presenting request name).marking name) := by
  have key : (Tag.naming name).key = "field" := Tag.written_key (by decide) _
  have named : widget.field.name = name := by simpa using List.find?_some found
  rw [writeTags_tag request (Tag.naming_spelled plain), writeTag]
  simp only [key]
  exact writeNamed_whole request filled (Tag.naming_attributes unquoted) (of_mem_pending waits).1
    found named

/-- Where one field waits to be shown, the tag for all fields and the tag that names this one leave
the same page, and if nothing was posted for it they write the same. The tag for all fields writes
the same whatever was posted. The tag that names the field writes what the tag for all fields would
write if the posted value were the field's own.

Proof: both present the same widget and count it; a value that is given to a widget is shown as its
own would be. -/
theorem all_fields_leave_posted (request : Request) (page : Page) (name : String)
    (only : pending request page = [name]) (filled : name ≠ "") (plain : Plain name)
    (unquoted : '"' ∉ name.toList) :
    let all := writeTags request (Tag.written "fields" "").source
    let one := writeTags request (Tag.naming name).source
    (all.run page).2 = (one.run page).2 ∧
      (request.submission.value? name = none → (all.run page).1 = (one.run page).1) ∧
      (∀ submission, (writeTags (request.posting submission) (Tag.written "fields" "").source).run
        page = all.run page) ∧
      ∀ value, request.submission.value? name = some value →
        (one.run page).1 = (all.run (page.holding name value)).1 := by
  intro all one
  have waits : name ∈ pending request page := by
    rw [only]
    exact List.mem_singleton_self name
  obtain ⟨-, widget, found, -⟩ := of_mem_pending waits
  have listed : all.run page = _ := writeTags_fields only found
  have named : one.run page = _ := writeTags_naming waits filled plain unquoted found
  refine ⟨?_, fun nothing => ?_, fun submission => ?_, fun value posted => ?_⟩
  · rw [listed, named]
  · rw [listed, named, nothing]
    rfl
  · rw [listed]
    exact @writeTags_fields (request.posting submission) page name only widget found
  · have held : (page.holding name value).form.catalog.get? name =
        some (widget.holding value) := by
      have looked := page.form.catalog.get?_modify name (Widget.holding value) (fun _ => rfl) name
      rw [if_pos rfl, found] at looked
      exact looked
    have still : pending request (page.holding name value) = [name] := by
      rw [pending_holding, only]
    have listed' : all.run (page.holding name value) = _ := writeTags_fields still held
    rw [named, listed', posted]
    exact ((presented request widget).html_holding none value).symm

/-- A form with a name. -/
def nameForm : Form where
  name := "contact"
  catalog := ⟨[{ field := { name := "name" } }]⟩
  insertTemplate := ""
  editTemplate := ""
  browserValidation := true

/-- The form is shown again with the name that was posted. -/
def nameRequest : Request where
  kind := .insert
  formId := "fid"
  connections := { defaultName := "" }
  issuer := fun _ => ⟨"cid", "tok"⟩
  submission := .ofPairs [("name", "Ada")]

/-- What is shown of the name with a value. -/
def nameHtml (value : String) : String :=
  "<div class=\"formField textField\"><label for=\"name\">name</label>"
    ++ "<input type=\"text\" name=\"name\" id=\"name\" value=\"" ++ value ++ "\" /></div>"

/-- The tag that names the field shows a posted name as if it were the field's own. -/
theorem posted_name_as_own :
    pending nameRequest { form := nameForm } = ["name"] ∧
      nameRequest.submission.value? "name" = some "Ada" ∧
      ((writeTags nameRequest (Tag.naming "name").source).run { form := nameForm }).1 =
        ((writeTags nameRequest (Tag.written "fields" "").source).run
          (holding "name" "Ada" { form := nameForm })).1 := by
  have only : pending nameRequest { form := nameForm } = ["name"] := by decide +kernel
  have posted : nameRequest.submission.value? "name" = some "Ada" := by decide +kernel
  obtain ⟨-, -, -, own⟩ := all_fields_leave_posted nameRequest { form := nameForm } "name" only
    (by decide) (by decide) (by decide)
  exact ⟨only, posted, own "Ada" posted⟩

/-- The tag for all fields does not show a name that was posted, while the tag that names the field
does. -/
theorem posted_name_left :
    pending nameRequest { form := nameForm } = ["name"] ∧
      ((render nameRequest "\x7bfields\x7d").run { form := nameForm }).1 = nameHtml "" ∧
      ((render nameRequest "\x7bfield name=\"name\"\x7d").run { form := nameForm }).1 =
        nameHtml "Ada" := by
  decide +kernel

end Page

end Formwork
