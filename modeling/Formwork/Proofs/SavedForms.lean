import Formwork.Proofs.CatalogOrder
import Formwork.Proofs.RecordCodecs

/-!
# A saved form comes back

A form is built by changes to a new form, some of which may be refused and then
leave it as it is. No change can bring its fields into an order in which they
could not have been added, so a form that was saved can always be built again:
its fields pass the check that they passed before. Together with the decoders
this makes saving and taking back the identity on everything that a form says.
-/

namespace Formwork

/-- A change to a form. -/
inductive Form.Change where
  /-- One more field, with its widget. -/
  | add (widget : Widget)
  /-- A field is removed. -/
  | remove (name : String)
  /-- All fields are removed. -/
  | clear
  /-- A field can or cannot be changed from now on. -/
  | setDisabled (name : String) (disabled : Bool)
  /-- The form is linked to a table. -/
  | link (binding : Binding)
  /-- The primary key of a row is noted. -/
  | recordRow (rowId : String) (key : PrimaryKey)
  /-- A form without a button that submits it gets one. -/
  | ensureSubmit
  /-- Another template set for single records. -/
  | insertTemplate (template : String)
  /-- Another template set for tables. -/
  | editTemplate (template : String)
  /-- Another address that the form is posted to. -/
  | action (action : Option String)
  /-- Another encoding of what is posted. -/
  | encoding (encoding : Option String)
  /-- The browser checks inputs or does not. -/
  | browserValidation (checks : Bool)
  /-- Another address that gives rows for insertion. -/
  | insertFormUrl (url : Option String)
  /-- Another script function that takes such rows. -/
  | insertFormCallback (callback : Option String)

namespace Form

/-- The form with a change made, unless the change is refused. -/
def change? (form : Form) : Change → Except Failure Form
  | .add widget => form.addWidget widget
  | .remove name => .ok { form with catalog := form.catalog.erase name }
  | .clear => .ok form.clear
  | .setDisabled name disabled =>
    (form.catalog.setDisabled name disabled).map fun catalog => { form with catalog }
  | .link binding => .ok (form.link binding)
  | .recordRow rowId key => .ok (form.recordRow rowId key)
  | .ensureSubmit => form.ensureSubmit
  | .insertTemplate template => .ok { form with insertTemplate := template }
  | .editTemplate template => .ok { form with editTemplate := template }
  | .action action => .ok { form with action }
  | .encoding encoding => .ok { form with encoding }
  | .browserValidation checks => .ok { form with browserValidation := checks }
  | .insertFormUrl url => .ok { form with insertFormUrl := url }
  | .insertFormCallback callback => .ok { form with insertFormCallback := callback }

/-- The form after a change; a refused change leaves it as it is. -/
def change (form : Form) (change : Change) : Form :=
  match form.change? change with
  | .ok changed => changed
  | .error _ => form

/-- The form after changes one after another. -/
def changes (form : Form) (changes : List Change) : Form := changes.foldl Form.change form

/-! ## What changes keep -/

/-- A widget that is added keeps the names addable. -/
theorem addWidget_addable {form extended : Form} {widget : Widget}
    (addable : Addable form.catalog.names) (added : form.addWidget widget = .ok extended) :
    Addable extended.catalog.names := by
  unfold addWidget at added
  cases outcome : form.catalog.add widget with
  | error failure =>
    rw [outcome] at added
    cases added
  | ok catalog =>
    rw [outcome] at added
    obtain rfl := Except.ok.inj added
    exact Catalog.add_addable addable outcome

/-- The form with a button behind its fields. -/
def withButton (form : Form) : Form :=
  { form with catalog := ⟨form.catalog.widgets ++ [{ field := submitButton }]⟩ }

/-- A form without a button gets one, unless its name is taken by another field. -/
theorem ensureSubmit_eq (form : Form) :
    form.ensureSubmit =
      if form.catalog.hasInput .submit then .ok form
      else if "submit" ∈ form.catalog.names then .error (.configuration (.fieldDefined "submit"))
      else .ok form.withButton := by
  have trimmed : Text.trim submitButton.name = "submit" := by decide
  have named : ("submit" : String) ≠ "" := by decide
  unfold ensureSubmit
  split
  · rfl
  · unfold addField addWidget Catalog.add
    simp only [trimmed, if_neg named, Catalog.contains_iff]
    by_cases taken : "submit" ∈ form.catalog.names
    · rw [if_pos taken, if_pos taken]
      rfl
    · rw [if_neg taken, if_neg taken]
      rfl

/-- A form that is shown is as it was or has one more button. -/
theorem ensureSubmit_cases {form shown : Form} (ensured : form.ensureSubmit = .ok shown) :
    shown = form ∨ "submit" ∉ form.catalog.names ∧ shown = form.withButton := by
  rw [ensureSubmit_eq] at ensured
  split at ensured
  · exact .inl (Except.ok.inj ensured).symm
  · split at ensured
    · cases ensured
    · next free => exact .inr ⟨free, (Except.ok.inj ensured).symm⟩

/-- Besides its fields it is as it was in any case. -/
theorem ensureSubmit_rest {form shown : Form} (ensured : form.ensureSubmit = .ok shown) :
    shown = { form with catalog := shown.catalog } := by
  obtain rfl | ⟨-, rfl⟩ := ensureSubmit_cases ensured
  · rfl
  · rfl

/-- The button of a form without one is added like any other field. -/
theorem ensureSubmit_addable {form extended : Form} (addable : Addable form.catalog.names)
    (ensured : form.ensureSubmit = .ok extended) : Addable extended.catalog.names := by
  unfold ensureSubmit at ensured
  split at ensured
  · obtain rfl := Except.ok.inj ensured
    exact addable
  · exact addWidget_addable addable ensured

/-- A change that is made keeps the names addable. Only four kinds of change
concern the fields at all. -/
theorem change?_addable {form changed : Form} {change : Change}
    (addable : Addable form.catalog.names) (made : form.change? change = .ok changed) :
    Addable changed.catalog.names := by
  cases change with
  | add widget => exact addWidget_addable addable made
  | ensureSubmit => exact ensureSubmit_addable addable made
  | remove name =>
    obtain rfl := Except.ok.inj made
    exact Catalog.erase_addable addable name
  | clear =>
    obtain rfl := Except.ok.inj made
    exact Addable.nil
  | setDisabled name disabled =>
    cases outcome : form.catalog.setDisabled name disabled with
    | error failure =>
      rw [change?, outcome] at made
      cases made
    | ok catalog =>
      rw [change?, outcome] at made
      obtain rfl := Except.ok.inj made
      rw [Catalog.names_setDisabled outcome]
      exact addable
  | _ =>
    obtain rfl := Except.ok.inj made
    exact addable

/-- Every change keeps the names addable, made or refused. -/
theorem change_addable {form : Form} (addable : Addable form.catalog.names) (change : Change) :
    Addable (form.change change).catalog.names := by
  unfold Form.change
  cases made : form.change? change with
  | ok changed => exact change?_addable addable made
  | error failure => exact addable

/-- Changes one after another keep the names addable. -/
theorem changes_addable {form : Form} (addable : Addable form.catalog.names)
    (changes : List Change) : Addable (form.changes changes).catalog.names := by
  induction changes generalizing form with
  | nil => exact addable
  | cons change rest inductionHypothesis =>
    exact inductionHypothesis (change_addable addable change)

/-! ## Taking a form back -/

/-- Two forms say the same. Widgets are not compared: who showed them last is no
part of a form. -/
structure SaysSame (left right : Form) : Prop where
  /-- The same name. -/
  name : left.name = right.name
  /-- The same fields in the same order. -/
  fields : left.catalog.fields = right.catalog.fields
  /-- The same table. -/
  binding : left.binding = right.binding
  /-- The same template set for single records. -/
  insertTemplate : left.insertTemplate = right.insertTemplate
  /-- The same template set for tables. -/
  editTemplate : left.editTemplate = right.editTemplate
  /-- Posted to the same address. -/
  action : left.action = right.action
  /-- The same encoding. -/
  encoding : left.encoding = right.encoding
  /-- Checked by the browser or not. -/
  browserValidation : left.browserValidation = right.browserValidation
  /-- Rows for insertion from the same address. -/
  insertFormUrl : left.insertFormUrl = right.insertFormUrl
  /-- Rows for insertion given to the same function. -/
  insertFormCallback : left.insertFormCallback = right.insertFormCallback
  /-- The same noted rows. -/
  rowKeys : left.rowKeys = right.rowKeys

/-- A form whose names are addable is built again from its snapshot. -/
theorem restore_snapshot (make : Field → Widget) (keeps : ∀ field, (make field).field = field)
    {form : Form} (addable : Addable form.catalog.names) :
    ∃ restored, form.snapshot.restore make = .ok restored ∧ restored.SaysSame form := by
  obtain ⟨catalog, built, same⟩ := Catalog.ofFields_fields make keeps addable
  refine ⟨{ form with catalog }, ?_, ?_⟩
  · simp only [Snapshot.restore, snapshot, built]
    rfl
  · constructor <;> first | exact same | rfl

/-- Every form that changes can lead to is taken back from what is stored for it,
for whatever it was displayed: the stored document and the text inside it are
read, the kind is the one it was stored with, the fields are added again, and
the form that they give says the same as the form that was saved. -/
theorem saved_form_comes_back (name : String) (settings : Settings) (edits : List Change)
    (kind : FormKind) (make : Field → Widget) (keeps : ∀ field, (make field).field = field) :
    ∃ saved snapshot restored,
      SavedForm.ofJson
          (SavedForm.ofSnapshot ((named name settings).changes edits).snapshot kind).toJson =
        .ok saved ∧
      saved.kind = kind ∧ saved.snapshot = .ok snapshot ∧ snapshot.restore make = .ok restored ∧
      restored.SaysSame ((named name settings).changes edits) := by
  have fresh : Addable (named name settings).catalog.names := Addable.nil
  have addable : Addable ((named name settings).changes edits).catalog.names :=
    changes_addable fresh edits
  obtain ⟨restored, built, same⟩ := restore_snapshot make keeps addable
  exact ⟨_, _, restored, SavedForm.ofJson_toJson _, rfl, SavedForm.snapshot_ofSnapshot _ kind,
    built, same⟩

/-- Edits that lead to a form with a key, a file, a button and a noted row. One of
the fields is named `" note"`; the field `"note "` behind it is added, since it
is compared as `"note"`, and a second `"note"` is refused. -/
def contactEdits : List Change :=
  [.add { field := { name := "id", input := .hidden, primary := true } },
    .add { field := { name := " note", showIn := [.insert, .table], choices := [⟨"a", "A"⟩] } },
    .add { field := { name := "note ", attributes := .ofList [("rows", "3")] } },
    .add { field := { name := "note", input := .file } }, .add { field := { name := "note" } },
    .remove "note ", .setDisabled "note" true, .ensureSubmit,
    .link { table := "notes", connection := "appDB", limit := some "5" },
    .recordRow "r1" [("id", "1")], .action (some "/send")]

/-- Such a form is taken back. -/
theorem contact_comes_back :
    (∀ field : Field, ({ field } : Widget).field = field) ∧
    ∃ saved snapshot restored,
      SavedForm.ofJson
          (SavedForm.ofSnapshot ((named " Contact " {}).changes contactEdits).snapshot .table).toJson =
        .ok saved ∧
      saved.kind = .table ∧ saved.snapshot = .ok snapshot ∧
      snapshot.restore (fun field => { field }) = .ok restored ∧
      restored.SaysSame ((named " Contact " {}).changes contactEdits) :=
  ⟨fun _ => rfl,
    saved_form_comes_back " Contact " {} contactEdits .table (fun field => { field }) fun _ => rfl⟩

end Form

end Formwork
