import Formwork.Proofs.AskedFields
import Formwork.Proofs.RowHistory

/-!
# What an update form leaves in its fields

An update form is filled by writing into the values that its fields start with. The
given key is written first and the record that it selects over it, and neither is taken
back: the form that is registered afterwards starts with what was written last, in every
later display. The rest of the display, whether it fails or not, changes no such value;
a submit button that the form gets stands behind its fields.
-/

namespace Formwork

/-! ## Values that fields start with -/

namespace Form

/-- The value that the first field of a name starts with. -/
def default? (form : Form) (name : String) : Option String :=
  (form.catalog.get? name).map (·.field.value)

/-- Values written after others are written all together. -/
theorem setValues_setValues (form : Form) (first second : List (String × String)) :
    (form.setValues first).setValues second = form.setValues (first ++ second) := by
  simp [setValues]

/-- A field starts with the value written into it, and all others as before. -/
theorem default?_setValue (form : Form) (named : String × String) (name : String) :
    (form.setValues [named]).default? name =
      if name = named.1 then (form.default? name).map fun _ => named.2
      else form.default? name := by
  have found := Catalog.get?_modify form.catalog named.1
    (fun widget => { widget with field := { widget.field with value := named.2 } })
    (fun _ => rfl) name
  have written : (form.setValues [named]).default? name =
      ((form.catalog.modify named.1 fun widget =>
        { widget with field := { widget.field with value := named.2 } }).get? name).map
          (·.field.value) := rfl
  rw [written, found, default?]
  by_cases same : name = named.1
  · rw [if_pos same, if_pos same, ← same, Option.map_map, Option.map_map]
    rfl
  · rw [if_neg same, if_neg same]

/-- Fields start with the values written into them last, and all others as before. -/
theorem default?_setValues (form : Form) (values : List (String × String)) (name : String) :
    (form.setValues values).default? name =
      (form.default? name).map fun value => (lastValue? name values).getD value := by
  induction values generalizing form with
  | nil => exact Option.map_id'.symm
  | cons named rest inductionHypothesis =>
    rw [← List.singleton_append, ← setValues_setValues, inductionHypothesis, default?_setValue,
      List.singleton_append, lastValue?_cons]
    by_cases same : name = named.1
    · rw [if_pos same, if_pos same.symm, Option.map_map]
      rfl
    · rw [if_neg same, if_neg (Ne.symm same)]

/-- Every field still starts with its value. -/
def KeepsDefaults (before after : Form) : Prop :=
  ∀ name value, before.default? name = some value → after.default? name = some value

instance : IsPreorder Form KeepsDefaults where
  refl _ _ _ := id
  trans _ _ _ left right := fun name value started => right name value (left name value started)

/-- A form that is kept starts its fields with the same values. -/
theorem Kept.default? {before after : Form} (kept : before.Kept after) (name : String) :
    after.default? name = before.default? name := by
  have settled (form : Form) : form.default? name =
      (form.catalog.settled.find? fun field => field.name = name).map (·.value) := by
    rw [Catalog.settled, ← Catalog.map_get? form.catalog Field.settled fun _ => rfl,
      Option.map_map]
    rfl
  rw [settled, settled, kept.fields]

/-- So does a form that gets a button behind its fields. -/
theorem ensureSubmit_keepsDefaults {form shown : Form} (ensured : form.ensureSubmit = .ok shown) :
    form.KeepsDefaults shown := by
  obtain rfl | ⟨-, rfl⟩ := ensureSubmit_cases ensured
  · exact refl_of KeepsDefaults shown
  · intro name value started
    obtain ⟨widget, found, rfl⟩ := Option.map_eq_some_iff.mp started
    have there : form.catalog.widgets.find? (fun widget => widget.field.name = name) =
        some widget := found
    simp [default?, Catalog.get?, withButton, List.find?_append, there]

end Form

namespace Desk

/-! ## What a display writes into a form -/

/-- The record that a connection selects by a key after other queries: the first row of its
answer. -/
def selected? (connection : Connection) (earlier : List Query) (binding : Binding)
    (key : PrimaryKey) : Option Row :=
  (connection.answerTo earlier (recordQuery connection binding key)).toOption.bind List.head?

/-- The record that a form is filled with: the one that its table has for the given key. -/
def recordFor? (desk : Desk) (form : Form) (options : PageOptions) : Option Row :=
  form.binding.bind fun binding =>
    if form.givenKey options = [] then none
    else
      (desk.connections.resolve (some binding.connection)).toOption.bind fun connection =>
        selected? connection desk.queries binding (form.givenKey options)

/-- The query for that record. -/
def keyQuery? (desk : Desk) (form : Form) (options : PageOptions) : Option Query :=
  form.binding.bind fun binding =>
    if form.givenKey options = [] then none
    else
      (desk.connections.resolve (some binding.connection)).toOption.map fun connection =>
        recordQuery connection binding (form.givenKey options)

/-- The values that a form is filled with: the given key, and then the record. -/
def filling (desk : Desk) (form : Form) (options : PageOptions) : List (String × String) :=
  form.givenKey options ++ ((desk.recordFor? form options).map Row.formValues).getD []

/-- The fields of a registered form start with the same values afterwards. -/
def StartsAlike (name : String) (before after : Desk) : Prop :=
  ∀ form, before.form name = .ok form →
    ∃ last, after.form name = .ok last ∧ form.KeepsDefaults last

instance (name : String) : IsPreorder Desk (StartsAlike name) where
  refl desk := fun form found => ⟨form, found, refl_of Form.KeepsDefaults form⟩
  trans _ _ _ left right := by
    intro form found
    obtain ⟨middle, there, kept⟩ := left form found
    obtain ⟨last, here, keptAgain⟩ := right middle there
    exact ⟨last, here, trans_of Form.KeepsDefaults kept keptAgain⟩

/-- Changes beside forms leave all values. -/
theorem StartsAlike.beside {name : String} {before after : Desk}
    (forms : after.forms = before.forms) : StartsAlike name before after := by
  intro form found
  refine ⟨form, ?_, refl_of Form.KeepsDefaults form⟩
  rw [Desk.form, forms]
  exact found

/-- So does a form in the place of another whose values it keeps. -/
theorem StartsAlike.put {name : String} {desk : Desk} {old form : Form}
    (found : desk.form name = .ok old) (kept : old.KeepsDefaults form) :
    StartsAlike name desk (desk.putForm name form) := by
  intro known there
  obtain rfl := Except.ok.inj (found.symm.trans there)
  exact ⟨form, form_putForm found form, kept⟩

/-- A form to be shown gets at most a button. -/
theorem formToShow_startsAlike (name : String) : MayFail (StartsAlike name) (formToShow name) :=
  formToShow_within fun found ensured => .put found (Form.ensureSubmit_keepsDefaults ensured)

/-- A page writes beside the values that fields start with. -/
theorem writePage_startsAlike (name : String) (kind : FormKind) (formId : String)
    (options : PageOptions) : MayFail (StartsAlike name) (writePage name kind formId options) := by
  refine writePage_within fun {desk form template page html} found rendered => ?_
  have kept := Page.render_keeps (desk.request kind formId options) template (desk.blankPage form)
  rw [rendered] at kept
  have same : form.KeepsDefaults page.form := fun field value started =>
    (kept.default? field).trans started
  exact StartsAlike.put found same

/-- So does the display of a form for a record, once it is filled. -/
theorem showRecord_startsAlike (name : String) (kind : FormKind) (options : PageOptions) :
    MayFail (StartsAlike name) (showRecord name kind options) :=
  .bind (formToShow_startsAlike name) fun form =>
    .bind (saveShown_within (fun _ _ _ => .beside rfl) form kind) fun id =>
      writePage_startsAlike name kind id options

/-- What is done behind a first step of a display, and the report of what made it fail, leave the
values that the first step left. -/
theorem degrade_startsAlike {α : Type} {name : String} (first : Display α)
    {next : α → Display String} (later : ∀ value, MayFail (StartsAlike name) (next value))
    (desk : Desk) :
    StartsAlike name (first.run.run desk).2 ((degrade (first >>= next)).run desk).2 := by
  have reported (failure : Failure) (desk : Desk) :
      StartsAlike name desk (desk.reportFailure failure) := .beside rfl
  unfold degrade
  rw [run_then, run_bind]
  cases (first.run.run desk).1 with
  | error failure => exact reported failure _
  | ok value =>
    have rest := later value (first.run.run desk).2
    dsimp only
    generalize (next value).run.run (first.run.run desk).2 = outcome at rest ⊢
    obtain ⟨result, last⟩ := outcome
    cases result with
    | ok html => exact rest
    | error failure => exact trans_of (StartsAlike name) rest (reported failure last)

/-! ## Filling a form -/

/-- A connection is asked for the record that it selects by one query, beside all forms. -/
theorem askRecord_run (connection : Connection) (binding : Binding) (key : PrimaryKey)
    (desk : Desk) :
    ((askRecord connection binding key).run.run desk).1 =
        .ok (selected? connection desk.queries binding key) ∧
      ((askRecord connection binding key).run.run desk).2.forms = desk.forms ∧
      ((askRecord connection binding key).run.run desk).2.queries =
        desk.queries ++ [recordQuery connection binding key] := by
  unfold askRecord selected?
  rw [run_get_bind, run_modify_bind]
  split
  · rename_i row rest answer
    rw [answer]
    exact ⟨rfl, rfl, rfl⟩
  · rename_i answer
    rw [answer]
    exact ⟨rfl, rfl, rfl⟩
  · rename_i failure answer
    rw [answer]
    exact ⟨rfl, rfl, rfl⟩

/-- A form is filled with the given key and the record, whether or not the display goes on: it does
unless the connection of the form is unknown. No other query is asked than that for the record. -/
theorem fillRecord_run {name : String} {desk : Desk} {form : Form}
    (found : desk.form name = .ok form) (options : PageOptions) :
    (∀ failure, ((fillRecord name options).run.run desk).1 = .error failure →
      ∃ binding, form.binding = some binding ∧
        desk.connections.resolve (some binding.connection) = .error failure) ∧
    ((fillRecord name options).run.run desk).2.form name =
      .ok (form.setValues (desk.filling form options)) ∧
    ((fillRecord name options).run.run desk).2.queries =
      desk.queries ++ (desk.keyQuery? form options).toList := by
  have keyed := form_putForm found (form.setValues (form.givenKey options))
  unfold fillRecord filling recordFor? keyQuery?
  rw [run_get_bind, run_lift_bind, found]
  dsimp only
  rw [run_modify_bind]
  have bound : (form.setValues (form.givenKey options)).binding = form.binding := rfl
  rw [bound]
  cases form.binding with
  | none =>
    simp only [Option.bind_none, Option.map_none, Option.getD_none, List.append_nil,
      Option.toList_none]
    exact ⟨fun _ failed => (by cases failed), keyed, rfl⟩
  | some binding =>
    by_cases none : form.givenKey options = []
    · simp only [none, if_true, Option.bind_some, Option.map_none, Option.getD_none,
        List.append_nil, Option.toList_none]
      rw [none] at keyed
      exact ⟨fun _ failed => (by cases failed), keyed, rfl⟩
    · simp only [none, if_false, Option.bind_some]
      rw [run_get_bind, run_lift_bind]
      have same : (desk.putForm name (form.setValues (form.givenKey options))).connections =
          desk.connections := rfl
      rw [same]
      cases resolved : desk.connections.resolve (some binding.connection) with
      | error failure =>
        dsimp only [Except.toOption, Option.bind_none, Option.map_none, Option.getD_none]
        rw [List.append_nil]
        refine ⟨fun other failed => ⟨binding, rfl, ?_⟩, keyed, (List.append_nil _).symm⟩
        rw [resolved, Except.error.inj failed]
      | ok connection =>
        obtain ⟨answer, forms, asked⟩ := askRecord_run connection binding (form.givenKey options)
          (desk.putForm name (form.setValues (form.givenKey options)))
        dsimp only [Except.toOption, Option.bind_some, Option.map_some, Option.toList]
        rw [run_bind, answer]
        generalize ((askRecord _ _ _).run.run _).2 = last at forms asked ⊢
        have still : last.form name = .ok (form.setValues (form.givenKey options)) := by
          rw [Desk.form, forms]
          exact keyed
        have queries : (desk.putForm name (form.setValues (form.givenKey options))).queries =
            desk.queries := rfl
        rw [queries]
        cases selected? connection desk.queries binding (form.givenKey options) with
        | none =>
          rw [Option.map_none, Option.getD_none, List.append_nil]
          exact ⟨fun _ failed => (by cases failed), still, asked⟩
        | some row =>
          rw [Option.map_some, Option.getD_some, ← Form.setValues_setValues]
          exact ⟨fun _ failed => (by cases failed), form_putForm still _, asked⟩

/-- The display of an update form writes the given key and the record that it selects into the
values that the form's fields start with, and they stay there. Every field starts afterwards, in
this display and in later ones, with the value written under its name last, and a field that
neither the key nor the record names starts as before; if no field of the primary key is given a
value, they all do.

Proof: filling writes into the registered form before anything else is done, and no step of the
rest of the display changes what a field starts with. -/
theorem fields_start_with_record {desk : Desk} {name : String} {form : Form}
    (found : desk.form name = .ok form) (options : PageOptions) :
    ∃ last, ((displayUpdate name options).run desk).2.form name = .ok last ∧
      (∀ field value, form.default? field = some value →
        last.default? field =
          some ((lastValue? field (desk.filling form options)).getD value) ∧
        ((∀ named ∈ desk.filling form options, named.1 ≠ field) →
          last.default? field = some value)) ∧
      (form.givenKey options = [] → form.KeepsDefaults last) := by
  obtain ⟨last, there, kept⟩ := degrade_startsAlike (fillRecord name options)
    (fun _ => showRecord_startsAlike name .update options) desk _ (fillRecord_run found options).2.1
  have written (field value : String) (started : form.default? field = some value) :
      last.default? field =
        some ((lastValue? field (desk.filling form options)).getD value) := by
    apply kept
    rw [Form.default?_setValues, started]
    rfl
  refine ⟨last, there, fun field value started => ⟨written field value started, ?_⟩, ?_⟩
  · intro absent
    rw [written field value started, lastValue?_absent absent]
    rfl
  · intro none field value started
    have empty : desk.filling form options = [] := by
      unfold filling recordFor?
      rw [none]
      cases form.binding <;> rfl
    rw [written field value started, empty]
    rfl

/-- A desk for contacts that shows their name. -/
def namesDesk : Desk := (contactsDesk "\x7bfield name=\"name\"\x7d").run contactsEvents

/-- The options that select Ada. -/
def adaOptions : PageOptions := { values := .ofList [("id", "1")] }

/-- The form of contacts is registered on the desk. -/
theorem namesDesk_registers : namesDesk.form "contact" = .ok contactForm := by decide +kernel

/-- The form of contacts starts with Ada once she was displayed. -/
theorem contact_starts_with_ada :
    namesDesk.form "contact" = .ok contactForm ∧
      ∃ last, ((displayUpdate "contact" adaOptions).run namesDesk).2.form "contact" = .ok last ∧
        last.default? "id" = some "1" ∧ last.default? "name" = some "Ada" := by
  obtain ⟨last, there, starts, -⟩ := fields_start_with_record namesDesk_registers adaOptions
  have filling : namesDesk.filling contactForm adaOptions =
      [("id", "1"), ("id", "1"), ("name", "Ada")] := by decide +kernel
  refine ⟨namesDesk_registers, last, there, ?_, ?_⟩
  · rw [(starts "id" "" (by decide)).1, filling]
    decide
  · rw [(starts "name" "" (by decide)).1, filling]
    decide

/-- Values that fields start with are not left alone: after Ada was displayed for an update, the
form for inserting a contact shows her name, where it showed none before. -/
theorem ada_stays_in_insert :
    contactForm.default? "name" = some "" ∧
      (((displayUpdate "contact" adaOptions).run namesDesk).2.form "contact").toOption.bind
        (·.default? "name") = some "Ada" ∧
      ((displayInsert "contact" {}).run namesDesk).1 =
        "<div class=\"formField textField\"><label for=\"name\">name</label>"
          ++ "<input type=\"text\" name=\"name\" id=\"name\" value=\"\" /></div>" ∧
      ((displayInsert "contact" {}).run
          ((displayUpdate "contact" adaOptions).run namesDesk).2).1 =
        "<div class=\"formField textField\"><label for=\"name\">name</label>"
          ++ "<input type=\"text\" name=\"name\" id=\"name\" value=\"Ada\" /></div>" := by
  decide +kernel

end Desk

end Formwork
