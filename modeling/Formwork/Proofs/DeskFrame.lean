import Formwork.Desk.Display
import Formwork.Proofs.PageFrame
import Formwork.Proofs.SavedForms

/-!
# What displays leave alone

A display changes the forms, the reports and what it counts; the clock, the
processors and the store stay as they are but for the one form that it saves.
A form that is displayed may get a button, rows and other values in its fields. What
outlasts these changes is kept by every registered form: forms stay such that they
can be built again.
-/

namespace Formwork

/-- Every registered form is good under the key at which it stands. -/
def Registry.All (good : String → Form → Prop) (registry : Registry) : Prop :=
  ∀ key form, registry.byName.get? key = some form → good key form

namespace Registry.All

variable {good : String → Form → Prop} {registry : Registry}

/-- A form joins the others under its own name. -/
theorem insert {extended : Registry} {form : Form} (registered : registry.All good)
    (stands : good form.name form) (inserted : registry.insert form = .ok extended) :
    extended.All good := by
  unfold Registry.insert at inserted
  split at inserted
  · cases inserted
  · obtain rfl := Except.ok.inj inserted
    intro key found lookup
    rw [TextMap.get?_insert] at lookup
    split at lookup
    · rename_i same
      obtain rfl := Option.some.inj lookup
      exact same ▸ stands
    · exact registered key found lookup

/-- A form leaves the others. -/
theorem erase (registered : registry.All good) (name : String) :
    (registry.erase name).All good := by
  intro key form found
  change (registry.byName.erase (Form.normalizeName name)).get? key = some form at found
  rw [TextMap.get?_erase] at found
  split at found
  · cases found
  · exact registered key form found

/-- A form that is good there takes the place of another. -/
theorem replace (registered : registry.All good) {name : String} {form : Form}
    (stands : good (Form.normalizeName name) form) : (registry.replace name form).All good := by
  intro key found lookup
  change (registry.byName.modify (Form.normalizeName name) fun _ => form).get? key = some found
    at lookup
  rw [TextMap.get?_modify] at lookup
  split at lookup
  · rename_i same
    obtain ⟨old, -, rfl⟩ := Option.map_eq_some_iff.mp lookup
    exact same ▸ stands
  · exact registered key found lookup

end Registry.All

/-- Every registered form has addable names. -/
def Registry.Addable (registry : Registry) : Prop :=
  ∀ key form, registry.byName.get? key = some form → Formwork.Addable form.catalog.names

/-- Values written into fields keep whatever else is said about each field. -/
theorem Form.fields_setValues {α : Type} (part : Field → α)
    (ignores : ∀ field value, part { field with value } = part field) (form : Form)
    (values : List (String × String)) :
    (form.setValues values).catalog.fields.map part = form.catalog.fields.map part := by
  unfold setValues
  dsimp only
  induction values generalizing form with
  | nil => rfl
  | cons value rest inductionHypothesis =>
    have written := inductionHypothesis
      { form with
        catalog := form.catalog.modifyField value.1 fun field => { field with value := value.2 } }
    refine written.trans ?_
    simp only [Catalog.fields, List.map_map]
    exact Catalog.map_modify _ _ _ _ fun widget => ignores widget.field value.2

/-- They keep all names. -/
theorem Form.names_setValues (form : Form) (values : List (String × String)) :
    (form.setValues values).catalog.names = form.catalog.names :=
  form.fields_setValues (·.name) (fun _ _ => rfl) values

/-- A form that is good under a key stays good there whatever a display does to it. -/
structure Form.Enduring (good : String → Form → Prop) : Prop where
  /-- It may get a button that submits it. -/
  button : ∀ {key form shown}, good key form → form.ensureSubmit = .ok shown → good key shown
  /-- A page may be written for it. -/
  page : ∀ {key} {form written : Form}, good key form → form.Kept written → good key written
  /-- Values may be written into its fields. -/
  values : ∀ {key form} values, good key form → good key (form.setValues values)

/-- A form that could be built again still can. -/
theorem Form.addable_enduring : Form.Enduring fun _ form => Addable form.catalog.names where
  button := ensureSubmit_addable
  page addable kept := kept.names ▸ addable
  values values addable := (Form.names_setValues _ values).symm ▸ addable

namespace Desk

/-- Only forms, reports and counts are changed. -/
def Quiet (before after : Desk) : Prop :=
  after =
    { before with
      forms := after.forms, diagnostics := after.diagnostics, issued := after.issued
      queries := after.queries }

instance : IsPreorder Desk Quiet where
  refl _ := rfl
  trans _ _ _ left right := by
    unfold Quiet at *
    rw [right, left]

/-- Registered forms that could be built again still can. -/
def KeepsForms (before after : Desk) : Prop := before.forms.Addable → after.forms.Addable

instance : IsPreorder Desk KeepsForms where
  refl _ := id
  trans _ _ _ left right := right ∘ left

/-- The form of a name stands under the name's spelling. -/
theorem form_good {good : String → Form → Prop} {desk : Desk} {name : String} {form : Form}
    (registered : desk.forms.All good) (found : desk.form name = .ok form) :
    good (Form.normalizeName name) form := by
  unfold Desk.form at found
  split at found
  · rename_i known
    obtain rfl := Except.ok.inj found
    exact registered _ _ known
  · cases found

/-! ## The steps of a display -/

/-- A form to be shown is put back with its button. -/
theorem formToShow_run (name : String) (desk : Desk) :
    (formToShow name).run.run desk =
      match (desk.form name).bind Form.ensureSubmit with
      | .ok form => (.ok form, desk.putForm name form)
      | .error failure => (.error failure, desk) := by
  unfold formToShow
  rw [run_get_bind, run_lift_bind]
  cases desk.form name with
  | error failure => rfl
  | ok form =>
    dsimp only
    rw [run_lift_bind]
    simp only [Except.bind]
    cases form.ensureSubmit <;> rfl

/-- What a page of the desk is written for. -/
def request (desk : Desk) (kind : FormKind) (formId : String) (options : PageOptions) : Request :=
  { kind, formId, options, connections := desk.connections, issuer := desk.issuer
    submission := desk.submission }

/-- A page of the desk before anything is written. -/
def blankPage (desk : Desk) (form : Form) : Page :=
  { form, diagnostics := desk.diagnostics, issued := desk.issued, queries := desk.queries }

/-- The desk after a page was written. -/
def takePage (desk : Desk) (name : String) (page : Page) : Desk :=
  { desk.putForm name page.form with
    diagnostics := page.diagnostics, issued := page.issued, queries := page.queries }

/-- The text and the page that a display writes. -/
def written (desk : Desk) (name : String) (kind : FormKind) (formId : String)
    (options : PageOptions) : Except Failure (String × Page) :=
  (desk.form name).bind fun form =>
    (desk.templates.loadVariant (options.template.getD (form.template kind)) kind.variant).map
      fun template =>
        (Page.render (desk.request kind formId options) template).run (desk.blankPage form)

/-- A page is written when there are the form and its template. -/
theorem writePage_run (name : String) (kind : FormKind) (formId : String) (options : PageOptions)
    (desk : Desk) :
    (writePage name kind formId options).run.run desk =
      match desk.written name kind formId options with
      | .ok (html, page) => (.ok html, desk.takePage name page)
      | .error failure => (.error failure, desk) := by
  unfold writePage written
  rw [run_get_bind, run_lift_bind]
  cases desk.form name with
  | error failure => rfl
  | ok form =>
    dsimp only
    rw [run_lift_bind]
    simp only [Except.bind]
    cases desk.templates.loadVariant (options.template.getD (form.template kind)) kind.variant with
    | error failure => rfl
    | ok template =>
      simp only [Except.map, request, blankPage]
      generalize (Page.render _ template).run _ = outcome
      rfl

/-- A page is written from the form of its name and the template found for it. -/
theorem written_eq_ok {desk : Desk} {name formId html : String} {kind : FormKind}
    {options : PageOptions} {page : Page}
    (written : desk.written name kind formId options = .ok (html, page)) :
    ∃ form template, desk.form name = .ok form ∧
      (Page.render (desk.request kind formId options) template).run (desk.blankPage form) =
        (html, page) := by
  unfold Desk.written at written
  cases found : desk.form name with
  | error failure =>
    rw [found] at written
    cases written
  | ok form =>
    rw [found] at written
    simp only [Except.bind] at written
    cases loaded : desk.templates.loadVariant (options.template.getD (form.template kind))
        kind.variant with
    | error failure =>
      rw [loaded] at written
      cases written
    | ok template =>
      rw [loaded] at written
      exact ⟨form, template, rfl, Except.ok.inj written⟩

/-- A form to be shown changes the desk only by its button. -/
theorem formToShow_within {related : Desk → Desk → Prop} [IsPreorder Desk related] {name : String}
    (shows : ∀ {desk form shown}, desk.form name = .ok form → form.ensureSubmit = .ok shown →
      related desk (desk.putForm name shown)) : MayFail related (formToShow name) := by
  intro desk
  rw [formToShow_run]
  cases found : desk.form name with
  | error failure => exact refl_of related desk
  | ok form =>
    cases ready : form.ensureSubmit with
    | error failure =>
      simp only [Except.bind, ready]
      exact refl_of related desk
    | ok shown =>
      simp only [Except.bind, ready]
      exact shows found ready

/-- A page changes the desk only by what was written for the form of its name. -/
theorem writePage_within {related : Desk → Desk → Prop} [IsPreorder Desk related] {name : String}
    {kind : FormKind} {formId : String} {options : PageOptions}
    (writes : ∀ {desk form template page html}, desk.form name = .ok form →
      (Page.render (desk.request kind formId options) template).run (desk.blankPage form) =
        (html, page) → related desk (desk.takePage name page)) :
    MayFail related (writePage name kind formId options) := by
  intro desk
  rw [writePage_run]
  cases outcome : desk.written name kind formId options with
  | error failure => exact refl_of related desk
  | ok written =>
    obtain ⟨form, template, found, rendered⟩ := written_eq_ok outcome
    exact writes found rendered

/-- Saving a displayed form changes only what is stored. -/
theorem saveShown_within {related : Desk → Desk → Prop} [IsPreorder Desk related]
    (stores : ∀ desk store saved, related desk { desk with store, saved }) (form : Form)
    (kind : FormKind) : MayFail related (saveShown form kind) := by
  intro desk
  unfold saveShown
  rw [run_get_bind, run_lift_bind]
  cases saved : desk.saveSnapshot form.snapshot kind with
  | error failure => exact refl_of related desk
  | ok outcome =>
    unfold saveSnapshot at saved
    split at saved
    · cases saved
    · obtain rfl := Except.ok.inj saved
      exact stores desk _ _

/-! ## Displays are quiet until they save -/

/-- A form to be shown changes only forms. -/
theorem formToShow_quiet (name : String) : MayFail Quiet (formToShow name) :=
  formToShow_within fun _ _ => rfl

/-- A page changes only forms, reports and counts. -/
theorem writePage_quiet (name : String) (kind : FormKind) (formId : String) (options : PageOptions) :
    MayFail Quiet (writePage name kind formId options) :=
  writePage_within fun _ _ => rfl

/-- Asking for a record changes only reports and the list of queries. -/
theorem askRecord_within {related : Desk → Desk → Prop} [IsPreorder Desk related]
    (beside : ∀ desk diagnostics queries, related desk { desk with diagnostics, queries })
    (connection : Connection) (binding : Binding) (key : PrimaryKey) :
    MayFail related (askRecord connection binding key) := by
  unfold askRecord
  refine .bind .get fun _ => .bind (.step fun desk => beside desk _ _) fun _ => ?_
  split
  · exact .pure _
  · exact .bind (.step fun desk => beside desk _ _) fun _ => .pure _
  · exact .bind (.step fun desk => beside desk _ _) fun _ => .pure _

/-- Filling a form with a record changes only forms, reports and queries. -/
theorem fillRecord_quiet (name : String) (options : PageOptions) :
    MayFail Quiet (fillRecord name options) := by
  unfold fillRecord
  refine .bind .get fun desk => .bind (.ofExcept _) fun form => ?_
  refine .bind (.step fun _ => rfl) fun _ => ?_
  split
  · exact .pure _
  · split
    · exact .pure _
    · refine .bind .get fun desk => .bind (.ofExcept _) fun connection => ?_
      refine .bind (askRecord_within (fun _ _ _ => rfl) _ _ _) fun answer => ?_
      split
      · exact .step fun _ => rfl
      · exact .pure _

/-! ## Displays keep forms good -/

/-- Registered forms that are good stay good. -/
def KeepsGood (good : String → Form → Prop) (before after : Desk) : Prop :=
  before.forms.All good → after.forms.All good

instance (good : String → Form → Prop) : IsPreorder Desk (KeepsGood good) where
  refl _ := id
  trans _ _ _ left right := right ∘ left

section

variable {good : String → Form → Prop} (enduring : Form.Enduring good)
include enduring

/-- A form to be shown gets its button as forms get any field. -/
theorem shown_good {name : String} {desk : Desk} {form : Form} (registered : desk.forms.All good)
    (shown : (desk.form name).bind Form.ensureSubmit = .ok form) :
    good (Form.normalizeName name) form := by
  cases found : desk.form name with
  | error failure =>
    rw [found] at shown
    cases shown
  | ok old =>
    rw [found] at shown
    exact enduring.button (form_good registered found) shown

/-- A form to be shown may be put back. -/
theorem formToShow_keepsGood (name : String) : MayFail (KeepsGood good) (formToShow name) :=
  formToShow_within fun found ensured registered =>
    registered.replace (enduring.button (form_good registered found) ensured)

/-- The form of a written page may be put back. -/
theorem writePage_keepsGood (name : String) (kind : FormKind) (formId : String)
    (options : PageOptions) : MayFail (KeepsGood good) (writePage name kind formId options) := by
  refine writePage_within fun {desk form template page html} found rendered registered => ?_
  have kept := Page.render_keeps (desk.request kind formId options) template (desk.blankPage form)
  rw [rendered] at kept
  exact registered.replace (enduring.page (form_good registered found) kept)

/-- A form filled with a record may be put back. The form is looked up once, and
every form put in its place has its fields with other values. -/
theorem fillRecord_keepsGood (name : String) (options : PageOptions) :
    MayFail (KeepsGood good) (fillRecord name options) := by
  intro desk registered
  unfold fillRecord
  rw [run_get_bind, run_lift_bind]
  cases found : desk.form name with
  | error failure => exact registered
  | ok form =>
    dsimp only
    have stands := enduring.values (form.givenKey options) (form_good registered found)
    refine (MayFail.bind (.step fun _ registered => registered.replace stands) fun _ => ?_ :
      MayFail (KeepsGood good) _) desk registered
    split
    · exact .pure _
    · split
      · exact .pure _
      · refine .bind .get fun desk => .bind (.ofExcept _) fun connection => ?_
        refine .bind (askRecord_within (fun _ _ _ => id) _ _ _) fun answer => ?_
        split
        · exact .step fun _ registered => registered.replace (enduring.values _ stands)
        · exact .pure _

end

/-! ## Both together -/

/-- Nothing is saved: only forms, reports and counts are changed, and registered
forms that could be built again still can. -/
structure Aside (before after : Desk) : Prop where
  /-- Only forms, reports and counts are changed. -/
  quiet : Quiet before after
  /-- Forms stay addable. -/
  forms : KeepsForms before after

instance : IsPreorder Desk Aside where
  refl desk := ⟨refl_of Quiet desk, refl_of KeepsForms desk⟩
  trans _ _ _ left right :=
    ⟨trans_of Quiet left.quiet right.quiet, trans_of KeepsForms left.forms right.forms⟩

/-- A form is looked up to be shown and put back. -/
theorem formToShow_aside (name : String) : MayFail Aside (formToShow name) :=
  fun desk => ⟨formToShow_quiet name desk, formToShow_keepsGood Form.addable_enduring name desk⟩

/-- A page is written without saving anything. -/
theorem writePage_aside (name : String) (kind : FormKind) (formId : String) (options : PageOptions) :
    MayFail Aside (writePage name kind formId options) :=
  fun desk => ⟨writePage_quiet name kind formId options desk,
    writePage_keepsGood Form.addable_enduring name kind formId options desk⟩

/-- A form is filled without saving anything. -/
theorem fillRecord_aside (name : String) (options : PageOptions) :
    MayFail Aside (fillRecord name options) :=
  fun desk => ⟨fillRecord_quiet name options desk,
    fillRecord_keepsGood Form.addable_enduring name options desk⟩

/-! ## Displays from their steps -/

/-- Writing scripts and styles changes only reports. -/
theorem showAssets_within {related : Desk → Desk → Prop} [IsPreorder Desk related]
    (reports : ∀ desk diagnostics, related desk { desk with diagnostics }) :
    Within related showAssets := by
  refine .bind .get fun desk => .bind (.mapM _ fun asset => ?_) fun _ => .pure _
  unfold writeAsset
  split
  · exact .bind (.step fun desk => reports desk _) fun _ => .pure _
  · refine .bind .get fun desk => ?_
    split
    · exact .pure _
    · exact .bind (.step fun desk => reports desk _) fun _ => .pure _

/-- The relation holds across every step of a form's displays. -/
structure AcrossSteps (name : String) (related : Desk → Desk → Prop) : Prop where
  /-- The form is looked up to be shown. -/
  shows : MayFail related (formToShow name)
  /-- It is filled with a record. -/
  fills : ∀ options, MayFail related (fillRecord name options)
  /-- A form is saved. -/
  saves : ∀ form kind, MayFail related (saveShown form kind)
  /-- The page is written. -/
  writes : ∀ kind formId options, MayFail related (writePage name kind formId options)
  /-- Something is reported. -/
  reports : ∀ desk diagnostics, related desk { desk with diagnostics }

namespace AcrossSteps

variable {name : String} {related : Desk → Desk → Prop} [IsPreorder Desk related]
  (steps : AcrossSteps name related)
include steps

/-- So it holds across the display of a form for a record. -/
theorem showRecord (kind : FormKind) (options : PageOptions) :
    MayFail related (showRecord name kind options) :=
  .bind steps.shows fun form => .bind (steps.saves form kind) fun id =>
    steps.writes kind id options

/-- Across the display of a table. -/
theorem showTable (options : PageOptions) : MayFail related (showTable name options) := by
  refine .bind steps.shows fun form => .bind .get fun desk => ?_
  refine .bind (steps.writes _ _ _) fun html => .bind .get fun desk => ?_
  exact .bind (.ofExcept _) fun form => .bind (steps.saves _ _) fun _ => .pure _

/-- Across a display whose failure is reported. -/
theorem degrade {display : Display String} (across : MayFail related display) :
    Within related (degrade display) := by
  refine .bind across fun result => ?_
  cases result with
  | ok html => exact .pure _
  | error failure => exact .bind (.step fun desk => steps.reports desk _) fun _ => .pure _

/-- Across the display of an update form. -/
theorem displayUpdate (options : PageOptions) : Within related (displayUpdate name options) :=
  steps.degrade (.bind (steps.fills options) fun _ => steps.showRecord .update options)

/-- Across the display of an insert form, or of an update form in its place. -/
theorem displayInsert (options : PageOptions) : Within related (displayInsert name options) := by
  unfold Desk.displayInsert
  split
  · exact steps.displayUpdate options
  · exact steps.degrade (steps.showRecord .insert options)

/-- And across whatever a word asks to be displayed. -/
theorem display (way : String) (options : PageOptions) :
    Within related (display name way options) := by
  unfold Desk.display
  split
  · exact steps.displayInsert options
  · exact steps.displayInsert options
  · exact steps.displayInsert options
  · exact steps.displayInsert options
  · exact steps.degrade (steps.showTable options)
  · exact steps.degrade (steps.showTable options)
  · exact showAssets_within steps.reports
  · exact .bind .get fun _ => .pure _
  · exact steps.degrade fun desk => refl_of related desk

end AcrossSteps

end Desk

end Formwork
