import Formwork.Proofs.FilledDefaults

/-!
# Buttons that submit forms

A form that is displayed gets a button that submits it, unless it has one. Whether it has
one is decided by how its fields are put in, and whether one can be added by their names:
a form whose field of another kind is called like the button gets none, and is displayed
neither for records nor as a table. Every other form has one behind its fields at most,
and none of its displays fails for its fields.
-/

namespace Formwork

namespace Form

/-- There is no button that submits the form, and a field that is none is called like it. -/
def SubmitTaken (form : Form) : Prop :=
  form.catalog.hasInput .submit = false ∧ "submit" ∈ form.catalog.names

instance (form : Form) : Decidable form.SubmitTaken := inferInstanceAs (Decidable (_ ∧ _))

/-- What displays of such a form fail with. -/
def submitTaken : Failure := .configuration (.fieldDefined "submit")

/-- A form is refused a button exactly if its name is taken. -/
theorem ensureSubmit_eq_error_iff (form : Form) (failure : Failure) :
    form.ensureSubmit = .error failure ↔ form.SubmitTaken ∧ failure = submitTaken := by
  rw [ensureSubmit_eq, SubmitTaken, submitTaken]
  split
  · next there => simp [there]
  · next absent =>
    split
    · next taken => simp [absent, taken, eq_comm]
    · next free => simp [free]

/-- Any other form has a button afterwards: it has the same fields as before and at most one more
behind them, and is not changed once again. -/
theorem ensureSubmit_of_free {form : Form} (free : ¬ form.SubmitTaken) :
    ∃ shown added, form.ensureSubmit = .ok shown ∧
      shown = { form with catalog := ⟨form.catalog.widgets ++ added⟩ } ∧ added.length ≤ 1 ∧
      shown.catalog.hasInput .submit = true ∧ shown.ensureSubmit = .ok shown := by
  have settled {shown : Form} (there : shown.catalog.hasInput .submit = true) :
      shown.ensureSubmit = .ok shown := by
    rw [ensureSubmit_eq, if_pos there]
  by_cases there : form.catalog.hasInput .submit = true
  · exact ⟨form, [], settled there, by rw [List.append_nil], Nat.zero_le 1, there, settled there⟩
  · have absent : "submit" ∉ form.catalog.names := fun taken =>
      free ⟨by simpa using there, taken⟩
    have extended : form.withButton.catalog.hasInput .submit = true := by
      simp [withButton, Catalog.hasInput, Catalog.fields, submitButton]
    refine ⟨form.withButton, [{ field := submitButton }], ?_, rfl, Nat.le_refl 1, extended,
      settled extended⟩
    rw [ensureSubmit_eq, if_neg there, if_neg absent]

/-- A form with a button is displayed by the template of the form without it. -/
theorem template_ensureSubmit {form shown : Form} (ensured : form.ensureSubmit = .ok shown)
    (kind : FormKind) : shown.template kind = form.template kind := by
  rw [ensureSubmit_rest ensured]
  rfl

/-- Values written into fields are no buttons. -/
theorem submitTaken_setValues (form : Form) (values : List (String × String)) :
    (form.setValues values).SubmitTaken ↔ form.SubmitTaken := by
  have through (catalog : Catalog) : catalog.hasInput .submit =
      (catalog.fields.map (·.input)).any (· = .submit) := by
    rw [Catalog.hasInput, List.any_map]
    rfl
  rw [SubmitTaken, SubmitTaken, names_setValues, through, through,
    form.fields_setValues (·.input) fun _ _ => rfl]

end Form

namespace Desk

/-! ## Displays that nothing else stops -/

/-- A form is registered and can be displayed as far as the desk is concerned: its template is
there, the store can be written to, and the connection of the form is known. -/
structure CanDisplay (desk : Desk) (name : String) (form : Form) (kind : FormKind)
    (options : PageOptions) : Prop where
  /-- The form is registered. -/
  found : desk.form name = .ok form
  /-- Its template is there. -/
  loads : ∃ template, desk.templates.loadVariant (options.template.getD (form.template kind))
    kind.variant = .ok template
  /-- The store can be written to. -/
  faultless : desk.writeFault = none
  /-- The connection of the form is known. -/
  connected : ∀ binding, form.binding = some binding →
    ∃ connection, desk.connections.resolve (some binding.connection) = .ok connection

/-- A page is written for a form that is there with its template. -/
theorem written_ok {desk : Desk} {name : String} {form : Form} (found : desk.form name = .ok form)
    {kind : FormKind} {options : PageOptions} {template : String}
    (loaded : desk.templates.loadVariant (options.template.getD (form.template kind))
      kind.variant = .ok template) (formId : String) :
    ∃ html page, desk.written name kind formId options = .ok (html, page) := by
  unfold written
  rw [found]
  simp only [Except.bind, loaded, Except.map]
  exact ⟨_, _, rfl⟩

namespace CanDisplay

variable {desk : Desk} {name : String} {form : Form} {kind : FormKind} {options : PageOptions}

/-- The display for a record fails if the form is refused a button. -/
theorem showRecord_error (can : CanDisplay desk name form kind options) {failure : Failure}
    (refused : form.ensureSubmit = .error failure) :
    ((showRecord name kind options).run.run desk).1 = .error failure := by
  unfold showRecord
  rw [run_bind, formToShow_run, can.found]
  simp only [Except.bind, refused]

/-- Otherwise it gives a page. -/
theorem showRecord_ok (can : CanDisplay desk name form kind options) {shown : Form}
    (ensured : form.ensureSubmit = .ok shown) :
    ∃ html, ((showRecord name kind options).run.run desk).1 = .ok html := by
  obtain ⟨template, loaded⟩ := can.loads
  rw [← Form.template_ensureSubmit ensured] at loaded
  have faultless : (desk.putForm name shown).writeFault = none := can.faultless
  have still : ((desk.putForm name shown).stored
      ⟨(desk.putForm name shown).nextIdentifier, shown, kind⟩).form name = .ok shown :=
    form_putForm can.found shown
  obtain ⟨html, page, written⟩ :=
    written_ok still loaded (desk.putForm name shown).nextIdentifier
  unfold showRecord
  rw [run_bind, formToShow_run, can.found]
  simp only [Except.bind, ensured]
  rw [run_bind, saveShown_run faultless]
  dsimp only
  rw [writePage_run, written]
  exact ⟨html, rfl⟩

/-- The display of a table fails if the form is refused a button. -/
theorem showTable_error (can : CanDisplay desk name form .table options) {failure : Failure}
    (refused : form.ensureSubmit = .error failure) :
    ((showForm name .table options).run.run desk).1 = .error failure := by
  rw [showForm_table, run_bind, shownTable_run, can.found]
  simp only [Except.bind, refused]

/-- Otherwise it gives a page. -/
theorem showTable_ok (can : CanDisplay desk name form .table options) {shown : Form}
    (ensured : form.ensureSubmit = .ok shown) :
    ∃ html, ((showForm name .table options).run.run desk).1 = .ok html := by
  obtain ⟨template, loaded⟩ := can.loads
  rw [← Form.template_ensureSubmit ensured] at loaded
  have loadedTable : (desk.putForm name shown).templates.loadVariant
      ((tableOptions shown options).template.getD (shown.template .table))
        FormKind.table.variant = .ok template := loaded
  obtain ⟨html, page, written⟩ := written_ok (form_putForm can.found shown) loadedTable
    (desk.putForm name shown).nextIdentifier
  have faultless : ((desk.putForm name shown).takePage name page).writeFault = none :=
    can.faultless
  rw [showForm_table, run_bind, shownTable_run, can.found]
  simp only [Except.bind, ensured, written]
  rw [run_bind, saveShown_run faultless]
  exact ⟨html, rfl⟩

/-- Filling the form with a record succeeds, and afterwards the filled form can be displayed. -/
theorem fill (can : CanDisplay desk name form kind options) :
    ((fillRecord name options).run.run desk).1 = .ok () ∧
      CanDisplay ((fillRecord name options).run.run desk).2 name
        (form.setValues (desk.filling form options)) kind options := by
  obtain ⟨unknown, found, -⟩ := fillRecord_run can.found options
  have quiet : ((fillRecord name options).run.run desk).2 = _ := fillRecord_quiet name options desk
  constructor
  · cases outcome : ((fillRecord name options).run.run desk).1 with
    | ok value => rfl
    | error failure =>
      obtain ⟨binding, bound, missing⟩ := unknown failure outcome
      obtain ⟨connection, known⟩ := can.connected binding bound
      rw [known] at missing
      cases missing
  · refine ⟨found, ?_, ?_, ?_⟩
    · rw [quiet]
      exact can.loads
    · rw [quiet]
      exact can.faultless
    · rw [quiet]
      exact can.connected

/-- Such a display fails if the name of the button is taken. -/
theorem showForm_error (can : CanDisplay desk name form kind options) (taken : form.SubmitTaken) :
    ((showForm name kind options).run.run desk).1 = .error Form.submitTaken := by
  cases kind with
  | insert => exact can.showRecord_error ((form.ensureSubmit_eq_error_iff _).mpr ⟨taken, rfl⟩)
  | update =>
    obtain ⟨filled, canStill⟩ := can.fill
    rw [showForm, run_bind, filled]
    exact canStill.showRecord_error ((Form.ensureSubmit_eq_error_iff _ _).mpr
      ⟨(form.submitTaken_setValues _).mpr taken, rfl⟩)
  | table => exact can.showTable_error ((form.ensureSubmit_eq_error_iff _).mpr ⟨taken, rfl⟩)

/-- Otherwise it gives a page. -/
theorem showForm_ok (can : CanDisplay desk name form kind options) (free : ¬ form.SubmitTaken) :
    ∃ html, ((showForm name kind options).run.run desk).1 = .ok html := by
  cases kind with
  | insert =>
    obtain ⟨shown, -, ensured, -⟩ := Form.ensureSubmit_of_free free
    exact can.showRecord_ok ensured
  | update =>
    obtain ⟨filled, canStill⟩ := can.fill
    obtain ⟨shown, -, ensured, -⟩ := Form.ensureSubmit_of_free
      ((form.submitTaken_setValues (desk.filling form options)).not.mpr free)
    rw [showForm, run_bind, filled]
    exact canStill.showRecord_ok ensured
  | table =>
    obtain ⟨shown, -, ensured, -⟩ := Form.ensureSubmit_of_free free
    exact can.showTable_ok ensured

end CanDisplay

/-- A form is displayed in the way of a kind: a word asks for it, or an update is asked for. -/
def Shows (name : String) (kind : FormKind) (options : PageOptions) (shows : StateM Desk String) :
    Prop :=
  (∃ way, shownKind? way options = some kind ∧ shows = display name way options) ∨
    kind = .update ∧ shows = displayUpdate name options

/-- Whatever displays a form gives the page, or nothing and a report of what failed. -/
theorem Shows.eq_degrade {name : String} {kind : FormKind} {options : PageOptions}
    {display : StateM Desk String} (shows : Shows name kind options display) :
    display = degrade (showForm name kind options) := by
  obtain ⟨way, asks, rfl⟩ | ⟨rfl, rfl⟩ := shows
  · exact display_eq_degrade asks name
  · rfl

/-- Which forms are refused for their fields. A form can be given a button unless it has none and
another field is called like the button; it then has the same fields as before and at most one more
behind them, and is not changed once again. Where nothing else stops the display of a registered
form, it gives a page without a report of a failure if the form can be given a button, and else
nothing but such a report.

Proof: filling a form with a record changes no name and no kind of input, and behind the button no
step of a display can fail. -/
theorem refused_iff_submitTaken (form : Form) :
    (form.ensureSubmit = .error Form.submitTaken ↔ form.SubmitTaken) ∧
    (¬ form.SubmitTaken → ∃ shown added, form.ensureSubmit = .ok shown ∧
      shown = { form with catalog := ⟨form.catalog.widgets ++ added⟩ } ∧ added.length ≤ 1 ∧
      shown.catalog.hasInput .submit = true ∧ shown.ensureSubmit = .ok shown) ∧
    ∀ (desk : Desk) (name : String) (kind : FormKind) (options : PageOptions)
      (display : StateM Desk String),
      CanDisplay desk name form kind options → Shows name kind options display →
        (form.SubmitTaken →
          ∃ last : Desk, display.run desk = ("", last.reportFailure Form.submitTaken)) ∧
        (¬ form.SubmitTaken → ∃ html last,
          (showForm name kind options).run.run desk = (.ok html, last) ∧
            display.run desk = (html, last)) := by
  refine ⟨?_, Form.ensureSubmit_of_free, fun desk name kind options display can shows => ?_⟩
  · rw [Form.ensureSubmit_eq_error_iff]
    exact and_iff_left rfl
  · rw [shows.eq_degrade]
    unfold degrade
    rw [run_then]
    generalize outcome : (showForm name kind options).run.run desk = shown
    obtain ⟨result, last⟩ := shown
    constructor
    · intro taken
      have refused := can.showForm_error taken
      rw [outcome] at refused
      obtain rfl : result = .error Form.submitTaken := refused
      exact ⟨last, rfl⟩
    · intro free
      obtain ⟨html, given⟩ := can.showForm_ok free
      rw [outcome] at given
      obtain rfl : result = .ok html := given
      exact ⟨html, last, rfl, rfl⟩

/-- The form of contacts is displayed. -/
theorem contact_is_shown :
    CanDisplay namesDesk "contact" contactForm .insert {} ∧ ∃ html last,
      (showForm "contact" .insert {}).run.run namesDesk = (.ok html, last) ∧
        (display "contact" "insert" {}).run namesDesk = (html, last) := by
  have can : CanDisplay namesDesk "contact" contactForm .insert {} := by
    refine ⟨namesDesk_registers, ⟨"\x7bfield name=\"name\"\x7d", by decide +kernel⟩,
      by decide +kernel, ?_⟩
    intro binding bound
    obtain rfl := Option.some.inj bound
    exact ⟨_, rfl⟩
  have shows : Shows "contact" .insert {} (display "contact" "insert" {}) :=
    .inl ⟨"insert", by decide +kernel, rfl⟩
  exact ⟨can, ((refused_iff_submitTaken contactForm).2.2 _ _ _ _ _ can shows).2 (by decide)⟩

/-- A desk with a form whose only field is a text called like the button. -/
def remarkDesk : Desk :=
  (contactsDesk "Hello").run
    [.create "remark" none, .change "remark" (.add { field := { name := "submit" } })]

/-- That form is refused a button, and so is its display, although its template is there. -/
theorem remark_is_refused :
    (remarkDesk.form "remark").toOption.map Form.ensureSubmit = some (.error Form.submitTaken) ∧
      (remarkDesk.templates.loadVariant "default" FormKind.insert.variant).toOption =
        some "Hello" ∧
      ((display "remark" "insert" {}).run remarkDesk).1 = "" ∧
      ((display "remark" "insert" {}).run remarkDesk).2.diagnostics.reports =
        [⟨.debug, Form.submitTaken.message⟩] := by
  decide +kernel

end Desk

end Formwork
