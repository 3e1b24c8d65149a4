import Formwork.Proofs.DisplayedTables
import Formwork.Proofs.GatheredRows

/-!
# The rows of a form's history

A form that is displayed, or linked to a table, keeps the keys of all rows that it
was ever displayed with. What the display of a table saves is therefore the form
with the rows of its whole history: those of the displays before it as well as
those of its own, and what comes back for any of them is collected.
-/

namespace Formwork

namespace Form

/-- Values written into fields keep the primary key. -/
theorem primaryNames_setValues (form : Form) (values : List (String × String)) :
    (form.setValues values).catalog.primaryNames = form.catalog.primaryNames :=
  Catalog.primaryNames_eq_of_marks
    (form.fields_setValues (fun field => (field.primary, field.name)) (fun _ _ => rfl) values)

end Form

namespace Desk

/-- Connections stay, and the form of a name gathers the rows of the queries that
are asked. -/
structure Gathers (name : String) (before after : Desk) : Prop where
  /-- The connections are the same. -/
  connections : after.connections = before.connections
  /-- The form gathers the rows of the queries asked. -/
  rows : ∃ asked, after.queries = before.queries ++ asked ∧
    ∀ form, before.form name = .ok form →
      ∃ last, after.form name = .ok last ∧
        form.Gathers before.connections before.queries asked last

instance (name : String) : IsPreorder Desk (Gathers name) where
  refl desk :=
    ⟨rfl, [], (List.append_nil _).symm, fun form found => ⟨form, found, .none _ _ rfl rfl⟩⟩
  trans _ _ _ left right := by
    obtain ⟨asked, queries, gathers⟩ := left.rows
    obtain ⟨later, laterQueries, laterGathers⟩ := right.rows
    rw [queries] at laterQueries laterGathers
    refine ⟨right.connections.trans left.connections, asked ++ later, ?_, fun form found => ?_⟩
    · rw [laterQueries, List.append_assoc]
    · obtain ⟨middle, there, gathered⟩ := gathers form found
      obtain ⟨last, found, laterGathered⟩ := laterGathers middle there
      rw [left.connections] at laterGathered
      exact ⟨last, found, gathered.trans laterGathered⟩

/-- Changes beside forms, connections and queries gather nothing. -/
theorem Gathers.beside {name : String} {before after : Desk}
    (connections : after.connections = before.connections) (forms : after.forms = before.forms)
    (queries : after.queries = before.queries) : Gathers name before after := by
  refine ⟨connections, [], queries.trans (List.append_nil _).symm, fun form found => ?_⟩
  refine ⟨form, ?_, .none _ _ rfl rfl⟩
  rw [Desk.form, forms]
  exact found

/-- Another form with the same primary key and the same rows may take the place of
one. -/
theorem Gathers.put {name : String} {desk : Desk} {old form : Form} (found : desk.form name = .ok old)
    (primaryNames : form.catalog.primaryNames = old.catalog.primaryNames)
    (rowKeys : form.rowKeys = old.rowKeys) : Gathers name desk (desk.putForm name form) := by
  refine ⟨rfl, [], (List.append_nil _).symm, fun known there => ?_⟩
  obtain rfl := Except.ok.inj (found.symm.trans there)
  exact ⟨form, form_putForm found form, .none _ _ primaryNames rowKeys⟩

/-! ## The steps of a display -/

/-- A form to be shown gets at most a button. -/
theorem formToShow_gathers (name : String) : MayFail (Gathers name) (formToShow name) :=
  formToShow_within fun found ensured =>
    .put found (Form.ensureSubmit_shownAs ensured).primaryNames
      (by rw [Form.ensureSubmit_rest ensured])

/-- A page gathers the rows of its queries. -/
theorem writePage_gathers (name : String) (kind : FormKind) (formId : String)
    (options : PageOptions) : MayFail (Gathers name) (writePage name kind formId options) := by
  refine writePage_within fun {desk form template page html} found rendered => ?_
  have gathers := Page.render_gathers (desk.request kind formId options) template
    (desk.blankPage form)
  rw [rendered] at gathers
  obtain ⟨asked, queries, -, gathered⟩ := gathers.rows
  refine ⟨rfl, asked, queries, fun known there => ⟨page.form, form_putForm found page.form, ?_⟩⟩
  obtain rfl := Except.ok.inj (found.symm.trans there)
  exact gathered

/-- A query with parameters gathers nothing. -/
theorem Gathers.ask (name : String) (desk : Desk) {query : Query} (record : query.isLoop = false) :
    Gathers name desk { desk with queries := desk.queries ++ [query] } := by
  refine ⟨rfl, [query], rfl, fun form found => ⟨form, found, rfl, ?_⟩⟩
  rw [Page.loopEntries, if_neg (by rw [record]; exact Bool.false_ne_true)]
  rfl

/-- Asking for a record gathers nothing. -/
theorem askRecord_gathers (name : String) (connection : Connection) (binding : Binding)
    {key : PrimaryKey} (given : key ≠ []) :
    MayFail (Gathers name) (askRecord connection binding key) := by
  have record : (recordQuery connection binding key).isLoop = false := by
    cases key with
    | nil => contradiction
    | cons column rest => rfl
  unfold askRecord
  refine .bind .get fun _ => .bind (.step fun desk => .ask name desk record) fun _ => ?_
  split
  · exact .pure _
  · exact .bind (.step fun _ => .beside rfl rfl rfl) fun _ => .pure _
  · exact .bind (.step fun _ => .beside rfl rfl rfl) fun _ => .pure _

/-- The forms are the same. -/
def SameForms (before after : Desk) : Prop := after.forms = before.forms

instance : IsPreorder Desk SameForms where
  refl _ := rfl
  trans _ _ _ left right := Eq.trans right left

/-- Asking for a record and filling a form with it gathers nothing: the filled form has
the rows of the registered one. -/
theorem fillAnswer_gathers {name : String} {desk : Desk} {form : Form}
    (found : desk.form name = .ok form) (connection : Connection) (binding : Binding)
    {key : PrimaryKey} (given : key ≠ []) :
    Gathers name desk
      ((do
        match ← askRecord connection binding key with
        | some row => modify (·.putForm name (form.setValues row.formValues))
        | none => return : Display Unit).run.run desk).2 := by
  have asking := askRecord_gathers name connection binding given desk
  have forms : SameForms desk ((askRecord connection binding key).run.run desk).2 :=
    askRecord_within (fun _ _ _ => rfl) connection binding key desk
  rw [run_bind]
  generalize (askRecord connection binding key).run.run desk = outcome at asking forms ⊢
  obtain ⟨answer, asked⟩ := outcome
  rcases answer with failure | none | row
  · exact asking
  · exact asking
  · have still : asked.form name = .ok form := by
      rw [Desk.form, forms]
      exact found
    have filled : Gathers name asked (asked.putForm name (form.setValues row.formValues)) :=
      .put still (form.primaryNames_setValues _) rfl
    exact trans_of (Gathers name) asking filled

/-- Filling a form with a record gathers nothing. -/
theorem fillRecord_gathers (name : String) (options : PageOptions) :
    MayFail (Gathers name) (fillRecord name options) := by
  intro desk
  unfold fillRecord
  rw [run_get_bind, run_lift_bind]
  cases found : desk.form name with
  | error failure => exact refl_of (Gathers name) desk
  | ok form =>
    dsimp only
    rw [run_modify_bind]
    have first : Gathers name desk (desk.putForm name (form.setValues (form.givenKey options))) :=
      .put found (form.primaryNames_setValues _) rfl
    have there := form_putForm found (form.setValues (form.givenKey options))
    generalize form.setValues (form.givenKey options) = filled at first there ⊢
    refine trans_of (Gathers name) first ?_
    generalize desk.putForm name filled = middle at there ⊢
    cases filled.binding with
    | none => exact refl_of (Gathers name) middle
    | some binding =>
      by_cases given : form.givenKey options = []
      · rw [given]
        exact refl_of (Gathers name) middle
      · simp only [given, if_false]
        rw [run_get_bind, run_lift_bind]
        cases middle.connections.resolve (some binding.connection) with
        | error failure => exact refl_of (Gathers name) middle
        | ok connection => exact fillAnswer_gathers there connection binding given

/-! ## Displays and links -/

/-- The page of a table is written for the form of the name. -/
theorem shownTable_gathers (name : String) (options : PageOptions) :
    MayFail (Gathers name) (shownTable name options) := by
  refine .bind (formToShow_gathers name) fun form => .bind .get fun desk => ?_
  refine .bind (writePage_gathers _ _ _ _) fun html => .bind .get fun desk => ?_
  exact .bind (.ofExcept _) fun form => .pure _

/-- Every display of a form gathers the rows of its page, also when it fails. -/
theorem gathers_acrossSteps (name : String) : AcrossSteps name (Gathers name) where
  shows := formToShow_gathers name
  fills := fillRecord_gathers name
  saves := saveShown_within fun _ _ _ => .beside rfl rfl rfl
  writes := writePage_gathers name
  reports _ _ := .beside rfl rfl rfl

/-- A form that is linked to a table keeps the rows of the table before it. -/
theorem link_gathers (name : String) (options : LinkOptions) :
    Within (Gathers name) (link name options) := by
  intro desk
  rw [link_run]
  cases desk.bind options with
  | error failure => exact .beside rfl rfl rfl
  | ok binding =>
    cases found : desk.form name with
    | error failure =>
      dsimp only
      exact .beside rfl rfl rfl
    | ok form =>
      dsimp only
      exact .put found rfl rfl

/-- An event displays the form of a name or links it to a table. -/
def Event.concerns (name : String) : Event → Prop
  | .link other _ => other = name
  | .display other _ _ => other = name
  | .displayUpdate other _ => other = name
  | _ => False

/-- A form that is displayed or linked gathers the rows of the queries asked. -/
theorem perform_gathers {name : String} {event : Event} (concerns : event.concerns name)
    (desk : Desk) : Gathers name desk (desk.perform event) := by
  cases event with
  | link other options =>
    obtain rfl := concerns
    exact link_gathers other options desk
  | display other way options =>
    obtain rfl := concerns
    exact (gathers_acrossSteps other).display way options desk
  | displayUpdate other options =>
    obtain rfl := concerns
    exact (gathers_acrossSteps other).displayUpdate options desk
  | _ => exact concerns.elim

/-- So it does in the course of many events. -/
theorem run_gathers {name : String} {events : List Event}
    (concern : ∀ event ∈ events, event.concerns name) (desk : Desk) :
    Gathers name desk (desk.run events) := by
  induction events generalizing desk with
  | nil => exact refl_of (Gathers name) desk
  | cons event rest inductionHypothesis =>
    obtain ⟨first, others⟩ := List.forall_mem_cons.mp concern
    exact trans_of (Gathers name) (perform_gathers first desk)
      (inductionHypothesis others (desk.perform event))

/-! ## What a table saves -/

/-- The form that a table saves is the registered one after its page was written. -/
theorem shownTable_registers {name : String} {options : PageOptions} {desk : Desk} {html : String}
    {form : Form} (shown : ((shownTable name options).run.run desk).1 = .ok (html, form)) :
    ((shownTable name options).run.run desk).2.form name = .ok form := by
  rw [shownTable_run] at shown ⊢
  cases ready : (desk.form name).bind Form.ensureSubmit with
  | error failure =>
    rw [ready] at shown
    cases shown
  | ok button =>
    rw [ready] at shown
    dsimp only at shown ⊢
    cases outcome : (desk.putForm name button).written name .table
        (desk.putForm name button).nextIdentifier (tableOptions button options) with
    | error failure =>
      rw [outcome] at shown
      cases shown
    | ok written =>
      rw [outcome] at shown
      obtain ⟨text, page⟩ := written
      obtain ⟨-, rfl⟩ := Prod.mk.inj (Except.ok.inj shown)
      obtain ⟨old, template, found, -⟩ := written_eq_ok outcome
      exact form_putForm found page.form

/-- The form that a table saves is the one that its page was written for. -/
theorem shownTable_of_save {name : String} {options : PageOptions} {desk : Desk} {save : Save}
    (saved : desk.shownSave? name .table options = some save) :
    ∃ html, ((shownTable name options).run.run desk).1 = .ok (html, save.form) := by
  unfold shownSave? shownForm at saved
  rw [run_bind] at saved
  cases written : ((shownTable name options).run.run desk).1 with
  | error failure =>
    rw [written] at saved
    cases saved
  | ok outcome =>
    rw [written] at saved
    obtain rfl := Option.some.inj saved
    exact ⟨outcome.1, rfl⟩

/-- What is collected by a form that gathered rows belongs to rows that it had before, or
to rows that the asked queries gave. -/
theorem collected_of_gathers {connections : Connections} {earlier asked : List Query}
    {form last : Form} (gathers : form.Gathers connections earlier asked last) (binding : Binding) (submission : Submission)
    {rowId : String}
    (collected : ((Processor.ofForm last binding .table).collectRows submission).contains rowId =
      true) :
    form.rowKeys.contains rowId = true ∨
      rowId ∈ (Page.loopEntries connections form earlier asked).map Prod.fst := by
  have serves := Processor.ofForm_serves ⟨"", last, .table⟩ binding
  have noted := Processor.collectRows_onlyNoted _ submission rowId collected
  rw [serves.rowKeys, gathers.rowKeys] at noted
  exact (TextMap.contains_insertAll _ _ _).mp noted

/-- A displayed table covers the rows of the form's whole history. After any number of
displays and links of a form, the display of a table stores the form with the keys that
it had in the beginning and those of all rows that row loops gave since, the own ones
included; and of what is posted for the display nothing is collected but for such rows.

Proof: every step keeps the account of queries and rows, so the form that is saved last
has gathered the rows of all queries, and a processor collects for noted rows alone. -/
theorem table_covers_history {saves : List Save} {desk : Desk} (sound : Sound saves desk)
    (unique : Function.Injective desk.identifiers) {name : String} {form : Form}
    (registered : desk.form name = .ok form) {events : List Event}
    (concern : ∀ event ∈ events, event.concerns name) {options : PageOptions} {save : Save}
    (saved : (desk.run events).shownSave? name .table options = some save) {shown : Desk}
    (displayed : ((displayTable name options).run (desk.run events)).2 = shown) :
    shown.store.byKey.get? (shown.settings.sessionKey save.id) =
        some ⟨save.value, shown.now + shown.settings.formTimeout⟩ ∧
      ∃ asked, shown.queries = desk.queries ++ asked ∧
        form.Gathers desk.connections desk.queries asked save.form ∧
        ∀ binding, save.form.binding = some binding → ∀ later, SharesStore shown later →
          ∀ submission : Submission, submission.formId? = some save.id →
          ∀ seconds < shown.settings.formTimeout, ∃ collected,
            ((process none).run (later.run [.submit submission, .wait seconds])).1 =
              .ok (.rows collected) ∧
            ∀ rowId, collected.contains rowId = true → form.rowKeys.contains rowId = true ∨
              rowId ∈ (Page.loopEntries desk.connections form desk.queries asked).map Prod.fst := by
  have sound' : Sound (saves ++ desk.saves events) (desk.run events) := sound.run events
  have setup : SameSetup desk (desk.run events) := run_sameSetup sound events
  rw [← setup.identifiers] at unique
  have before : Gathers name desk (desk.run events) := run_gathers concern desk
  generalize desk.run events = middle at *
  subst displayed
  have passes : Passes middle (some save) ((displayTable name options).run middle).2 :=
    saved ▸ degrade_passes (showForm_passes name .table options sound'.writes)
  obtain ⟨html, written⟩ := shownTable_of_save saved
  have gathers := trans_of (Gathers name) before (shownTable_gathers name options middle)
  obtain ⟨asked, queries, gathered⟩ := gathers.rows
  obtain ⟨last, found, gathered⟩ := gathered form registered
  obtain rfl := Except.ok.inj (found.symm.trans (shownTable_registers written))
  refine ⟨passes.held, asked, ?_, gathered, ?_⟩
  · rw [displayTable_queries name options sound'.writes, queries]
  · intro binding bound later shares submission posted seconds early
    have named : save = ⟨middle.nextIdentifier, save.form, .table⟩ := by
      obtain ⟨_, -, rfl⟩ := Option.map_eq_some_iff.mp saved
      rfl
    rw [named] at saved posted
    refine ⟨_, displayTable_process sound' saved (sound'.next_missing unique) bound shares posted
      (passes.sameSetup.settings ▸ early), fun rowId => ?_⟩
    exact collected_of_gathers gathered binding submission

/-- A desk on which one contact is Ada, and the only guest is Grace. -/
def guestsDesk : Desk :=
  let rows (sql : String) : List Row :=
    if Text.occursIn "contacts" sql then [⟨[("id", .int 1), ("name", .text "Ada")]⟩]
    else [⟨[("id", .int 2), ("name", .text "Grace")]⟩]
  { contactsDesk contactsLoop with
    connections :=
      { defaultName := "appDB"
        byName := .ofList [("appDB", { vendor := "sqlite", answer := fun sql _ => .ok (rows sql) })] } }

/-- The contacts are displayed, and then their form is linked to the guests. -/
def guestsEvents : List Event :=
  [.display "contact" "edittable" {}, .link "contact" { table := some "guests" }]

/-- The identifier of Ada's row. -/
def adaId : String := Page.identifierOf contactForm 0 ⟨[("id", .int 1), ("name", .text "Ada")]⟩

/-- The form of contacts is registered on this desk as well. -/
theorem guestsDesk_registers : (guestsDesk.run contactsEvents).form "contact" = .ok contactForm := by
  decide +kernel

/-- Both events concern it. -/
theorem guestsEvents_concern : ∀ event ∈ guestsEvents, event.concerns "contact" := by
  simp [guestsEvents, Event.concerns]

/-- The display of the guests saves the form, and Ada's row with it. -/
theorem guestsDesk_saves :
    ∃ save,
      ((guestsDesk.run contactsEvents).run guestsEvents).shownSave? "contact" .table {} =
        some save ∧ save.form.rowKeys.contains adaId = true := by
  have stays : (((guestsDesk.run contactsEvents).run guestsEvents).shownSave? "contact" .table
      {}).map (fun save => save.form.rowKeys.contains adaId) = some true := by decide +kernel
  exact Option.map_eq_some_iff.mp stays

/-- The display of the guests saves the form with the rows of its history. -/
theorem guests_cover_history :
    ∃ save asked,
      ((guestsDesk.run contactsEvents).run guestsEvents).shownSave? "contact" .table {} =
        some save ∧
      ((displayTable "contact" {}).run
          ((guestsDesk.run contactsEvents).run guestsEvents)).2.queries =
        (guestsDesk.run contactsEvents).queries ++ asked ∧
      contactForm.Gathers (guestsDesk.run contactsEvents).connections
        (guestsDesk.run contactsEvents).queries asked save.form := by
  have fresh : guestsDesk.Fresh := ⟨rfl, rfl, rfl, rfl, rfl⟩
  have makes : ∀ field, (guestsDesk.make field).field = field := fun _ => rfl
  have sound := (fresh.sound makes).run contactsEvents
  have unique : Function.Injective (guestsDesk.run contactsEvents).identifiers := by
    rw [(run_sameSetup (fresh.sound makes) contactsEvents).identifiers]
    exact contactsDesk_unique contactsLoop
  obtain ⟨save, saved, -⟩ := guestsDesk_saves
  obtain ⟨-, asked, queries, gathered, -⟩ :=
    table_covers_history sound unique guestsDesk_registers guestsEvents_concern saved rfl
  exact ⟨save, asked, saved, queries, gathered⟩

/-- The rows of a table are not those of its own display alone: Ada's row is still among
those of the guests. -/
theorem earlier_rows_stay :
    ¬ ∀ (start : Desk) (earlier events : List Event) (name : String) (form : Form)
        (options : PageOptions) (save : Save) (asked : List Query),
      start.Fresh → (start.run earlier).form name = .ok form → form.rowKeys = .empty →
      (∀ event ∈ events, event.concerns name) →
      ((start.run earlier).run events).shownSave? name .table options = some save →
      ((displayTable name options).run ((start.run earlier).run events)).2.queries =
        ((start.run earlier).run events).queries ++ asked →
      (∀ before query after, asked = before ++ query :: after →
        start.connections.rowsOf (((start.run earlier).run events).queries ++ before) query ≠ []) →
      ∀ rowId, save.form.rowKeys.contains rowId = true →
        rowId ∈ (Page.loopEntries start.connections form ((start.run earlier).run events).queries
          asked).map Prod.fst := by
  intro covers
  obtain ⟨save, saved, noted⟩ := guestsDesk_saves
  have given := covers guestsDesk contactsEvents guestsEvents "contact" contactForm {} save
    [⟨"appDB", "SELECT * FROM \"guests\"", []⟩] ⟨rfl, rfl, rfl, rfl, rfl⟩ guestsDesk_registers rfl
    guestsEvents_concern saved (by decide +kernel) (fun before query after single => ?_) adaId noted
  · revert given
    decide +kernel
  · obtain ⟨rfl, same⟩ | ⟨-, none⟩ := List.append_eq_singleton_iff.mp single.symm
    · obtain ⟨rfl, -⟩ := List.cons.inj same
      decide +kernel
    · cases none

end Desk

end Formwork
