import Formwork.Proofs.GatheredRows
import Formwork.Proofs.KeptLoops
import Formwork.Proofs.PostedRows
import Formwork.Proofs.ProcessorLifecycle

/-!
# A displayed table comes back

The display of a table that asks for its rows saves the form with their keys.
What is posted for the form later, to the same desk or to another one on the same
store, is collected by exactly these keys: a value posted for a field in a row
reaches the row that was displayed, whatever else was posted.
-/

namespace Formwork

namespace Node

/-- A row loop stands in a form section of the template. -/
def hasRowLoop (template : String) : Bool :=
  (parse ["form"] template).any fun node =>
    node.isSection && (parse ["rowLoop"] node.source).any isSection

end Node

namespace Form

/-- What a form has in common with the form that is saved when it is displayed. -/
structure ShownAs (form shown : Form) : Prop where
  /-- It has the same table. -/
  binding : shown.binding = form.binding
  /-- It has the same primary key. -/
  primaryNames : shown.catalog.primaryNames = form.catalog.primaryNames
  /-- It has all fields, but for what pages write into them. -/
  fields : ∀ field ∈ form.catalog.fields,
    ∃ other ∈ shown.catalog.fields, other.settled = field.settled
  /-- Its names are pairwise distinct if they were before. -/
  names : form.catalog.names.Nodup → shown.catalog.names.Nodup

/-- A form gets at most a button, at the end. -/
theorem ensureSubmit_shownAs {form shown : Form} (ensured : form.ensureSubmit = .ok shown) :
    form.ShownAs shown := by
  obtain rfl | ⟨fresh, rfl⟩ := ensureSubmit_cases ensured
  · exact ⟨rfl, rfl, fun field member => ⟨field, member, rfl⟩, id⟩
  · have extended : form.withButton.catalog.fields = form.catalog.fields ++ [submitButton] := by
      simp [withButton, Catalog.fields]
    refine ⟨rfl, ?_, fun field member => ⟨field, ?_, rfl⟩, fun distinct => ?_⟩
    · rw [Catalog.primaryNames, extended, List.filter_append, List.map_append]
      exact List.append_nil _
    · rw [extended]
      exact List.mem_append_left _ member
    · simp only [Catalog.names, extended, List.map_append]
      refine List.nodup_append.mpr ⟨distinct, List.nodup_singleton _, ?_⟩
      intro name member other last
      rw [List.mem_singleton.mp last]
      rintro rfl
      exact fresh member

/-- A form that a page keeps has the same in common. -/
theorem ShownAs.kept {form shown last : Form} (shows : form.ShownAs shown)
    (kept : shown.Kept last) : form.ShownAs last := by
  refine ⟨?_, ?_, fun field member => ?_, fun distinct => kept.names ▸ shows.names distinct⟩
  · rw [kept.rest]
    exact shows.binding
  · rw [Catalog.primaryNames_eq_of_settled kept.fields, shows.primaryNames]
  · obtain ⟨other, there, same⟩ := shows.fields field member
    have settled : other.settled ∈ last.catalog.settled := by
      rw [kept.fields]
      exact List.mem_map_of_mem there
    obtain ⟨found, present, is⟩ := List.mem_map.mp settled
    exact ⟨found, present, is.trans same⟩

end Form

namespace Desk

/-! ## The display of a table -/

/-- A form that was put in the place of another is found. -/
theorem form_putForm {desk : Desk} {name : String} {old : Form} (found : desk.form name = .ok old)
    (form : Form) : (desk.putForm name form).form name = .ok form := by
  unfold Desk.form at found ⊢
  split at found
  · rename_i known there
    have replaced : (desk.putForm name form).forms.get? name = some form := by
      change (desk.forms.byName.modify (Form.normalizeName name) fun _ => form).get?
        (Form.normalizeName name) = some form
      rw [TextMap.get?_modify, if_pos rfl]
      exact Option.map_eq_some_iff.mpr ⟨known, there, rfl⟩
    rw [replaced]
  · cases found

/-- The page of a table is written for the form with its button, and its form is
the registered one afterwards. -/
theorem shownTable_run (name : String) (options : PageOptions) (desk : Desk) :
    (shownTable name options).run.run desk =
      match (desk.form name).bind Form.ensureSubmit with
      | .error failure => (.error failure, desk)
      | .ok form =>
        match (desk.putForm name form).written name .table (desk.putForm name form).nextIdentifier
          (tableOptions form options) with
        | .error failure => (.error failure, desk.putForm name form)
        | .ok (html, page) =>
          (.ok (html, page.form), (desk.putForm name form).takePage name page) := by
  unfold shownTable
  rw [run_bind, formToShow_run]
  cases ready : (desk.form name).bind Form.ensureSubmit with
  | error failure => rfl
  | ok form =>
    dsimp only
    rw [run_get_bind, run_bind, writePage_run]
    cases outcome : (desk.putForm name form).written name .table
        (desk.putForm name form).nextIdentifier (tableOptions form options) with
    | error failure => rfl
    | ok written =>
      obtain ⟨html, page⟩ := written
      obtain ⟨old, template, found, -⟩ := written_eq_ok outcome
      have back : ((desk.putForm name form).takePage name page).form name = .ok page.form :=
        form_putForm found page.form
      dsimp only
      rw [run_get_bind, run_lift_bind, back]
      rfl

/-- Saving the form and reporting a failure ask no query. -/
theorem displayTable_queries (name : String) (options : PageOptions) {desk : Desk}
    (faultless : desk.writeFault = none) :
    ((displayTable name options).run desk).2.queries =
      ((shownTable name options).run.run desk).2.queries := by
  have degraded (display : Display String) :
      ((degrade display).run desk).2.queries = (display.run.run desk).2.queries := by
    unfold degrade
    rw [run_then]
    cases (display.run.run desk).1 <;> rfl
  have stillFaultless : ((shownTable name options).run.run desk).2.writeFault = none := by
    rw [show ((shownTable name options).run.run desk).2 = _ from
      (shownTable_aside name options desk).quiet]
    exact faultless
  refine (degraded (showForm name .table options)).trans ?_
  rw [showForm_table, run_bind]
  split
  · rw [run_bind, saveShown_run stillFaultless]
    rfl
  · rfl

/-- A table whose display asks a query is written on a page that asks it, and the
form of that page is saved. -/
theorem displayTable_asks {name : String} {options : PageOptions} {desk : Desk}
    (faultless : desk.writeFault = none)
    (asks : ((displayTable name options).run desk).2.queries ≠ desk.queries) :
    ∃ form shown template html page, desk.form name = .ok form ∧ form.ensureSubmit = .ok shown ∧
      (Page.render (desk.request .table desk.nextIdentifier (tableOptions shown options))
        template).run (desk.blankPage shown) = (html, page) ∧ page.queries ≠ desk.queries ∧
      ((displayTable name options).run desk).2.queries = page.queries ∧
      desk.shownSave? name .table options = some ⟨desk.nextIdentifier, page.form, .table⟩ := by
  rw [displayTable_queries name options faultless, shownTable_run] at asks
  unfold shownSave? shownForm
  rw [displayTable_queries name options faultless, run_bind, shownTable_run]
  cases found : desk.form name with
  | error failure =>
    rw [found] at asks
    exact absurd rfl asks
  | ok form =>
    rw [found] at asks
    simp only [Except.bind] at asks ⊢
    cases ready : form.ensureSubmit with
    | error failure =>
      rw [ready] at asks
      exact absurd rfl asks
    | ok shown =>
      rw [ready] at asks
      dsimp only at asks ⊢
      cases outcome : (desk.putForm name shown).written name .table
          (desk.putForm name shown).nextIdentifier (tableOptions shown options) with
      | error failure =>
        rw [outcome] at asks
        exact absurd rfl asks
      | ok written =>
        obtain ⟨html, page⟩ := written
        rw [outcome] at asks
        obtain ⟨same, template, replaced, rendered⟩ := written_eq_ok outcome
        obtain rfl := Except.ok.inj ((form_putForm found shown).symm.trans replaced)
        exact ⟨form, shown, template, html, page, rfl, ready, rendered, asks, rfl, rfl⟩

/-- Some form section of the template that a table is displayed with keeps its row loop:
once its conditional sections are settled it has a row loop, and no loop over fields. -/
def KeepsRowLoop (desk : Desk) (name : String) (options : PageOptions) : Prop :=
  ∃ form shown template, desk.form name = .ok form ∧ form.ensureSubmit = .ok shown ∧
    desk.templates.loadVariant (options.template.getD (shown.template .table))
      FormKind.table.variant = .ok template ∧
    Page.hasKeptLoop (desk.request .table desk.nextIdentifier (tableOptions shown options))
      (Node.settleErrors (desk.diagnostics.errorsHtml (shown.errorScope .table)) template) = true

/-- Then the display asks for the rows. -/
theorem displayTable_asks_rows {name : String} {options : PageOptions} {desk : Desk}
    (faultless : desk.writeFault = none) {form : Form} (found : desk.form name = .ok form)
    {binding : Binding} (bound : form.binding = some binding) {connection : Connection}
    (resolved : desk.connections.resolve (some binding.connection) = .ok connection)
    (keeps : desk.KeepsRowLoop name options) :
    ((displayTable name options).run desk).2.queries ≠ desk.queries := by
  obtain ⟨known, shown, template, there, ready, loaded, kept⟩ := keeps
  obtain rfl := Except.ok.inj (found.symm.trans there)
  have bound : shown.binding = some binding := (Form.ensureSubmit_shownAs ready).binding.trans bound
  have onPage : (desk.blankPage shown).form.binding = some binding := bound
  have asks := Page.render_asks resolved onPage kept
  have both : (desk.form name).bind Form.ensureSubmit = .ok shown := by
    rw [found]
    exact ready
  have written : (desk.putForm name shown).written name .table
      (desk.putForm name shown).nextIdentifier (tableOptions shown options) =
        .ok ((Page.render (desk.request .table desk.nextIdentifier (tableOptions shown options))
          template).run (desk.blankPage shown)) := by
    have still : (desk.putForm name shown).templates.loadVariant
        ((tableOptions shown options).template.getD (shown.template .table))
          FormKind.table.variant = .ok template := loaded
    have request : (desk.putForm name shown).request .table (desk.putForm name shown).nextIdentifier
        (tableOptions shown options) =
          desk.request .table desk.nextIdentifier (tableOptions shown options) := rfl
    have page : (desk.putForm name shown).blankPage shown = desk.blankPage shown := rfl
    unfold Desk.written
    simp only [form_putForm found shown, Except.bind, still, Except.map, request, page]
  rw [displayTable_queries name options faultless, shownTable_run, both]
  dsimp only
  rw [written]
  generalize (Page.render _ template).run (desk.blankPage shown) = outcome at asks ⊢
  obtain ⟨html, page⟩ := outcome
  intro same
  exact Nat.ne_of_gt asks (congrArg List.length same)

/-! ## What comes back -/

/-- What is saved is held for as long as forms are kept. -/
theorem Passes.held {before after : Desk} {save : Save} (passes : Passes before (some save) after) :
    after.store.byKey.get? (after.settings.sessionKey save.id) =
      some ⟨save.value, after.now + after.settings.formTimeout⟩ := by
  cases passes with
  | saving earlier number addable later =>
    rw [show after = _ from later.quiet]
    exact (SessionStore.byKey_insert _ _ _ _ _ _).trans (if_pos rfl)

/-- What comes back under the identifier of a save is collected by the saved form. -/
theorem process_save {desk : Desk} {save : Save} {binding : Binding}
    (makes : ∀ field, (desk.make field).field = field) (reads : desk.readFault = none)
    (addable : Addable save.form.catalog.names) (missing : desk.processors.get? save.id = none)
    (held : desk.Holds save) (bound : save.form.binding = some binding)
    (posted : desk.submission.formId? = some save.id) :
    ((process none).run desk).1 =
      .ok ((Processor.ofForm save.form binding save.kind).collect desk.submission) := by
  have made : ((processor none).run desk).1 = .ok (.ofForm save.form binding save.kind) := by
    rw [processor_none_run, posted]
    refine (answer_uncached missing).trans ?_
    rw [loadProcessor_save makes reads addable held, bound]
  have submission : ((processor none).run desk).2.submission = desk.submission := by
    rw [processor_frame]
  unfold process
  simp only [run_then, run_get, run_return, made, submission]
  rfl

/-- A desk that can take back what a desk displayed: the same desk, or another
one that has made no processor yet and works on the same store at the same time. -/
inductive SharesStore (shown : Desk) : Desk → Prop where
  /-- The desk itself. -/
  | itself : SharesStore shown shown
  /-- Another desk. -/
  | another {desk : Desk} (store : desk.store = shown.store) (settings : desk.settings = shown.settings)
      (now : desk.now = shown.now) (reads : desk.readFault = none)
      (makes : ∀ field, (desk.make field).field = field) (processors : desk.processors = .empty) :
      SharesStore shown desk

/-- What comes back before its time is over is collected by the saved form. -/
theorem SharesStore.process {saves : List Save} {shown later : Desk} {save : Save}
    {binding : Binding} (shares : SharesStore shown later) (sound : Sound saves shown)
    (member : save ∈ saves) (missing : shown.processors.get? save.id = none)
    (held : shown.store.byKey.get? (shown.settings.sessionKey save.id) =
      some ⟨save.value, shown.now + shown.settings.formTimeout⟩)
    (bound : save.form.binding = some binding) {submission : Submission}
    (posted : submission.formId? = some save.id) {seconds : Nat}
    (early : seconds < shown.settings.formTimeout) :
    ((Desk.process none).run (later.run [.submit submission, .wait seconds])).1 =
      .ok ((Processor.ofForm save.form binding save.kind).collect submission) := by
  have live (now : Int) (same : now = shown.now) :
      shown.store.get? (now + seconds) (shown.settings.sessionKey save.id) = some save.value := by
    have young : ¬ shown.now + (shown.settings.formTimeout : Int) ≤ shown.now + seconds := by
      omega
    rw [same, SessionStore.get?, held]
    simp [Option.filter, StoredValue.isExpired, young]
  have addable := sound.saved save member
  cases shares with
  | itself => exact process_save sound.makes sound.reads addable missing (live _ rfl) bound posted
  | another store settings now reads makes processors =>
    refine process_save makes reads addable ?_ ?_ bound posted
    · change later.processors.get? save.id = none
      rw [processors]
      rfl
    · change later.store.get? (later.now + seconds) (later.settings.sessionKey save.id) = _
      rw [store, settings]
      exact live _ now

end Desk

/-- Values posted for the field in displayed rows are stored. -/
structure Field.StoredInRows (field : Field) : Prop where
  /-- It does not belong to the primary key. -/
  free : field.primary = false
  /-- It is put in by the user. -/
  entered : field.input.isDisplayOnly = false
  /-- Its name has no other use. -/
  unreserved : field.name ∉ Processor.reservedNames
  /-- Its name opens no brackets. -/
  plain : '[' ∉ field.name.toList

/-- The columns for a displayed row hold the posted value of a field, and the
row's own primary key. -/
structure Row.Updated (row : Row) (form : Form) (field : Field) (value : String)
    (columns : Columns) : Prop where
  /-- The column of the field holds the value. -/
  posted : columns.get? field.name = some value
  /-- The columns of the primary key hold the cells of the row. -/
  key : ∀ name ∈ form.catalog.primaryNames, ∀ cell, row.get? name = some cell →
    columns.get? name = some cell.formText

/-- A processor that serves a form shown with the keys of rows collects for each of
them what was posted for it. -/
theorem Processor.Serves.collects {processor : Processor} {save : Save} {binding : Binding}
    (serves : processor.Serves save binding) {form : Form} (shows : form.ShownAs save.form)
    (distinct : form.catalog.names.Nodup) {rows : List Row}
    (noted : ∀ entry ∈ Page.rowEntries form 0 rows, save.form.rowKeys.get? entry.1 = some entry.2)
    {position : Nat} {row : Row} (there : rows[position]? = some row) {field : Field}
    (member : field ∈ form.catalog.fields) (stored : field.StoredInRows) {submission : Submission}
    {value : String}
    (posted : (submission.get? (Submission.pageRoot :: Submission.path
      (field.name ++ "[" ++ Page.identifierOf form position row ++ "]"))).bind Posted.text? =
        some value) :
    ∃ columns,
      (processor.collectRows submission).get? (Page.identifierOf form position row) =
          some columns ∧
        row.Updated form field value columns := by
  obtain ⟨other, present, same⟩ := shows.fields field member
  have name : other.name = field.name := congrArg (·.name) same
  have free : other.primary = false := (congrArg (·.primary) same).trans stored.free
  have input : other.input = field.input := congrArg (·.input) same
  have taken : other ∈ processor.storedFields := by
    refine List.mem_filter.mpr ⟨(serves.fields (shows.names distinct)).symm ▸ present, ?_⟩
    rw [input, name, stored.entered]
    simpa using stored.unreserved
  have key : processor.rowKeys.get? (Page.identifierOf form position row) =
      some (Page.keyOf form row) := by
    have entry := noted _ (Page.mem_rowEntries there 0)
    rw [Nat.zero_add] at entry
    rw [serves.rowKeys, entry]
  have apart : ∀ column ∈ Page.keyOf form row, column.1 ≠ other.name := by
    intro column inside same
    have primary := (Page.keyOf_sublist form row).subset (List.mem_map_of_mem inside)
    rw [same, name] at primary
    exact Catalog.name_not_mem_primaryNames distinct member stored.free primary
  have once : ((Page.keyOf form row).map Prod.fst).Nodup :=
    (distinct.sublist form.catalog.primaryNames_sublist).sublist (Page.keyOf_sublist form row)
  have cell : submission.rowValue? other.name (Page.identifierOf form position row) =
      some value := by
    have closed : ']' ∉ (Page.identifierOf form position row).toList :=
      Form.rowIdentifier_lacks (by decide) _
    rw [Submission.path_bracketed stored.plain closed] at posted
    rw [name]
    exact posted
  obtain ⟨columns, found, written, laid⟩ :=
    Processor.collectRows_files taken free key apart once cell
  refine ⟨columns, found, name ▸ written, fun column primary cell there => ?_⟩
  exact laid _ (Page.mem_keyOf primary there)

namespace Desk

/-- The desk is set up in the same way: nothing that happens to a desk changes its
identifiers, its connections and its settings. -/
structure SameSetup (before after : Desk) : Prop where
  /-- Identifiers are taken from the same sequence. -/
  identifiers : after.identifiers = before.identifiers
  /-- The connections are the same. -/
  connections : after.connections = before.connections
  /-- The settings are the same. -/
  settings : after.settings = before.settings

instance : IsPreorder Desk SameSetup where
  refl _ := ⟨rfl, rfl, rfl⟩
  trans _ _ _ left right :=
    ⟨right.identifiers.trans left.identifiers, right.connections.trans left.connections,
      right.settings.trans left.settings⟩

/-- What may save a form leaves the desk set up as it is. -/
theorem Passes.sameSetup {before after : Desk} {save? : Option Save}
    (passes : Passes before save? after) : SameSetup before after := by
  have kept {before after : Desk} (aside : Aside before after) : SameSetup before after := by
    rw [show after = _ from aside.quiet]
    exact ⟨rfl, rfl, rfl⟩
  cases passes with
  | aside aside => exact kept aside
  | @saving middle _ save earlier number addable later =>
    have first : SameSetup before (middle.stored save) :=
      ⟨(kept earlier).identifiers, (kept earlier).connections, (kept earlier).settings⟩
    exact trans_of SameSetup first (kept later)

/-- An event leaves the desk set up as it is. -/
theorem Turns.sameSetup {before after : Desk} {save? : Option Save}
    (turns : Turns before save? after) : SameSetup before after := by
  cases turns with
  | passes passes => exact passes.sameSetup
  | asked id =>
    rw [processor_frame]
    exact ⟨rfl, rfl, rfl⟩
  | posted submission => exact ⟨rfl, rfl, rfl⟩
  | shrunk store left => exact ⟨rfl, rfl, rfl⟩
  | waited seconds => exact ⟨rfl, rfl, rfl⟩

/-- A run leaves the desk set up as it is. -/
theorem run_sameSetup {saves : List Save} {desk : Desk} (sound : Sound saves desk)
    (events : List Event) : SameSetup desk (desk.run events) := by
  induction events generalizing saves desk with
  | nil => exact refl_of SameSetup desk
  | cons event rest inductionHypothesis =>
    exact trans_of SameSetup (perform_turns sound.writes event).sameSetup
      (inductionHypothesis (sound.perform event))

/-- No processor was made under the next identifier, if none is taken twice. -/
theorem Sound.next_missing {saves : List Save} {desk : Desk} (sound : Sound saves desk)
    (unique : Function.Injective desk.identifiers) :
    desk.processors.get? desk.nextIdentifier = none := by
  cases cached : desk.processors.get? desk.nextIdentifier with
  | none => rfl
  | some processor =>
    obtain ⟨save, member, named, -⟩ := sound.cached _ processor cached
    obtain ⟨number, below, taken⟩ := sound.numbered save member
    have same : number = desk.saved := unique (taken.symm.trans named)
    omega

/-- What is posted for a displayed table is collected by the form that its display
saved. -/
theorem displayTable_process {saves : List Save} {desk : Desk} (sound : Sound saves desk)
    {name : String} {options : PageOptions} {form : Form}
    (saved : desk.shownSave? name .table options = some ⟨desk.nextIdentifier, form, .table⟩)
    (missing : desk.processors.get? desk.nextIdentifier = none) {binding : Binding}
    (bound : form.binding = some binding) {later : Desk}
    (shares : SharesStore ((displayTable name options).run desk).2 later) {submission : Submission}
    (posted : submission.formId? = some desk.nextIdentifier) {seconds : Nat}
    (early : seconds < desk.settings.formTimeout) :
    ((process none).run (later.run [.submit submission, .wait seconds])).1 =
      .ok (.rows ((Processor.ofForm form binding .table).collectRows submission)) := by
  have passes : Passes desk (some ⟨desk.nextIdentifier, form, .table⟩)
      ((displayTable name options).run desk).2 :=
    saved ▸ degrade_passes (showForm_passes name .table options sound.writes)
  have processed := shares.process (sound.passes passes)
    (List.mem_append_right _ (List.mem_singleton_self _)) (passes.processors ▸ missing) passes.held
    bound posted (passes.sameSetup.settings ▸ early)
  rw [processed, Processor.collect,
    (Processor.ofForm_serves ⟨desk.nextIdentifier, form, .table⟩ binding).kind]

/-- A displayed table comes back, if its display asks for the rows, and so whenever some
form section of its template keeps its row loop.

Proof: the display asks for the rows, so its page ends with the key of every row
that was given last, and the form of the page is saved; the identifier was not
taken before, so what comes back is collected by that form. -/
theorem displayed_table_comes_back {start : Desk} (fresh : start.Fresh)
    (makes : ∀ field, (start.make field).field = field)
    (unique : Function.Injective start.identifiers) {events : List Event} {name : String}
    {form : Form} (registered : (start.run events).form name = .ok form)
    (distinct : form.catalog.names.Nodup) {binding : Binding}
    (bound : form.binding = some binding) {connection : Connection}
    (resolved : start.connections.resolve (some binding.connection) = .ok connection)
    {rows : List Row}
    (apart : ((Page.rowEntries form 0 rows).map Prod.fst).Nodup) {options : PageOptions}
    {shown : Desk} (displayed : ((displayTable name options).run (start.run events)).2 = shown)
    (answered : ∀ earlier, shown.queries = earlier ++ [Page.rowsQuery connection binding] →
      connection.answerTo earlier (Page.rowsQuery connection binding) = .ok rows)
    (asks : shown.queries ≠ (start.run events).queries ∨
      (start.run events).KeepsRowLoop name options) {later : Desk}
    (shares : SharesStore shown later) {submission : Submission}
    (posted : submission.formId? = some (start.run events).nextIdentifier) {seconds : Nat}
    (early : seconds < start.settings.formTimeout) :
    ∃ collected,
      ((process none).run (later.run [.submit submission, .wait seconds])).1 =
        .ok (.rows collected) ∧
      ∀ position row, rows[position]? = some row → ∀ field ∈ form.catalog.fields,
        field.StoredInRows → ∀ value,
        (submission.get? (Submission.pageRoot :: Submission.path
          (field.name ++ "[" ++ Page.identifierOf form position row ++ "]"))).bind Posted.text? =
            some value →
        ∃ columns, collected.get? (Page.identifierOf form position row) = some columns ∧
          row.Updated form field value columns := by
  have sound : Sound (start.saves events) (start.run events) := (fresh.sound makes).run events
  have setup : SameSetup start (start.run events) := run_sameSetup (fresh.sound makes) events
  rw [← setup.identifiers] at unique
  rw [← setup.connections] at resolved
  rw [← setup.settings] at early
  generalize start.run events = desk at *
  subst displayed
  have asked : ((displayTable name options).run desk).2.queries ≠ desk.queries :=
    asks.elim id (displayTable_asks_rows sound.writes registered bound resolved)
  obtain ⟨same, ready, template, html, page, found, ensured, rendered, queries, last, saved⟩ :=
    displayTable_asks sound.writes asked
  rw [last] at answered
  obtain rfl := Except.ok.inj (registered.symm.trans found)
  have reachable : (desk.request .table desk.nextIdentifier
      (tableOptions ready options)).connections.resolve (some binding.connection) = .ok connection :=
    resolved
  have gathers := Page.render_gathers (desk.request .table desk.nextIdentifier
    (tableOptions ready options)) template (desk.blankPage ready)
  rw [rendered] at gathers
  have first : form.ShownAs ready := Form.ensureSubmit_shownAs ensured
  have shows : form.ShownAs page.form := first.kept gathers.form
  have noted : ∀ entry ∈ Page.rowEntries form 0 rows,
      page.form.rowKeys.get? entry.1 = some entry.2 := by
    rw [Page.rowEntries_congr first.primaryNames.symm] at apart ⊢
    obtain ⟨earlier, ends, noted⟩ := gathers.last queries (first.binding.trans bound) reachable
    exact noted rows (answered earlier ends) apart
  have serves := Processor.ofForm_serves ⟨desk.nextIdentifier, page.form, .table⟩ binding
  refine ⟨(Processor.ofForm page.form binding .table).collectRows submission, ?_, ?_⟩
  · exact displayTable_process sound saved (sound.next_missing unique) (shows.binding.trans bound)
      shares posted early
  · intro position row there field member stored value posted
    exact serves.collects shows distinct noted there member stored posted

/-- A table of two contacts. -/
def contactRows : List Row :=
  [⟨[("id", .int 1), ("name", .text "Ada")]⟩, ⟨[("id", .int 2), ("name", .text "Grace")]⟩]

/-- A desk for contacts that shows them by the given template. -/
def contactsDesk (template : String) : Desk :=
  { settings := {}
    connections :=
      { defaultName := "appDB"
        byName := .ofList [("appDB", { vendor := "sqlite", answer := fun _ _ => .ok contactRows })] }
    templates := .inMemory (.ofList [("default", template)])
    issuer := fun number => ⟨"c" ++ Decimal.natText number, "t"⟩
    identifiers := fun number => String.ofList (List.replicate (number + 1) 'f') }

/-- The desk takes no identifier twice: each is longer than the one before. -/
theorem contactsDesk_unique (template : String) :
    Function.Injective (contactsDesk template).identifiers := by
  intro left right same
  have lengths := congrArg (fun text => text.toList.length) same
  simpa [contactsDesk] using lengths

/-- The form of contacts is defined. -/
def contactsEvents : List Event :=
  [.create "contact" (some { table := some "contacts" }),
    .change "contact" (.add { field := { name := "id", primary := true } }),
    .change "contact" (.add { field := { name := "name" } })]

/-- The form of contacts. -/
def contactForm : Form :=
  { name := "contact"
    catalog := ⟨[{ field := { name := "id", primary := true } }, { field := { name := "name" } }]⟩
    binding := some { table := "contacts", connection := "appDB" }
    insertTemplate := "default", editTemplate := "default", browserValidation := true }

/-- The form with the button that its display adds. -/
def contactsShown : Form :=
  { contactForm with
    catalog := ⟨contactForm.catalog.widgets ++ [{ field := Form.submitButton }]⟩ }

/-- A new name is posted for the first contact, and with it a forged key. -/
def contactsPost : Submission :=
  let rowId := "6b86b273ff34fce19d6b804eff5a3f5747ada4eaa22f1d49c01e52ddb7875b4b"
  .ofPairs [("__formID", "f"), ("name[" ++ rowId ++ "]", "Ada Lovelace"), ("id[" ++ rowId ++ "]", "9")]

/-- The contacts have different identifiers. -/
theorem contactRows_apart : ((Page.rowEntries contactForm 0 contactRows).map Prod.fst).Nodup := by
  decide +kernel

/-- The new name is posted for the first contact. -/
theorem contactsPost_renames :
    (contactsPost.get? (Submission.pageRoot :: Submission.path ("name" ++ "[" ++
      Page.identifierOf contactForm 0 ⟨[("id", .int 1), ("name", .text "Ada")]⟩ ++ "]"))).bind
        Posted.text? = some "Ada Lovelace" := by
  decide +kernel

/-- A template that shows a line for every contact. -/
def contactsLoop : String :=
  "\x7bform\x7d\x7browLoop\x7d<hr>\x7b/rowLoop\x7d\x7b/form\x7d"

/-- The display asks for both contacts, and the new name of the first one comes
back with the contact's own key. -/
theorem contacts_come_back :
    ((displayTable "contact" {}).run ((contactsDesk contactsLoop).run contactsEvents)).2.queries ≠
      ((contactsDesk contactsLoop).run contactsEvents).queries ∧
    ∃ collected columns,
      ((process none).run
        (((displayTable "contact" {}).run
          ((contactsDesk contactsLoop).run contactsEvents)).2.run
            [.submit contactsPost, .wait 10])).1 = .ok (.rows collected) ∧
      collected.get? (Page.identifierOf contactForm 0 ⟨[("id", .int 1), ("name", .text "Ada")]⟩) =
        some columns ∧
      columns.get? "name" = some "Ada Lovelace" ∧ columns.get? "id" = some "1" := by
  have registered : ((contactsDesk contactsLoop).run contactsEvents).form "contact" =
      .ok contactForm := by decide +kernel
  have fresh : (contactsDesk contactsLoop).Fresh := ⟨rfl, rfl, rfl, rfl, rfl⟩
  have sound := (fresh.sound fun _ => rfl).run contactsEvents
  have resolved : ((contactsDesk contactsLoop).run contactsEvents).connections.resolve
      (some "appDB") = .ok { vendor := "sqlite", answer := fun _ _ => .ok contactRows } := by
    rw [(run_sameSetup (fresh.sound fun _ => rfl) contactsEvents).connections]
    rfl
  have loaded : ((contactsDesk contactsLoop).run contactsEvents).templates.loadVariant "default"
      FormKind.table.variant = .ok contactsLoop := by decide +kernel
  have keeps : ((contactsDesk contactsLoop).run contactsEvents).KeepsRowLoop "contact" {} :=
    ⟨contactForm, contactsShown, contactsLoop, registered, by decide, loaded, by decide +kernel⟩
  have posted : contactsPost.formId? =
      some ((contactsDesk contactsLoop).run contactsEvents).nextIdentifier := by decide +kernel
  have early : 10 < (contactsDesk contactsLoop).settings.formTimeout := by decide
  obtain ⟨collected, processed, collects⟩ :=
    displayed_table_comes_back fresh (fun _ => rfl)
      (contactsDesk_unique contactsLoop) registered (by decide) rfl rfl contactRows_apart rfl
      (fun _ _ => rfl) (.inr keeps) .itself posted early
  obtain ⟨columns, found, updated⟩ := collects 0 _ rfl { name := "name" } (by decide)
    ⟨rfl, rfl, by decide, by decide⟩ "Ada Lovelace" contactsPost_renames
  have asked := displayTable_asks_rows sound.writes registered rfl resolved keeps
  exact ⟨asked, collected, columns, processed, found, updated.posted,
    updated.key "id" (by decide) (.int 1) rfl⟩

/-- A template whose row loop is shown only with errors. -/
def contactsInErrors : String :=
  "\x7bform\x7d\x7bifFormErrors\x7d\x7browLoop\x7d\x7bfield name=\"name\"\x7d\x7b/rowLoop\x7d"
    ++ "\x7b/ifFormErrors\x7d\x7b/form\x7d"

/-- The form that its display saves. -/
def contactsSaved : Form :=
  { contactForm with
    catalog :=
      ⟨[{ field := { name := "id", primary := true, disabled := true } },
        { field := { name := "name" } }, { field := Form.submitButton }]⟩ }

/-- Without errors the loop of that template is dropped, so no row is displayed, and
nothing that is posted for one comes back. -/
theorem contacts_in_errors_lost :
    ((contactsDesk contactsInErrors).run contactsEvents).form "contact" = .ok contactForm ∧
    contactForm.catalog.names.Nodup ∧
    ((Page.rowEntries contactForm 0 contactRows).map Prod.fst).Nodup ∧
    Node.hasRowLoop contactsInErrors ∧
    contactsPost.formId? = some ((contactsDesk contactsInErrors).run contactsEvents).nextIdentifier ∧
    (contactsPost.get? (Submission.pageRoot :: Submission.path ("name" ++ "[" ++
      Page.identifierOf contactForm 0 ⟨[("id", .int 1), ("name", .text "Ada")]⟩ ++ "]"))).bind
        Posted.text? = some "Ada Lovelace" ∧
    ((process none).run
      (((displayTable "contact" {}).run
        ((contactsDesk contactsInErrors).run contactsEvents)).2.run
          [.submit contactsPost, .wait 10])).1 = .ok (.rows .empty) := by
  have fresh : (contactsDesk contactsInErrors).Fresh := ⟨rfl, rfl, rfl, rfl, rfl⟩
  have sound : Sound _ ((contactsDesk contactsInErrors).run contactsEvents) :=
    (fresh.sound fun _ => rfl).run contactsEvents
  have saved : ((contactsDesk contactsInErrors).run contactsEvents).shownSave? "contact" .table {} =
      some ⟨((contactsDesk contactsInErrors).run contactsEvents).nextIdentifier,
        contactsSaved, .table⟩ := by decide +kernel
  have posted : contactsPost.formId? =
      some ((contactsDesk contactsInErrors).run contactsEvents).nextIdentifier := by decide +kernel
  have early : 10 < ((contactsDesk contactsInErrors).run contactsEvents).settings.formTimeout := by
    decide +kernel
  refine ⟨by decide +kernel, by decide, contactRows_apart, by decide +kernel, posted,
    contactsPost_renames, ?_⟩
  have unique : Function.Injective
      ((contactsDesk contactsInErrors).run contactsEvents).identifiers := by
    rw [(run_sameSetup (fresh.sound fun _ => rfl) contactsEvents).identifiers]
    exact contactsDesk_unique contactsInErrors
  have processed := displayTable_process sound saved (sound.next_missing unique) rfl .itself posted
    early
  have none : (Processor.ofForm contactsSaved { table := "contacts", connection := "appDB" }
      .table).rowKeys = .empty :=
    (Processor.ofForm_serves ⟨"f", contactsSaved, .table⟩ _).rowKeys
  rw [processed, Processor.collectRows_of_empty none]

end Desk

end Formwork
