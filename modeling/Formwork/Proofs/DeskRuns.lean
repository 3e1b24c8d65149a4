import Formwork.Proofs.DeskFrame

/-!
# Runs of a desk

What happens to a desk is a sequence of events: forms are defined, changed,
saved and displayed, processors are asked for, and meanwhile values in the store
are removed, expire, or become old. The saves of a run are the forms as they were
when they were saved. Everything that the store holds and every processor that
was made comes from one of them, whatever happened in between.
-/

namespace Formwork

namespace SessionStore

/-- After a write the written value is there, and of the others those whose time
is not over. -/
theorem byKey_insert (store : SessionStore) (now : Int) (key : String) (value : Json)
    (lifetime : Nat) (other : String) :
    (store.insert now key value lifetime).byKey.get? other =
      if other = key then some ⟨value, now + lifetime⟩
      else (store.byKey.get? other).filter fun found => !found.isExpired now := by
  simp only [insert, sweep, TextMap.get?_insert, TextMap.get?_filterValues, Clock.expiry_seconds]

/-- What is found after a write was written by it or is found before. -/
theorem of_byKey_insert {store : SessionStore} {now : Int} {key : String} {value : Json}
    {lifetime : Nat} {other : String} {found : StoredValue}
    (lookup : (store.insert now key value lifetime).byKey.get? other = some found) :
    other = key ∧ found = ⟨value, now + lifetime⟩ ∨ store.byKey.get? other = some found := by
  rw [byKey_insert] at lookup
  split at lookup
  · rename_i same
    exact .inl ⟨same, (Option.some.inj lookup).symm⟩
  · exact .inr (Option.filter_eq_some_iff.mp lookup).1

end SessionStore

/-- A form as it was saved. -/
structure Save where
  /-- The identifier it was saved under. -/
  id : String
  /-- The form at that moment. -/
  form : Form
  /-- What it was saved for. -/
  kind : FormKind
deriving DecidableEq

/-- The document that is stored. -/
def Save.value (save : Save) : Json := (SavedForm.ofSnapshot save.form.snapshot save.kind).toJson

namespace Desk

/-- The desk with a form stored under the next identifier. -/
def stored (desk : Desk) (save : Save) : Desk :=
  { desk with
    store :=
      desk.store.insert desk.now (desk.settings.sessionKey save.id) save.value
        desk.settings.formTimeout
    saved := desk.saved + 1 }

/-! ## Events -/

/-- Something that happens to a desk. Its connections stay, and what their databases
answer may change with every query. -/
inductive Event where
  /-- A form is registered. -/
  | create (name : String) (options : Option LinkOptions)
  /-- A form is removed. -/
  | destroy (name : String)
  /-- A form is linked to a table. -/
  | link (name : String) (options : LinkOptions)
  /-- A registered form is changed. -/
  | change (name : String) (change : Form.Change)
  /-- A form is saved. -/
  | save (name : String) (kind : FormKind)
  /-- Something is displayed in the way that a word asks for. -/
  | display (name way : String) (options : PageOptions)
  /-- A form is displayed for updating a record. -/
  | displayUpdate (name : String) (options : PageOptions)
  /-- Something is posted. -/
  | submit (submission : Submission)
  /-- A processor is asked for. -/
  | processor (id : Option String)
  /-- What was posted is processed. -/
  | process (id : Option String)
  /-- The application changes the reports. -/
  | reports (diagnostics : Diagnostics)
  /-- The value under a key is removed from the store. -/
  | remove (key : String)
  /-- The time of the value under a key is made to be over. -/
  | expire (key : String)
  /-- Values whose time is over are swept out. -/
  | sweep
  /-- Time passes. -/
  | wait (seconds : Nat)

/-- The desk after an event. -/
def perform (desk : Desk) : Event → Desk
  | .create name options => ((create name options).run desk).2
  | .destroy name => ((destroy name).run desk).2
  | .link name options => ((link name options).run desk).2
  | .change name change =>
    match desk.form name with
    | .ok form => desk.putForm name (form.change change)
    | .error _ => desk
  | .save name kind => ((save name kind).run desk).2
  | .display name way options => ((display name way options).run desk).2
  | .displayUpdate name options => ((displayUpdate name options).run desk).2
  | .submit submission => { desk with submission }
  | .processor id => ((processor id).run desk).2
  | .process id => ((process id).run desk).2
  | .reports diagnostics => { desk with diagnostics }
  | .remove key => { desk with store := desk.store.erase key }
  | .expire key => { desk with store := desk.store.expire desk.now key }
  | .sweep => { desk with store := desk.store.sweep desk.now }
  | .wait seconds => { desk with now := desk.now + seconds }

/-- The desk after events one after another. -/
def run (desk : Desk) (events : List Event) : Desk := events.foldl perform desk

/-! ## Saves -/

/-- The page of a table and its form after the page was written. -/
def shownTable (name : String) (options : PageOptions) : Display (String × Form) := do
  let form ← formToShow name
  let html ← writePage name .table (← get).nextIdentifier (tableOptions form options)
  return (html, ← (← get).form name)

/-- The form that a display saves. A form for a record is saved before its page
is written, and that for a table afterwards. -/
def shownForm (name : String) (kind : FormKind) (options : PageOptions) : Display Form :=
  match kind with
  | .insert => formToShow name
  | .update => do
    fillRecord name options
    formToShow name
  | .table => return (← shownTable name options).2

/-- The kind of form that a word asks for, if it asks for a form. -/
def shownKind? (way : String) (options : PageOptions) : Option FormKind :=
  match (Text.trim way).toLower with
  | "insert" | "insertform" | "update" | "updateform" =>
    some (if options.values.contains "id" then .update else .insert)
  | "edit" | "edittable" => some .table
  | _ => none

/-- The save that a display makes, unless it fails before. -/
def shownSave? (desk : Desk) (name : String) (kind : FormKind) (options : PageOptions) :
    Option Save :=
  ((shownForm name kind options).run.run desk).1.toOption.map fun form =>
    ⟨desk.nextIdentifier, form, kind⟩

/-- The save that an event makes, if it makes one. -/
def save? (desk : Desk) : Event → Option Save
  | .save name kind => (desk.form name).toOption.map fun form => ⟨desk.nextIdentifier, form, kind⟩
  | .display name way options =>
    (shownKind? way options).bind fun kind => desk.shownSave? name kind options
  | .displayUpdate name options => desk.shownSave? name .update options
  | _ => none

/-- The saves of a run, in order. -/
def saves (desk : Desk) : List Event → List Save
  | [] => []
  | event :: rest => (desk.save? event).toList ++ (desk.perform event).saves rest

/-! ## Displays save one form -/

/-- What becomes of a desk by something that may save a form: all else is done
aside, before and after. -/
inductive Passes (before : Desk) : Option Save → Desk → Prop where
  /-- Nothing is saved. -/
  | aside {after : Desk} (aside : Aside before after) : Passes before none after
  /-- A form is saved under the next identifier. -/
  | saving {middle after : Desk} {save : Save} (earlier : Aside before middle)
      (number : save.id = before.nextIdentifier)
      (addable : before.forms.Addable → Addable save.form.catalog.names)
      (later : Aside (middle.stored save) after) : Passes before (some save) after

/-- The page of a table is written without saving anything. -/
theorem shownTable_aside (name : String) (options : PageOptions) :
    MayFail Aside (shownTable name options) := by
  refine .bind (formToShow_aside name) fun form => .bind .get fun desk => ?_
  refine .bind (writePage_aside _ _ _ _) fun _ => .bind .get fun _ => ?_
  exact .bind (.ofExcept _) fun _ => .pure _

/-- A form to be saved is found without saving anything. -/
theorem shownForm_aside (name : String) (kind : FormKind) (options : PageOptions) :
    MayFail Aside (shownForm name kind options) := by
  cases kind with
  | insert => exact formToShow_aside name
  | update => exact .bind (fillRecord_aside name options) fun _ => formToShow_aside name
  | table => exact .bind (shownTable_aside name options) fun _ => .pure _

/-- The desk that a form to be saved is found on has the same number of saves. -/
theorem Aside.nextIdentifier {before after : Desk} (aside : Aside before after) :
    after.nextIdentifier = before.nextIdentifier := by
  rw [show after = _ from aside.quiet]
  rfl

/-- A form that is found to be shown could be built again. -/
theorem formToShow_addable {name : String} {desk : Desk} {form : Form}
    (registered : desk.forms.Addable) (shown : ((formToShow name).run.run desk).1 = .ok form) :
    Addable form.catalog.names := by
  rw [formToShow_run] at shown
  split at shown
  · rename_i found outcome
    obtain rfl := Except.ok.inj shown
    exact shown_good Form.addable_enduring registered outcome
  · cases shown

/-- The form of a written table could be built again. -/
theorem shownTable_addable {name : String} {options : PageOptions} {desk : Desk} {html : String}
    {form : Form} (registered : desk.forms.Addable)
    (shown : ((shownTable name options).run.run desk).1 = .ok (html, form)) :
    Addable form.catalog.names := by
  rw [shownTable, run_bind] at shown
  split at shown
  · rename_i value outcome
    have kept := (formToShow_aside name desk).forms registered
    rw [run_get_bind, run_bind] at shown
    split at shown
    · have written := (writePage_aside name .table
        ((formToShow name).run.run desk).2.nextIdentifier (tableOptions value options)
        ((formToShow name).run.run desk).2).forms kept
      rw [run_get_bind, run_lift_bind] at shown
      split at shown
      · rename_i last found
        obtain ⟨-, rfl⟩ := Prod.mk.inj (Except.ok.inj shown)
        exact form_good written found
      · cases shown
    · cases shown
  · cases shown

/-- A form to be saved could be built again. -/
theorem shownForm_addable {name : String} {kind : FormKind} {options : PageOptions} {desk : Desk}
    {form : Form} (registered : desk.forms.Addable)
    (shown : ((shownForm name kind options).run.run desk).1 = .ok form) :
    Addable form.catalog.names := by
  cases kind with
  | insert => exact formToShow_addable registered shown
  | update =>
    rw [shownForm, run_bind] at shown
    split at shown
    · exact formToShow_addable ((fillRecord_aside name options desk).forms registered) shown
    · cases shown
  | table =>
    rw [shownForm, run_bind] at shown
    split at shown
    · rename_i written outcome
      obtain rfl : written.2 = form := Except.ok.inj shown
      exact shownTable_addable registered outcome
    · cases shown

/-- Without a fault of the store a snapshot is saved. -/
theorem saveSnapshot_eq {desk : Desk} (faultless : desk.writeFault = none) (form : Form)
    (kind : FormKind) :
    desk.saveSnapshot form.snapshot kind =
      .ok (desk.nextIdentifier, desk.stored ⟨desk.nextIdentifier, form, kind⟩) := by
  unfold saveSnapshot
  split
  · rename_i failure fault
    rw [faultless] at fault
    cases fault
  · rfl

/-- So is a form that is displayed. -/
theorem saveShown_run {desk : Desk} (faultless : desk.writeFault = none) (form : Form)
    (kind : FormKind) :
    (saveShown form kind).run.run desk =
      (.ok desk.nextIdentifier, desk.stored ⟨desk.nextIdentifier, form, kind⟩) := by
  unfold saveShown
  rw [run_get_bind, run_lift_bind, saveSnapshot_eq faultless]
  rfl

/-- What is done around the save of a form is done aside. -/
theorem saving_passes {α : Type} {first : Display α} (form : α → Form)
    (next : α → String → Display String) (earlier : MayFail Aside first)
    (later : ∀ value id, MayFail Aside (next value id)) (kind : FormKind) {desk : Desk}
    (faultless : desk.writeFault = none)
    (addable : ∀ value, desk.forms.Addable → (first.run.run desk).1 = .ok value →
      Addable (form value).catalog.names) :
    Passes desk
      ((first.run.run desk).1.toOption.map fun value => ⟨desk.nextIdentifier, form value, kind⟩)
      ((do let value ← first; next value (← saveShown (form value) kind)).run.run desk).2 := by
  have aside : Aside desk (first.run.run desk).2 := earlier desk
  have stillFaultless : (first.run.run desk).2.writeFault = none := by
    rw [show (first.run.run desk).2 = _ from aside.quiet]
    exact faultless
  rw [run_bind]
  split
  · rename_i value outcome
    rw [run_bind, saveShown_run stillFaultless, aside.nextIdentifier, outcome]
    exact .saving aside rfl (fun registered => addable value registered outcome) (later _ _ _)
  · rename_i failure outcome
    rw [outcome]
    exact .aside aside

/-- The display of a form for each of its kinds. -/
def showForm (name : String) (kind : FormKind) (options : PageOptions) : Display String :=
  match kind with
  | .insert => showRecord name .insert options
  | .update => do
    fillRecord name options
    showRecord name .update options
  | .table => showTable name options

/-- A display of a record saves the form before it writes the page. -/
theorem showForm_record (name : String) {kind : FormKind} (record : kind ≠ .table)
    (options : PageOptions) :
    showForm name kind options = (do
      let form ← shownForm name kind options
      writePage name kind (← saveShown form kind) options) := by
  cases kind with
  | insert => rfl
  | update => simp only [showForm, showRecord, shownForm, bind_assoc]
  | table => exact absurd rfl record

/-- A display of a table saves the form after the page was written. -/
theorem showForm_table (name : String) (options : PageOptions) :
    showForm name .table options = (do
      let written ← shownTable name options
      let _ ← saveShown written.2 .table
      return written.1) := by
  simp only [showForm, showTable, shownTable, bind_assoc, pure_bind]

/-- A display saves the form that it shows. -/
theorem showForm_passes (name : String) (kind : FormKind) (options : PageOptions) {desk : Desk}
    (faultless : desk.writeFault = none) :
    Passes desk (desk.shownSave? name kind options)
      ((showForm name kind options).run.run desk).2 := by
  by_cases record : kind = .table
  · subst record
    have same : desk.shownSave? name .table options =
        ((shownTable name options).run.run desk).1.toOption.map
          fun written => ⟨desk.nextIdentifier, written.2, .table⟩ := by
      rw [shownSave?, shownForm, run_bind]
      split
      · rename_i written outcome
        rw [outcome]
        rfl
      · rename_i failure outcome
        rw [outcome]
        rfl
    rw [showForm_table, same]
    exact saving_passes (·.2) (fun written _ => pure written.1) (shownTable_aside name options)
      (fun _ _ => .pure _) .table faultless fun _ registered shown =>
        shownTable_addable registered shown
  · rw [showForm_record name record]
    exact saving_passes id (fun _ id => writePage name kind id options)
      (shownForm_aside name kind options) (fun _ id => writePage_aside name kind id options) kind
      faultless fun _ registered shown => shownForm_addable registered shown

/-! ## Everything comes from a save -/

/-- What a run keeps: the store does not fail, forms could be built again, and
all that is stored and every processor comes from one of the given saves. -/
structure Sound (saves : List Save) (desk : Desk) : Prop where
  /-- Widgets keep the descriptions that they are made from. -/
  makes : ∀ field, (desk.make field).field = field
  /-- The store can be written. -/
  writes : desk.writeFault = none
  /-- The store can be read. -/
  reads : desk.readFault = none
  /-- Registered forms could be built again. -/
  forms : desk.forms.Addable
  /-- Saved forms can be built again. -/
  saved : ∀ save ∈ saves, Addable save.form.catalog.names
  /-- Identifiers were taken in order. -/
  numbered : ∀ save ∈ saves, ∃ number < desk.saved, save.id = desk.identifiers number
  /-- What is stored is a saved form, and not for longer than forms are kept. -/
  stored : ∀ key found, desk.store.byKey.get? key = some found →
    ∃ save ∈ saves, key = desk.settings.sessionKey save.id ∧ found.value = save.value ∧
      found.expiry ≤ desk.now + desk.settings.formTimeout
  /-- A processor is that of a saved form with a table. -/
  cached : ∀ id processor, desk.processors.get? id = some processor →
    ∃ save ∈ saves, save.id = id ∧ ∃ binding, save.form.binding = some binding ∧
      processor = .ofForm save.form binding save.kind

/-- What is done aside keeps a run sound. -/
theorem Sound.aside {saves : List Save} {before after : Desk} (sound : Sound saves before)
    (aside : Aside before after) : Sound saves after := by
  have registered := aside.forms sound.forms
  rw [show after = _ from aside.quiet]
  exact { sound with forms := registered }

/-- A stored form joins the saves. -/
theorem Sound.storing {saves : List Save} {desk : Desk} {save : Save} (sound : Sound saves desk)
    (number : save.id = desk.nextIdentifier) (addable : Addable save.form.catalog.names) :
    Sound (saves ++ [save]) (desk.stored save) := by
  have widen {P : Save → Prop} (known : ∃ save ∈ saves, P save) : ∃ found ∈ saves ++ [save], P found := by
    obtain ⟨found, member, holds⟩ := known
    exact ⟨found, List.mem_append_left _ member, holds⟩
  refine ⟨sound.makes, sound.writes, sound.reads, sound.forms, ?_, ?_, ?_, ?_⟩
  · intro found member
    rcases List.mem_append.mp member with before | last
    · exact sound.saved found before
    · rw [List.mem_singleton.mp last]
      exact addable
  · intro found member
    rcases List.mem_append.mp member with before | last
    · obtain ⟨index, below, named⟩ := sound.numbered found before
      exact ⟨index, Nat.lt_succ_of_lt below, named⟩
    · rw [List.mem_singleton.mp last]
      exact ⟨desk.saved, Nat.lt_succ_self _, number⟩
  · intro key found lookup
    rcases SessionStore.of_byKey_insert lookup with ⟨rfl, rfl⟩ | before
    · exact ⟨save, by simp, rfl, rfl, Int.le_refl _⟩
    · exact widen (sound.stored key found before)
  · intro id processor lookup
    exact widen (sound.cached id processor lookup)

/-- What may save a form keeps a run sound, with the save that it makes. -/
theorem Sound.passes {saves : List Save} {before after : Desk} {save? : Option Save}
    (sound : Sound saves before) (passes : Passes before save? after) :
    Sound (saves ++ save?.toList) after := by
  cases passes with
  | aside aside =>
    rw [Option.toList_none, List.append_nil]
    exact sound.aside aside
  | @saving middle _ save earlier number addable later =>
    have there : Sound saves middle := sound.aside earlier
    have named : save.id = middle.nextIdentifier := number.trans earlier.nextIdentifier.symm
    exact (there.storing named (addable sound.forms)).aside later

/-! ## Processors are made from saves -/

/-- The processor of a form needs only its fields and noted rows. -/
theorem ofForm_congr {left right : Form} (same : left.SaysSame right) (binding : Binding)
    (kind : FormKind) : Processor.ofForm left binding kind = .ofForm right binding kind := by
  unfold Processor.ofForm
  rw [same.fields, same.rowKeys]

/-- Keys of different identifiers are different. -/
theorem sessionKey_inj {settings : Settings} {left right : String}
    (same : settings.sessionKey left = settings.sessionKey right) : left = right := by
  have chars := congrArg String.toList same
  simp only [Settings.sessionKey, String.toList_append] at chars
  exact String.toList_injective (List.append_cancel_left chars)

/-- What is still there under an identifier is one of the saves under it. -/
theorem Sound.live {saves : List Save} {desk : Desk} (sound : Sound saves desk) {id : String}
    {value : Json} (found : desk.store.get? desk.now (desk.settings.sessionKey id) = some value) :
    ∃ save ∈ saves, save.id = id ∧ value = save.value := by
  obtain ⟨kept, lookup, rfl⟩ := Option.map_eq_some_iff.mp found
  obtain ⟨save, member, key, same, -⟩ := sound.stored _ kept (Option.filter_eq_some_iff.mp lookup).1
  exact ⟨save, member, (sessionKey_inj key).symm, same⟩

/-- Nothing there, no processor. -/
theorem loadProcessor_absent {desk : Desk} (reads : desk.readFault = none) {id : String}
    (absent : desk.store.get? desk.now (desk.settings.sessionKey id) = none) :
    desk.loadProcessor id = .error (.invalidId id) := by
  simp only [loadProcessor, readSaved, reads, absent]
  rfl

/-- What is found of a save is built again, and needs a table. -/
theorem loadProcessor_value {desk : Desk} (reads : desk.readFault = none) {save : Save} {id : String}
    (found : desk.store.get? desk.now (desk.settings.sessionKey id) = some save.value) :
    desk.loadProcessor id = (save.form.snapshot.restore desk.make).bind fun form =>
      match form.binding with
      | some binding => .ok (.ofForm form binding save.kind)
      | none => .error (.noDatabaseLink form.name) := by
  have read : desk.readSaved id = .ok (.ofSnapshot save.form.snapshot save.kind) := by
    simp only [readSaved, reads, found, Save.value, SavedForm.ofJson_toJson]
    rfl
  have taken : ((SavedForm.ofSnapshot save.form.snapshot save.kind).snapshot.mapError
      fun _ => Failure.invalidId id) = .ok save.form.snapshot := by
    rw [SavedForm.snapshot_ofSnapshot]
    rfl
  unfold loadProcessor
  rw [read]
  simp only [Bind.bind, Except.bind, taken]
  cases save.form.snapshot.restore desk.make with
  | error failure => rfl
  | ok form => cases form.binding <;> rfl

/-- A saved form with a table gives its processor, and one without is refused. -/
theorem loadProcessor_save {desk : Desk} (makes : ∀ field, (desk.make field).field = field)
    (reads : desk.readFault = none) {save : Save} (addable : Addable save.form.catalog.names)
    {id : String}
    (found : desk.store.get? desk.now (desk.settings.sessionKey id) = some save.value) :
    desk.loadProcessor id =
      match save.form.binding with
      | some binding => .ok (.ofForm save.form binding save.kind)
      | none => .error (.noDatabaseLink save.form.name) := by
  obtain ⟨restored, built, same⟩ := Form.restore_snapshot desk.make makes addable
  rw [loadProcessor_value reads found, built]
  simp only [Except.bind, same.binding]
  cases save.form.binding with
  | none => exact congrArg (fun name => Except.error (Failure.noDatabaseLink name)) same.name
  | some binding => exact congrArg Except.ok (ofForm_congr same binding save.kind)

/-! ## One event -/

/-- An operation that fails leaves one report behind. -/
theorem reporting_run {α : Type} (operation : Desk → Except Failure (α × Desk)) (desk : Desk) :
    (reporting operation).run desk =
      match operation desk with
      | .ok (value, after) => (.ok value, after)
      | .error failure => (.error failure, desk.reportFailure failure) := rfl

/-- A new form is the empty form of its name, perhaps linked to a table. -/
theorem of_newForm {desk : Desk} {name : String} {options : Option LinkOptions} {form : Form}
    (made : desk.newForm name options = .ok form) :
    ∃ binding, form = { Form.named name desk.settings with binding } := by
  unfold newForm at made
  dsimp only at made
  split at made
  · cases made
  · split at made
    · exact ⟨none, (Except.ok.inj made).symm⟩
    · rename_i asked
      cases bound : desk.bind asked with
      | error failure =>
        rw [bound] at made
        cases made
      | ok binding =>
        rw [bound] at made
        exact ⟨some binding, (Except.ok.inj made).symm⟩

/-- A form is registered if it can be made and its name is free. -/
theorem create_run (name : String) (options : Option LinkOptions) (desk : Desk) :
    (create name options).run desk =
      match desk.newForm name options with
      | .error failure => (.error failure, desk.reportFailure failure)
      | .ok form =>
        match desk.forms.insert form with
        | .ok forms => (.ok form.name, { desk with forms })
        | .error failure => (.error failure, desk) := by
  unfold create
  rw [run_then, reporting_run]
  cases desk.newForm name options with
  | error failure => rfl
  | ok form => rfl

/-- A form is registered aside. It has no fields yet. -/
theorem create_aside (name : String) (options : Option LinkOptions) (desk : Desk) :
    Aside desk ((create name options).run desk).2 := by
  rw [create_run]
  cases made : desk.newForm name options with
  | error failure => exact ⟨rfl, id⟩
  | ok form =>
    cases inserted : desk.forms.insert form with
    | error failure =>
      simp only [inserted]
      exact refl_of Aside desk
    | ok extended =>
      simp only [inserted]
      obtain ⟨binding, rfl⟩ := of_newForm made
      have none : Addable (Form.catalog { Form.named name desk.settings with binding }).names := .nil
      exact ⟨rfl, fun registered => Registry.All.insert registered none inserted⟩

/-- A registered form is linked if its table and its connection are known. -/
theorem link_run (name : String) (options : LinkOptions) (desk : Desk) :
    (link name options).run desk =
      match desk.bind options with
      | .error failure => (.error failure, desk.reportFailure failure)
      | .ok binding =>
        match desk.form name with
        | .error failure => (.error failure, desk.reportFailure failure)
        | .ok form => (.ok binding, desk.putForm name (form.link binding)) := by
  unfold link
  rw [reporting_run]
  cases desk.bind options with
  | error failure => rfl
  | ok binding => cases desk.form name <;> rfl

/-- A form is linked aside. -/
theorem link_aside (name : String) (options : LinkOptions) (desk : Desk) :
    Aside desk ((link name options).run desk).2 := by
  rw [link_run]
  cases desk.bind options with
  | error failure => exact ⟨rfl, id⟩
  | ok binding =>
    cases found : desk.form name with
    | error failure =>
      dsimp only
      exact ⟨rfl, id⟩
    | ok form =>
      dsimp only
      refine ⟨rfl, fun registered => ?_⟩
      have addable : Addable form.catalog.names := form_good registered found
      have linked : Addable (form.link binding).catalog.names := addable
      exact Registry.All.replace registered linked

/-- A form is removed aside. -/
theorem destroy_aside (name : String) (desk : Desk) :
    Aside desk ((destroy name).run desk).2 :=
  ⟨rfl, fun registered => Registry.All.erase registered name⟩

/-- A registered form is changed aside. -/
theorem change_aside (name : String) (change : Form.Change) (desk : Desk) :
    Aside desk (desk.perform (.change name change)) := by
  change Aside desk (match desk.form name with
    | .ok form => desk.putForm name (form.change change)
    | .error _ => desk)
  split
  · rename_i form found
    refine ⟨rfl, fun registered => ?_⟩
    have addable := Form.change_addable (form_good registered found) change
    exact Registry.All.replace registered addable
  · exact refl_of Aside desk

/-- Saving a form saves it as it is registered. -/
theorem save_passes (name : String) (kind : FormKind) {desk : Desk}
    (faultless : desk.writeFault = none) :
    Passes desk (desk.save? (.save name kind)) ((save name kind).run desk).2 := by
  cases found : desk.form name with
  | error failure =>
    have outcome : ((save name kind).run desk).2 = desk.reportFailure failure := by
      simp only [save, reporting_run, found, Bind.bind, Except.bind]
    rw [outcome, save?, found]
    exact .aside ⟨rfl, id⟩
  | ok form =>
    have outcome : ((save name kind).run desk).2 =
        desk.stored ⟨desk.nextIdentifier, form, kind⟩ := by
      simp only [save, reporting_run, found, Bind.bind, Except.bind, saveSnapshot_eq faultless]
    have addable (registered : desk.forms.Addable) : Addable form.catalog.names :=
      form_good registered found
    rw [outcome, save?, found]
    exact .saving (refl_of Aside desk) rfl addable (refl_of Aside _)

/-- More may be done aside after a save. -/
theorem Passes.followed {before after last : Desk} {save? : Option Save}
    (passes : Passes before save? after) (aside : Aside after last) : Passes before save? last := by
  cases passes with
  | aside earlier => exact .aside (trans_of Aside earlier aside)
  | saving earlier number addable later =>
    exact .saving earlier number addable (trans_of Aside later aside)

/-- A display that fails is reported, and its save stays. -/
theorem degrade_passes {display : Display String} {desk : Desk} {save? : Option Save}
    (passes : Passes desk save? (display.run.run desk).2) :
    Passes desk save? ((degrade display).run desk).2 := by
  unfold degrade
  rw [StateT.run_bind]
  generalize display.run.run desk = outcome at passes
  obtain ⟨result, after⟩ := outcome
  cases result with
  | ok html => exact passes
  | error failure => exact passes.followed ⟨rfl, id⟩

/-- A word that asks for a form displays it, and what fails is reported. -/
theorem display_eq_degrade {way : String} {options : PageOptions} {kind : FormKind}
    (asks : shownKind? way options = some kind) (name : String) :
    display name way options = degrade (showForm name kind options) := by
  have inserted : displayInsert name options = degrade
      (showForm name (if options.values.contains "id" then .update else .insert) options) := by
    unfold displayInsert
    split <;> rfl
  unfold shownKind? at asks
  unfold display
  generalize (Text.trim way).toLower = word at asks
  split at asks
  · exact Option.some.inj asks ▸ inserted
  · exact Option.some.inj asks ▸ inserted
  · exact Option.some.inj asks ▸ inserted
  · exact Option.some.inj asks ▸ inserted
  · exact Option.some.inj asks ▸ rfl
  · exact Option.some.inj asks ▸ rfl
  · cases asks

/-- Other words display no form. -/
theorem display_aside {way : String} {options : PageOptions} (asks : shownKind? way options = none)
    (name : String) (desk : Desk) : Aside desk ((display name way options).run desk).2 := by
  have reports (desk : Desk) (diagnostics : Diagnostics) : Aside desk { desk with diagnostics } :=
    ⟨rfl, id⟩
  unfold shownKind? at asks
  unfold display
  generalize (Text.trim way).toLower = word at asks
  split at asks
  · cases asks
  · cases asks
  · cases asks
  · cases asks
  · cases asks
  · cases asks
  · split
    · contradiction
    · contradiction
    · contradiction
    · contradiction
    · contradiction
    · contradiction
    · exact showAssets_within reports desk
    · exact refl_of Aside desk
    · exact reports desk _

/-- What a word asks for to be displayed saves at most one form. -/
theorem display_passes (name way : String) (options : PageOptions) {desk : Desk}
    (faultless : desk.writeFault = none) :
    Passes desk (desk.save? (.display name way options)) ((display name way options).run desk).2 := by
  change Passes desk ((shownKind? way options).bind fun kind => desk.shownSave? name kind options) _
  cases asks : shownKind? way options with
  | none => exact .aside (display_aside asks name desk)
  | some kind =>
    rw [display_eq_degrade asks]
    exact degrade_passes (showForm_passes name kind options faultless)

/-! ## Processors and the store -/

/-- What is stored for a save is still there. -/
def Holds (desk : Desk) (save : Save) : Prop :=
  desk.store.get? desk.now (desk.settings.sessionKey save.id) = some save.value

/-- A processor that can be made is that of a save that is still there. -/
theorem Sound.loaded {saves : List Save} {desk : Desk} (sound : Sound saves desk) {id : String}
    {processor : Processor} (made : desk.loadProcessor id = .ok processor) :
    ∃ save ∈ saves, save.id = id ∧ desk.Holds save ∧ ∃ binding,
      save.form.binding = some binding ∧ processor = .ofForm save.form binding save.kind := by
  cases found : desk.store.get? desk.now (desk.settings.sessionKey id) with
  | none =>
    rw [loadProcessor_absent sound.reads found] at made
    cases made
  | some value =>
    obtain ⟨save, member, rfl, rfl⟩ := sound.live found
    rw [loadProcessor_save sound.makes sound.reads (sound.saved save member) found] at made
    cases bound : save.form.binding with
    | none =>
      rw [bound] at made
      cases made
    | some binding =>
      rw [bound] at made
      exact ⟨save, member, rfl, found, binding, bound, (Except.ok.inj made).symm⟩

/-- A processor that was made before is given again; else one is made and kept,
or its failure is reported. -/
theorem processor_run (id : String) (desk : Desk) :
    (processor (some id)).run desk =
      match desk.processors.get? id with
      | some processor => (.ok processor, desk)
      | none =>
        match desk.loadProcessor id with
        | .ok processor =>
          (.ok processor, { desk with processors := desk.processors.insert id processor })
        | .error failure => (.error failure, desk.reportFailure failure) := by
  unfold processor
  rw [reporting_run]
  simp only [Option.some_or, processorOf]
  cases desk.processors.get? id with
  | some processor => rfl
  | none => cases desk.loadProcessor id <;> rfl

/-- Without an identifier the posted one is taken. -/
theorem processor_none_run (desk : Desk) :
    (processor none).run desk =
      match desk.submission.formId? with
      | some id => (processor (some id)).run desk
      | none => (.error .noId, desk.reportFailure .noId) := by
  unfold processor
  simp only [reporting_run, Option.none_or, Option.some_or]
  cases desk.submission.formId? <;> rfl

/-- Asking for a processor changes the processors and the reports alone. -/
theorem processor_frame (id : Option String) (desk : Desk) :
    ((processor id).run desk).2 =
      { desk with
        processors := ((processor id).run desk).2.processors
        diagnostics := ((processor id).run desk).2.diagnostics } := by
  have given (id : String) : ((processor (some id)).run desk).2 =
      { desk with
        processors := ((processor (some id)).run desk).2.processors
        diagnostics := ((processor (some id)).run desk).2.diagnostics } := by
    rw [processor_run]
    split
    · rfl
    · split <;> rfl
  cases id with
  | some id => exact given id
  | none =>
    rw [processor_none_run]
    split
    · exact given _
    · rfl

/-- Asking for a processor changes the processors only by what a save gives. -/
theorem Sound.processor {saves : List Save} {desk : Desk} (sound : Sound saves desk)
    (id : Option String) : Sound saves ((Desk.processor id).run desk).2 := by
  have given (id : String) : Sound saves ((Desk.processor (some id)).run desk).2 := by
    rw [processor_run]
    split
    · exact sound
    · split
      · rename_i processor made
        refine { sound with cached := ?_ }
        intro other found lookup
        rw [TextMap.get?_insert] at lookup
        split at lookup
        · rename_i same
          obtain rfl := Option.some.inj lookup
          obtain ⟨save, member, named, -, made⟩ := sound.loaded made
          exact ⟨save, member, named.trans same.symm, made⟩
        · exact sound.cached other found lookup
      · exact sound.aside ⟨rfl, fun forms => forms⟩
  cases id with
  | some id => exact given id
  | none =>
    rw [processor_none_run]
    split
    · exact given _
    · exact sound.aside ⟨rfl, fun forms => forms⟩

/-- Everything that an event can do to a desk, with the save that it makes. -/
inductive Turns (before : Desk) : Option Save → Desk → Prop where
  /-- At most one form is saved. -/
  | passes {save? : Option Save} {after : Desk} (passes : Passes before save? after) :
    Turns before save? after
  /-- A processor is asked for. -/
  | asked (id : Option String) : Turns before none ((processor id).run before).2
  /-- Something is posted. -/
  | posted (submission : Submission) : Turns before none { before with submission }
  /-- Values are taken out of the store or are over sooner. -/
  | shrunk (store : SessionStore)
      (left : ∀ key found, store.byKey.get? key = some found →
        ∃ earlier, before.store.byKey.get? key = some earlier ∧ found.value = earlier.value ∧
          found.expiry ≤ max earlier.expiry before.now) :
    Turns before none { before with store }
  /-- Time passes. -/
  | waited (seconds : Nat) : Turns before none { before with now := before.now + seconds }

/-- Every event is one of these. -/
theorem perform_turns {desk : Desk} (faultless : desk.writeFault = none) (event : Event) :
    Turns desk (desk.save? event) (desk.perform event) := by
  cases event with
  | create name options => exact .passes (.aside (create_aside name options desk))
  | destroy name => exact .passes (.aside (destroy_aside name desk))
  | link name options => exact .passes (.aside (link_aside name options desk))
  | change name change => exact .passes (.aside (change_aside name change desk))
  | save name kind => exact .passes (save_passes name kind faultless)
  | display name way options => exact .passes (display_passes name way options faultless)
  | displayUpdate name options =>
    exact .passes (degrade_passes (showForm_passes name .update options faultless))
  | submit submission => exact .posted submission
  | processor id => exact .asked id
  | process id => exact .asked id
  | reports diagnostics => exact .passes (.aside ⟨rfl, id⟩)
  | remove key =>
    refine .shrunk _ fun other found lookup => ?_
    change (desk.store.byKey.erase key).get? other = some found at lookup
    rw [TextMap.get?_erase] at lookup
    split at lookup
    · cases lookup
    · exact ⟨found, lookup, rfl, by omega⟩
  | expire key =>
    refine .shrunk _ fun other found lookup => ?_
    change (desk.store.byKey.modify key _).get? other = some found at lookup
    rw [TextMap.get?_modify] at lookup
    split at lookup
    · rename_i same
      obtain ⟨earlier, there, rfl⟩ := Option.map_eq_some_iff.mp lookup
      exact ⟨earlier, same ▸ there, rfl, by dsimp only; omega⟩
    · exact ⟨found, lookup, rfl, by omega⟩
  | sweep =>
    refine .shrunk _ fun other found lookup => ?_
    change (desk.store.byKey.filterValues _).get? other = some found at lookup
    rw [TextMap.get?_filterValues] at lookup
    exact ⟨found, (Option.filter_eq_some_iff.mp lookup).1, rfl, by omega⟩
  | wait seconds => exact .waited seconds

/-- Whatever an event does keeps a run sound, with the save that it makes. -/
theorem Sound.turns {saves : List Save} {before after : Desk} {save? : Option Save}
    (sound : Sound saves before) (turns : Turns before save? after) :
    Sound (saves ++ save?.toList) after := by
  have saveless {after : Desk} (kept : Sound saves after) :
      Sound (saves ++ (none : Option Save).toList) after := by
    rwa [Option.toList_none, List.append_nil]
  cases turns with
  | passes passes => exact sound.passes passes
  | asked id => exact saveless (sound.processor id)
  | posted submission => exact saveless { sound with }
  | shrunk store left =>
    refine saveless { sound with stored := fun key found lookup => ?_ }
    obtain ⟨earlier, there, same, sooner⟩ := left key found lookup
    obtain ⟨save, member, named, value, expiry⟩ := sound.stored key earlier there
    refine ⟨save, member, named, same.trans value, ?_⟩
    dsimp only
    omega
  | waited seconds =>
    refine saveless { sound with stored := fun key found lookup => ?_ }
    obtain ⟨save, member, named, value, expiry⟩ := sound.stored key found lookup
    refine ⟨save, member, named, value, ?_⟩
    dsimp only
    omega

/-- One event keeps a run sound. -/
theorem Sound.perform {saves : List Save} {desk : Desk} (sound : Sound saves desk) (event : Event) :
    Sound (saves ++ (desk.save? event).toList) (desk.perform event) :=
  sound.turns (perform_turns sound.writes event)

/-! ## Whole runs -/

/-- A desk on which nothing was done: no forms, no processors, and a store that
works and holds nothing. -/
structure Fresh (desk : Desk) : Prop where
  /-- There are no forms. -/
  forms : desk.forms = .empty
  /-- No processor was made. -/
  processors : desk.processors = .empty
  /-- Nothing is stored. -/
  store : desk.store = .empty
  /-- The store can be written. -/
  writes : desk.writeFault = none
  /-- The store can be read. -/
  reads : desk.readFault = none

/-- A fresh desk is sound before anything is saved. -/
theorem Fresh.sound {desk : Desk} (fresh : desk.Fresh)
    (makes : ∀ field, (desk.make field).field = field) : Sound [] desk := by
  refine ⟨makes, fresh.writes, fresh.reads, ?_, by simp, by simp, ?_, ?_⟩
  · intro key form found
    rw [fresh.forms] at found
    cases found
  · intro key found lookup
    rw [fresh.store] at lookup
    cases lookup
  · intro id processor lookup
    rw [fresh.processors] at lookup
    cases lookup

/-- Events one after another keep a run sound, with the saves that they make. -/
theorem Sound.run {saves : List Save} {desk : Desk} (sound : Sound saves desk)
    (events : List Event) : Sound (saves ++ desk.saves events) (desk.run events) := by
  induction events generalizing saves desk with
  | nil =>
    rw [Desk.saves, List.append_nil]
    exact sound
  | cons event rest inductionHypothesis =>
    rw [Desk.saves, ← List.append_assoc]
    exact inductionHypothesis (sound.perform event)

end Desk

end Formwork
