import Formwork.Proofs.DisplayedTables
import Formwork.Proofs.NameSpelling

/-!
# Registered forms

Every registered form stands under its own name, whatever was done to the desk before. So
a new form is refused exactly when a form of the same name is there, or when what is said
about its table cannot be followed. An operation that defines forms or takes them back and
fails does nothing but report its failure, once.
-/

namespace Formwork

/-! ## Forms and their names -/

/-- The form stands under its own name, in that name's own spelling. -/
structure Form.StandsUnder (key : String) (form : Form) : Prop where
  /-- It has the name under which it stands. -/
  name : form.name = key
  /-- The name is trimmed and in lower case. -/
  spelled : Form.normalizeName key = key

namespace Form

/-- A form of the same name may stand in its place. -/
theorem StandsUnder.renamed {key : String} {form other : Form} (stands : form.StandsUnder key)
    (same : other.name = form.name) : other.StandsUnder key :=
  ⟨same.trans stands.name, stands.spelled⟩

/-- One more widget leaves the name. -/
theorem name_addWidget {form extended : Form} {widget : Widget}
    (added : form.addWidget widget = .ok extended) : extended.name = form.name := by
  unfold addWidget at added
  cases outcome : form.catalog.add widget with
  | error failure =>
    rw [outcome] at added
    cases added
  | ok catalog =>
    rw [outcome] at added
    obtain rfl := Except.ok.inj added
    rfl

/-- So does every change, made or refused. -/
theorem name_change (form : Form) (change : Change) : (form.change change).name = form.name := by
  unfold Form.change
  cases made : form.change? change with
  | error failure => rfl
  | ok changed =>
    cases change with
    | add widget => exact name_addWidget made
    | ensureSubmit =>
      change changed.name = form.name
      rw [ensureSubmit_rest made]
    | setDisabled name disabled =>
      cases outcome : form.catalog.setDisabled name disabled with
      | error failure =>
        rw [change?, outcome] at made
        cases made
      | ok catalog =>
        rw [change?, outcome] at made
        obtain rfl := Except.ok.inj made
        rfl
    | _ =>
      obtain rfl := Except.ok.inj made
      rfl

/-- A displayed form stands where it stood. -/
theorem standsUnder_enduring : Enduring fun key form => form.StandsUnder key where
  button stands ensured := stands.renamed (by rw [ensureSubmit_rest ensured])
  page stands kept := stands.renamed (by rw [kept.rest])
  values _ stands := stands.renamed rfl

end Form

namespace Registry

/-- Every form stands under its own name. -/
def Named (registry : Registry) : Prop := registry.All fun key form => form.StandsUnder key

/-- The forms are those that stand under some name. -/
theorem mem_forms_iff (registry : Registry) (form : Form) :
    form ∈ registry.forms ↔ ∃ key, registry.byName.get? key = some form := by
  simp only [TextMap.get?_eq_some_iff, forms, TextMap.values, List.mem_map, Prod.exists]
  constructor
  · rintro ⟨key, found, member, rfl⟩
    exact ⟨key, member⟩
  · rintro ⟨key, member⟩
    exact ⟨key, form, member, rfl⟩

/-- A name is taken however it is spelled. -/
theorem contains_normalizeName (registry : Registry) (name : String) :
    registry.contains (Form.normalizeName name) = registry.contains name := by
  rw [contains, get?, Form.normalizeName_normalizeName]
  rfl

/-- A name is free if no form has it, in whatever spelling. -/
theorem Named.free_iff {registry : Registry} (named : registry.Named) (name : String) :
    registry.contains name = false ↔
      ∀ form ∈ registry.forms, Form.normalizeName form.name ≠ Form.normalizeName name := by
  have absent : registry.contains name = false ↔
      registry.byName.get? (Form.normalizeName name) = none := by
    simp [contains, get?]
  rw [absent]
  constructor
  · intro free form member same
    obtain ⟨key, found⟩ := (mem_forms_iff registry form).mp member
    have stands := named key form found
    rw [stands.name, stands.spelled] at same
    rw [← same, found] at free
    cases free
  · intro apart
    cases found : registry.byName.get? (Form.normalizeName name) with
    | none => rfl
    | some form =>
      have stands := named _ form found
      have member := (mem_forms_iff registry form).mpr ⟨_, found⟩
      exact absurd (by rw [stands.name, stands.spelled]) (apart form member)

/-- A form whose name is free is registered under it. -/
theorem insert_free {registry : Registry} {form : Form} (free : registry.contains form.name = false)
    (spelled : Form.normalizeName form.name = form.name) :
    registry.insert form = .ok ⟨registry.byName.insert form.name form⟩ := by
  have absent : registry.byName.contains form.name = false := by
    rw [contains, get?, spelled] at free
    exact free
  rw [insert, absent]
  rfl

end Registry

namespace Desk

/-! ## Desks that can be reached -/

/-- The desk can be reached: it had no forms at first, and since then events happened to it, the
application edited registered forms, which cannot rename them, and whatever is no form became
something else, such as the database, the templates, and what the store fails with. -/
inductive Reachable : Desk → Prop where
  /-- There are no forms yet. -/
  | start {desk : Desk} (none : desk.forms = .empty) : Reachable desk
  /-- An event happens. -/
  | event {desk : Desk} (earlier : Reachable desk) (event : Event) : Reachable (desk.perform event)
  /-- The application edits a registered form. -/
  | edit {desk : Desk} {name : String} {old form : Form} (earlier : Reachable desk)
    (found : desk.form name = .ok old) (same : form.name = old.name) :
    Reachable (desk.putForm name form)
  /-- Something else changes. -/
  | around {before after : Desk} (earlier : Reachable before) (forms : after.forms = before.forms) :
    Reachable after

/-- Events lead on to desks that can be reached. -/
theorem Reachable.run {desk : Desk} (reachable : desk.Reachable) (events : List Event) :
    (desk.run events).Reachable := by
  induction events generalizing desk with
  | nil => exact reachable
  | cons event rest inductionHypothesis => exact inductionHypothesis (reachable.event event)

/-- Forms stay named. -/
abbrev KeepsNamed : Desk → Desk → Prop := KeepsGood fun key form => form.StandsUnder key

/-- Changes beside forms leave them named. -/
theorem KeepsNamed.beside {before after : Desk} (forms : after.forms = before.forms) :
    KeepsNamed before after := by
  intro named
  rw [forms]
  exact named

/-- So does a form of the same name in the place of another. -/
theorem KeepsNamed.put {desk : Desk} {name : String} {old form : Form}
    (found : desk.form name = .ok old) (same : form.name = old.name) :
    KeepsNamed desk (desk.putForm name form) := fun named =>
  named.replace ((form_good named found).renamed same)

/-- No step of a display renames forms. -/
theorem keepsNamed_acrossSteps (name : String) : AcrossSteps name KeepsNamed where
  shows := formToShow_keepsGood Form.standsUnder_enduring name
  fills := fillRecord_keepsGood Form.standsUnder_enduring name
  saves := saveShown_within fun _ _ _ => .beside rfl
  writes := writePage_keepsGood Form.standsUnder_enduring name
  reports _ _ := .beside rfl

/-! ## Operations that fail -/

/-- Why something failed, if it did. -/
def failed? {α : Type} : Except Failure α → Option Failure
  | .ok _ => none
  | .error failure => some failure

/-- The failure of an event that defines forms, saves them or takes them back. -/
def failure? (desk : Desk) : Event → Option Failure
  | .create name options => failed? ((create name options).run desk).1
  | .link name options => failed? ((link name options).run desk).1
  | .save name kind => failed? ((save name kind).run desk).1
  | .processor id => failed? ((processor id).run desk).1
  | .process id => failed? ((process id).run desk).1
  | _ => none

/-- An operation that reports its failure does nothing else when it fails. -/
theorem reporting_failed {α : Type} {operation : Desk → Except Failure (α × Desk)} {desk : Desk}
    {failure : Failure} (fails : failed? ((reporting operation).run desk).1 = some failure) :
    ((reporting operation).run desk).2 = desk.reportFailure failure := by
  rw [reporting_run] at fails ⊢
  split at fails
  · cases fails
  · rename_i reason outcome
    obtain rfl := Option.some.inj fails
    rfl

/-- A failure is reported once, at a level of its own. -/
theorem reportFailure_eq (desk : Desk) (failure : Failure) :
    ∃ level, desk.reportFailure failure =
      { desk with
        diagnostics :=
          { desk.diagnostics with
            reports := desk.diagnostics.reports ++ [⟨level, failure.message⟩] } } := by
  unfold reportFailure Diagnostics.reportFailure
  split
  · exact ⟨.high, rfl⟩
  · exact ⟨.high, rfl⟩
  · exact ⟨.high, rfl⟩
  · exact ⟨.debug, rfl⟩

/-- What is posted is collected unless there is no processor for it. -/
theorem failed?_process (id : Option String) (desk : Desk) :
    failed? ((process id).run desk).1 = failed? ((processor id).run desk).1 := by
  change failed? (((processor id).run desk).1.map _) = _
  cases ((processor id).run desk).1 <;> rfl

/-! ## New forms -/

/-- The options name a table, and a connection that there is, or else there is the default one. -/
def CanLink (desk : Desk) (options : LinkOptions) : Prop :=
  ∃ table, options.table.map Text.trim = some table ∧ table ≠ "" ∧
    desk.connections.byName.contains
      ((LinkOptions.given options.connection).getD desk.settings.defaultConnection) = true

/-- Such options can be followed, and no others. -/
theorem bind_ok_iff (desk : Desk) (options : LinkOptions) :
    (∃ binding, desk.bind options = .ok binding) ↔ desk.CanLink options := by
  have given_iff (table : String) : LinkOptions.given options.table = some table ↔
      options.table.map Text.trim = some table ∧ table ≠ "" := by
    simp [LinkOptions.given, Option.filter_eq_some_iff]
  have bound : desk.CanLink options ↔
      ∃ table, LinkOptions.given options.table = some table ∧
        desk.connections.byName.contains
          ((LinkOptions.given options.connection).getD desk.settings.defaultConnection) = true := by
    simp only [CanLink, given_iff, and_assoc]
  rw [bound]
  unfold Desk.bind LinkOptions.bind
  cases LinkOptions.given options.table with
  | none => simp [Bind.bind, Except.bind]
  | some table =>
    simp only [Bind.bind, Except.bind, Connections.resolve, Connections.effectiveName,
      Option.getD_some, TextMap.contains, Option.some.injEq, exists_eq_left']
    cases desk.connections.byName.get?
        ((LinkOptions.given options.connection).getD desk.settings.defaultConnection) with
    | none => simp
    | some connection => simp [Pure.pure, Except.pure]

/-- A form can be made if its name is free and what is said about its table can be followed. -/
theorem newForm_ok_iff (desk : Desk) (name : String) (options : Option LinkOptions) :
    (∃ form, desk.newForm name options = .ok form) ↔
      desk.forms.contains name = false ∧ ∀ asked ∈ options, desk.CanLink asked := by
  have taken : desk.forms.contains (Form.named name desk.settings).name =
      desk.forms.contains name := desk.forms.contains_normalizeName name
  unfold newForm
  dsimp only
  rw [taken]
  cases desk.forms.contains name with
  | true => simp
  | false =>
    cases options with
    | none => simp
    | some asked =>
      simp only [Bool.false_eq_true, if_false, true_and, Option.mem_some, forall_eq',
        ← bind_ok_iff]
      cases desk.bind asked <;> simp [Except.map]

/-- A form that is made has the name's spelling. -/
theorem name_newForm {desk : Desk} {name : String} {options : Option LinkOptions} {form : Form}
    (made : desk.newForm name options = .ok form) : form.name = Form.normalizeName name := by
  obtain ⟨binding, rfl⟩ := of_newForm made
  rfl

/-- A form that can be made is registered: its name was found to be free, and is its own
spelling. -/
theorem create_eq (name : String) (options : Option LinkOptions) (desk : Desk) :
    (create name options).run desk =
      match desk.newForm name options with
      | .error failure => (.error failure, desk.reportFailure failure)
      | .ok form =>
        (.ok (Form.normalizeName name),
          { desk with forms := ⟨desk.forms.byName.insert (Form.normalizeName name) form⟩ }) := by
  rw [create_run]
  cases made : desk.newForm name options with
  | error failure => rfl
  | ok form =>
    have called := name_newForm made
    have spelled : Form.normalizeName form.name = form.name := by
      rw [called, Form.normalizeName_normalizeName]
    have free : desk.forms.contains form.name = false := by
      rw [called, Registry.contains_normalizeName]
      exact ((newForm_ok_iff desk name options).mp ⟨form, made⟩).1
    simp only [Registry.insert_free free spelled, called]

/-- An event that fails only reports its failure. -/
theorem perform_failed {desk : Desk} {event : Event} {failure : Failure}
    (fails : desk.failure? event = some failure) :
    desk.perform event = desk.reportFailure failure := by
  cases event with
  | create name options =>
    change failed? ((create name options).run desk).1 = some failure at fails
    change ((create name options).run desk).2 = _
    rw [create_eq] at fails ⊢
    cases made : desk.newForm name options with
    | error reason =>
      rw [made] at fails
      obtain rfl := Option.some.inj fails
      rfl
    | ok form =>
      rw [made] at fails
      cases fails
  | link name options => exact reporting_failed fails
  | save name kind => exact reporting_failed fails
  | processor id => exact reporting_failed fails
  | process id => exact reporting_failed ((failed?_process id desk).symm.trans fails)
  | _ => cases fails

/-! ## Every desk that can be reached -/

/-- Saving a form changes no form. -/
theorem save_forms (name : String) (kind : FormKind) (desk : Desk) :
    ((save name kind).run desk).2.forms = desk.forms := by
  unfold save saveSnapshot
  rw [reporting_run]
  cases desk.form name with
  | error failure => rfl
  | ok form => cases desk.writeFault <;> rfl

/-- Neither does asking for a processor. -/
theorem processor_forms (id : Option String) (desk : Desk) :
    ((processor id).run desk).2.forms = desk.forms := by
  rw [processor_frame]

/-- No event makes a form stand under another name than its own. -/
theorem perform_keepsNamed (event : Event) (desk : Desk) :
    KeepsNamed desk (desk.perform event) := by
  cases event with
  | create name options =>
    change KeepsNamed desk ((create name options).run desk).2
    rw [create_run]
    cases made : desk.newForm name options with
    | error failure => exact .beside rfl
    | ok form =>
      cases inserted : desk.forms.insert form with
      | error failure =>
        simp only [inserted]
        exact refl_of KeepsNamed desk
      | ok extended =>
        simp only [inserted]
        have called := name_newForm made
        have stands : form.StandsUnder form.name :=
          ⟨rfl, by rw [called, Form.normalizeName_normalizeName]⟩
        exact fun named => named.insert stands inserted
  | destroy name => exact fun named => named.erase name
  | link name options =>
    change KeepsNamed desk ((link name options).run desk).2
    rw [link_run]
    cases desk.bind options with
    | error failure => exact .beside rfl
    | ok binding =>
      cases found : desk.form name with
      | error failure =>
        dsimp only
        exact .beside rfl
      | ok form =>
        dsimp only
        exact .put found rfl
  | change name change =>
    unfold perform
    dsimp only
    split
    · rename_i form found
      exact .put found (form.name_change change)
    · exact refl_of KeepsNamed desk
  | save name kind => exact .beside (save_forms name kind desk)
  | display name way options => exact (keepsNamed_acrossSteps name).display way options desk
  | displayUpdate name options => exact (keepsNamed_acrossSteps name).displayUpdate options desk
  | processor id => exact .beside (processor_forms id desk)
  | process id => exact .beside (processor_forms id desk)
  | _ => exact .beside rfl

/-- On every desk that can be reached, forms stand under their own names. -/
theorem Reachable.named {desk : Desk} (reachable : desk.Reachable) : desk.forms.Named := by
  induction reachable with
  | start none =>
    intro key form found
    rw [none] at found
    cases found
  | event earlier event named => exact perform_keepsNamed event _ named
  | edit earlier found same named => exact KeepsNamed.put found same named
  | around earlier forms named => exact KeepsNamed.beside forms named

/-- Definitions are made as a whole or not at all, on every desk that can be reached. A form is
created exactly if no form has its name, trimmed and in lower case, and the options, if there are
any, name a table and a connection that there is. It is then registered under that name and nothing
else changes. An event that fails to define a form, to save one or to take one back changes nothing
but for one report of its failure, whatever part of it failed: all forms, the store and the
processors are what they were.

Proof: forms stand under their own names, so that a name is taken if a form has it; and every
operation reports its failure aside of the desk that it started from. -/
theorem definitions_all_or_nothing {desk : Desk} (reachable : desk.Reachable) :
    (∀ name options,
      (∃ created, ((create name options).run desk).1 = .ok created) ↔
        (∀ form ∈ desk.forms.forms, Form.normalizeName form.name ≠ Form.normalizeName name) ∧
          ∀ asked ∈ options, desk.CanLink asked) ∧
    (∀ name options created, ((create name options).run desk).1 = .ok created →
      created = Form.normalizeName name ∧ ∃ binding,
        desk.perform (.create name options) =
          { desk with
            forms :=
              ⟨desk.forms.byName.insert created { Form.named name desk.settings with binding }⟩ }) ∧
    ∀ event failure, desk.failure? event = some failure → ∃ level,
      desk.perform event =
        { desk with
          diagnostics :=
            { desk.diagnostics with
              reports := desk.diagnostics.reports ++ [⟨level, failure.message⟩] } } := by
  refine ⟨fun name options => ?_, fun name options created succeeds => ?_,
    fun event failure fails => ?_⟩
  · have makes : (∃ created, ((create name options).run desk).1 = .ok created) ↔
        ∃ form, desk.newForm name options = .ok form := by
      rw [create_eq]
      cases desk.newForm name options with
      | error failure => simp
      | ok form => simp
    rw [makes, newForm_ok_iff, reachable.named.free_iff]
  · change _ ∧ ∃ binding, ((create name options).run desk).2 = _
    rw [create_eq] at succeeds ⊢
    cases made : desk.newForm name options with
    | error failure =>
      rw [made] at succeeds
      cases succeeds
    | ok form =>
      rw [made] at succeeds
      obtain rfl := Except.ok.inj succeeds
      obtain ⟨binding, rfl⟩ := of_newForm made
      exact ⟨rfl, binding, rfl⟩
  · obtain ⟨level, reported⟩ := desk.reportFailure_eq failure
    exact ⟨level, (perform_failed fails).trans reported⟩

/-- A desk on which the form of contacts is defined. -/
def definedDesk : Desk := (contactsDesk "").run contactsEvents

/-- On the desk of contacts a second form of that name is refused, in any spelling, and nothing but
one report is left of it; so is a form on a connection that there is not, while one of another name
is created. -/
theorem contacts_all_or_nothing :
    definedDesk.Reachable ∧
      (¬ ∃ created, ((create " CONTACT " none).run definedDesk).1 = .ok created) ∧
      (∃ level, definedDesk.perform (.create " CONTACT " none) =
        { definedDesk with
          diagnostics := { definedDesk.diagnostics with
            reports :=
              definedDesk.diagnostics.reports ++
                [⟨level, (Failure.duplicateName "contact").message⟩] } }) ∧
      (¬ ∃ created, ((create "guests" (some { table := some "guests", connection := some "db" })).run
        definedDesk).1 = .ok created) ∧
      ∃ created, ((create " Guests" (some { table := some " guests " })).run definedDesk).1 =
        .ok created := by
  have reachable : definedDesk.Reachable := .run (.start rfl) contactsEvents
  have contact : definedDesk.forms.forms = [contactForm] := by decide +kernel
  obtain ⟨creates, -, fails⟩ := definitions_all_or_nothing reachable
  refine ⟨reachable, ?_, ?_, ?_, ?_⟩
  · rw [creates]
    rintro ⟨free, -⟩
    exact free contactForm (by simp [contact]) (by decide +kernel)
  · exact fails _ _ (by decide +kernel)
  · rw [creates]
    rintro ⟨-, linked⟩
    obtain ⟨table, -, -, connected⟩ := linked _ rfl
    revert connected
    decide +kernel
  · rw [creates]
    refine ⟨?_, ?_⟩
    · rw [contact]
      simp only [List.mem_singleton, forall_eq]
      decide +kernel
    · simp only [Option.mem_some, forall_eq']
      exact ⟨"guests", by decide +kernel, by decide, by decide +kernel⟩

end Desk

end Formwork
