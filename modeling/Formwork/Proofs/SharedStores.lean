import Formwork.Proofs.DisplayedTables
import Formwork.Session.Identifier

/-!
# Desks that share a store

Several desks may keep their saved forms in one store, each under keys that begin with
the namespace of its settings. A key is the namespace, a point and the identifier, and
whoever posts a form chooses the identifier that is asked for. Since the identifiers
that forms are saved under hold no point, the key of a saved form can be read as a key
of another namespace in one way only: when the namespace of the desk that saved it is
that of the desk that asks, a point and something more. Every other pair of namespaces
is isolated, whatever happens at the desks.
-/

namespace Formwork

/-! ## Keys of two namespaces -/

namespace Settings

/-- The namespace of the right settings is that of the left ones with a point and the given text
behind it. -/
def ExtendedBy (left right : Settings) (rest : String) : Prop :=
  right.sessionNamespace = left.sessionNamespace ++ "." ++ rest

/-- A key of one namespace is one of another if the namespaces and the identifiers are the same, or
if the other namespace and its identifier come apart at an earlier point. -/
theorem sessionKey_eq_iff {left right : Settings} {id other : String}
    (pointless : '.' ∉ other.toList) :
    left.sessionKey id = right.sessionKey other ↔
      left.sessionNamespace = right.sessionNamespace ∧ id = other ∨
        ∃ rest, left.ExtendedBy right rest ∧ id = rest ++ "." ++ other := by
  have point : ".".toList = ['.'] := by decide
  simp only [sessionKey, ExtendedBy, ← String.toList_inj, String.toList_append, point]
  constructor
  · intro same
    rw [List.append_assoc, List.append_assoc] at same
    rcases List.append_eq_append_iff.mp same with ⟨more, longer, behind⟩ | ⟨more, longer, behind⟩
    · cases more with
      | nil =>
        rw [List.append_nil] at longer
        exact .inl ⟨longer.symm, (List.cons.inj behind).2⟩
      | cons c rest =>
        obtain ⟨rfl, ended⟩ := List.cons.inj behind
        refine .inr ⟨String.ofList rest, ?_, ?_⟩
        · rw [longer, String.toList_ofList, List.append_assoc]
          rfl
        · rw [String.toList_ofList, List.append_assoc]
          exact ended
    · cases more with
      | nil =>
        rw [List.append_nil] at longer
        exact .inl ⟨longer, (List.cons.inj behind).2.symm⟩
      | cons c rest =>
        -- The point in front of the asked identifier would stand in the other identifier.
        have ended : other.toList = rest ++ '.' :: id.toList := (List.cons.inj behind).2
        rw [ended] at pointless
        simp at pointless
  · rintro (⟨same, named⟩ | ⟨rest, extended, named⟩)
    · rw [same, named]
    · rw [extended, named]
      simp only [List.append_assoc]

end Settings

/-- Identifiers of saved forms are digests in hexadecimal digits, so they hold no point. -/
theorem formIdentifier_pointless (random : List UInt8) (nonce nanoseconds : Nat) :
    '.' ∉ (formIdentifier random nonce nanoseconds).toList := by
  intro member
  obtain ⟨digit, bound, is⟩ := Text.mem_hexText member
  have others : ∀ digit < 16, '.' ≠ Text.hexDigit digit := by decide
  exact others digit bound is

/-- The processor is that of the saved form, built again from widgets that are made in the given
way. -/
def Save.Gives (save : Save) (make : Field → Widget) (processor : Processor) : Prop :=
  ∃ form binding, save.form.snapshot.restore make = .ok form ∧ form.binding = some binding ∧
    processor = .ofForm form binding save.kind

/-- A value is that of a success. -/
theorem ok_of_toOption {ε α : Type} {outcome : Except ε α} {value : α}
    (found : outcome.toOption = some value) : outcome = .ok value := by
  cases outcome with
  | error failure => cases found
  | ok other => exact congrArg Except.ok (Option.some.inj found)

namespace Desk

/-- A save that is found gives a processor if it can be loaded. -/
theorem loadProcessor_ok_iff {desk : Desk} (reads : desk.readFault = none) {save : Save} {id : String}
    (found : desk.store.get? desk.now (desk.settings.sessionKey id) = some save.value)
    {processor : Processor} :
    desk.loadProcessor id = .ok processor ↔ save.Gives desk.make processor := by
  rw [loadProcessor_value reads found, Save.Gives]
  cases save.form.snapshot.restore desk.make with
  | error failure => simp [Except.bind]
  | ok form =>
    cases bound : form.binding with
    | none => simp [Except.bind, bound]
    | some binding =>
      simp only [Except.bind, bound, Except.ok.injEq]
      constructor
      · intro same
        exact ⟨form, binding, rfl, bound, same.symm⟩
      · rintro ⟨_, other, rfl, linked, same⟩
        obtain rfl := Option.some.inj (bound.symm.trans linked)
        exact same.symm

/-! ## What an event leaves -/

/-- What a turn may leave behind, as far as saved forms are concerned. -/
structure Leaves (before : Desk) (save? : Option Save) (after : Desk) : Prop where
  /-- The settings are the same. -/
  settings : after.settings = before.settings
  /-- Identifiers are taken from the same sequence. -/
  identifiers : after.identifiers = before.identifiers
  /-- Widgets are made in the same way. -/
  makes : after.make = before.make
  /-- The store can be written if it could. -/
  writes : after.writeFault = before.writeFault
  /-- The store can be read if it could. -/
  reads : after.readFault = before.readFault
  /-- A form is saved under the next identifier. -/
  saved : ∀ save ∈ save?, save.id = before.nextIdentifier
  /-- What is stored was just saved or was stored before. -/
  stored : ∀ key found, after.store.byKey.get? key = some found →
    (∃ save ∈ save?, key = before.settings.sessionKey save.id ∧ found.value = save.value) ∨
      ∃ earlier, before.store.byKey.get? key = some earlier ∧ found.value = earlier.value
  /-- A processor was there before or is made of what was stored. -/
  processors : ∀ id processor, after.processors.get? id = some processor →
    before.processors.get? id = some processor ∨ before.loadProcessor id = .ok processor

/-- What may save a form leaves what it should. -/
theorem Passes.leaves {before after : Desk} {save? : Option Save}
    (passes : Passes before save? after) : Leaves before save? after := by
  cases passes with
  | aside aside =>
    rw [show after = _ from aside.quiet]
    exact ⟨rfl, rfl, rfl, rfl, rfl, by simp, fun _ found lookup => .inr ⟨found, lookup, rfl⟩,
      fun _ _ lookup => .inl lookup⟩
  | @saving middle _ save earlier number addable later =>
    have written : after.store = before.store.insert before.now
        (before.settings.sessionKey save.id) save.value before.settings.formTimeout := by
      rw [show after = _ from later.quiet, show middle = _ from earlier.quiet]
      rfl
    have same : after =
        { before with
          forms := after.forms, diagnostics := after.diagnostics, issued := after.issued
          queries := after.queries, store := after.store, saved := after.saved } := by
      rw [show after = _ from later.quiet, show middle = _ from earlier.quiet]
      rfl
    have saved : ∀ other ∈ some save, other.id = before.nextIdentifier := by
      intro other is
      obtain rfl := Option.some.inj is
      exact number
    have stored : ∀ key found, after.store.byKey.get? key = some found →
        (∃ other ∈ some save, key = before.settings.sessionKey other.id ∧
          found.value = other.value) ∨
        ∃ there, before.store.byKey.get? key = some there ∧ found.value = there.value := by
      intro key found lookup
      rw [written] at lookup
      rcases SessionStore.of_byKey_insert lookup with ⟨rfl, rfl⟩ | there
      · exact .inl ⟨save, rfl, rfl, rfl⟩
      · exact .inr ⟨found, there, rfl⟩
    rw [same] at stored ⊢
    exact ⟨rfl, rfl, rfl, rfl, rfl, saved, stored, fun _ _ lookup => .inl lookup⟩

/-- Asking for a processor makes at most the one that is asked for, and stores nothing. -/
theorem processor_leaves (id : Option String) (desk : Desk) :
    Leaves desk none ((processor id).run desk).2 := by
  have made : ∀ other processor,
      ((Desk.processor id).run desk).2.processors.get? other = some processor →
        desk.processors.get? other = some processor ∨ desk.loadProcessor other = .ok processor := by
    have given (id : String) : ∀ other processor,
        ((Desk.processor (some id)).run desk).2.processors.get? other = some processor →
          desk.processors.get? other = some processor ∨
            desk.loadProcessor other = .ok processor := by
      intro other processor lookup
      rw [processor_run] at lookup
      split at lookup
      · exact .inl lookup
      · split at lookup
        · rename_i made loaded
          rw [TextMap.get?_insert] at lookup
          split at lookup
          · rename_i same
            obtain rfl := Option.some.inj lookup
            exact .inr (same ▸ loaded)
          · exact .inl lookup
        · exact .inl lookup
    cases id with
    | some id => exact given id
    | none =>
      intro other processor lookup
      rw [processor_none_run] at lookup
      split at lookup
      · exact given _ other processor lookup
      · exact .inl lookup
  rw [processor_frame]
  exact ⟨rfl, rfl, rfl, rfl, rfl, by simp, fun _ found lookup => .inr ⟨found, lookup, rfl⟩, made⟩

/-- Every event leaves what it should. -/
theorem Turns.leaves {before after : Desk} {save? : Option Save} (turns : Turns before save? after) :
    Leaves before save? after := by
  cases turns with
  | passes passes => exact passes.leaves
  | asked id => exact processor_leaves id before
  | posted submission =>
    exact ⟨rfl, rfl, rfl, rfl, rfl, by simp, fun _ found lookup => .inr ⟨found, lookup, rfl⟩,
      fun _ _ lookup => .inl lookup⟩
  | shrunk store left =>
    refine ⟨rfl, rfl, rfl, rfl, rfl, by simp, ?_, fun _ _ lookup => .inl lookup⟩
    intro key found lookup
    obtain ⟨earlier, there, same, -⟩ := left key found lookup
    exact .inr ⟨earlier, there, same⟩
  | waited seconds =>
    exact ⟨rfl, rfl, rfl, rfl, rfl, by simp, fun _ found lookup => .inr ⟨found, lookup, rfl⟩,
      fun _ _ lookup => .inl lookup⟩

/-- What was just saved is held, if forms are kept at all. -/
theorem Passes.holds {before after : Desk} {save : Save} (passes : Passes before (some save) after)
    (kept : 0 < after.settings.formTimeout) : after.Holds save := by
  have young : ¬ after.now + (after.settings.formTimeout : Int) ≤ after.now := by
    omega
  rw [Holds, SessionStore.get?, passes.held]
  simp [Option.filter, StoredValue.isExpired, young]

/-- The desk with the store and the clock of another one. -/
def sharing (desk other : Desk) : Desk := { desk with store := other.store, now := other.now }

end Desk

/-! ## Several desks -/

/-- Desks with one store between them, and with the clock of that store. -/
structure Desks (ι : Type) where
  /-- The desk of each name. -/
  desk : ι → Desk
  /-- The store is the same for all. -/
  oneStore : ∀ who other, (desk who).store = (desk other).store
  /-- So is its clock. -/
  oneClock : ∀ who other, (desk who).now = (desk other).now

namespace Desks

variable {ι : Type}

/-- The key that a saved form was stored under. -/
def key (desks : Desks ι) (made : ι × Save) : String :=
  (desks.desk made.1).settings.sessionKey made.2.id

/-- What a run keeps: all that is stored and every processor comes from a save of one of the desks,
made under the key that it is found under. -/
structure Accounted (saves : List (ι × Save)) (desks : Desks ι) : Prop where
  /-- The store can be written. -/
  writes : ∀ who, (desks.desk who).writeFault = none
  /-- The store can be read. -/
  reads : ∀ who, (desks.desk who).readFault = none
  /-- Identifiers are those of the desk that saved. -/
  numbered : ∀ made ∈ saves, ∃ number, made.2.id = (desks.desk made.1).identifiers number
  /-- What is stored is a saved form. -/
  stored : ∀ who key found, (desks.desk who).store.byKey.get? key = some found →
    ∃ made ∈ saves, key = desks.key made ∧ found.value = made.2.value
  /-- A processor is that of a form saved under the key of its identifier. -/
  cached : ∀ who id processor, (desks.desk who).processors.get? id = some processor →
    ∃ made ∈ saves, desks.key made = (desks.desk who).settings.sessionKey id ∧
      made.2.Gives (desks.desk who).make processor

/-- Fresh desks account for everything before anything is saved. -/
theorem accounted_fresh {desks : Desks ι} (fresh : ∀ who, (desks.desk who).Fresh) :
    Accounted [] desks := by
  refine ⟨fun who => (fresh who).writes, fun who => (fresh who).reads, by simp, ?_, ?_⟩
  · intro who key found lookup
    rw [(fresh who).store] at lookup
    cases lookup
  · intro who id processor lookup
    rw [(fresh who).processors] at lookup
    cases lookup

/-- A processor that can be made is that of a form saved under the key of its identifier. -/
theorem Accounted.loaded {saves : List (ι × Save)} {desks : Desks ι}
    (accounted : Accounted saves desks) {who : ι} {id : String} {processor : Processor}
    (loads : (desks.desk who).loadProcessor id = .ok processor) :
    ∃ made ∈ saves, desks.key made = (desks.desk who).settings.sessionKey id ∧
      made.2.Gives (desks.desk who).make processor := by
  have reads := accounted.reads who
  cases found : (desks.desk who).store.get? (desks.desk who).now
      ((desks.desk who).settings.sessionKey id) with
  | none =>
    rw [Desk.loadProcessor_absent reads found] at loads
    cases loads
  | some value =>
    obtain ⟨kept, lookup, rfl⟩ := Option.map_eq_some_iff.mp found
    obtain ⟨made, member, under, same⟩ :=
      accounted.stored who _ kept (Option.filter_eq_some_iff.mp lookup).1
    rw [same] at found
    exact ⟨made, member, under.symm, (Desk.loadProcessor_ok_iff reads found).mp loads⟩

/-- Every processor that a desk gives is that of a form saved under the key of the identifier that
was asked for or posted. -/
theorem Accounted.given {saves : List (ι × Save)} {desks : Desks ι}
    (accounted : Accounted saves desks) {who : ι} {asked : Option String} {processor : Processor}
    (gives : ((Desk.processor asked).run (desks.desk who)).1 = .ok processor) :
    ∃ id, asked.or (desks.desk who).submission.formId? = some id ∧
      ∃ made ∈ saves, desks.key made = (desks.desk who).settings.sessionKey id ∧
        made.2.Gives (desks.desk who).make processor := by
  have named (id : String)
      (gives : ((Desk.processor (some id)).run (desks.desk who)).1 = .ok processor) :
      ∃ made ∈ saves, desks.key made = (desks.desk who).settings.sessionKey id ∧
        made.2.Gives (desks.desk who).make processor := by
    rw [Desk.processor_run] at gives
    split at gives
    · rename_i before there
      obtain rfl := Except.ok.inj gives
      exact accounted.cached who id before there
    · split at gives
      · rename_i made loads
        obtain rfl := Except.ok.inj gives
        exact accounted.loaded loads
      · cases gives
  cases asked with
  | some id => exact ⟨id, rfl, named id gives⟩
  | none =>
    rw [Desk.processor_none_run] at gives
    rw [Option.none_or]
    split at gives
    · rename_i id posted
      exact ⟨id, posted, named id gives⟩
    · cases gives

/-- A form that is still held is given to every desk that asks for its key under an identifier
without a processor. -/
theorem Accounted.found {saves : List (ι × Save)} {desks : Desks ι}
    (accounted : Accounted saves desks) (made : ι × Save) (held : (desks.desk made.1).Holds made.2)
    {who : ι} {id : String} (under : desks.key made = (desks.desk who).settings.sessionKey id)
    (missing : (desks.desk who).processors.get? id = none) {processor : Processor} :
    (desks.desk who).answer id = .ok processor ↔ made.2.Gives (desks.desk who).make processor := by
  have found : (desks.desk who).store.get? (desks.desk who).now
      ((desks.desk who).settings.sessionKey id) = some made.2.value := by
    rw [desks.oneStore who made.1, desks.oneClock who made.1, ← under]
    exact held
  rw [Desk.answer_uncached missing, Desk.loadProcessor_ok_iff (accounted.reads who) found]

/-- A save of an extended namespace is kept under a key of the namespace that it extends. -/
theorem key_of_extended {desks : Desks ι} {asker : ι} {made : ι × Save} {rest : String}
    (extended : (desks.desk asker).settings.ExtendedBy (desks.desk made.1).settings rest) :
    desks.key made = (desks.desk asker).settings.sessionKey (rest ++ "." ++ made.2.id) := by
  rw [key, Settings.sessionKey, Settings.sessionKey, extended]
  simp only [String.append_assoc]

variable [DecidableEq ι]

/-- The desks after an event at one of them: the others see what became of the store. -/
def perform (desks : Desks ι) (who : ι) (event : Desk.Event) : Desks ι where
  desk other :=
    (if other = who then (desks.desk who).perform event else desks.desk other).sharing
      ((desks.desk who).perform event)
  oneStore _ _ := rfl
  oneClock _ _ := rfl

/-- The desks after events one after another, each at one of them. -/
def run (desks : Desks ι) (events : List (ι × Desk.Event)) : Desks ι :=
  events.foldl (fun desks (who, event) => desks.perform who event) desks

/-- The saves of a run in order, each with the desk that made it. -/
def saves (desks : Desks ι) : List (ι × Desk.Event) → List (ι × Save)
  | [] => []
  | (who, event) :: rest =>
    (((desks.desk who).save? event).map (who, ·)).toList ++ (desks.perform who event).saves rest

/-- The event happens at its desk. -/
theorem desk_perform_self (desks : Desks ι) (who : ι) (event : Desk.Event) :
    (desks.perform who event).desk who = (desks.desk who).perform event := by
  change (if who = who then _ else _ : Desk).sharing _ = _
  rw [if_pos rfl]
  rfl

/-- Other desks see another store, and what time it is. -/
theorem desk_perform_other (desks : Desks ι) {who other : ι} (apart : other ≠ who)
    (event : Desk.Event) :
    (desks.perform who event).desk other =
      (desks.desk other).sharing ((desks.desk who).perform event) := by
  change (if other = who then _ else _ : Desk).sharing _ = _
  rw [if_neg apart]

/-- What an event leaves at its desk, and what desks do not share, is left at every desk. -/
theorem part_perform {α : Type} {desks : Desks ι} {who : ι} {event : Desk.Event} (part : Desk → α)
    (own : ∀ desk other, part (desk.sharing other) = part desk)
    (left : part ((desks.desk who).perform event) = part (desks.desk who)) (other : ι) :
    part ((desks.perform who event).desk other) = part (desks.desk other) := by
  by_cases same : other = who
  · subst same
    rw [desk_perform_self, left]
  · rw [desk_perform_other desks same, own]

/-- An event keeps everything accounted for, with the save that it makes.

Proof: the desk of the event leaves what it should, and the others only see another store. -/
theorem Accounted.perform {saves : List (ι × Save)} {desks : Desks ι}
    (accounted : Accounted saves desks) (who : ι) (event : Desk.Event) :
    Accounted (saves ++ (((desks.desk who).save? event).map (who, ·)).toList)
      (desks.perform who event) := by
  have leaves := (Desk.perform_turns (accounted.writes who) event).leaves
  have settings := part_perform (·.settings) (fun _ _ => rfl) leaves.settings
  have identifiers := part_perform (·.identifiers) (fun _ _ => rfl) leaves.identifiers
  have makes := part_perform (·.make) (fun _ _ => rfl) leaves.makes
  have writes := part_perform (·.writeFault) (fun _ _ => rfl) leaves.writes
  have reads := part_perform (·.readFault) (fun _ _ => rfl) leaves.reads
  have keys (made : ι × Save) : (desks.perform who event).key made = desks.key made := by
    rw [key, settings, key]
  have widen {P : ι × Save → Prop} (known : ∃ made ∈ saves, P made) :
      ∃ made ∈ saves ++ (((desks.desk who).save? event).map (who, ·)).toList, P made := by
    obtain ⟨made, member, holds⟩ := known
    exact ⟨made, List.mem_append_left _ member, holds⟩
  have added {made : ι × Save}
      (member : made ∈ (((desks.desk who).save? event).map (who, ·)).toList) :
      ∃ save ∈ (desks.desk who).save? event, made = (who, save) := by
    obtain ⟨save, there, rfl⟩ := Option.map_eq_some_iff.mp (Option.mem_toList.mp member)
    exact ⟨save, there, rfl⟩
  constructor
  · intro other
    rw [writes, accounted.writes]
  · intro other
    rw [reads, accounted.reads]
  · intro made member
    rw [identifiers]
    rcases List.mem_append.mp member with before | last
    · exact accounted.numbered made before
    · obtain ⟨save, there, rfl⟩ := added last
      exact ⟨_, leaves.saved save there⟩
  · intro other name found lookup
    rcases leaves.stored name found lookup with ⟨save, there, under, same⟩ | ⟨earlier, there, same⟩
    · refine ⟨(who, save), ?_, ?_, same⟩
      · exact List.mem_append_right _ (by simp [Option.mem_def.mp there])
      · rw [keys]
        exact under
    · obtain ⟨made, member, under, value⟩ := accounted.stored who name earlier there
      exact widen ⟨made, member, by rw [keys, under], same.trans value⟩
  · intro other id processor lookup
    rw [settings, makes]
    simp only [keys]
    apply widen
    by_cases same : other = who
    · subst same
      rw [desk_perform_self] at lookup
      rcases leaves.processors id processor lookup with before | loads
      · exact accounted.cached other id processor before
      · exact accounted.loaded loads
    · rw [desk_perform_other desks same] at lookup
      exact accounted.cached other id processor lookup

/-- So does a whole run, with all saves that are made in it. -/
theorem Accounted.run {saves : List (ι × Save)} {desks : Desks ι}
    (accounted : Accounted saves desks) (events : List (ι × Desk.Event)) :
    Accounted (saves ++ desks.saves events) (desks.run events) := by
  induction events generalizing saves desks with
  | nil =>
    rw [Desks.saves, List.append_nil]
    exact accounted
  | cons event rest inductionHypothesis =>
    rw [Desks.saves, ← List.append_assoc]
    exact inductionHypothesis (accounted.perform event.1 event.2)

/-- A run changes no settings, no identifiers and no way to make widgets. -/
theorem run_parts {saves : List (ι × Save)} {desks : Desks ι} (accounted : Accounted saves desks)
    (events : List (ι × Desk.Event)) (who : ι) :
    ((desks.run events).desk who).settings = (desks.desk who).settings ∧
      ((desks.run events).desk who).identifiers = (desks.desk who).identifiers ∧
      ((desks.run events).desk who).make = (desks.desk who).make := by
  induction events generalizing saves desks with
  | nil => exact ⟨rfl, rfl, rfl⟩
  | cons event rest inductionHypothesis =>
    have leaves := (Desk.perform_turns (accounted.writes event.1) event.2).leaves
    obtain ⟨settings, identifiers, makes⟩ :=
      inductionHypothesis (accounted.perform event.1 event.2)
    exact ⟨settings.trans (part_perform (·.settings) (fun _ _ => rfl) leaves.settings who),
      identifiers.trans (part_perform (·.identifiers) (fun _ _ => rfl) leaves.identifiers who),
      makes.trans (part_perform (·.make) (fun _ _ => rfl) leaves.makes who)⟩

/-! ## Isolation -/

/-- The processor that a desk gives is that of a form which a desk other than the given one saved,
and nothing that the given one saved is kept under the key that is asked for. -/
def Isolated (start : Desks ι) (events : List (ι × Desk.Event)) (asker other : ι) : Prop :=
  ∀ asked processor,
    ((Desk.processor asked).run ((start.run events).desk asker)).1 = .ok processor →
      ∃ id, asked.or ((start.run events).desk asker).submission.formId? = some id ∧
        (∃ made ∈ start.saves events, made.1 ≠ other ∧
          start.key made = (start.desk asker).settings.sessionKey id ∧
          made.2.Gives (start.desk asker).make processor) ∧
        ∀ made ∈ start.saves events, made.1 = other →
          start.key made ≠ (start.desk asker).settings.sessionKey id

/-- How far a desk is from what another one of another namespace saves in a run. -/
structure Separation (start : Desks ι) (events : List (ι × Desk.Event)) (asker other : ι) :
    Prop where
  /-- It is isolated unless the other namespace extends its own. -/
  isolated : (∀ rest, ¬ (start.desk asker).settings.ExtendedBy (start.desk other).settings rest) →
    start.Isolated events asker other
  /-- If it does, the identifiers that lead to what the other saved are those of the saves behind
  the rest of the namespace and a point. -/
  behind : ∀ rest, (start.desk asker).settings.ExtendedBy (start.desk other).settings rest →
    ∀ made ∈ start.saves events, made.1 = other → ∀ id,
      start.key made = (start.desk asker).settings.sessionKey id ↔ id = rest ++ "." ++ made.2.id
  /-- What the other still holds is then given there, as the saved form is built again. -/
  entered : ∀ rest, (start.desk asker).settings.ExtendedBy (start.desk other).settings rest →
    ∀ made ∈ start.saves events, made.1 = other → ((start.run events).desk other).Holds made.2 →
      ((start.run events).desk asker).processors.get? (rest ++ "." ++ made.2.id) = none →
        ∀ processor,
          ((start.run events).desk asker).answer (rest ++ "." ++ made.2.id) = .ok processor ↔
            made.2.Gives (start.desk asker).make processor

/-- Saves are kept under identifiers without points, if the desks take theirs from digests. -/
theorem saves_pointless {start : Desks ι} (initial : Accounted [] start)
    (digests : ∀ who number, ∃ random nonce nanoseconds,
      (start.desk who).identifiers number = formIdentifier random nonce nanoseconds)
    (events : List (ι × Desk.Event)) : ∀ made ∈ start.saves events, '.' ∉ made.2.id.toList := by
  intro made member
  obtain ⟨number, named⟩ := (initial.run events).numbered made member
  obtain ⟨random, nonce, nanoseconds, digest⟩ := digests made.1 number
  rw [named, (run_parts initial events made.1).2.1, digest]
  exact formIdentifier_pointless random nonce nanoseconds

/-- Desks of different namespaces are separated in every run from fresh desks.

Proof: whatever is given or found was saved under the key that is asked for, by induction on the
events. Identifiers of saves hold no point, so the key belongs to both namespaces only if one extends
the other. -/
theorem separated (start : Desks ι) (fresh : ∀ who, (start.desk who).Fresh)
    (digests : ∀ who number, ∃ random nonce nanoseconds,
      (start.desk who).identifiers number = formIdentifier random nonce nanoseconds)
    (events : List (ι × Desk.Event)) {asker other : ι}
    (apart : (start.desk asker).settings.sessionNamespace ≠
      (start.desk other).settings.sessionNamespace) :
    start.Separation events asker other := by
  have initial : Accounted [] start := accounted_fresh fresh
  have accounted : Accounted (start.saves events) (start.run events) := initial.run events
  have settings (who : ι) : ((start.run events).desk who).settings = (start.desk who).settings :=
    (run_parts initial events who).1
  have keys (made : ι × Save) : (start.run events).key made = start.key made := by
    rw [key, settings, key]
  constructor
  · intro never asked processor gives
    have away : ∀ made ∈ start.saves events, made.1 = other → ∀ id,
        start.key made ≠ (start.desk asker).settings.sessionKey id := by
      rintro made member rfl id same
      have pointless := saves_pointless initial digests events made member
      rcases (Settings.sessionKey_eq_iff pointless).mp same.symm with ⟨one, -⟩ | ⟨rest, extended, -⟩
      · exact apart one
      · exact never rest extended
    obtain ⟨id, named, made, member, under, gives⟩ := accounted.given gives
    rw [keys, settings] at under
    rw [(run_parts initial events asker).2.2] at gives
    refine ⟨id, named, ⟨made, member, ?_, under, gives⟩, ?_⟩
    · intro foreign
      exact away made member foreign id under
    · intro made member foreign
      exact away made member foreign id
  · rintro rest extended made - rfl id
    constructor
    · intro same
      exact Desk.sessionKey_inj (same.symm.trans (key_of_extended extended))
    · rintro rfl
      exact key_of_extended extended
  · rintro rest extended made - rfl held missing processor
    have under := key_of_extended extended
    rw [← keys, ← settings asker] at under
    rw [accounted.found made held under missing, (run_parts initial events asker).2.2]

/-- A desk for orders in a namespace. -/
def branch (sessionNamespace : String) : Desk where
  settings := { sessionNamespace }
  connections :=
    { defaultName := "appDB"
      byName := .ofList [("appDB", { vendor := "sqlite", answer := fun _ _ => .ok [] })] }
  templates := .inMemory (.ofList [("default", "\x7bform\x7d\x7bfields\x7d\x7b/form\x7d")])
  issuer number := ⟨"c" ++ Decimal.natText number, "t"⟩
  identifiers number := formIdentifier [] number 0

/-- Two desks for orders, the second one in the right namespace. -/
def branches (left right : String) : Desks Bool where
  desk second := branch (if second then right else left)
  oneStore _ _ := rfl
  oneClock _ _ := rfl

/-- Desks for orders where the namespace of the second one extends that of the first. -/
def nestedBranches : Desks Bool := branches "forms" "forms.admin"

/-- Registers a form for orders. -/
def registersOrders : Desk.Event := .create "orders" (some { table := some "orders" })

/-- The second desk saves a form. -/
def secondSaves : List (Bool × Desk.Event) :=
  [(true, registersOrders), (true, .save "orders" .update)]

/-- Desks for forms and for administration are separated, and so are desks where one namespace
extends the other. -/
theorem branches_separated :
    (∀ right who, ((branches "forms" right).desk who).Fresh) ∧
    ((branches "forms" "admin").saves secondSaves).map (·.1) = [true] ∧
    (branches "forms" "admin").Separation secondSaves false true ∧
    nestedBranches.Separation secondSaves false true :=
  ⟨fun _ _ => ⟨rfl, rfl, rfl, rfl, rfl⟩, by decide +kernel,
    separated (branches "forms" "admin") (fun _ => ⟨rfl, rfl, rfl, rfl, rfl⟩)
      (fun _ number => ⟨[], number, 0, rfl⟩) secondSaves (by decide),
    separated nestedBranches (fun _ => ⟨rfl, rfl, rfl, rfl, rfl⟩)
      (fun _ number => ⟨[], number, 0, rfl⟩) secondSaves (by decide)⟩

/-- Different namespaces alone do not isolate: a desk for forms gives the processor of a form that
only a desk of an extended namespace saved. -/
theorem extended_namespace_not_isolated :
    (nestedBranches.desk false).settings.sessionNamespace ≠
      (nestedBranches.desk true).settings.sessionNamespace ∧
    ¬ nestedBranches.Isolated secondSaves false true := by
  have initial : Accounted [] nestedBranches :=
    accounted_fresh fun _ => ⟨rfl, rfl, rfl, rfl, rfl⟩
  have accounted := initial.run secondSaves
  have ran : nestedBranches.run secondSaves =
      (nestedBranches.perform true registersOrders).perform true (.save "orders" .update) := rfl
  have linked : ((((nestedBranches.desk true).perform registersOrders).save?
      (.save "orders" .update)).map fun save =>
        ((save.form.snapshot.restore fun field => { field }).toOption.bind (·.binding)).isSome) =
          some true := by
    decide +kernel
  obtain ⟨save, saved, builds⟩ := Option.map_eq_some_iff.mp linked
  obtain ⟨binding, there⟩ := Option.isSome_iff_exists.mp builds
  obtain ⟨form, built, bound⟩ := Option.bind_eq_some_iff.mp there
  have saves : nestedBranches.saves secondSaves = [(true, save)] := by
    rw [secondSaves, Desks.saves, Desks.saves, Desks.saves, desk_perform_self, saved]
    rfl
  have held : ((nestedBranches.run secondSaves).desk true).Holds save := by
    have passes := Desk.save_passes "orders" .update
      (show ((nestedBranches.desk true).perform registersOrders).writeFault = none from rfl)
    rw [saved] at passes
    rw [ran, desk_perform_self, desk_perform_self]
    exact passes.holds (by decide)
  have extended : ((nestedBranches.run secondSaves).desk false).settings.ExtendedBy
      ((nestedBranches.run secondSaves).desk true).settings "admin" := by
    rw [(run_parts initial secondSaves true).1, (run_parts initial secondSaves false).1,
      Settings.ExtendedBy]
    decide
  have missing : ((nestedBranches.run secondSaves).desk false).processors.get?
      ("admin" ++ "." ++ save.id) = none := by
    rw [ran, desk_perform_other _ Bool.false_ne_true, desk_perform_other _ Bool.false_ne_true]
    rfl
  have gives : save.Gives ((nestedBranches.run secondSaves).desk false).make
      (.ofForm form binding save.kind) := by
    rw [(run_parts initial secondSaves false).2.2]
    exact ⟨form, binding, ok_of_toOption built, bound, rfl⟩
  have answer := (accounted.found (true, save) held (key_of_extended extended) missing).mpr gives
  refine ⟨by decide, fun isolated => ?_⟩
  obtain ⟨_, -, ⟨made, only, first, -⟩, -⟩ := isolated (some ("admin" ++ "." ++ save.id)) _ answer
  rw [saves, List.mem_singleton] at only
  exact first (congrArg Prod.fst only)

end Desks

end Formwork
