import Formwork.Proofs.DeskRuns

/-!
# The life of a processor

A processor comes from a save that still holds, or was made before. It says what
the form said when it was saved, and once it is made it stays, whatever happens to
the store and to the registered forms. An identifier whose value is gone cannot
be told from one that was never written.
-/

namespace Formwork

namespace Processor

/-- A field of a new name is put at the end. -/
theorem putField_new {field : Field} {fields : List Field}
    (fresh : ∀ other ∈ fields, other.name ≠ field.name) :
    putField field fields = fields ++ [field] := by
  induction fields with
  | nil => rfl
  | cons other rest inductionHypothesis =>
    have apart : other.name ≠ field.name := fresh other List.mem_cons_self
    rw [putField, if_neg apart,
      inductionHypothesis fun another member => fresh another (List.mem_cons_of_mem _ member)]
    rfl

/-- Adding fields changes nothing but the fields. -/
theorem foldl_addField (fields : List Field) (processor : Processor) :
    fields.foldl addField processor =
      { processor with fields := fields.foldl (fun known field => putField field known) processor.fields } := by
  induction fields generalizing processor with
  | nil => rfl
  | cons field rest inductionHypothesis => exact inductionHypothesis (processor.addField field)

/-- Fields of pairwise distinct names are all put at the end, in order. -/
theorem foldl_putField (fields known : List Field)
    (distinct : ((known ++ fields).map (·.name)).Nodup) :
    fields.foldl (fun known field => putField field known) known = known ++ fields := by
  induction fields generalizing known with
  | nil => simp
  | cons field rest inductionHypothesis =>
    have fresh : ∀ other ∈ known, other.name ≠ field.name := by
      intro other member same
      rw [List.map_append, List.nodup_append] at distinct
      exact distinct.2.2 _ (List.mem_map_of_mem member) _ (by simp) same
    have moved : known ++ field :: rest = (known ++ [field]) ++ rest := by simp
    rw [List.foldl_cons, putField_new fresh, inductionHypothesis _ (moved ▸ distinct), moved]

/-- The processor says what the form said when it was saved. -/
structure Serves (processor : Processor) (save : Save) (binding : Binding) : Prop where
  /-- It is that of the table. -/
  table : processor.table = binding.table
  /-- It has the name of the connection. -/
  connection : processor.connection = binding.connection
  /-- It is for what the form was saved for. -/
  kind : processor.kind = save.kind
  /-- It has the noted rows. -/
  rowKeys : processor.rowKeys = save.form.rowKeys
  /-- It has the fields in order, unless names were given twice. -/
  fields : save.form.catalog.names.Nodup → processor.fields = save.form.catalog.fields

/-- The processor of a form serves it. -/
theorem ofForm_serves (save : Save) (binding : Binding) :
    (ofForm save.form binding save.kind).Serves save binding := by
  unfold ofForm
  rw [foldl_addField]
  exact ⟨rfl, rfl, rfl, rfl, fun distinct => foldl_putField _ [] distinct⟩

end Processor

/-- Nothing is found exactly when the time of what is stored is over. -/
theorem SessionStore.get?_eq_none_iff (store : SessionStore) (now : Int) (key : String) :
    store.get? now key = none ↔
      ∀ found, store.byKey.get? key = some found → found.expiry ≤ now := by
  unfold get?
  rw [Option.map_eq_none_iff, Option.filter_eq_none_iff]
  simp [StoredValue.isExpired]

namespace Desk

/-! ## Processors stay -/

/-- What may save a form leaves the processors alone. -/
theorem Passes.processors {before after : Desk} {save? : Option Save}
    (passes : Passes before save? after) : after.processors = before.processors := by
  have kept {before after : Desk} (aside : Aside before after) :
      after.processors = before.processors := by
    rw [show after = _ from aside.quiet]
  cases passes with
  | aside aside => exact kept aside
  | @saving middle _ save earlier number addable later =>
    have first : middle.processors = before.processors := kept earlier
    exact (kept later).trans first

/-- A processor that was made stays when another one is asked for. -/
theorem processor_stays {desk : Desk} {id : String} {processor : Processor}
    (made : desk.processors.get? id = some processor) (asked : Option String) :
    ((Desk.processor asked).run desk).2.processors.get? id = some processor := by
  have stays (asked : String) :
      ((Desk.processor (some asked)).run desk).2.processors.get? id = some processor := by
    rw [processor_run]
    split
    · exact made
    · rename_i missing
      split
      · have apart : id ≠ asked := by
          rintro rfl
          rw [missing] at made
          cases made
        change (desk.processors.insert asked _).get? id = some processor
        rw [TextMap.get?_insert, if_neg apart]
        exact made
      · exact made
  cases asked with
  | some asked => exact stays asked
  | none =>
    rw [processor_none_run]
    split
    · exact stays _
    · exact made

/-- A processor that was made stays whatever happens. -/
theorem Turns.stays {before after : Desk} {save? : Option Save} {id : String}
    {processor : Processor} (turns : Turns before save? after)
    (made : before.processors.get? id = some processor) :
    after.processors.get? id = some processor := by
  cases turns with
  | passes passes =>
    rw [passes.processors]
    exact made
  | asked asked => exact processor_stays made asked
  | posted submission => exact made
  | shrunk store left => exact made
  | waited seconds => exact made

/-- A processor that was made stays through every run. -/
theorem run_stays {saves : List Save} {desk : Desk} (sound : Sound saves desk) {id : String}
    {processor : Processor} (made : desk.processors.get? id = some processor)
    (events : List Event) : (desk.run events).processors.get? id = some processor := by
  induction events generalizing saves desk with
  | nil => exact made
  | cons event rest inductionHypothesis =>
    exact inductionHypothesis (sound.perform event) ((perform_turns sound.writes event).stays made)

/-! ## Answers -/

/-- The answer to asking for the processor of an identifier. -/
def answer (desk : Desk) (id : String) : Except Failure Processor :=
  ((processor (some id)).run desk).1

/-- A processor that was made before is the answer. -/
theorem answer_cached {desk : Desk} {id : String} {processor : Processor}
    (made : desk.processors.get? id = some processor) : desk.answer id = .ok processor := by
  rw [answer, processor_run, made]

/-- Else the answer is what loading gives. -/
theorem answer_uncached {desk : Desk} {id : String} (missing : desk.processors.get? id = none) :
    desk.answer id = desk.loadProcessor id := by
  rw [answer, processor_run, missing]
  cases desk.loadProcessor id <;> rfl

/-- An answer is kept. -/
theorem answer_kept {desk : Desk} {id : String} {made : Processor}
    (answered : desk.answer id = .ok made) :
    (desk.perform (.processor (some id))).processors.get? id = some made := by
  change ((processor (some id)).run desk).2.processors.get? id = some made
  cases cached : desk.processors.get? id with
  | some processor =>
    rw [answer_cached cached] at answered
    rw [processor_run, cached, ← Except.ok.inj answered]
    exact cached
  | none =>
    rw [answer_uncached cached] at answered
    rw [processor_run, cached, answered]
    exact TextMap.get?_insert_self _ _ _

/-! ## What is over -/

/-- The store has nothing for an identifier: it was never written, or what was
written was removed, or its time is over. -/
def Lacks (desk : Desk) (id : String) : Prop :=
  desk.store.get? desk.now (desk.settings.sessionKey id) = none

instance (desk : Desk) (id : String) : Decidable (desk.Lacks id) :=
  inferInstanceAs (Decidable (_ = none))

/-- What is stored for an identifier lasts until a moment at most, unless it is
over already. -/
def LastsUntil (desk : Desk) (id : String) (moment : Int) : Prop :=
  ∀ found, desk.store.byKey.get? (desk.settings.sessionKey id) = some found →
    found.expiry ≤ max moment desk.now

/-- Where nothing is found, every moment is such a bound. -/
theorem Lacks.lastsUntil {desk : Desk} {id : String} (lacks : desk.Lacks id) (moment : Int) :
    desk.LastsUntil id moment := by
  intro found lookup
  have past : found.expiry ≤ desk.now :=
    (SessionStore.get?_eq_none_iff _ _ _).mp lacks found lookup
  omega

/-- Nothing is found once the moment has come. -/
theorem LastsUntil.lacks {desk : Desk} {id : String} {moment : Int}
    (lasts : desk.LastsUntil id moment) (past : moment ≤ desk.now) : desk.Lacks id := by
  refine (SessionStore.get?_eq_none_iff _ _ _).mpr fun found lookup => ?_
  have sooner := lasts found lookup
  omega

/-- Nothing is stored for longer than forms are kept. -/
theorem Sound.lastsUntil {saves : List Save} {desk : Desk} (sound : Sound saves desk)
    (id : String) : desk.LastsUntil id (desk.now + desk.settings.formTimeout) := by
  intro found lookup
  obtain ⟨save, -, -, -, kept⟩ := sound.stored _ found lookup
  omega

/-- What is done aside makes nothing last longer. -/
theorem LastsUntil.aside {before after : Desk} {id : String} {moment : Int}
    (lasts : before.LastsUntil id moment) (aside : Aside before after) :
    after.LastsUntil id moment := by
  rw [show after = _ from aside.quiet]
  exact lasts

/-- Nor does a form that is saved under another identifier. -/
theorem LastsUntil.passes {before after : Desk} {id : String} {moment : Int}
    {save? : Option Save} (lasts : before.LastsUntil id moment)
    (passes : Passes before save? after) (others : ∀ save ∈ save?.toList, save.id ≠ id) :
    after.LastsUntil id moment := by
  cases passes with
  | aside aside => exact lasts.aside aside
  | @saving middle _ save earlier number addable later =>
    have there : middle.LastsUntil id moment := lasts.aside earlier
    have stored : (middle.stored save).LastsUntil id moment := by
      intro found lookup
      rcases SessionStore.of_byKey_insert lookup with ⟨same, -⟩ | before
      · exact absurd (sessionKey_inj same).symm (others save (by simp))
      · exact there found before
    exact stored.aside later

/-- Nothing does but a save under the identifier. -/
theorem LastsUntil.turns {before after : Desk} {id : String} {moment : Int}
    {save? : Option Save} (lasts : before.LastsUntil id moment)
    (turns : Turns before save? after) (others : ∀ save ∈ save?.toList, save.id ≠ id) :
    after.LastsUntil id moment := by
  cases turns with
  | passes passes => exact lasts.passes passes others
  | asked asked =>
    rw [processor_frame]
    exact lasts
  | posted submission => exact lasts
  | shrunk store left =>
    intro found lookup
    obtain ⟨earlier, there, -, sooner⟩ := left _ found lookup
    have bound := lasts earlier there
    dsimp only
    omega
  | waited seconds =>
    intro found lookup
    have bound := lasts found lookup
    dsimp only
    omega

/-- So the bound holds through every run without such a save. -/
theorem LastsUntil.run {saves : List Save} {desk : Desk} {id : String} {moment : Int}
    (lasts : desk.LastsUntil id moment) (sound : Sound saves desk) (events : List Event)
    (others : ∀ save ∈ desk.saves events, save.id ≠ id) :
    (desk.run events).LastsUntil id moment := by
  induction events generalizing saves desk with
  | nil => exact lasts
  | cons event rest inductionHypothesis =>
    rw [Desk.saves] at others
    have now := lasts.turns (perform_turns sound.writes event) fun save member =>
      others save (List.mem_append_left _ member)
    exact inductionHypothesis now (sound.perform event) fun save member =>
      others save (List.mem_append_right _ member)

/-- What was written for an identifier is lost by events: it is removed, its time
is made to be over, or all the events together take as long as forms are kept. -/
inductive Loses (desk : Desk) (id : String) : List Event → Prop where
  /-- The value is removed. -/
  | removed : Loses desk id [.remove (desk.settings.sessionKey id)]
  /-- The value expires. -/
  | expired : Loses desk id [.expire (desk.settings.sessionKey id)]
  /-- The value grows old, and nothing is saved in its place. -/
  | aged {events : List Event} (others : ∀ save ∈ desk.saves events, save.id ≠ id)
    (long : desk.now + desk.settings.formTimeout ≤ (desk.run events).now) : Loses desk id events

/-- The store has nothing for the identifier then. -/
theorem Loses.lacks {saves : List Save} {desk : Desk} (sound : Sound saves desk) {id : String}
    {events : List Event} (loses : desk.Loses id events) : (desk.run events).Lacks id := by
  cases loses with
  | removed =>
    refine (SessionStore.get?_eq_none_iff _ _ _).mpr fun found lookup => ?_
    change (desk.store.byKey.erase (desk.settings.sessionKey id)).get?
      (desk.settings.sessionKey id) = some found at lookup
    rw [TextMap.get?_erase, if_pos rfl] at lookup
    cases lookup
  | expired =>
    refine (SessionStore.get?_eq_none_iff _ _ _).mpr fun found lookup => ?_
    change (desk.store.byKey.modify (desk.settings.sessionKey id) _).get?
      (desk.settings.sessionKey id) = some found at lookup
    rw [TextMap.get?_modify, if_pos rfl] at lookup
    obtain ⟨before, -, rfl⟩ := Option.map_eq_some_iff.mp lookup
    change desk.now - 1 ≤ desk.now
    omega
  | aged others long => exact ((sound.lastsUntil id).run sound events others).lacks long

/-! ## Invalid identifiers -/

/-- No processor was made for an identifier, and the store has nothing for it. -/
structure Gone (desk : Desk) (id : String) : Prop where
  /-- No processor was made. -/
  missing : desk.processors.get? id = none
  /-- Nothing is stored. -/
  lacks : desk.Lacks id

/-- An identifier is invalid exactly when it is gone. What the store still has is
that of a save, which gives a processor or is refused for its missing table. -/
theorem Sound.invalid_iff {saves : List Save} {desk : Desk} (sound : Sound saves desk)
    (id : String) : desk.answer id = .error (.invalidId id) ↔ desk.Gone id := by
  constructor
  · intro refused
    cases cached : desk.processors.get? id with
    | some made =>
      rw [answer_cached cached] at refused
      cases refused
    | none =>
      refine ⟨cached, ?_⟩
      cases found : desk.store.get? desk.now (desk.settings.sessionKey id) with
      | none => exact found
      | some value =>
        obtain ⟨save, member, rfl, rfl⟩ := sound.live found
        rw [answer_uncached cached,
          loadProcessor_save sound.makes sound.reads (sound.saved save member) found] at refused
        split at refused <;> cases refused
  · intro gone
    rw [answer_uncached gone.missing, loadProcessor_absent sound.reads gone.lacks]

/-- For what is gone no processor is made, whichever is asked for. -/
theorem Gone.missing_processor {desk : Desk} {id : String} (gone : desk.Gone id)
    (reads : desk.readFault = none) (asked : Option String) :
    ((Desk.processor asked).run desk).2.processors.get? id = none := by
  have stays (asked : String) :
      ((Desk.processor (some asked)).run desk).2.processors.get? id = none := by
    rw [processor_run]
    split
    · exact gone.missing
    · split
      · rename_i made
        have apart : id ≠ asked := by
          rintro rfl
          rw [loadProcessor_absent reads gone.lacks] at made
          cases made
        change (desk.processors.insert asked _).get? id = none
        rw [TextMap.get?_insert, if_neg apart]
        exact gone.missing
      · exact gone.missing
  cases asked with
  | some asked => exact stays asked
  | none =>
    rw [processor_none_run]
    split
    · exact stays _
    · exact gone.missing

/-- What is gone stays gone until a form is saved under its identifier. -/
theorem Gone.turns {before after : Desk} {id : String} {save? : Option Save} (gone : before.Gone id)
    (reads : before.readFault = none) (turns : Turns before save? after)
    (others : ∀ save ∈ save?.toList, save.id ≠ id) : after.Gone id := by
  refine ⟨?_, ((gone.lacks.lastsUntil after.now).turns turns others).lacks (Int.le_refl _)⟩
  cases turns with
  | passes passes =>
    rw [passes.processors]
    exact gone.missing
  | asked asked => exact gone.missing_processor reads asked
  | posted submission => exact gone.missing
  | shrunk store left => exact gone.missing
  | waited seconds => exact gone.missing

/-- It does so through whole runs. -/
theorem Gone.run {saves : List Save} {desk : Desk} {id : String} (gone : desk.Gone id)
    (sound : Sound saves desk) (events : List Event)
    (others : ∀ save ∈ desk.saves events, save.id ≠ id) : (desk.run events).Gone id := by
  induction events generalizing saves desk with
  | nil => exact gone
  | cons event rest inductionHypothesis =>
    rw [Desk.saves] at others
    have now := gone.turns sound.reads (perform_turns sound.writes event) fun save member =>
      others save (List.mem_append_left _ member)
    exact inductionHypothesis now (sound.perform event) fun save member =>
      others save (List.mem_append_right _ member)

/-! ## The whole life -/

/-- A processor is given exactly when one was made before or a form with a table
that was saved under the identifier is still held. -/
theorem Sound.answers_iff {saves : List Save} {desk : Desk} (sound : Sound saves desk) (id : String) :
    (∃ processor, desk.answer id = .ok processor) ↔
      (∃ processor, desk.processors.get? id = some processor) ∨
        ∃ save ∈ saves, save.id = id ∧ save.form.binding.isSome ∧ desk.Holds save := by
  constructor
  · rintro ⟨processor, answered⟩
    cases cached : desk.processors.get? id with
    | some made => exact .inl ⟨made, rfl⟩
    | none =>
      rw [answer_uncached cached] at answered
      obtain ⟨save, member, named, held, binding, bound, -⟩ := sound.loaded answered
      exact .inr ⟨save, member, named, by rw [bound]; rfl, held⟩
  · rintro (⟨made, cached⟩ | ⟨save, member, rfl, bound, held⟩)
    · exact ⟨made, answer_cached cached⟩
    · cases cached : desk.processors.get? save.id with
      | some made => exact ⟨made, answer_cached cached⟩
      | none =>
        obtain ⟨binding, is⟩ := Option.isSome_iff_exists.mp bound
        refine ⟨.ofForm save.form binding save.kind, ?_⟩
        rw [answer_uncached cached,
          loadProcessor_save sound.makes sound.reads (sound.saved save member) held, is]

/-- The processor that is given serves a save under its identifier, one that is
still held unless the processor was made before. -/
theorem Sound.answer_serves {saves : List Save} {desk : Desk} (sound : Sound saves desk)
    {id : String} {processor : Processor} (answered : desk.answer id = .ok processor) :
    ∃ save ∈ saves, save.id = id ∧ (desk.processors.get? id = none → desk.Holds save) ∧
      ∃ binding, save.form.binding = some binding ∧ processor.Serves save binding := by
  cases cached : desk.processors.get? id with
  | some made =>
    rw [answer_cached cached] at answered
    obtain rfl := Except.ok.inj answered
    obtain ⟨save, member, named, binding, bound, rfl⟩ := sound.cached id made cached
    exact ⟨save, member, named, nofun, binding, bound, Processor.ofForm_serves save binding⟩
  | none =>
    rw [answer_uncached cached] at answered
    obtain ⟨save, member, named, held, binding, bound, rfl⟩ := sound.loaded answered
    exact ⟨save, member, named, fun _ => held, binding, bound, Processor.ofForm_serves save binding⟩

/-- The life of the processor of an identifier in a run. -/
structure Lifecycle (start : Desk) (events : List Event) (id : String) : Prop where
  /-- A processor is given exactly when one was made before, or the store still
  holds a form with a table that was saved under the identifier in this run. -/
  given : (∃ processor, (start.run events).answer id = .ok processor) ↔
    (∃ processor, (start.run events).processors.get? id = some processor) ∨
      ∃ save ∈ start.saves events,
        save.id = id ∧ save.form.binding.isSome ∧ (start.run events).Holds save
  /-- It says what such a form said when it was saved. -/
  serves : ∀ processor, (start.run events).answer id = .ok processor →
    ∃ save ∈ start.saves events, save.id = id ∧
      ((start.run events).processors.get? id = none → (start.run events).Holds save) ∧
      ∃ binding, save.form.binding = some binding ∧ processor.Serves save binding
  /-- It is given again after everything that may follow. -/
  kept : ∀ processor, (start.run events).answer id = .ok processor → ∀ later,
    (((start.run events).perform (.processor (some id))).run later).answer id = .ok processor
  /-- An identifier that was never written is invalid. -/
  unwritten : (∀ save ∈ start.saves events, save.id ≠ id) →
    (start.run events).answer id = .error (.invalidId id)
  /-- An identifier is invalid exactly when no processor was made and the store has
  nothing for it, however that came about. -/
  invalid : (start.run events).answer id = .error (.invalidId id) ↔
    (start.run events).processors.get? id = none ∧ (start.run events).Lacks id
  /-- So it is once its value was removed or expired, or grew old over any number of
  events that saved nothing in its place, unless a processor was made in time. -/
  lost : ∀ losing, (start.run events).Loses id losing →
    ((start.run events).run losing).processors.get? id = none →
      ((start.run events).run losing).answer id = .error (.invalidId id)
  /-- An invalid identifier stays invalid until a form is saved under it. -/
  lasting : (start.run events).answer id = .error (.invalidId id) → ∀ later,
    (∀ save ∈ (start.run events).saves later, save.id ≠ id) →
      ((start.run events).run later).answer id = .error (.invalidId id)

/-- In every run from a fresh desk, processors live as `Lifecycle` says.

Proof: what is stored and what was made comes from a save, by induction on the
events; a saved form could be built again, so loading it can only fail where it
has no table. Without another save nothing comes to last longer, by a second
induction, so what is gone stays gone. -/
theorem processor_lifecycle (start : Desk) (fresh : start.Fresh)
    (makes : ∀ field, (start.make field).field = field) (events : List Event) (id : String) :
    Lifecycle start events id := by
  have initial : Sound [] start := fresh.sound makes
  have sound : Sound (start.saves events) (start.run events) := initial.run events
  constructor
  · exact sound.answers_iff id
  · intro processor answered
    exact sound.answer_serves answered
  · intro processor answered later
    exact answer_cached (run_stays (sound.perform _) (answer_kept answered) later)
  · intro never
    have gone : start.Gone id := by
      refine ⟨?_, (SessionStore.get?_eq_none_iff _ _ _).mpr fun found lookup => ?_⟩
      · rw [fresh.processors]
        rfl
      · rw [fresh.store] at lookup
        cases lookup
    exact (sound.invalid_iff id).mpr (gone.run initial events never)
  · exact (sound.invalid_iff id).trans ⟨fun gone => ⟨gone.missing, gone.lacks⟩,
      fun absent => ⟨absent.1, absent.2⟩⟩
  · intro losing loses missing
    have gone : ((start.run events).run losing).Gone id := ⟨missing, loses.lacks sound⟩
    exact ((sound.run losing).invalid_iff id).mpr gone
  · intro refused later others
    have gone := (sound.invalid_iff id).mp refused
    exact ((sound.run later).invalid_iff id).mpr (gone.run sound later others)

/-- A desk for orders that numbers what it saves and keeps it for five minutes. -/
def ordersDesk : Desk :=
  { settings := { formTimeout := 300 }
    connections :=
      { defaultName := "appDB"
        byName := .ofList [("appDB", { vendor := "sqlite", answer := fun _ _ => .ok [] })] }
    templates := .inMemory (.ofList [("default", "\x7bform\x7d\x7bfields\x7d\x7b/form\x7d")])
    issuer := fun number => ⟨"c" ++ Decimal.natText number, "t"⟩
    identifiers := fun number => "form" ++ Decimal.natText number }

/-- A form is displayed and loses its fields, and a second one is saved without a
table. Later the first one is displayed once more, and again time passes. -/
def ordersEvents : List Event :=
  [.create "Orders" (some { table := some "orders" }),
    .change "orders" (.add { field := { name := "id", primary := true } }),
    .display "orders" "insert" {}, .change "orders" .clear, .create "notes" none,
    .save "notes" .update, .wait 200, .display "orders" "insert" {}, .wait 200]

/-- All three are saved, the displayed ones with their fields and their buttons. In
the end the first one is invalid, for which either of the waits alone would have been
too short, and the last one is not. -/
theorem orders_lifecycle :
    ordersDesk.Fresh ∧ (∀ field, (ordersDesk.make field).field = field) ∧
    (ordersDesk.saves ordersEvents).map
      (fun save => (save.id, save.form.binding.isSome, save.form.catalog.names)) =
        [("form0", true, ["id", "submit"]), ("form1", false, []), ("form2", true, ["submit"])] ∧
    (ordersDesk.run ordersEvents).answer "form0" = .error (.invalidId "form0") ∧
    (ordersDesk.run ordersEvents).answer "form2" ≠ .error (.invalidId "form2") ∧
    Lifecycle ordersDesk ordersEvents "form1" := by
  have lifecycle := processor_lifecycle ordersDesk ⟨rfl, rfl, rfl, rfl, rfl⟩ (fun _ => rfl)
    ordersEvents
  have stored : (ordersDesk.run ordersEvents).processors.get? "form0" = none ∧
      (ordersDesk.run ordersEvents).Lacks "form0" ∧
      ¬ (ordersDesk.run ordersEvents).Lacks "form2" := by
    decide +kernel
  obtain ⟨missing, first, last⟩ := stored
  refine ⟨⟨rfl, rfl, rfl, rfl, rfl⟩, fun _ => rfl, by decide +kernel, ?_, fun refused => ?_,
    lifecycle "form1"⟩
  · exact (lifecycle "form0").invalid.mpr ⟨missing, first⟩
  · exact last ((lifecycle "form2").invalid.mp refused).2

end Desk

end Formwork
