import Formwork.Proofs.AskedOnce
import Formwork.Proofs.KeptLoops

/-!
# What a dropped section leaves behind

A form section is written in passes, and its loops over fields have written their hidden fields
by the time a row loop finds that there are no rows. The section is then replaced by a notice, but
what its loops over fields have counted as emitted is not taken back: the fields that count as
emitted are those from before and the hidden fields that are dropped with the section, and no
later tag for whole fields writes one of these again.
-/

namespace Formwork.Page

/-! ## Which fields come to count as emitted -/

/-- The fields stay, and those of the given names come to count as emitted, each once and behind
the others. -/
structure Emits (names : String → Prop) (before after : Page) : Prop where
  /-- The fields stay. -/
  fields : after.form.catalog.fields = before.form.catalog.fields
  /-- The named fields that did not count as emitted do so in the end. -/
  emitted : ∃ new, after.emitted = before.emitted ++ new ∧ new.Nodup ∧
    ∀ name, name ∈ new ↔ names name ∧ name ∉ before.emitted

namespace Emits

variable {names others : String → Prop} {before middle after : Page}

/-- Nothing comes to count where the fields and the emitted ones stay. -/
theorem of_same (fields : after.form.catalog.fields = before.form.catalog.fields)
    (emitted : after.emitted = before.emitted) (none : ∀ name, ¬ names name) :
    Emits names before after :=
  ⟨fields, [], by rw [emitted, List.append_nil], List.nodup_nil, fun name => by simp [none name]⟩

/-- What comes to count twice counts once. -/
theorem append (first : Emits names before middle) (second : Emits others middle after) :
    Emits (fun name => names name ∨ others name) before after := by
  obtain ⟨new, emitted, distinct, exactly⟩ := first.emitted
  obtain ⟨new', emitted', distinct', exactly'⟩ := second.emitted
  refine ⟨second.fields.trans first.fields, new ++ new', ?_, ?_, fun name => ?_⟩
  · rw [emitted', emitted, List.append_assoc]
  · refine List.nodup_append.mpr ⟨distinct, distinct', fun name member other member' same => ?_⟩
    refine ((exactly' other).mp member').2 ?_
    rw [emitted]
    exact List.mem_append_right _ (same ▸ member)
  · rw [List.mem_append, exactly, exactly', emitted, List.mem_append, exactly]
    by_cases counted : name ∈ before.emitted
    · simp [counted]
    · by_cases named : names name
      · simp [named, counted]
      · simp [named, counted]

/-- Names of fields that count already may be left out. -/
theorem congr (emits : Emits names before after)
    (same : ∀ name, name ∉ before.emitted → (names name ↔ others name)) :
    Emits others before after := by
  obtain ⟨new, emitted, distinct, exactly⟩ := emits.emitted
  refine ⟨emits.fields, new, emitted, distinct, fun name => (exactly name).trans ?_⟩
  constructor
  · rintro ⟨named, fresh⟩
    exact ⟨(same name fresh).mp named, fresh⟩
  · rintro ⟨named, fresh⟩
    exact ⟨(same name fresh).mpr named, fresh⟩

/-- A field of one of the names counts in the end. -/
theorem isEmitted (emits : Emits names before after) {name : String} (named : names name) :
    after.isEmitted name = true := by
  obtain ⟨new, emitted, -, exactly⟩ := emits.emitted
  rw [Page.isEmitted, List.contains_iff_mem, emitted, List.mem_append, exactly]
  by_cases counted : name ∈ before.emitted
  · exact .inl counted
  · exact .inr ⟨named, counted⟩

/-- Nothing changes exactly if all fields of the names count already. -/
theorem same_iff (emits : Emits names before after) :
    after.emitted = before.emitted ↔ ∀ name, names name → name ∈ before.emitted := by
  obtain ⟨new, emitted, -, exactly⟩ := emits.emitted
  rw [emitted, List.append_right_eq_self, List.eq_nil_iff_forall_not_mem]
  refine forall_congr' fun name => ?_
  rw [exactly, not_and, not_not]

end Emits

/-- The fields and those that count as emitted stay. -/
structure SameEmitted (before after : Page) : Prop where
  /-- The fields stay. -/
  fields : after.form.catalog.fields = before.form.catalog.fields
  /-- The same fields count as emitted. -/
  emitted : after.emitted = before.emitted

instance : IsPreorder Page SameEmitted where
  refl _ := ⟨rfl, rfl⟩
  trans _ _ _ left right :=
    ⟨right.fields.trans left.fields, right.emitted.trans left.emitted⟩

/-- Showing a field makes none count as emitted. -/
theorem across_sameEmitted (request : Request) : AcrossFields request SameEmitted where
  reports _ _ := ⟨rfl, rfl⟩
  presents name page := ⟨Catalog.map_modify _ page.form.catalog name _ fun _ => rfl, rfl⟩

/-- A whole field comes to count as emitted. -/
theorem writeWhole_emits (request : Request) (name : String) (page : Page) :
    Emits (· = name) page ((writeWhole request name).run page).2 := by
  have shown := (across_sameEmitted request).field "" name .empty none page
  unfold writeWhole
  rw [run_then, run_then]
  generalize (writeField request "" name .empty none).run page = outcome at shown ⊢
  obtain ⟨html, written⟩ := outcome
  change Emits _ page (written.marking name)
  have fields : (written.marking name).form.catalog.fields = page.form.catalog.fields := by
    rw [marking_form]
    exact shown.fields
  have emitted : written.emitted = page.emitted := shown.emitted
  by_cases counted : name ∈ page.emitted
  · refine ⟨fields, [], ?_, List.nodup_nil, fun other => ?_⟩
    · rw [marking, isEmitted, emitted, if_pos (List.contains_iff_mem.mpr counted), emitted,
        List.append_nil]
    · refine iff_of_false List.not_mem_nil ?_
      rintro ⟨rfl, fresh⟩
      exact fresh counted
  · refine ⟨fields, [name], ?_, List.nodup_singleton name, fun other => ?_⟩
    · rw [marking, isEmitted, emitted,
        if_neg (fun there => counted (List.contains_iff_mem.mp there))]
    · rw [List.mem_singleton]
      refine ⟨?_, And.left⟩
      rintro rfl
      exact ⟨rfl, counted⟩

/-- So do whole fields, one after another. -/
theorem writeWholes_emits (request : Request) (names : List String) (page : Page) :
    Emits (· ∈ names) page ((writeAll names (writeWhole request)).run page).2 := by
  induction names generalizing page with
  | nil => exact .of_same rfl rfl fun _ => List.not_mem_nil
  | cons name rest inductionHypothesis =>
    rw [writeAll_cons, run_then, run_then, run_return]
    exact ((writeWhole_emits request name page).append (inductionHypothesis _)).congr
      fun other _ => List.mem_cons.symm

/-! ## Loops over fields -/

/-- The name is that of a hidden field that a loop over fields with the attributes writes. -/
def HiddenIn (request : Request) (fields : List Field) (attributes : Attributes) (name : String) :
    Prop :=
  showsHidden attributes = true ∧ isListed attributes name = true ∧
    ∃ field ∈ fields, field.name = name ∧ field.isHidden = true ∧
      field.isShownIn request.kind = true

/-- The name is that of a hidden field that some loop over fields among nodes writes. -/
def HiddenAmong (request : Request) (fields : List Field) (nodes : List Node) (name : String) :
    Prop :=
  ∃ opening children closing, .section opening children closing ∈ nodes ∧
    HiddenIn request fields opening.attributes name

/-- A loop over fields writes the hidden fields that do not count as emitted. -/
theorem mem_loopHidden_iff {request : Request} {attributes : Attributes} {page : Page}
    {name : String} (fresh : name ∉ page.emitted) (shows : showsHidden attributes = true) :
    name ∈ loopHidden request attributes page ↔
      HiddenIn request page.form.catalog.fields attributes name := by
  have counted : page.isEmitted name = false := by
    rw [isEmitted, ← Bool.not_eq_true, List.contains_iff_mem]
    exact fresh
  unfold loopHidden HiddenIn
  simp only [List.mem_map, List.mem_filter, Bool.and_eq_true, Bool.not_eq_true']
  constructor
  · rintro ⟨field, ⟨member, ⟨⟨hidden, listed⟩, shown⟩, -⟩, rfl⟩
    exact ⟨shows, listed, field, member, rfl, hidden, shown⟩
  · rintro ⟨-, listed, field, member, rfl, hidden, shown⟩
    exact ⟨field, ⟨member, ⟨⟨hidden, listed⟩, shown⟩, counted⟩, rfl⟩

/-- They come to count as emitted, and no others. -/
theorem writeFieldsLoop_emits (request : Request) (attributes : Attributes) (body : String)
    (page : Page) :
    Emits (HiddenIn request page.form.catalog.fields attributes) page
      ((writeFieldsLoop request attributes body).run page).2 := by
  unfold writeFieldsLoop
  dsimp only
  split
  · rename_i shows
    exact (writeWholes_emits request (loopHidden request attributes page) page).congr
      fun name fresh => mem_loopHidden_iff fresh shows
  · rename_i silent
    exact .of_same rfl rfl fun name hidden => silent hidden.1

/-- Writes a node of a section, if it is a loop over fields. -/
def writeFieldsNode (request : Request) : Node → StateM Page String
  | .section opening children _ =>
    writeFieldsLoop request opening.attributes (Text.trim (Node.sources children))
  | .text content => return content
  | .tag mark => return mark.source

/-- The loops over fields of a section are written node by node. -/
theorem writeFieldsLoops_nodes (request : Request) (source : String) :
    writeFieldsLoops request source =
      writeAll (Node.parse ["fieldsLoop"] source) (writeFieldsNode request) := by
  unfold writeFieldsLoops
  congr 1
  funext node
  cases node with
  | text content => rfl
  | tag mark => rfl
  | «section» opening children closing => rfl

/-- The hidden fields of the loops over fields among nodes come to count as emitted. -/
theorem writeFieldsNodes_emits (request : Request) (nodes : List Node) (page : Page) :
    Emits (HiddenAmong request page.form.catalog.fields nodes) page
      ((writeAll nodes (writeFieldsNode request)).run page).2 := by
  induction nodes generalizing page with
  | nil => exact .of_same rfl rfl fun name ⟨_, _, _, member, _⟩ => List.not_mem_nil member
  | cons node rest inductionHypothesis =>
    rw [writeAll_cons, run_then, run_then, run_return]
    have behind := inductionHypothesis ((writeFieldsNode request node).run page).2
    cases node with
    | text content =>
      refine behind.congr fun name _ => exists₃_congr fun opening children closing => ?_
      rw [List.mem_cons, or_iff_right (by nofun)]
      rfl
    | tag mark =>
      refine behind.congr fun name _ => exists₃_congr fun opening children closing => ?_
      rw [List.mem_cons, or_iff_right (by nofun)]
      rfl
    | «section» opening children closing =>
      have here := writeFieldsLoop_emits request opening.attributes
        (Text.trim (Node.sources children)) page
      refine (here.append behind).congr fun name _ => ?_
      have fields : (((writeFieldsNode request (.section opening children closing)).run
        page).2.form.catalog.fields) = page.form.catalog.fields := here.fields
      rw [fields]
      constructor
      · rintro (hidden | ⟨other, inner, ended, member, hidden⟩)
        · exact ⟨opening, children, closing, List.mem_cons_self, hidden⟩
        · exact ⟨other, inner, ended, List.mem_cons_of_mem _ member, hidden⟩
      · rintro ⟨other, inner, ended, member, hidden⟩
        rcases List.mem_cons.mp member with same | later
        · obtain ⟨rfl, -, -⟩ := Node.section.inj same
          exact .inl hidden
        · exact .inr ⟨other, inner, ended, later, hidden⟩

/-! ## Row loops without rows -/

/-- The form has a table, and a connection to it that now answers without rows. -/
def Rowless (request : Request) (page : Page) : Prop :=
  ∃ binding connection, page.form.binding = some binding ∧
    request.connections.resolve (some binding.connection) = .ok connection ∧
    connection.answerTo page.queries (rowsQuery connection binding) = .ok []

/-- A row loop without rows asks its query and ends the section. -/
theorem writeRowLoop_rowless {request : Request} {page : Page} (rowless : Rowless request page)
    (body : String) :
    ∃ query, (writeRowLoop request body).run page =
      (.error (.emptyResult noRecords), page.asked query) := by
  obtain ⟨binding, connection, bound, resolved, answered⟩ := rowless
  refine ⟨rowsQuery connection binding, ?_⟩
  rw [writeRowLoop_run resolved body bound]
  dsimp only
  rw [answered]

/-- What is in front of a row loop that ends the section is dropped. -/
theorem joinBehind_ended {later : StateM Page (Except Failure String)} {failure : Failure}
    {page after : Page} (ended : later.run page = (.error failure, after)) (text : String) :
    (joinBehind (.ok text) later).run page = (.error failure, after) := by
  rw [joinBehind, run_then, ended]
  rfl

/-- Of several row loops without rows the first one ends the section. -/
theorem writeRowLoopsAll_rowless {request : Request} {page : Page}
    (rowless : Rowless request page) {nodes : List Node}
    (there : nodes.any Node.isSection = true) :
    ∃ query, (writeRowLoopsAll request nodes).run page =
      (.error (.emptyResult noRecords), page.asked query) := by
  induction nodes with
  | nil => cases there
  | cons node rest inductionHypothesis =>
    cases node with
    | text content =>
      obtain ⟨query, ended⟩ := inductionHypothesis there
      exact ⟨query, joinBehind_ended ended content⟩
    | tag mark =>
      obtain ⟨query, ended⟩ := inductionHypothesis there
      exact ⟨query, joinBehind_ended ended mark.source⟩
    | «section» opening children closing =>
      obtain ⟨query, ended⟩ := writeRowLoop_rowless rowless (Text.trim (Node.sources children))
      refine ⟨query, ?_⟩
      rw [writeRowLoopsAll_section, run_then, ended]
      rfl

/-- A whole field that counts as emitted is not written for a tag that names it. -/
theorem writeNamed_emitted (request : Request) {mark : Tag} {name : String} {page : Page}
    (named : mark.attributes.get? "name" = some name) (whole : displayOf mark.attributes = "full")
    (counted : page.isEmitted name = true) : ((writeNamed request mark).run page).1 = "" := by
  unfold writeNamed
  rw [run_then, run_get]
  dsimp only
  rw [named, Option.getD_some, whole, counted]
  split
  · rfl
  · split
    · rfl
    · rfl

/-! ## Dropped sections -/

/-- The text of a form section once its loops over fields are written. -/
def loopedText (request : Request) (source : String) (page : Page) : String :=
  ((writeFieldsLoops request (Node.settleExpandable request.options.expandable source)).run page).1

/-- The name is that of a hidden field that a loop over fields of the section writes. -/
def HiddenInSection (request : Request) (source : String) (page : Page) : String → Prop :=
  HiddenAmong request page.form.catalog.fields
    (Node.parse ["fieldsLoop"] (Node.settleExpandable request.options.expandable source))

/-- A form section with a row loop for a table without rows is replaced by a notice, and nothing
else of what it did is taken back. The fields that count as emitted behind it are those that did
before it and, each once, the hidden fields that its loops over fields have written into the
dropped text. So the same fields count exactly if each of these hidden fields counted before, and
no later tag for one of them as a whole writes it.

Proof: the loops over fields are written before the row loops and count what they write; a row
loop without rows does nothing but ask its query. -/
theorem dropped_section_counts_hidden (request : Request) (source : String) (page : Page)
    (rowless : Rowless request page)
    (looped : (Node.parse ["rowLoop"] (loopedText request source page)).any Node.isSection = true) :
    ∃ after, (writeSection request source).run page = (noRecords, after) ∧
      Emits (HiddenInSection request source page) page after ∧
      (after.emitted = page.emitted ↔
        ∀ name, HiddenInSection request source page name → name ∈ page.emitted) ∧
      ∀ name, HiddenInSection request source page name → ∀ mark : Tag,
        mark.attributes.get? "name" = some name → displayOf mark.attributes = "full" →
          ((writeNamed request mark).run after).1 = "" := by
  have fieldsLoops := writeFieldsNodes_emits request
    (Node.parse ["fieldsLoop"] (Node.settleExpandable request.options.expandable source)) page
  have calm := writeFieldsLoops_calm request
    (Node.settleExpandable request.options.expandable source) page
  rw [← writeFieldsLoops_nodes] at fieldsLoops
  unfold loopedText at looped
  unfold writeSection writeRowLoops
  rw [run_then]
  generalize (writeFieldsLoops request _).run page = outcome at fieldsLoops calm looped ⊢
  obtain ⟨text, middle⟩ := outcome
  have rowless' : Rowless request middle := by
    unfold Rowless
    rw [calm.form.rest, calm.queries]
    exact rowless
  obtain ⟨query, ended⟩ := writeRowLoopsAll_rowless rowless' looped
  have emits : Emits (HiddenInSection request source page) page (middle.asked query) :=
    ⟨fieldsLoops.fields, fieldsLoops.emitted⟩
  refine ⟨middle.asked query, ?_, emits, emits.same_iff, fun name hidden mark named whole => ?_⟩
  · rw [run_then, ended]
    rfl
  · exact writeNamed_emitted request named whole (emits.isEmitted hidden)

/-- The table is to be shown, and nobody is in it. -/
def emptyRequest : Request :=
  { markRequest with
    connections :=
      { defaultName := "appDB"
        byName := .ofList [("appDB", { vendor := "sqlite", answer := fun _ _ => .ok [] })] } }

/-- A section that writes the hidden mark and has a row loop. -/
def droppedSection : String :=
  "\x7bform\x7d\x7bfieldsLoop\x7d\x7b/fieldsLoop\x7d\x7browLoop\x7dx\x7b/rowLoop\x7d\x7b/form\x7d"

/-- The connection is known and answers without rows. -/
theorem rowless_mark : Rowless emptyRequest { form := markForm } :=
  ⟨markBinding, { vendor := "sqlite", answer := fun _ _ => .ok [] }, rfl, rfl, rfl⟩

/-- Its row loop is still there when its loop over fields is written. -/
theorem droppedSection_looped :
    (Node.parse ["rowLoop"] (loopedText emptyRequest droppedSection { form := markForm })).any
      Node.isSection = true := by
  decide +kernel

/-- Behind it the mark counts as emitted. -/
theorem droppedSection_emitted :
    ((writeSection emptyRequest droppedSection).run { form := markForm }).2.emitted = ["mark"] := by
  decide +kernel

/-- The mark is hidden in the section, and no tag that names it writes it behind the notice. -/
theorem mark_counts_dropped :
    Rowless emptyRequest { form := markForm } ∧
      (Node.parse ["rowLoop"] (loopedText emptyRequest droppedSection { form := markForm })).any
        Node.isSection = true ∧
      HiddenInSection emptyRequest droppedSection { form := markForm } "mark" ∧
      ∃ after, (writeSection emptyRequest droppedSection).run { form := markForm } =
          (noRecords, after) ∧
        ((writeNamed emptyRequest (Tag.naming "mark")).run after).1 = "" := by
  obtain ⟨after, written, emits, -, unwritten⟩ := dropped_section_counts_hidden emptyRequest
    droppedSection { form := markForm } rowless_mark droppedSection_looped
  obtain ⟨new, emitted, -, exactly⟩ := emits.emitted
  have counted := droppedSection_emitted
  rw [written] at counted
  have hidden : HiddenInSection emptyRequest droppedSection { form := markForm } "mark" := by
    refine ((exactly "mark").mp ?_).1
    have same : new = ["mark"] := emitted.symm.trans counted
    rw [same]
    exact List.mem_singleton_self _
  exact ⟨rowless_mark, droppedSection_looped, hidden, after, written,
    unwritten "mark" hidden (Tag.naming "mark") (by decide +kernel) (by decide +kernel)⟩

/-- What counts as emitted is not what it was before a dropped section: a tag for all fields
behind it leaves out the mark, whose input is nowhere on the page. -/
theorem dropped_mark_missing :
    (¬ ∀ (request : Request) (source : String) (page : Page), Rowless request page →
      (Node.parse ["rowLoop"] (loopedText request source page)).any Node.isSection = true →
        ((writeSection request source).run page).2.emitted = page.emitted) ∧
      ((writeSection emptyRequest droppedSection >>= fun notice =>
        writeFields emptyRequest .empty >>= fun fields => Pure.pure (notice ++ fields) :
          StateM Page String).run { form := markForm }).1 = noRecords ∧
      ((writeFields emptyRequest .empty).run { form := markForm }).1 =
        "<input type=\"hidden\" name=\"mark\" id=\"mark\" value=\"m\" />" := by
  refine ⟨fun kept => ?_, by decide +kernel, by decide +kernel⟩
  have same := kept emptyRequest droppedSection { form := markForm } rowless_mark
    droppedSection_looped
  rw [droppedSection_emitted] at same
  cases same

end Formwork.Page
