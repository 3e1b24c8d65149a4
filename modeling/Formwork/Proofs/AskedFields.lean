import Formwork.Proofs.Showings

/-!
# What lasts while a page asks its fields

A page does few things to its fields: it asks one, which tells the widget where it is
shown, it counts a field as emitted, and it notes cells of a row on them. What these
steps keep, each with the showing that is noted on the way, holds of the whole page
and of the list of its showings. Outside of rows a field counts as emitted once it was
asked, and nothing but a field tag asks for part of a field that counts already.
-/

namespace Formwork

namespace Catalog

/-- A change of a field that is not there changes nothing. -/
theorem modify_of_absent {catalog : Catalog} {name : String} (change : Widget → Widget)
    (absent : catalog.get? name = none) : catalog.modify name change = catalog := by
  obtain ⟨widgets⟩ := catalog
  have others : ∀ widget ∈ widgets, widget.field.name ≠ name := by
    simpa [get?] using absent
  suffices modifyFirst name change widgets = widgets from congrArg Catalog.mk this
  clear absent
  induction widgets with
  | nil => rfl
  | cons widget rest inductionHypothesis =>
    obtain ⟨here, later⟩ := List.forall_mem_cons.mp others
    rw [modifyFirst, if_neg here, inductionHypothesis later]

/-- The changed widget is found under its name, and all others as they were. -/
theorem get?_modify (catalog : Catalog) (name : String) (change : Widget → Widget)
    (keeps : ∀ widget, (change widget).field.name = widget.field.name) (other : String) :
    (catalog.modify name change).get? other =
      if other = name then (catalog.get? name).map change else catalog.get? other := by
  obtain ⟨widgets⟩ := catalog
  unfold get? modify
  dsimp only
  induction widgets with
  | nil => simp [modifyFirst]
  | cons widget rest inductionHypothesis =>
    unfold modifyFirst
    by_cases here : widget.field.name = name
    · rw [if_pos here]
      by_cases asked : other = name
      · simp [here, asked, keeps]
      · have apart : widget.field.name ≠ other := fun same => asked (same.symm.trans here)
        simp [asked, keeps, apart]
    · rw [if_neg here, List.find?_cons, inductionHypothesis]
      by_cases asked : other = name
      · simp [asked, here]
      · simp [asked, List.find?_cons]

/-- A part of the description that is kept with names is found under the name. -/
theorem map_get? (catalog : Catalog) (part : Field → Field)
    (named : ∀ field, (part field).name = field.name) (name : String) :
    (catalog.get? name).map (fun widget => part widget.field) =
      (catalog.fields.map part).find? fun field => field.name = name := by
  simp [get?, fields, List.find?_map, Function.comp_def, named]

end Catalog

namespace Page

/-! ## Asking one field -/

/-- The widget knows where it is shown. -/
def presented (request : Request) (widget : Widget) : Widget :=
  { widget with shownIn := some request.kind, formId := some request.formId }

/-- The page on which the widget of a field knows where it is shown. -/
def presenting (request : Request) (name : String) (page : Page) : Page :=
  { page with form.catalog := page.form.catalog.modify name (presented request) }

/-- The page on which a field counts as emitted. -/
def marking (name : String) (page : Page) : Page :=
  if page.isEmitted name then page else { page with emitted := page.emitted ++ [name] }

/-- Presenting a field looks its widget up once it knows where it is shown. -/
theorem present_run (request : Request) (name : String) (page : Page) :
    (present request name).run page =
      ((page.presenting request name).form.catalog.get? name, page.presenting request name) := rfl

/-- Counting a field leaves the form. -/
@[simp] theorem marking_form (name : String) (page : Page) :
    (page.marking name).form = page.form := by
  unfold marking
  split <;> rfl

/-- Fields keep their names when they are presented. -/
@[simp] theorem presenting_names (request : Request) (name : String) (page : Page) :
    (page.presenting request name).form.catalog.names = page.form.catalog.names :=
  page.form.catalog.names_modify name _ fun _ => rfl

/-- A field counts as emitted if it did before or is counted now. -/
theorem isEmitted_marking (name other : String) (page : Page) :
    (page.marking name).isEmitted other = (page.isEmitted other || other == name) := by
  unfold marking
  split
  · next counted =>
    by_cases same : other = name
    · simp [same, counted]
    · simp [same]
  · simp [isEmitted, Bool.beq_eq_decide_eq]

/-- The fields stay as they are, and nothing is noted. -/
structure Unasked (before : Page) (showings : List Showing) (after : Page) (noted : List Showing) :
    Prop where
  /-- No field is changed. -/
  catalog : after.form.catalog = before.form.catalog
  /-- No field is counted. -/
  emitted : after.emitted = before.emitted
  /-- Nothing is noted. -/
  noted : noted = showings

/-- A field is asked: its widget learns where it is shown and is noted as it stands then. -/
structure Asked (request : Request) (showing : Showing) (before : Page) (showings : List Showing)
    (after : Page) (noted : List Showing) : Prop where
  /-- Only the widget learns something. -/
  catalog : after.form.catalog = (before.presenting request showing.name).form.catalog
  /-- It is the widget of the field. -/
  widget : after.form.catalog.get? showing.name = some showing.widget
  /-- One showing is noted. -/
  noted : noted = showings ++ [showing]

/-- Such an asked field is one of the catalog. -/
theorem Asked.known {request : Request} {showing : Showing} {before after : Page}
    {showings noted : List Showing} (asked : Asked request showing before showings after noted) :
    showing.name ∈ before.form.catalog.names := by
  rw [← presenting_names request showing.name, ← asked.catalog, ← Catalog.contains_iff,
    Catalog.contains, asked.widget]
  rfl

/-- A field is asked, and counts as emitted then. -/
structure Counted (request : Request) (showing : Showing) (before : Page) (showings : List Showing)
    (after : Page) (noted : List Showing) : Prop
    extends Asked request showing before showings after noted where
  /-- The field counts as emitted. -/
  emitted : after.emitted = (before.marking showing.name).emitted

/-- It does so besides those that did before. -/
theorem Counted.isEmitted {request : Request} {showing : Showing} {before after : Page}
    {showings noted : List Showing} (counted : Counted request showing before showings after noted)
    (name : String) :
    after.isEmitted name = (before.isEmitted name || name == showing.name) := by
  rw [← isEmitted_marking, Page.isEmitted, Page.isEmitted, counted.emitted]

/-- The showing is one of the named field on the occasion, and one of the whole field only
if that is what is to be shown. -/
structure Showing.Fits (occasion : Occasion) (name display : String) (showing : Showing) :
    Prop where
  /-- The occasion. -/
  occasion : showing.occasion = occasion
  /-- The field. -/
  name : showing.name = name
  /-- What is to be shown of it. -/
  whole : ∀ layout, showing.part = .whole layout → display = "full"

/-- A field that is there is asked once for what its tag says. -/
theorem noteField_asks (request : Request) (occasion : Occasion) (source name : String)
    (attributes : Attributes) (value : Option String) (page : Page) (showings : List Showing) :
    NotesFrom
      (fun after noted =>
        (page.form.catalog.get? name = none ∧ Unasked page showings after noted) ∨
        ∃ showing : Showing, showing.Fits occasion name (displayOf attributes) ∧
          Asked request showing page showings after noted ∧ after.emitted = page.emitted)
      (noteField request occasion source name attributes value)
      (writeField request source name attributes value) page showings := by
  rw [writeField_eq, ← displayOf_setGiven (value.or (request.submission.value? name)) attributes]
  unfold noteField showField
  generalize setGiven "value" (value.or (request.submission.value? name)) attributes = attributes
  have presents :
      NotesFrom (fun after noted => after = page.presenting request name ∧ noted = showings)
        (quietly (present request name)) (present request name) page showings :=
    ⟨showings, rfl, rfl, rfl⟩
  refine presents.bind fun noted shown => ?_
  obtain ⟨after, rfl⟩ := shown
  rw [present_run]
  dsimp only
  cases found : (page.presenting request name).form.catalog.get? name with
  | none =>
    have looked := page.form.catalog.get?_modify name (presented request) (fun _ => rfl) name
    rw [if_pos rfl] at looked
    have absent : page.form.catalog.get? name = none :=
      Option.map_eq_none_iff.mp (looked.symm.trans found)
    exact ⟨noted, rfl, .inl ⟨absent, Catalog.modify_of_absent _ absent, rfl, rfl⟩⟩
  | some widget =>
    have asked (part : Part) {after : Page}
        (catalog : after.form.catalog = (page.presenting request name).form.catalog) :
        Asked request ⟨occasion, name, widget, attributes, part⟩ page noted after
          (noted ++ [⟨occasion, name, widget, attributes, part⟩]) :=
      ⟨catalog, catalog ▸ found, rfl⟩
    dsimp only
    generalize displayOf attributes = display
    -- The two writers match on the display each for itself, so it is told apart by hand.
    by_cases whole : display = "full"
    · subst whole
      exact ⟨_, rfl, .inr ⟨_, ⟨rfl, rfl, fun _ _ => rfl⟩, asked _ rfl, rfl⟩⟩
    by_cases input : display = "field"
    · subst input
      exact ⟨_, rfl, .inr ⟨_, ⟨rfl, rfl, fun _ whole => by cases whole⟩, asked .input rfl, rfl⟩⟩
    by_cases label : display = "label"
    · subst label
      exact ⟨_, rfl, .inr ⟨_, ⟨rfl, rfl, fun _ whole => by cases whole⟩, asked .label rfl, rfl⟩⟩
    simp only
    exact ⟨_, rfl,
      .inr ⟨_, ⟨rfl, rfl, fun _ whole => by cases whole⟩, asked (.unknown source) rfl, rfl⟩⟩

/-- Counting a field that was asked. -/
theorem Asked.counted {request : Request} {showing : Showing} {before after : Page}
    {showings noted : List Showing} (asked : Asked request showing before showings after noted)
    (emitted : after.emitted = before.emitted) :
    Counted request showing before showings (after.marking showing.name) noted := by
  refine ⟨⟨?_, ?_, asked.noted⟩, ?_⟩
  · rw [marking_form, asked.catalog]
  · rw [marking_form, asked.widget]
  · unfold marking isEmitted
    rw [emitted]
    split
    · exact emitted
    · rfl

/-- A whole field that is there is asked and counted. -/
theorem noteWhole_asks (request : Request) (name : String) (page : Page) (showings : List Showing)
    (known : name ∈ page.form.catalog.names) :
    NotesFrom
      (fun after noted => ∃ showing : Showing, showing.Fits .loop name "full" ∧
        Counted request showing page showings after noted)
      (noteWhole request name) (writeWhole request name) page showings := by
  refine (noteField_asks request .loop "" name .empty none page showings).bind fun noted asks => ?_
  rcases asks with ⟨absent, -⟩ | ⟨showing, fits, asked, emitted⟩
  · rw [← Catalog.contains_iff, Catalog.contains, absent] at known
    cases known
  · have counted := asked.counted emitted
    rw [fits.name] at counted
    exact ⟨noted, rfl, showing, fits, counted⟩

/-- So is a field that is listed. -/
theorem noteListed_asks (request : Request) (display : String) (layout : Option String)
    (name : String) (page : Page) (showings : List Showing)
    (known : name ∈ page.form.catalog.names) :
    NotesFrom
      (fun after noted => ∃ showing : Showing, showing.occasion = .listed ∧ showing.name = name ∧
        Counted request showing page showings after noted)
      (noteListed request display layout name) (writeListed request display layout name)
      page showings := by
  have presents :
      NotesFrom (fun after noted => after = page.presenting request name ∧ noted = showings)
        (quietly (present request name)) (present request name) page showings :=
    ⟨showings, rfl, rfl, rfl⟩
  refine presents.bind fun noted shown => ?_
  obtain ⟨after, rfl⟩ := shown
  rw [present_run]
  rw [← presenting_names request name, ← Catalog.contains_iff, Catalog.contains] at known
  obtain ⟨widget, found⟩ := Option.isSome_iff_exists.mp known
  have counted (part : Part) :
      Counted request ⟨.listed, name, widget, .empty, part⟩ page noted
        ((page.presenting request name).marking name)
        (noted ++ [⟨.listed, name, widget, .empty, part⟩]) :=
    Asked.counted ⟨rfl, found, rfl⟩ rfl
  dsimp only
  rw [found]
  dsimp only
  have marks : NotesFrom
      (fun after later => after = (page.presenting request name).marking name ∧ later = noted)
      (quietly (markEmitted name)) (markEmitted name) (page.presenting request name) noted :=
    ⟨noted, rfl, rfl, rfl⟩
  refine marks.bind fun later counts => ?_
  obtain ⟨after, rfl⟩ := counts
  rw [after]
  by_cases inputs : display = "fields"
  · subst inputs
    exact ⟨_, rfl, _, rfl, rfl, counted .input⟩
  by_cases labels : display = "labels"
  · subst labels
    exact ⟨_, rfl, _, rfl, rfl, counted .label⟩
  simp only
  exact ⟨_, rfl, _, rfl, rfl, counted (.whole layout)⟩

/-- A tag that names a field asks it and counts it, but for a tag that asks for the whole
field when it was counted before. -/
theorem noteNamed_asks (request : Request) (mark : Tag) (page : Page) (showings : List Showing) :
    NotesFrom
      (fun after noted => Unasked page showings after noted ∨
        ∃ showing : Showing, showing.occasion = .named ∧
          (∀ layout, showing.part = .whole layout → page.isEmitted showing.name = false) ∧
          Counted request showing page showings after noted)
      (noteNamed request mark) (writeNamed request mark) page showings := by
  have reported (message : String) : NotesFrom
      (fun after noted => Unasked page showings after noted ∨
        ∃ showing : Showing, showing.occasion = .named ∧
          (∀ layout, showing.part = .whole layout → page.isEmitted showing.name = false) ∧
          Counted request showing page showings after noted)
      (do quietly (report .debug message); return "")
      (do report .debug message; return "") page showings :=
    ⟨showings, rfl, .inl ⟨rfl, rfl, rfl⟩⟩
  unfold noteNamed writeNamed
  refine .get ?_
  refine .ite (fun _ => reported _) fun named => ?_
  refine .ite (fun _ => reported _) fun known => ?_
  refine .ite (fun _ => reported _) fun fresh => ?_
  have asks := noteField_asks request .named mark.source
    ((mark.attributes.get? "name").getD "") mark.attributes none page showings
  refine asks.bind fun noted asks => ?_
  rcases asks with ⟨absent, -⟩ | ⟨showing, fits, asked, emitted⟩
  · exact absurd (by simp [Catalog.contains, absent]) known
  · have counted := asked.counted emitted
    rw [fits.name] at counted
    refine ⟨noted, rfl, .inr ⟨showing, fits.occasion, ?_, counted⟩⟩
    intro layout whole
    simpa [fits.whole layout whole, fits.name] using fresh

/-! ## Fields that wait to be asked -/

/-- The fields are there, and unless two fields share a name none of them counts as
emitted and none is named twice. -/
structure Waiting (names : List String) (page : Page) : Prop where
  /-- They are names of fields. -/
  known : ∀ name ∈ names, name ∈ page.form.catalog.names
  /-- Each of them waits for the first time. -/
  fresh : page.form.catalog.names.Nodup →
    names.Nodup ∧ ∀ name ∈ names, page.isEmitted name = false

/-- Fields of a form that are taken only if they were not emitted wait to be asked. -/
theorem Waiting.filter {page : Page} {accepts : Field → Bool}
    (fresh : ∀ field, accepts field = true → page.isEmitted field.name = false) :
    Waiting ((page.form.catalog.fields.filter accepts).map (·.name)) page := by
  have within : ((page.form.catalog.fields.filter accepts).map (·.name)).Sublist
      page.form.catalog.names := List.filter_sublist.map _
  refine ⟨fun name member => within.subset member, fun distinct => ⟨within.nodup distinct, ?_⟩⟩
  intro name member
  obtain ⟨field, accepted, rfl⟩ := List.mem_map.mp member
  exact fresh field (List.mem_filter.mp accepted).2

/-- They wait until fields are asked or counted. -/
theorem Waiting.beside {names : List String} {before after : Page} {showings noted : List Showing}
    (waiting : Waiting names before) (unasked : Unasked before showings after noted) :
    Waiting names after := by
  obtain ⟨known, fresh⟩ := waiting
  constructor
  · rw [unasked.catalog]
    exact known
  · unfold isEmitted
    rw [unasked.catalog, unasked.emitted]
    exact fresh

/-- When the first of them was asked, the others go on waiting. -/
theorem Waiting.rest {request : Request} {name : String} {names : List String}
    {before after : Page} {showing : Showing} {showings noted : List Showing}
    (waiting : Waiting (name :: names) before) (same : showing.name = name)
    (counted : Counted request showing before showings after noted) : Waiting names after := by
  have kept : after.form.catalog.names = before.form.catalog.names := by
    rw [counted.catalog, presenting_names]
  constructor
  · intro other member
    rw [kept]
    exact waiting.known other (List.mem_cons_of_mem _ member)
  · intro distinct
    obtain ⟨once, fresh⟩ := waiting.fresh (kept ▸ distinct)
    obtain ⟨first, later⟩ := List.nodup_cons.mp once
    refine ⟨later, fun other member => ?_⟩
    have apart : other ≠ name := fun equal => first (equal ▸ member)
    rw [counted.isEmitted, fresh other (List.mem_cons_of_mem _ member), same]
    simp [apart]

/-! ## The whole page -/

/-- What has to be known of an invariant for it to last while a page is written: what
each of the few steps does to it that have to do with fields. -/
structure Lasting (request : Request) (invariant : Page → List Showing → Prop) : Prop where
  /-- Nothing but the catalog and the emitted fields is looked at. -/
  beside : ∀ {before after : Page} {showings noted : List Showing},
    Unasked before showings after noted → invariant before showings → invariant after noted
  /-- Cells may be noted. -/
  cells : ∀ (row : Row) (page : Page) (showings : List Showing),
    invariant page showings → invariant ((noteCells row).run page).2 showings
  /-- A field may be asked in a row. -/
  inRow : ∀ {showing : Showing} {before after : Page} {showings noted : List Showing},
    showing.occasion = .row → Asked request showing before showings after noted →
      after.emitted = before.emitted → invariant before showings → invariant after noted
  /-- A field may be asked and counted elsewhere, for the first time unless a tag that
  names it asks for part of it. -/
  elsewhere : ∀ {showing : Showing} {before after : Page} {showings noted : List Showing},
    showing.occasion ≠ .row →
      (before.form.catalog.names.Nodup →
        showing.occasion ≠ .named ∨ (∃ layout, showing.part = .whole layout) →
          before.isEmitted showing.name = false) →
        Counted request showing before showings after noted →
          invariant before showings → invariant after noted

namespace Lasting

variable {request : Request} {invariant : Page → List Showing → Prop}

/-- A change beside the fields. -/
theorem change (lasting : Lasting request invariant) {change : Page → Page}
    (catalog : ∀ page, (change page).form.catalog = page.form.catalog)
    (emitted : ∀ page, (change page).emitted = page.emitted) :
    Notes invariant (quietly (modify change)) (modify change) :=
  .quiet fun page _ => lasting.beside ⟨catalog page, emitted page, rfl⟩

/-- A field in a row. -/
theorem field (lasting : Lasting request invariant) (source name : String)
    (attributes : Attributes) (value : Option String) :
    Notes invariant (noteField request .row source name attributes value)
      (writeField request source name attributes value) := by
  intro page showings holds
  obtain ⟨noted, same, asks⟩ :=
    noteField_asks request .row source name attributes value page showings
  refine ⟨noted, same, ?_⟩
  rcases asks with ⟨-, unasked⟩ | ⟨showing, fits, asked, emitted⟩
  · exact lasting.beside unasked holds
  · exact lasting.inRow fits.occasion asked emitted holds

/-- The field that a tag names. -/
theorem named (lasting : Lasting request invariant) (mark : Tag) :
    Notes invariant (noteNamed request mark) (writeNamed request mark) := by
  intro page showings holds
  obtain ⟨noted, same, asks⟩ := noteNamed_asks request mark page showings
  refine ⟨noted, same, ?_⟩
  rcases asks with unasked | ⟨showing, named, fresh, counted⟩
  · exact lasting.beside unasked holds
  · refine lasting.elsewhere (by simp [named]) (fun _ first => ?_) counted holds
    obtain ⟨layout, whole⟩ := first.resolve_left (not_not_intro named)
    exact fresh layout whole

/-- Fields that wait to be asked, each of which is asked on the same occasion. -/
theorem waiting (lasting : Lasting request invariant) {occasion : Occasion}
    (loops : occasion = .loop ∨ occasion = .listed)
    {noting : String → Telling String} {writer : String → StateM Page String}
    (asks : ∀ name page showings, name ∈ page.form.catalog.names →
      NotesFrom
        (fun after noted => ∃ showing : Showing, showing.occasion = occasion ∧
          showing.name = name ∧ Counted request showing page showings after noted)
        (noting name) (writer name) page showings)
    (names : List String) (page : Page) (showings : List Showing)
    (waits : Waiting names page) (holds : invariant page showings) :
    NotesFrom invariant (noteAll names noting) (writeAll names writer) page showings := by
  suffices NotesFrom invariant (names.mapM noting) (names.mapM writer) page showings from
    this.bind fun noted kept => Notes.pure _ _ noted kept
  induction names generalizing page showings with
  | nil => exact Notes.pure _ page showings holds
  | cons name rest inductionHypothesis =>
    rw [List.mapM_cons, List.mapM_cons]
    have first := asks name page showings (waits.known name List.mem_cons_self)
    refine first.bind fun noted asked => ?_
    obtain ⟨showing, rfl, same, counted⟩ := asked
    have unscoped : showing.occasion ≠ .row ∧ showing.occasion ≠ .named := by
      rcases loops with loop | listed <;> simp [*]
    have kept : invariant (StateT.run (writer name) page).2 noted := by
      refine lasting.elsewhere unscoped.1 (fun distinct _ => ?_) counted holds
      exact same ▸ (waits.fresh distinct).2 name List.mem_cons_self
    -- Asking one field counts no other, so the rest still waits.
    refine (inductionHypothesis _ noted (waits.rest same counted) kept).bind fun later holds' => ?_
    exact Notes.pure _ _ later holds'

/-- Whole fields that wait to be asked. -/
theorem wholes (lasting : Lasting request invariant) (names : List String) (page : Page)
    (showings : List Showing) (waits : Waiting names page) (holds : invariant page showings) :
    NotesFrom invariant (noteAll names (noteWhole request)) (writeAll names (writeWhole request))
      page showings := by
  refine lasting.waiting (.inl rfl) (fun name page showings known => ?_) names page showings
    waits holds
  obtain ⟨noted, same, showing, fits, counted⟩ := noteWhole_asks request name page showings known
  exact ⟨noted, same, showing, fits.occasion, fits.name, counted⟩

/-- Listed fields that wait to be asked. -/
theorem listed (lasting : Lasting request invariant) (display : String) (layout : Option String)
    (names : List String) (page : Page) (showings : List Showing) (waits : Waiting names page)
    (holds : invariant page showings) :
    NotesFrom invariant (noteAll names (noteListed request display layout))
      (writeAll names (writeListed request display layout)) page showings :=
  lasting.waiting (.inr rfl) (noteListed_asks request display layout) names page showings waits
    holds

/-- A report. -/
theorem report (lasting : Lasting request invariant) (level : Level) (message : String) :
    Notes invariant (quietly (report level message)) (report level message) :=
  lasting.change (fun _ => rfl) fun _ => rfl

/-- Noting a row writes cells into fields, and keys beside them. -/
theorem recordRow (lasting : Lasting request invariant) (row : Row) (position : Option Nat) :
    Notes invariant (quietly (recordRow row position)) (recordRow row position) := by
  refine .quiet fun page showings holds => ?_
  refine lasting.beside ⟨?_, ?_, rfl⟩ (lasting.cells row page showings holds)
  · rfl
  · rfl

/-- A fields loop. -/
theorem fieldsLoop (lasting : Lasting request invariant) (attributes : Attributes) (body : String) :
    Notes invariant (noteFieldsLoop request attributes body)
      (writeFieldsLoop request attributes body) := by
  have repeated (hidden : String) : Notes invariant
      (do
        let visible := loopVisible request attributes (← quietly get)
        return hidden ++ String.join (visible.map (nameFirstTag body)))
      (do
        let visible := loopVisible request attributes (← get)
        return hidden ++ String.join (visible.map (nameFirstTag body))) :=
    .get fun page showings holds => Notes.pure _ page showings holds
  unfold noteFieldsLoop writeFieldsLoop
  dsimp only
  split
  · refine .get fun page showings holds => ?_
    have waits : Waiting (loopHidden request attributes page) page :=
      .filter fun field accepted => by simpa using (Bool.and_eq_true_iff.mp accepted).2
    exact (lasting.wholes _ page showings waits holds).bind fun noted kept =>
      repeated _ _ noted kept
  · exact (Notes.pure _).bind repeated

/-- Loops over fields. -/
theorem fieldsLoops (lasting : Lasting request invariant) (source : String) :
    Notes invariant (noteFieldsLoops request source) (writeFieldsLoops request source) := by
  apply Notes.all
  intro node
  cases node with
  | text content => exact .pure _
  | tag mark => exact .pure _
  | «section» opening children closing => exact lasting.fieldsLoop _ _

/-- One token of a row. -/
theorem part (lasting : Lasting request invariant) (row : Row) (rowId : String) (token : Token) :
    Notes invariant (notePart request row rowId token) (settlePart request row rowId token) := by
  cases token with
  | text content => exact .pure _
  | tag mark =>
    unfold notePart settlePart
    dsimp only
    cases rowFieldName? mark with
    | none => exact .pure _
    | some name =>
      refine .get fun page showings holds => ?_
      cases page.form.catalog.get? name with
      | none => exact ((lasting.report _ _).bind fun _ => .pure _) page showings holds
      | some widget =>
        refine .ite (fun _ => Notes.pure _ page showings holds) fun _ => ?_
        exact ((lasting.field _ _ _ _).bind fun _ => .pure _) page showings holds

/-- A row. -/
theorem row (lasting : Lasting request invariant) (body : String) (row : Row) (rowId : String) :
    Notes invariant (noteRow request body row rowId) (writeRow request body row rowId) := by
  have late (part : RowPart) :
      Notes invariant (noteLate request part) (finishPart request part) := by
    cases part with
    | settled text => exact .pure _
    | late source name attributes => exact lasting.field _ _ _ _
  have counted (count : Nat) :
      Notes invariant (quietly (modify fun page => { page with fieldCount := count }))
        (modify fun page => { page with fieldCount := count }) :=
    lasting.change (fun _ => rfl) fun _ => rfl
  refine (Notes.mapM _ (lasting.part row rowId)).bind fun parts => ?_
  exact (Notes.all parts late).bind fun written => (counted _).bind fun _ => .pure _

/-- Rows, one after another. -/
theorem rows (lasting : Lasting request invariant) (body table : String) (keyed : Bool)
    (position : Nat) (seen : List String) (rows : List Row) :
    Notes invariant (noteRows request body table keyed position seen rows)
      (writeRows request body table keyed position seen rows) := by
  induction rows generalizing position seen with
  | nil => exact .pure _
  | cons row rest inductionHypothesis =>
    unfold noteRows writeRows
    refine (lasting.recordRow row _).bind fun rowId => ?_
    have others : Notes invariant
        (do
          let written ← noteRow request body row rowId
          return written ++
            (← noteRows request body table keyed (position + 1) (rowId :: seen) rest))
        (do
          let written ← writeRow request body row rowId
          return written ++
            (← writeRows request body table keyed (position + 1) (rowId :: seen) rest)) :=
      (lasting.row body row rowId).bind fun _ => (inductionHypothesis _ _).bind fun _ => .pure _
    dsimp only
    split
    · exact (lasting.report _ _).bind fun _ => others
    · exact others

/-- The rows of an answer. -/
theorem answer (lasting : Lasting request invariant) (body : String) (binding : Binding)
    (rows : List Row) :
    Notes invariant (noteAnswer request body binding rows)
      (writeAnswer request body binding rows) := by
  have written (keyed : Bool) : Notes invariant
      (do
        let written ← noteRows request body binding.table keyed 0 [] rows
        let page ← quietly get
        return fillCounters page.rowCount page.fieldCount written)
      (do
        let written ← writeRows request body binding.table keyed 0 [] rows
        let page ← get
        return fillCounters page.rowCount page.fieldCount written) := by
    refine (lasting.rows _ _ keyed 0 [] rows).bind fun text => ?_
    exact .get fun page showings holds => Notes.pure _ page showings holds
  have counted (count : Nat) :
      Notes invariant (quietly (modify fun page => { page with rowCount := count }))
        (modify fun page => { page with rowCount := count }) :=
    lasting.change (fun _ => rfl) fun _ => rfl
  refine (counted _).bind fun _ => .get fun page showings holds => ?_
  exact .ite (fun _ => ((lasting.report _ _).bind fun _ => written _) page showings holds)
    fun _ => written _ page showings holds

/-- A row loop. -/
theorem rowLoop (lasting : Lasting request invariant) (body : String) :
    Notes invariant (noteRowLoop request body) (writeRowLoop request body) := by
  have cleared :
      Notes invariant (quietly (modify fun page => { page with rowCount := 0, fieldCount := 0 }))
        (modify fun page => { page with rowCount := 0, fieldCount := 0 }) :=
    lasting.change (fun _ => rfl) fun _ => rfl
  have asks (connection : Connection) (query : Query) :
      Notes invariant (quietly (runQuery connection query)) (runQuery connection query) :=
    .quiet fun _ _ => lasting.beside ⟨rfl, rfl, rfl⟩
  refine cleared.bind fun _ => .get fun page showings holds => ?_
  dsimp only
  cases page.form.binding with
  | none => exact ((lasting.report _ _).bind fun _ => .pure _) page showings holds
  | some binding =>
    dsimp only
    cases request.connections.resolve (some binding.connection) with
    | error failure => exact ((lasting.report _ _).bind fun _ => .pure _) page showings holds
    | ok connection =>
      refine ((asks connection _).bind fun outcome => ?_) page showings holds
      match outcome with
      | .error failure => exact (lasting.report _ _).bind fun _ => .pure _
      | .ok [] => exact .pure _
      | .ok (row :: rest) => exact (lasting.answer _ _ _).bind fun _ => .pure _

/-- Row loops among nodes. -/
theorem rowLoops (lasting : Lasting request invariant) (nodes : List Node) :
    Notes invariant (noteRowLoops request nodes) (writeRowLoopsAll request nodes) := by
  induction nodes with
  | nil => exact .pure _
  | cons node rest inductionHypothesis =>
    have behind (written : Except Failure String) :
        Notes invariant (noteBehind written (noteRowLoops request rest))
          (joinBehind written (writeRowLoopsAll request rest)) := by
      cases written with
      | error failure => exact .pure _
      | ok text => exact inductionHypothesis.bind fun _ => .pure _
    cases node with
    | text content => exact behind (.ok content)
    | tag mark => exact behind (.ok mark.source)
    | «section» opening children closing => exact (lasting.rowLoop _).bind behind

/-- A form section. -/
theorem «section» (lasting : Lasting request invariant) (source : String) :
    Notes invariant (noteSection request source) (writeSection request source) := by
  refine (lasting.fieldsLoops _).bind fun looped => (lasting.rowLoops _).bind fun outcome => ?_
  cases outcome with
  | ok text => exact .pure _
  | error failure => exact .pure _

/-- The form sections of a text. -/
theorem sections (lasting : Lasting request invariant) (source : String) :
    Notes invariant (noteSections request source) (writeSections request source) := by
  apply Notes.all
  intro node
  cases node with
  | text content => exact .pure _
  | tag mark => exact .pure _
  | «section» opening children closing => exact lasting.section _

/-- The start of the form. -/
theorem formStart (lasting : Lasting request invariant) (attributes : Attributes) :
    Notes invariant (noteFormStart request attributes) (writeFormStart request attributes) := by
  unfold noteFormStart writeFormStart
  refine .get fun page showings holds => ?_
  dsimp only
  have waits : Waiting ((page.form.catalog.fields.filter fun field =>
      field.isHidden && !page.isEmitted field.name).map (·.name)) page :=
    .filter fun field accepted => by simpa using (Bool.and_eq_true_iff.mp accepted).2
  generalize ((page.form.catalog.fields.filter fun field =>
    field.isHidden && !page.isEmitted field.name).map (·.name)) = hidden at waits ⊢
  have unasked : Unasked page showings { page with issued := page.issued + 1 } showings :=
    ⟨rfl, rfl, rfl⟩
  have issued : NotesFrom
      (fun after noted => after = { page with issued := page.issued + 1 } ∧ invariant after noted)
      (quietly (set { page with issued := page.issued + 1 }))
      (set { page with issued := page.issued + 1 }) page showings :=
    ⟨showings, rfl, rfl, lasting.beside unasked holds⟩
  refine issued.bind fun noted opened => ?_
  obtain ⟨after, kept⟩ := opened
  rw [after] at kept ⊢
  refine NotesFrom.ite (fun _ => ?_) fun _ => ?_
  · exact (lasting.wholes hidden _ noted (waits.beside unasked) kept).bind fun later holds' =>
      Notes.pure _ _ later holds'
  · exact ((Notes.pure _).bind fun _ => .pure _) _ noted kept

/-- A tag for all fields. -/
theorem fields (lasting : Lasting request invariant) (attributes : Attributes) :
    Notes invariant (noteFields request attributes) (writeFields request attributes) := by
  unfold noteFields writeFields
  dsimp only
  split
  · exact (lasting.report _ _).bind fun _ => .pure _
  · refine .get fun page showings holds => ?_
    refine lasting.listed _ _ _ page showings (.filter fun field accepted => ?_) holds
    simpa using (Bool.and_eq_true_iff.mp accepted).2

/-- A single tag. A tag that asks no field leaves the page as it is. -/
theorem tag (lasting : Lasting request invariant) (mark : Tag) :
    Notes invariant (noteTag request mark) (writeTag request mark) := by
  unfold noteTag
  split
  · next key =>
    have same : writeTag request mark = writeFormStart request mark.attributes := by
      simp only [writeTag, key]
    exact same ▸ lasting.formStart _
  · next key =>
    have same : writeTag request mark = writeFields request mark.attributes := by
      simp only [writeTag, key]
    exact same ▸ lasting.fields _
  · next key =>
    have same : writeTag request mark = writeNamed request mark := by
      simp only [writeTag, key]
    exact same ▸ lasting.named mark
  · refine .quiet fun page showings holds => ?_
    have still : ((writeTag request mark).run page).2 = page := by
      unfold writeTag
      split <;> first | rfl | contradiction
    rwa [still]

/-- The single tags of a text. -/
theorem tags (lasting : Lasting request invariant) (source : String) :
    Notes invariant (noteTags request source) (writeTags request source) := by
  apply Notes.all
  intro token
  cases token with
  | text content => exact .pure _
  | tag mark => exact lasting.tag mark

/-- The whole page. What holds once nothing is emitted and the primary key is disabled
holds at the end. -/
theorem render (lasting : Lasting request invariant) (template : String) (page : Page)
    (starts : invariant page.start []) :
    NotesFrom invariant (noteRender request template) (render request template) page [] := by
  have fresh : NotesFrom invariant (quietly (modify start)) (modify start) page [] :=
    ⟨[], rfl, starts⟩
  refine fresh.bind fun noted holds => ?_
  refine Notes.get (fun begun noted holds => ?_) _ noted holds
  exact ((lasting.sections _).bind fun sections => lasting.tags sections) begun noted holds

end Lasting

end Page

end Formwork
