import Formwork.Page.Render
import Formwork.Proofs.PageFrame
import Formwork.Proofs.PostedValues

/-!
# What a page asks of its fields

A page is one text at the end, and the text does not say which field wrote which
part of it, nor on what occasion. The writers of this module write the same page and
list on the way every showing: which field was asked, as it stood at that moment,
with which attributes and for what. A widget writes nothing but what a showing says.

That the page is the same, and that something holds of the page and of the list at
the end, is proved together, from what the steps that ask a field do to it.
-/

namespace Formwork.Page

/-! ## Showings -/

/-- What makes a page ask a field. -/
inductive Occasion where
  /-- A loop over fields, or the start of the form, that writes its hidden fields. -/
  | loop
  /-- A tag for all fields. -/
  | listed
  /-- A field tag. -/
  | named
  /-- A field tag in a row. -/
  | row
deriving DecidableEq, Repr

/-- What a field is asked for. -/
inductive Part where
  /-- Label and input, in a layout. -/
  | whole (layout : Option String)
  /-- The input. -/
  | input
  /-- The label. -/
  | label
  /-- Nothing that is known; what asked is left as it stands. -/
  | unknown (source : String)
deriving DecidableEq, Repr

/-- One field that is asked for something. -/
structure Showing where
  /-- What makes the page ask. -/
  occasion : Occasion
  /-- The name that the field is asked under. -/
  name : String
  /-- The widget as it stands when it is asked. -/
  widget : Widget
  /-- The attributes that the widget is given. -/
  attributes : Attributes
  /-- What it is asked for. -/
  part : Part
deriving DecidableEq

namespace Showing

/-- What is written for the showing. -/
def text (showing : Showing) : String :=
  match showing.part with
  | .whole layout => showing.widget.html layout showing.attributes
  | .input => showing.widget.inputHtml showing.attributes
  | .label => showing.widget.labelHtml showing.attributes
  | .unknown source => source

/-- The input is written, with a label or without one. -/
def hasInput (showing : Showing) : Bool :=
  match showing.part with
  | .whole _ | .input => true
  | .label | .unknown _ => false

end Showing

/-! ## Writers that take notes -/

/-- Writing a page and telling what is asked of its fields. -/
abbrev Telling := StateM (Page × List Showing)

/-- Writes without asking a field. -/
def quietly {α : Type} (writer : StateM Page α) : Telling α := fun (page, showings) =>
  let (value, after) := writer.run page
  (value, after, showings)

/-- Notes a showing and writes what it says. -/
def note (showing : Showing) : Telling String := fun (page, showings) =>
  (showing.text, page, showings ++ [showing])

/-- The texts noted for the items of a list, in order. -/
def noteAll {α : Type} (items : List α) (noting : α → Telling String) : Telling String :=
  return String.join (← items.mapM noting)

/-- Notes what a tag asks for of a field. -/
def noteField (request : Request) (occasion : Occasion) (source name : String)
    (attributes : Attributes) (value : Option String) : Telling String := do
  let attributes := setGiven "value" (value.or (request.submission.value? name)) attributes
  match ← quietly (present request name) with
  | none =>
    quietly (report .debug (Failure.unknownField name).message)
    return ""
  | some widget =>
    let asked := Showing.mk occasion name widget attributes
    match displayOf attributes with
    | "full" => note (asked (.whole (layoutOf attributes)))
    | "field" => note (asked .input)
    | "label" => note (asked .label)
    | other =>
      quietly (report .debug
        s!"Invalid 'display' for field '{name}': '{other}' (only full|field|label are valid)")
      note (asked (.unknown source))

/-- Notes a whole field without tag attributes. -/
def noteWhole (request : Request) (name : String) : Telling String := do
  let html ← noteField request .loop "" name .empty none
  quietly (markEmitted name)
  return html

/-- Notes one of the fields that a tag for all fields stands for. -/
def noteListed (request : Request) (display : String) (layout : Option String) (name : String) :
    Telling String := do
  match ← quietly (present request name) with
  | none => return ""
  | some widget =>
    quietly (markEmitted name)
    let asked := Showing.mk .listed name widget .empty
    match display with
    | "fields" => note (asked .input)
    | "labels" => note (asked .label)
    | _ => note (asked (.whole layout))

/-- Notes the field that a tag names. -/
def noteNamed (request : Request) (mark : Tag) : Telling String := do
  let attributes := mark.attributes
  let name := (attributes.get? "name").getD ""
  let page ← quietly get
  if name = "" then
    quietly (report .debug "'name' is required for \x7bfield\x7d tags")
    return ""
  else if !page.form.catalog.contains name then
    quietly (report .debug (Failure.unknownField name).message)
    return ""
  else if displayOf attributes = "full" && page.isEmitted name then
    quietly (report .debug s!"Field '{name}' was already rendered")
    return ""
  else
    let html ← noteField request .named mark.source name attributes none
    quietly (markEmitted name)
    return html

/-- Notes one fields loop. -/
def noteFieldsLoop (request : Request) (attributes : Attributes) (body : String) :
    Telling String := do
  let hidden ←
    if showsHidden attributes then
      noteAll (loopHidden request attributes (← quietly get)) (noteWhole request)
    else pure ""
  let visible := loopVisible request attributes (← quietly get)
  return hidden ++ String.join (visible.map (nameFirstTag body))

/-- Notes the fields loops of a section. -/
def noteFieldsLoops (request : Request) (source : String) : Telling String :=
  noteAll (Node.parse ["fieldsLoop"] source) fun
    | .section opening children _ =>
      noteFieldsLoop request opening.attributes (Text.trim (Node.sources children))
    | node => return node.source

/-- Settles one token of a row, unless it is a field of plain text. -/
def notePart (request : Request) (row : Row) (rowId : String) : Token → Telling RowPart
  | .text content => return .settled content
  | .tag mark =>
    match rowFieldName? mark with
    | none => return .settled mark.source
    | some name => do
      let attributes := mark.attributes.set "name" (name ++ "[" ++ rowId ++ "]")
      let source := (mark.withAttributes attributes).source
      match (← quietly get).form.catalog.get? name with
      | none =>
        quietly (report .debug (Failure.unknownField name).message)
        return .settled ""
      | some widget =>
        if widget.field.input = .plaintext then return .late source name attributes
        else
          let cell := ((row.get? name).map Cell.formText).getD ""
          let value := (request.submission.rowValue? name rowId).getD cell
          return .settled (← noteField request .row source name attributes (some value))

/-- Notes what was left for later. -/
def noteLate (request : Request) : RowPart → Telling String
  | .settled text => return text
  | .late source name attributes => noteField request .row source name attributes none

/-- Notes the body for one row. -/
def noteRow (request : Request) (body : String) (row : Row) (rowId : String) : Telling String := do
  let tokens := Token.tokenize (fillRowId rowId body)
  let parts ← tokens.mapM (notePart request row rowId)
  let written ← noteAll parts (noteLate request)
  quietly (modify fun page => { page with fieldCount := countFields tokens })
  return written

/-- Notes the body for rows at and behind a position. -/
def noteRows (request : Request) (body table : String) (keyed : Bool) :
    Nat → List String → List Row → Telling String
  | _, _, [] => return ""
  | position, seen, row :: rest => do
    let rowId ← quietly (recordRow row (if keyed then none else some position))
    if seen.contains rowId then
      quietly (report .warning
        s!"Duplicate primary key values in table '{table}': rows share identifier {rowId}")
    let written ← noteRow request body row rowId
    return written ++ (← noteRows request body table keyed (position + 1) (rowId :: seen) rest)

/-- Notes the body for the rows of an answer that has some. -/
def noteAnswer (request : Request) (body : String) (binding : Binding) (rows : List Row) :
    Telling String := do
  quietly (modify fun page => { page with rowCount := rows.length })
  let form := (← quietly get).form
  let keyed := !form.catalog.primaryNames.isEmpty
  if !keyed then
    quietly (report .debug
      s!"Form '{form.name}' has no primary fields; rows are identified by position")
  let written ← noteRows request body binding.table keyed 0 [] rows
  let page ← quietly get
  return fillCounters page.rowCount page.fieldCount written

/-- Notes one row loop. -/
def noteRowLoop (request : Request) (body : String) : Telling (Except Failure String) := do
  quietly (modify fun page => { page with rowCount := 0, fieldCount := 0 })
  let form := (← quietly get).form
  match form.binding with
  | none =>
    quietly (report .debug
      s!"No database table for the row loop of form '{form.name}' (link it to a database first)")
    return .ok ""
  | some binding =>
    match request.connections.resolve (some binding.connection) with
    | .error failure =>
      quietly (report .debug s!"Database connection failed to establish: {failure.message}")
      return .ok ""
    | .ok connection =>
      let query := rowsQuery connection binding
      match ← quietly (runQuery connection query) with
      | .error failure =>
        quietly (report .high s!"SQL Error: {failure.message} ({query.sql})")
        return .ok (Failure.query failure.message).userMessage
      | .ok [] => return .error (.emptyResult noRecords)
      | .ok rows => return .ok (← noteAnswer request body binding rows)

/-- Puts what one node gives in front of what is noted behind it. -/
def noteBehind (written : Except Failure String) (later : Telling (Except Failure String)) :
    Telling (Except Failure String) :=
  match written with
  | .error failure => return .error failure
  | .ok written => return (← later).map (written ++ ·)

/-- Notes the row loops among nodes, up to one that ends the section. -/
def noteRowLoops (request : Request) : List Node → Telling (Except Failure String)
  | [] => return .ok ""
  | node :: rest => do
    let written ←
      match node with
      | .section _ children _ => noteRowLoop request (Text.trim (Node.sources children))
      | node => pure (.ok node.source)
    noteBehind written (noteRowLoops request rest)

/-- Notes one form section. -/
def noteSection (request : Request) (source : String) : Telling String := do
  let settled := Node.settleExpandable request.options.expandable source
  let looped ← noteFieldsLoops request settled
  match ← noteRowLoops request (Node.parse ["rowLoop"] looped) with
  | .ok written => return written
  | .error failure => return failure.userMessage

/-- Notes the form sections of a text. -/
def noteSections (request : Request) (source : String) : Telling String :=
  noteAll (Node.parse ["form"] source) fun
    | .section opening children closing =>
      noteSection request (Node.source (.section opening children closing))
    | node => return node.source

/-- Notes the start of the form. -/
def noteFormStart (request : Request) (attributes : Attributes) : Telling String := do
  let withHidden := ((attributes.get? "hidden").bind Text.truth?).getD false
  let page ← quietly get
  let start :=
    if request.options.noFormTag then ""
    else formTag request page.form (attributes.erase "hidden")
  let pair := request.issuer (page.issued + 1)
  quietly (set { page with issued := page.issued + 1 })
  let known := ownInput "__formID" request.formId ++ ownInput "__csrfID" pair.id
    ++ ownInput "__csrfToken" pair.token
  let hidden := (page.form.catalog.fields.filter fun field =>
    field.isHidden && !page.isEmitted field.name).map (·.name)
  let inputs ← if withHidden then noteAll hidden (noteWhole request) else pure ""
  return start ++ known ++ inputs

/-- Notes the fields not emitted before. -/
def noteFields (request : Request) (attributes : Attributes) : Telling String := do
  let display := displayOf attributes
  if !fieldsDisplays.contains display then
    quietly (report .debug ("Invalid 'display' for \x7bfields\x7d: '" ++ display
      ++ "' (only full|fields|labels|hidden are valid)"))
    return ""
  let page ← quietly get
  let fields := page.form.catalog.fields.filter fun field =>
    (display ≠ "hidden" || field.isHidden) && field.isShownIn request.kind
      && !page.isEmitted field.name
  noteAll (fields.map (·.name)) (noteListed request display (layoutOf attributes))

/-- Notes what a tag stands for. Only three tags ask fields. -/
def noteTag (request : Request) (mark : Tag) : Telling String :=
  match mark.key with
  | "form" => noteFormStart request mark.attributes
  | "fields" => noteFields request mark.attributes
  | "field" => noteNamed request mark
  | _ => quietly (writeTag request mark)

/-- Notes what the single tags of a text stand for. -/
def noteTags (request : Request) (source : String) : Telling String :=
  noteAll (Token.tokenize source) fun
    | .text content => return content
    | .tag mark => noteTag request mark

/-- Writes a page and a list of what was asked of its fields. -/
def noteRender (request : Request) (template : String) : Telling String := do
  quietly (modify start)
  let page ← quietly get
  let errors := page.diagnostics.errorsHtml (page.form.errorScope request.kind)
  let sections ← noteSections request (Node.settleErrors errors template)
  noteTags request sections

/-- Everything that is asked of fields while a page is written. -/
def showings (request : Request) (template : String) (page : Page) : List Showing :=
  ((noteRender request template).run (page, [])).2.2

/-! ## The same page -/

/-- Noting from a page and a list gives what the writer gives, leads to the same page,
and the invariant holds of that page and of the list then. -/
def NotesFrom {α : Type} (invariant : Page → List Showing → Prop) (noting : Telling α)
    (writer : StateM Page α) (page : Page) (showings : List Showing) : Prop :=
  ∃ noted, noting.run (page, showings) = ((writer.run page).1, (writer.run page).2, noted) ∧
    invariant (writer.run page).2 noted

/-- So it does from every page and list with the invariant. -/
def Notes {α : Type} (invariant : Page → List Showing → Prop) (noting : Telling α)
    (writer : StateM Page α) : Prop :=
  ∀ page showings, invariant page showings → NotesFrom invariant noting writer page showings

/-- One after another, the second from where the first one ends. -/
theorem NotesFrom.bind {α β : Type} {between after : Page → List Showing → Prop}
    {noting : Telling α} {writer : StateM Page α} {next : α → Telling β} {next' : α → StateM Page β}
    {page : Page} {showings : List Showing} (first : NotesFrom between noting writer page showings)
    (second : ∀ noted, between (writer.run page).2 noted →
      NotesFrom after (next (writer.run page).1) (next' (writer.run page).1)
        (writer.run page).2 noted) :
    NotesFrom after (noting >>= next) (writer >>= next') page showings := by
  obtain ⟨noted, same, holds⟩ := first
  obtain ⟨later, same', holds'⟩ := second noted holds
  refine ⟨later, ?_, holds'⟩
  rw [run_then, same]
  exact same'

/-- Reading the page before going on from it. -/
theorem NotesFrom.get {α : Type} {after : Page → List Showing → Prop} {next : Page → Telling α}
    {next' : Page → StateM Page α} {page : Page} {showings : List Showing}
    (reads : NotesFrom after (next page) (next' page) page showings) :
    NotesFrom after (quietly MonadState.get >>= next) (MonadState.get >>= next') page showings :=
  reads

/-- One of two ways, the same on both sides. -/
theorem NotesFrom.ite {α : Type} {after : Page → List Showing → Prop} {condition : Prop}
    [Decidable condition] {noting other : Telling α} {writer other' : StateM Page α} {page : Page}
    {showings : List Showing} (positive : condition → NotesFrom after noting writer page showings)
    (negative : ¬condition → NotesFrom after other other' page showings) :
    NotesFrom after (if condition then noting else other) (if condition then writer else other')
      page showings := by
  by_cases holds : condition
  · rw [if_pos holds, if_pos holds]
    exact positive holds
  · rw [if_neg holds, if_neg holds]
    exact negative holds

namespace Notes

variable {α β : Type} {invariant : Page → List Showing → Prop}

/-- A value is given without asking a field. -/
theorem pure (value : α) : Notes invariant (Pure.pure value) (Pure.pure value) := by
  intro page showings holds
  exact ⟨showings, rfl, holds⟩

/-- One after another. -/
theorem bind {noting : Telling α} {writer : StateM Page α} {next : α → Telling β}
    {next' : α → StateM Page β} (first : Notes invariant noting writer)
    (second : ∀ value, Notes invariant (next value) (next' value)) :
    Notes invariant (noting >>= next) (writer >>= next') := by
  intro page showings holds
  exact (first page showings holds).bind fun noted kept => second _ _ noted kept

/-- A writer that asks no field. -/
theorem quiet {writer : StateM Page α}
    (keeps : ∀ page showings, invariant page showings → invariant (writer.run page).2 showings) :
    Notes invariant (quietly writer) writer := by
  intro page showings holds
  exact ⟨showings, rfl, keeps page showings holds⟩

/-- Reading the page before going on from it. -/
theorem get {next : Page → Telling α} {next' : Page → StateM Page α}
    (reads : ∀ page showings, invariant page showings →
      NotesFrom invariant (next page) (next' page) page showings) :
    Notes invariant (quietly MonadState.get >>= next) (MonadState.get >>= next') :=
  fun page showings holds => (reads page showings holds).get

/-- One action for each item of a list. -/
theorem mapM {noting : α → Telling β} {writer : α → StateM Page β} (items : List α)
    (each : ∀ item, Notes invariant (noting item) (writer item)) :
    Notes invariant (items.mapM noting) (items.mapM writer) := by
  induction items with
  | nil => exact pure []
  | cons item rest inductionHypothesis =>
    rw [List.mapM_cons, List.mapM_cons]
    exact (each item).bind fun _ => inductionHypothesis.bind fun _ => pure _

/-- One text for each item of a list. -/
theorem all {noting : α → Telling String} {writer : α → StateM Page String} (items : List α)
    (each : ∀ item, Notes invariant (noting item) (writer item)) :
    Notes invariant (noteAll items noting) (writeAll items writer) :=
  (mapM items each).bind fun _ => pure _

end Notes

end Formwork.Page
