import Formwork.Proofs.CatalogOrder
import Formwork.Proofs.PageSteps

/-!
# What writing a page leaves alone

A page is written by many small steps. Nearly all of them are calm: they report,
mark a field as shown or emitted, count, or issue a token, and leave the form's
own data, its noted rows and the list of queries as they are. Only a loop over
rows asks a query and notes rows. A relation that holds across every calm step
and across every row loop therefore holds across a whole page. Each writer has
one law here, and later modules only look at the row loops.
-/

namespace Formwork

/-- The description without what a page writes into it. -/
def Field.settled (field : Field) : Field := { field with disabled := false, renderedValue := none }

/-- The descriptions without what a page writes into them. -/
def Catalog.settled (catalog : Catalog) : List Field := catalog.fields.map Field.settled

namespace Catalog

/-- A change that is no part of the settled description leaves it. -/
theorem settled_modify (catalog : Catalog) (name : String) (change : Widget → Widget)
    (keeps : ∀ widget, (change widget).field.settled = widget.field.settled) :
    (catalog.modify name change).settled = catalog.settled := by
  simp only [settled, fields, List.map_map]
  exact map_modify _ catalog name change keeps

/-- Such changes one after another leave it as well. -/
theorem settled_foldl {α : Type} (change : Catalog → α → Catalog)
    (keeps : ∀ catalog item, (change catalog item).settled = catalog.settled) (items : List α)
    (catalog : Catalog) : (items.foldl change catalog).settled = catalog.settled := by
  induction items generalizing catalog with
  | nil => rfl
  | cons item rest inductionHypothesis =>
    rw [List.foldl_cons, inductionHypothesis, keeps]

/-- Any part of the settled description is the same for both catalogs. -/
theorem map_eq_of_settled {α : Type} (part : Field → α)
    (settles : ∀ field, part field.settled = part field) {left right : Catalog}
    (same : left.settled = right.settled) : left.fields.map part = right.fields.map part := by
  have through (catalog : Catalog) : catalog.fields.map part = catalog.settled.map part := by
    simp [settled, settles]
  rw [through, through, same]

/-- Names are part of the settled description. -/
theorem names_eq_of_settled {left right : Catalog} (same : left.settled = right.settled) :
    left.names = right.names :=
  map_eq_of_settled _ (fun _ => rfl) same

end Catalog

/-- Everything but the noted rows and what pages write into fields is kept. -/
structure Form.Kept (before after : Form) : Prop where
  /-- Besides its fields and noted rows the form is the same. -/
  rest : after = { before with catalog := after.catalog, rowKeys := after.rowKeys }
  /-- The fields are the same once settled. -/
  fields : after.catalog.settled = before.catalog.settled

/-- A form keeps itself. -/
theorem Form.Kept.refl (form : Form) : form.Kept form := ⟨rfl, rfl⟩

/-- What is kept twice is kept. -/
theorem Form.Kept.trans {first second third : Form} (left : first.Kept second)
    (right : second.Kept third) : first.Kept third := by
  refine ⟨?_, right.fields.trans left.fields⟩
  rw [right.rest, left.rest]

/-- Names are kept. -/
theorem Form.Kept.names {before after : Form} (kept : before.Kept after) :
    after.catalog.names = before.catalog.names :=
  Catalog.names_eq_of_settled kept.fields

namespace Page

/-- No query is asked, no row is noted, and the form is kept. -/
structure Calm (before after : Page) : Prop where
  /-- The form is kept. -/
  form : before.form.Kept after.form
  /-- No row is noted. -/
  rowKeys : after.form.rowKeys = before.form.rowKeys
  /-- No query is asked. -/
  queries : after.queries = before.queries

instance : IsPreorder Page Calm where
  refl page := ⟨.refl page.form, rfl, rfl⟩
  trans _ _ _ left right :=
    ⟨left.form.trans right.form, right.rowKeys.trans left.rowKeys, right.queries.trans left.queries⟩

/-- Changes beside the form and the queries are calm. -/
theorem Calm.beside {before after : Page} (form : after.form = before.form)
    (queries : after.queries = before.queries) : Calm before after :=
  ⟨form ▸ .refl before.form, by rw [form], queries⟩

/-- A catalog that is the same once settled may take the place of another. -/
theorem Calm.catalog (page : Page) {catalog : Catalog}
    (same : catalog.settled = page.form.catalog.settled) :
    Calm page { page with form.catalog := catalog } :=
  ⟨⟨rfl, same⟩, rfl, rfl⟩

/-! ## Fields -/

/-- Reporting is calm. -/
theorem report_calm (level : Level) (message : String) : Within Calm (report level message) :=
  .step fun _ => .beside rfl rfl

/-- Noting that a field was emitted is calm. -/
theorem markEmitted_calm (name : String) : Within Calm (markEmitted name) :=
  .step fun page => by
    split
    · exact refl_of Calm page
    · exact .beside rfl rfl

/-- A widget may learn where it is shown. -/
theorem present_calm (request : Request) (name : String) : Within Calm (present request name) :=
  .bind (.step fun page => .catalog page (Catalog.settled_modify _ _ _ fun _ => rfl)) fun _ =>
    .bind .get fun _ => .pure _

/-- Nothing that pages do outside of rows is more than calm. -/
theorem across_calm (request : Request) : AcrossTags request Calm where
  reports := report_calm .debug
  presents := present_calm request
  marks := markEmitted_calm
  issues _ := .beside rfl rfl

/-- Writing a field is calm. -/
theorem writeField_calm (request : Request) (source name : String) (attributes : Attributes)
    (value : Option String) : Within Calm (writeField request source name attributes value) :=
  (across_calm request).field source name attributes value

/-- Loops over fields are calm. -/
theorem writeFieldsLoops_calm (request : Request) (source : String) :
    Within Calm (writeFieldsLoops request source) :=
  (across_calm request).fieldsLoops source

/-- Writing the fields that a tag stands for is calm. -/
theorem writeFields_calm (request : Request) (attributes : Attributes) :
    Within Calm (writeFields request attributes) :=
  (across_calm request).fields attributes

/-- Writing the single tags of a text is calm. -/
theorem writeTags_calm (request : Request) (source : String) :
    Within Calm (writeTags request source) :=
  (across_calm request).tags source

/-! ## Rows -/

/-- Noting the cells of a row is calm: only rendered values change. -/
theorem noteCells_calm (row : Row) : Within Calm (noteCells row) := by
  refine .step fun page => .catalog page ?_
  apply Catalog.settled_foldl
  intro catalog cell
  exact catalog.settled_modify cell.1 _ fun _ => rfl

/-- Writing the body for one row is calm. -/
theorem writeRow_calm (request : Request) (body : String) (row : Row) (rowId : String) :
    Within Calm (writeRow request body row rowId) :=
  (across_calm request).row (fun _ _ => .beside rfl rfl) body row rowId

/-- The page on which a row loop has begun. -/
def cleared (page : Page) : Page := { page with rowCount := 0, fieldCount := 0 }

/-- The page on which a row loop has asked its query. -/
def asked (page : Page) (query : Query) : Page :=
  { page with rowCount := 0, fieldCount := 0, queries := page.queries ++ [query] }

section RowLoop

variable {request : Request} {binding : Binding} {connection : Connection}

/-- A row loop of a form without a table writes nothing. -/
theorem writeRowLoop_unbound (request : Request) (body : String) {page : Page}
    (unbound : page.form.binding = none) :
    (writeRowLoop request body).run page =
      let reported := report .debug
        s!"No database table for the row loop of form '{page.form.name}' (link it to a database first)"
      (.ok "", (reported.run page.cleared).2) := by
  unfold writeRowLoop
  simp only [run_then, run_get, run_modify, run_return, unbound]
  rfl

/-- So does one of a form whose table cannot be reached. -/
theorem writeRowLoop_unconnected {failure : Failure}
    (unresolved : request.connections.resolve (some binding.connection) = .error failure)
    (body : String) {page : Page} (bound : page.form.binding = some binding) :
    (writeRowLoop request body).run page =
      let reported := report .debug s!"Database connection failed to establish: {failure.message}"
      (.ok "", (reported.run page.cleared).2) := by
  unfold writeRowLoop
  simp only [run_then, run_get, run_modify, run_return, bound, unresolved]
  rfl

/-- A row loop of a form whose table can be reached asks for the rows, and goes on with
the answer. -/
theorem writeRowLoop_run
    (resolved : request.connections.resolve (some binding.connection) = .ok connection)
    (body : String) {page : Page} (bound : page.form.binding = some binding) :
    (writeRowLoop request body).run page =
      let query := rowsQuery connection binding
      let asked := page.asked query
      match connection.answerTo page.queries query with
      | .error failure =>
        (.ok (Failure.query failure.message).userMessage,
          ((report .high s!"SQL Error: {failure.message} ({query.sql})").run asked).2)
      | .ok [] => (.error (.emptyResult noRecords), asked)
      | .ok rows =>
        let written := (writeAnswer request body binding rows).run asked
        (.ok written.1, written.2) := by
  unfold writeRowLoop runQuery
  simp only [run_then, run_get, run_modify, run_return, bound, resolved]
  rcases connection.answerTo page.queries (rowsQuery connection binding) with
    failure | ⟨_ | ⟨row, rest⟩⟩ <;> rfl

/-- If the answer has rows they are written. -/
theorem writeRowLoop_filled
    (resolved : request.connections.resolve (some binding.connection) = .ok connection)
    (body : String) {page : Page} (bound : page.form.binding = some binding) {rows : List Row}
    (answered : connection.answerTo page.queries (rowsQuery connection binding) = .ok rows)
    (filled : rows ≠ []) :
    (writeRowLoop request body).run page =
      let written := (writeAnswer request body binding rows).run
        (page.asked (rowsQuery connection binding))
      (.ok written.1, written.2) := by
  rw [writeRowLoop_run resolved body bound]
  dsimp only
  rw [answered]
  cases rows with
  | nil => exact absurd rfl filled
  | cons row rest => rfl

end RowLoop

section Loops

variable {related : Page → Page → Prop}

/-- A relation across calm steps and noted rows holds across all that is done for rows. -/
theorem across_rows (calm : ∀ before after, Calm before after → related before after)
    (records : ∀ row position, Within related (recordRow row position)) (request : Request) :
    AcrossRows request related where
  reports message := .mono calm (report_calm .debug message)
  presents name := .mono calm (present_calm request name)
  counts _ _ := calm _ _ (.beside rfl rfl)
  records := records
  warns message := .mono calm (report_calm .warning message)

variable [IsPreorder Page related]

/-- So it holds across an answer. -/
theorem writeAnswer_within (calm : ∀ before after, Calm before after → related before after)
    (records : ∀ row position, Within related (recordRow row position)) (request : Request)
    (body : String) (binding : Binding) (rows : List Row) :
    Within related (writeAnswer request body binding rows) :=
  (across_rows calm records request).answer (fun _ _ => calm _ _ (.beside rfl rfl)) body binding
    rows

/-- A relation across calm steps, noted rows and queries holds across a row loop. -/
theorem writeRowLoop_within (calm : ∀ before after, Calm before after → related before after)
    (records : ∀ row position, Within related (recordRow row position))
    (asks : ∀ page query, related page { page with queries := page.queries ++ [query] })
    (request : Request) (body : String) : Within related (writeRowLoop request body) :=
  AcrossLoops.rowLoop
    { across_rows calm records request with
      totals := fun _ _ => calm _ _ (.beside rfl rfl)
      asks
      fails := fun message => .mono calm (report_calm .high message) } body

end Loops

/-! ## Pages -/

/-- Starting a page is calm: only fields of the primary key are disabled. -/
theorem start_calm (page : Page) : Calm page page.start := by
  refine ⟨⟨rfl, ?_⟩, rfl, rfl⟩
  change (disablePrimary page.form.catalog).settled = page.form.catalog.settled
  unfold disablePrimary
  apply Catalog.settled_foldl
  intro catalog name
  exact catalog.settled_modify name _ fun _ => rfl

/-- Puts what one node gives in front of what is written behind it. -/
def joinBehind (written : Except Failure String) (later : StateM Page (Except Failure String)) :
    StateM Page (Except Failure String) :=
  match written with
  | .error failure => return .error failure
  | .ok written => return (← later).map (written ++ ·)

/-- A text is written in front of what is behind it. -/
theorem writeRowLoopsAll_text (request : Request) (content : String) (rest : List Node) :
    writeRowLoopsAll request (.text content :: rest) =
      joinBehind (.ok content) (writeRowLoopsAll request rest) := rfl

/-- So is a tag. -/
theorem writeRowLoopsAll_tag (request : Request) (mark : Tag) (rest : List Node) :
    writeRowLoopsAll request (.tag mark :: rest) =
      joinBehind (.ok mark.source) (writeRowLoopsAll request rest) := rfl

/-- So is what a row loop gives. -/
theorem writeRowLoopsAll_section (request : Request) (opening closing : Tag)
    (children rest : List Node) :
    writeRowLoopsAll request (.section opening children closing :: rest) =
      (writeRowLoop request (Text.trim (Node.sources children)) >>= fun written =>
        joinBehind written (writeRowLoopsAll request rest)) := rfl

/-- Putting texts together changes no page. -/
theorem joinBehind_within {related : Page → Page → Prop} [IsPreorder Page related]
    (written : Except Failure String) {later : StateM Page (Except Failure String)}
    (behind : Within related later) : Within related (joinBehind written later) := by
  cases written with
  | error failure => exact .pure _
  | ok written => exact .bind behind fun _ => .pure _

/-- A relation across row loops holds across the row loops of a section. -/
theorem writeRowLoops_within {related : Page → Page → Prop} [IsPreorder Page related]
    (request : Request) (loops : ∀ body, Within related (writeRowLoop request body))
    (nodes : List Node) : Within related (writeRowLoopsAll request nodes) := by
  induction nodes with
  | nil => exact .pure _
  | cons node rest inductionHypothesis =>
    cases node with
    | text content =>
      rw [writeRowLoopsAll_text]
      exact joinBehind_within _ inductionHypothesis
    | tag mark =>
      rw [writeRowLoopsAll_tag]
      exact joinBehind_within _ inductionHypothesis
    | «section» opening children closing =>
      rw [writeRowLoopsAll_section]
      exact .bind (loops _) fun written => joinBehind_within written inductionHypothesis

/-- A relation across calm steps and row loops holds across a form section. -/
theorem writeSection_within {related : Page → Page → Prop} [IsPreorder Page related]
    (calm : ∀ before after, Calm before after → related before after) (request : Request)
    (loops : ∀ body, Within related (writeRowLoop request body)) (source : String) :
    Within related (writeSection request source) := by
  refine .bind (.mono calm (writeFieldsLoops_calm request _)) fun looped => ?_
  refine .bind (writeRowLoops_within request loops _) fun written => ?_
  split <;> exact .pure _

/-- So it does across the form sections of a text. -/
theorem writeSections_within {related : Page → Page → Prop} [IsPreorder Page related]
    (calm : ∀ before after, Calm before after → related before after) (request : Request)
    (loops : ∀ body, Within related (writeRowLoop request body)) (source : String) :
    Within related (writeSections request source) := by
  refine writeAll_within _ fun node => ?_
  split
  · exact writeSection_within calm request loops _
  · exact .pure _

/-- The passes over the text of a page before the last one: sections and loops. -/
def writeLoops (request : Request) (template : String) : StateM Page String := do
  modify start
  let page ← get
  let errors := page.diagnostics.errorsHtml (page.form.errorScope request.kind)
  writeSections request (Node.settleErrors errors template)

/-- The last pass settles the single tags of what the passes before it wrote. -/
theorem render_eq (request : Request) (template : String) :
    render request template = writeLoops request template >>= writeTags request := by
  unfold render writeLoops
  simp only [bind_assoc]

/-- A relation across calm steps and row loops holds across a whole page. -/
theorem render_within {related : Page → Page → Prop} [IsPreorder Page related]
    (calm : ∀ before after, Calm before after → related before after) (request : Request)
    (loops : ∀ body, Within related (writeRowLoop request body)) (template : String) :
    Within related (render request template) := by
  have loop : Within related (writeLoops request template) :=
    .bind (.step fun page => calm _ _ (start_calm page)) fun _ => .bind .get fun _ =>
      writeSections_within calm request loops _
  rw [render_eq]
  exact loop.bind fun sections => .mono calm (writeTags_calm request sections)

/-! ## The form and the queries of a page -/

/-- The form is kept, whatever rows are noted and queries asked. -/
def Keeping (before after : Page) : Prop := before.form.Kept after.form

instance : IsPreorder Page Keeping where
  refl page := .refl page.form
  trans _ _ _ left right := Form.Kept.trans left right

/-- Calm steps keep the form. -/
theorem Calm.keeping {before after : Page} (calm : Calm before after) : Keeping before after :=
  calm.form

/-- Noting a row keeps the form. -/
theorem recordRow_keeping (row : Row) (position : Option Nat) :
    Within Keeping (recordRow row position) := by
  unfold recordRow
  refine .bind (.mono (fun _ _ => Calm.keeping) (noteCells_calm row)) fun _ => .bind .get fun page => ?_
  exact .bind (.step fun _ => ⟨rfl, rfl⟩) fun _ => .pure _

/-- A row loop keeps the form. -/
theorem writeRowLoop_keeping (request : Request) (body : String) :
    Within Keeping (writeRowLoop request body) :=
  writeRowLoop_within (fun _ _ => Calm.keeping) recordRow_keeping (fun page _ => .refl page.form)
    request body

/-- Writing a page keeps the form. -/
theorem render_keeps (request : Request) (template : String) (page : Page) :
    page.form.Kept ((render request template).run page).2.form :=
  render_within (fun _ _ => Calm.keeping) request (writeRowLoop_keeping request) template page

/-- The queries are the same. -/
def SameQueries (before after : Page) : Prop := after.queries = before.queries

instance : IsPreorder Page SameQueries where
  refl _ := rfl
  trans _ _ _ left right := Eq.trans right left

/-- Noting a row asks no query. -/
theorem recordRow_sameQueries (row : Row) (position : Option Nat) :
    Within SameQueries (recordRow row position) := by
  refine .bind (.mono (fun _ _ => Calm.queries) (noteCells_calm row)) fun _ => ?_
  exact .bind .get fun page => .bind (.step fun _ => rfl) fun _ => .pure _

end Page

end Formwork
