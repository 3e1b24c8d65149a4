import Formwork.Proofs.RowKeys
import Formwork.Proofs.RowTexts

/-!
# What row loops read of posted data

A row loop asks what was posted for a field in a row, under the row's identifier. That is all it
asks for fields that can be posted. A field of plain text is written last and without a value, and
then it is asked like any field outside of rows: a value that was posted under the name alone
takes the place of the row's cell, in every row. Two submissions that are the same in these two
respects are the same for the loop.
-/

namespace Formwork

/-- The rows that a row loop on the page is written for. -/
def Page.loopRows (page : Page) (connections : Connections) : List Row :=
  match page.form.binding with
  | none => []
  | some binding =>
    match connections.resolve (some binding.connection) with
    | .error _ => []
    | .ok connection =>
      (connection.answerTo page.queries (rowsQuery connection binding)).toOption.getD []

/-- The identifiers of these rows. -/
def Page.loopRowIds (page : Page) (connections : Connections) : List String :=
  (rowEntries page.form 0 (page.loopRows connections)).map Prod.fst

/-- Two submissions have the same values for the fields of a form in rows: for fields that can be
posted under the identifier of each row, and for fields of plain text under the name alone. -/
structure Submission.SameInRows (first second : Submission) (form : Form) (rowIds : List String) :
    Prop where
  /-- The same was posted in every row. -/
  cells : ∀ name widget, form.catalog.get? name = some widget → widget.field.input ≠ .plaintext →
    ∀ rowId ∈ rowIds, first.rowValue? name rowId = second.rowValue? name rowId
  /-- The same was posted outside of rows for fields of plain text. -/
  plain : ∀ name widget, form.catalog.get? name = some widget → widget.field.input = .plaintext →
    first.value? name = second.value? name

/-- Nothing was posted in rows if one pair was posted whose key has no brackets. -/
theorem Submission.rowValue?_of_pair {key : String} (whole : path key = [key])
    (value name rowId : String) :
    (ofPairs [(key, value)]).rowValue? name rowId = empty.rowValue? name rowId := by
  have filed : (ofPairs [(key, value)]).roots.get? pageRoot =
      some (.group [(Posted.segmentKey key [], .text value)]) := by
    simp [ofPairs, file, insert, whole, Posted.insertAt,
      Posted.segmentKey, pageRoot, databaseRoot, empty,
      Entries.get?_insert]
    rfl
  have single : Posted.getAt? [pageRoot, name, rowId]
      (ofPairs [(key, value)]).roots = none := by
    unfold Posted.getAt?
    rw [filed]
    by_cases same : name = Posted.segmentKey key []
    · simp [Posted.getAt?, Entries.get?, same]
    · simp [Posted.getAt?, Entries.get?, same]
  unfold rowValue? Submission.get?
  rw [single]
  rfl

/-- A form that is kept takes the same kinds of input. -/
theorem Form.Kept.found {before after : Form} (kept : before.Kept after) {name : String}
    {widget : Widget} (found : after.catalog.get? name = some widget) :
    ∃ other, before.catalog.get? name = some other ∧ other.field.input = widget.field.input := by
  have settled (form : Form) : (form.catalog.get? name).map (fun widget => widget.field.settled) =
      form.catalog.settled.find? fun field => field.name = name :=
    form.catalog.map_get? Field.settled (fun _ => rfl) name
  have there := (settled before).trans ((congrArg _ kept.fields.symm).trans (settled after).symm)
  rw [found] at there
  obtain ⟨other, before, same⟩ := Option.map_eq_some_iff.mp there
  have inputs : other.field.settled.input = widget.field.settled.input := congrArg Field.input same
  exact ⟨other, before, inputs⟩

namespace Page

section Reads

variable {request : Request} {first second : Submission} {form : Form} {rowIds : List String}

/-- Two writers that do the same to every page whose form is the given one, kept. -/
def ReadAlike {α : Type} (form : Form) (left right : StateM Page α) : Prop :=
  Lockstep (fun page => form.Kept page.form) Eq left right

/-- A writer that keeps the form reads like itself. -/
theorem ReadAlike.keeping {α : Type} {writer : StateM Page α} (keeping : Within Keeping writer) :
    ReadAlike form writer writer :=
  .same fun page kept => Form.Kept.trans kept (keeping page)

/-- So does a calm one. -/
theorem ReadAlike.calm {α : Type} {writer : StateM Page α} (calm : Within Calm writer) :
    ReadAlike form writer writer :=
  .keeping (.mono (fun _ _ => Calm.keeping) calm)

/-- Texts written one after another, each alike. -/
theorem ReadAlike.all {α : Type} {write write' : α → StateM Page String} {items others : List α}
    {pair : α → α → Prop} (paired : List.Forall₂ pair items others)
    (both : ∀ item other, pair item other → ReadAlike form (write item) (write' other)) :
    ReadAlike form (writeAll items write) (writeAll others write') := by
  refine (Lockstep.each paired both).bind fun texts texts' values => .pure ?_
  rw [List.forall₂_eq_eq_eq] at values
  rw [values]

/-- A field that is given its value is written without asking what was posted. -/
theorem writeField_given (second : Submission) (source name : String) (attributes : Attributes)
    (value : String) :
    writeField (request.posting first) source name attributes (some value) =
      writeField (request.posting second) source name attributes (some value) := rfl

/-- A field without a value is written alike if the same was posted under its name. -/
theorem writeField_asked {name : String} (same : first.value? name = second.value? name)
    (source : String) (attributes : Attributes) :
    writeField (request.posting first) source name attributes none =
      writeField (request.posting second) source name attributes none := by
  have asked : (request.posting first).submission.value? name =
      (request.posting second).submission.value? name := same
  rw [writeField_eq, writeField_eq, asked]
  rfl

/-- What is left of a part of a row for later is a field of plain text of the form. -/
def RowPart.LatePlain (form : Form) : RowPart → Prop
  | .settled _ => True
  | .late _ name _ => ∃ widget, form.catalog.get? name = some widget ∧
      widget.field.input = .plaintext

section Same

variable (same : first.SameInRows second form rowIds)

include same

/-- A token of one of the rows is settled alike. -/
theorem settlePart_reads (row : Row) {rowId : String} (among : rowId ∈ rowIds) (token : Token) :
    Lockstep (fun page => form.Kept page.form)
      (fun part other => part = other ∧ part.LatePlain form)
      (settlePart (request.posting first) row rowId token)
      (settlePart (request.posting second) row rowId token) := by
  cases token with
  | text content => exact .pure ⟨rfl, trivial⟩
  | tag mark =>
    unfold settlePart
    dsimp only
    split
    · exact .pure ⟨rfl, trivial⟩
    · rename_i name named
      refine Lockstep.get.bind fun page other pages => ?_
      obtain ⟨rfl, kept⟩ := pages
      split
      · exact (ReadAlike.calm (report_calm _ _)).bind fun _ _ _ => .pure ⟨rfl, trivial⟩
      · rename_i widget found
        obtain ⟨before, there, input⟩ := kept.found found
        split
        · rename_i plain
          exact .pure ⟨rfl, before, there, input.trans plain⟩
        · rename_i cell
          have posted : (request.posting first).submission.rowValue? name rowId =
              (request.posting second).submission.rowValue? name rowId :=
            same.cells name before there (input ▸ cell) rowId among
          rw [posted, writeField_given second]
          exact (ReadAlike.calm (writeField_calm _ _ _ _ _)).bind fun text other texts =>
            .pure ⟨congrArg _ texts, trivial⟩

/-- What was left for later is written alike. -/
theorem finishPart_reads {part : RowPart} (late : part.LatePlain form) :
    ReadAlike form (finishPart (request.posting first) part)
      (finishPart (request.posting second) part) := by
  cases part with
  | settled text => exact .pure rfl
  | late source name attributes =>
    obtain ⟨widget, found, plain⟩ := late
    unfold finishPart
    dsimp only
    rw [writeField_asked (same.plain name widget found plain)]
    exact .calm (writeField_calm _ _ _ _ _)

/-- One of the rows is written alike. -/
theorem writeRow_reads (body : String) (row : Row) {rowId : String} (among : rowId ∈ rowIds) :
    ReadAlike form (writeRow (request.posting first) body row rowId)
      (writeRow (request.posting second) body row rowId) := by
  have counted (number : Nat) :
      Within Calm (modify fun page : Page => { page with fieldCount := number }) :=
    .step fun _ => .beside rfl rfl
  unfold writeRow
  dsimp only
  have settled (tokens : List Token) : Lockstep (fun page => form.Kept page.form)
      (List.Forall₂ fun part other => part = other ∧ part.LatePlain form)
      (tokens.mapM (settlePart (request.posting first) row rowId))
      (tokens.mapM (settlePart (request.posting second) row rowId)) := by
    refine .each (List.forall₂_same.mpr fun _ _ => rfl) ?_
    rintro token _ rfl
    exact settlePart_reads same row among token
  refine (settled _).bind fun parts others paired => ?_
  refine (ReadAlike.all paired ?_).bind fun text other texts => ?_
  · rintro part _ ⟨rfl, late⟩
    exact finishPart_reads same late
  · exact (ReadAlike.calm (counted _)).bind fun _ _ _ => .pure texts

/-- Rows among them are written alike, one after another. -/
theorem writeRows_reads (body table : String) {keyed : Bool}
    (is : keyed = !form.catalog.primaryNames.isEmpty) (position : Nat) (seen : List String)
    (rows : List Row)
    (among : ∀ entry ∈ rowEntries form position rows, entry.1 ∈ rowIds) :
    ReadAlike form (writeRows (request.posting first) body table keyed position seen rows)
      (writeRows (request.posting second) body table keyed position seen rows) := by
  induction rows generalizing position seen with
  | nil => exact .pure rfl
  | cons row rest inductionHypothesis =>
    obtain ⟨here, later⟩ := List.forall_mem_cons.mp among
    -- The form that was kept identifies the row as the given one does.
    have recorded : Lockstep (fun page => form.Kept page.form)
        (fun rowId other => rowId = other ∧ rowId ∈ rowIds)
        (recordRow row (if keyed then none else some position))
        (recordRow row (if keyed then none else some position)) := by
      intro page kept
      have names := Catalog.primaryNames_eq_of_settled kept.fields
      have identified := (recordRow_run page row position (is.trans (by rw [names]))).1
      have same : identifierOf page.form position row = identifierOf form position row := by
        unfold identifierOf keyOf
        rw [names]
      exact ⟨⟨rfl, identified.trans same ▸ here⟩, rfl, kept.trans (recordRow_keeping row _ page)⟩
    unfold writeRows
    refine recorded.bind fun rowId other ids => ?_
    obtain ⟨rfl, inside⟩ := ids
    dsimp only
    refine .perhaps (ReadAlike.calm (report_calm _ _)) ?_
    refine (writeRow_reads same body row inside).bind fun written other texts => ?_
    obtain rfl := texts
    exact (inductionHypothesis _ _ later).bind fun written' other' texts' =>
      .pure (congrArg (written ++ ·) texts')

/-- The rows of an answer are written alike. -/
theorem writeAnswer_reads (body : String) (binding : Binding) (rows : List Row)
    (among : ∀ entry ∈ rowEntries form 0 rows, entry.1 ∈ rowIds) :
    ReadAlike form (writeAnswer (request.posting first) body binding rows)
      (writeAnswer (request.posting second) body binding rows) := by
  have counted : Within Calm (modify fun page : Page => { page with rowCount := rows.length }) :=
    .step fun _ => .beside rfl rfl
  unfold writeAnswer
  refine (ReadAlike.calm counted).bind fun _ _ _ => Lockstep.get.bind fun page other pages => ?_
  obtain ⟨rfl, kept⟩ := pages
  have keyed : (!page.form.catalog.primaryNames.isEmpty) = !form.catalog.primaryNames.isEmpty := by
    rw [Catalog.primaryNames_eq_of_settled kept.fields]
  dsimp only
  refine .perhaps (ReadAlike.calm (report_calm _ _)) ?_
  refine (writeRows_reads same body binding.table keyed 0 [] rows among).bind
    fun text other texts => ?_
  subst texts
  refine Lockstep.get.bind fun page other pages => ?_
  obtain ⟨rfl, -⟩ := pages
  exact .pure rfl

end Same

/-- A row loop reads of what was posted only what was posted in its rows for fields that can be
posted, and under the name alone for fields of plain text. Two submissions that are the same
there give the same text, or end the section alike, and lead to the same page, whatever else was
posted for the same names or for others.

Proof: a field that can be posted is given its value before it is asked, so it is asked for none;
fields of plain text are what is left for later in a row. -/
theorem row_loops_read_rows (request : Request) (body : String) (page : Page)
    (first second : Submission)
    (same : first.SameInRows second page.form (page.loopRowIds request.connections)) :
    (writeRowLoop (request.posting first) body).run page =
      (writeRowLoop (request.posting second) body).run page := by
  cases bound : page.form.binding with
  | none =>
    rw [writeRowLoop_unbound _ body bound, writeRowLoop_unbound _ body bound]
  | some binding =>
    cases resolved : request.connections.resolve (some binding.connection) with
    | error failure =>
      have unresolved (submission : Submission) :
          (request.posting submission).connections.resolve (some binding.connection) =
            .error failure := resolved
      rw [writeRowLoop_unconnected (unresolved first) body bound,
        writeRowLoop_unconnected (unresolved second) body bound]
    | ok connection =>
      have reached (submission : Submission) :
          (request.posting submission).connections.resolve (some binding.connection) =
            .ok connection := resolved
      rw [writeRowLoop_run (reached first) body bound,
        writeRowLoop_run (reached second) body bound]
      dsimp only
      cases answered : connection.answerTo page.queries (rowsQuery connection binding) with
      | error failure => rfl
      | ok rows =>
        have among : ∀ entry ∈ rowEntries page.form 0 rows,
            entry.1 ∈ page.loopRowIds request.connections := by
          intro entry member
          simp only [loopRowIds, loopRows, bound, resolved, answered, Except.toOption,
            Option.getD_some]
          exact List.mem_map_of_mem member
        cases rows with
        | nil => rfl
        | cons row rest =>
          obtain ⟨values, pages, -⟩ := writeAnswer_reads same body binding (row :: rest) among
            (page.asked (rowsQuery connection binding)) (.refl page.form)
          exact Prod.ext (congrArg Except.ok values) pages

end Reads

/-- A form of remarks for a table: who made them can be changed, what they say is shown. -/
def remarkForm : Form where
  name := "remarks"
  catalog :=
    ⟨[{ field := { name := "person" } }, { field := { name := "note", input := .plaintext } }]⟩
  binding := some { table := "remarks", connection := "appDB" }
  insertTemplate := ""
  editTemplate := ""
  browserValidation := true

/-- One remark is in the table. -/
def remarkConnection : Connection where
  vendor := "sqlite"
  answer := fun _ _ => .ok [⟨[("person", .text "Ada"), ("note", .text "first")]⟩]

/-- The table is to be shown. -/
def remarkRequest : Request where
  kind := .table
  formId := "fid"
  connections :=
    { defaultName := "appDB"
      byName := .ofList [("appDB", remarkConnection)] }
  issuer := fun number => ⟨"cid" ++ Decimal.natText number, "tok" ++ Decimal.natText number⟩

/-- What a remark says. -/
def remarkTag : String := "\x7bfield name=\"note\" display=\"field\"\x7d"

/-- Who made it, and what it says. -/
def remarkBody : String := "\x7bfield name=\"person\"\x7d: " ++ remarkTag

/-- A person that was posted outside of rows has no say in the row. -/
theorem remark_reads_row :
    (Submission.ofPairs [("person", "Grace")]).SameInRows .empty remarkForm
        (loopRowIds { form := remarkForm } remarkRequest.connections) ∧
      (writeRowLoop (remarkRequest.posting (.ofPairs [("person", "Grace")])) remarkBody).run
          { form := remarkForm } =
        (writeRowLoop (remarkRequest.posting .empty) remarkBody).run
          { form := remarkForm } := by
  have same : (Submission.ofPairs [("person", "Grace")]).SameInRows .empty remarkForm
      (loopRowIds { form := remarkForm } remarkRequest.connections) := by
    refine ⟨fun name _ _ _ rowId _ => Submission.rowValue?_of_pair (by decide +kernel) _ _ _, ?_⟩
    intro name widget found plain
    have named : widget.field.name = name := by simpa using List.find?_some found
    have member : widget ∈ remarkForm.catalog.widgets := List.mem_of_find?_eq_some found
    -- Of the two fields only the second is plain text.
    rcases List.mem_pair.mp member with rfl | rfl
    · cases plain
    · subst named
      decide +kernel
  exact ⟨same, row_loops_read_rows remarkRequest _ { form := remarkForm } _ _ same⟩

/-- The remark of the first row as it is shown. -/
def remarkHtml (shown : String) : String :=
  "<span id=\"note_" ++ Form.rowIdentifier (positionKey 0) ++ "\">" ++ shown ++ "</span>"

/-- A remark that was posted outside of rows takes the place of the row's own, although nothing was
posted in any row. -/
theorem posted_remark_hides_cell :
    (∀ name rowId, (Submission.ofPairs [("note", "Hello")]).rowValue? name rowId =
        Submission.empty.rowValue? name rowId) ∧
      ((writeRowLoop (remarkRequest.posting (.ofPairs [("note", "Hello")])) remarkTag).run
          { form := remarkForm }).1.toOption = some (remarkHtml "Hello") ∧
      ((writeRowLoop (remarkRequest.posting .empty) remarkTag).run
          { form := remarkForm }).1.toOption = some (remarkHtml "first") ∧
      remarkHtml "Hello" ≠ remarkHtml "first" := by
  refine ⟨Submission.rowValue?_of_pair (by decide +kernel) _, ?_, ?_, ?_⟩
  · decide +kernel
  · decide +kernel
  · unfold remarkHtml
    generalize Form.rowIdentifier (positionKey 0) = rowId
    simp [← String.toList_inj]

end Page

end Formwork
