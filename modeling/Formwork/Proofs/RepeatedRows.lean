import Formwork.Proofs.LoopFields
import Formwork.Proofs.RowTexts

/-!
# What a row loop repeats

A row loop repeats the text of its body for every row, whatever has been written into
it. Loops over fields are written before loops over rows, so the hidden fields that a
loop over fields writes within a loop over rows are text of its body by then, and are
on the page once for every row.
-/

namespace Formwork.Page

open Text (Plain)

/-! ## A body of plain text -/

section Body

variable (request : Request) {body : String} (plain : Plain body)

include plain

/-- A plain body is the same in every row. -/
theorem writeRow_plain (row : Row) (rowId : String) (page : Page) :
    ((writeRow request body row rowId).run page).1 = body := by
  have texts (tokens : List Token) (each : ∀ token ∈ tokens, ∃ content, token = .text content) :
      tokens.mapM (settlePart request row rowId) =
        (Pure.pure (tokens.map fun token => .settled token.source) : StateM Page _) := by
    induction tokens with
    | nil => rfl
    | cons token rest inductionHypothesis =>
      obtain ⟨⟨content, rfl⟩, others⟩ := List.forall_mem_cons.mp each
      rw [List.mapM_cons, inductionHypothesis others]
      rfl
  have settled (texts : List String) :
      writeAll (texts.map RowPart.settled) (finishPart request) =
        Pure.pure (String.join texts) := by
    induction texts with
    | nil => rfl
    | cons text rest inductionHypothesis =>
      rw [List.map_cons, writeAll_cons, inductionHypothesis, String.join_cons]
      rfl
  have parts : (Token.tokenize body).map (fun token => RowPart.settled token.source) =
      ((Token.tokenize body).map Token.source).map RowPart.settled := by
    rw [List.map_map]
    rfl
  unfold writeRow
  rw [fillRowId_plain rowId plain]
  dsimp only
  rw [texts _ (Token.tokenize_plain plain), pure_bind, parts, settled, pure_bind, run_then]
  exact Token.sources_tokenize body

/-- It is repeated for every row. -/
theorem writeRows_plain (table : String) (keyed : Bool) (position : Nat) (seen : List String)
    (rows : List Row) (page : Page) :
    ((writeRows request body table keyed position seen rows).run page).1 =
      String.join (List.replicate rows.length body) := by
  -- Neither the position, the identifiers seen nor the page has a say in the text.
  induction rows generalizing position seen page with
  | nil => rfl
  | cons row rest inductionHypothesis =>
    rw [List.length_cons, List.replicate_succ, String.join_cons]
    have here (rowId : String) (page : Page) :
        ((writeRow request body row rowId >>= fun written =>
          writeRows request body table keyed (position + 1) (rowId :: seen) rest >>= fun others =>
            Pure.pure (written ++ others) : StateM Page String).run page).1 =
          body ++ String.join (List.replicate rest.length body) := by
      rw [run_then, run_then, run_return, writeRow_plain request plain, inductionHypothesis]
    unfold writeRows
    rw [run_then]
    generalize (recordRow row _).run page = recorded
    dsimp only
    split
    · rw [run_then]
      exact here _ _
    · exact here _ _

/-- A row loop over an answer with rows repeats its body for every row of the answer. -/
theorem writeRowLoop_plain {binding : Binding} {connection : Connection}
    (resolved : request.connections.resolve (some binding.connection) = .ok connection)
    {rows : List Row} (some_ : rows ≠ []) {page : Page}
    (answered : connection.answerTo page.queries (rowsQuery connection binding) = .ok rows)
    (bound : page.form.binding = some binding) :
    ((writeRowLoop request body).run page).1 =
      .ok (String.join (List.replicate rows.length body)) := by
  have all : Plain (String.join (List.replicate rows.length body)) :=
    .join fun text member => (List.mem_replicate.mp member).2 ▸ plain
  have counted (rowCount fieldCount : Nat) :
      fillCounters rowCount fieldCount (String.join (List.replicate rows.length body)) =
        String.join (List.replicate rows.length body) :=
    Token.join_plain all fun _ => rfl
  have written (page : Page) : ((writeAnswer request body binding rows).run page).1 =
      String.join (List.replicate rows.length body) := by
    have here (keyed : Bool) (page : Page) :
        ((writeRows request body binding.table keyed 0 [] rows >>= fun written =>
          MonadState.get >>= fun page =>
            Pure.pure (fillCounters page.rowCount page.fieldCount written) :
              StateM Page String).run page).1 = String.join (List.replicate rows.length body) := by
      rw [run_then, run_then, run_get, run_return, writeRows_plain request plain]
      exact counted _ _
    unfold writeAnswer
    rw [run_then, run_then, run_get]
    dsimp only
    split
    · rw [run_then]
      exact here _ _
    · exact here _ _
  rw [writeRowLoop_filled resolved body bound answered some_]
  exact congrArg Except.ok (written _)

end Body

/-! ## A loop over fields within a loop over rows -/

/-- A loop over fields within a loop over rows. -/
def rowsTemplate : String :=
  "\x7bform\x7d\x7browLoop\x7d\x7bfieldsLoop\x7d\x7b/fieldsLoop\x7d\x7b/rowLoop\x7d\x7b/form\x7d"

/-- The tags in front of the loop over fields. -/
def rowsFront : List Tag := [.written "form" "", .written "rowLoop" ""]

/-- The tags behind it. -/
def rowsBehind : List Tag := [.ended "rowLoop", .ended "form"]

/-- The tags in front are read as they are written. -/
theorem rowsFront_spelled : ∀ mark ∈ rowsFront, mark.Spelled := by
  simp only [rowsFront, List.forall_mem_cons]
  exact ⟨Tag.bare_spelled (by decide), Tag.bare_spelled (by decide), fun _ none => by cases none⟩

/-- So are the tags behind. -/
theorem rowsBehind_spelled : ∀ mark ∈ rowsBehind, mark.Spelled := by
  simp only [rowsBehind, List.forall_mem_cons]
  exact ⟨Tag.ended_spelled (by decide), Tag.ended_spelled (by decide), fun _ none => by cases none⟩

/-- The loop over rows, with its tags. -/
def rowsInner : List Tag :=
  [.written "rowLoop" "", .written "fieldsLoop" "", .ended "fieldsLoop", .ended "rowLoop"]

/-- And all tags of the loop. -/
theorem rowsInner_spelled : ∀ mark ∈ rowsInner, mark.Spelled := by
  simp only [rowsInner, List.forall_mem_cons]
  exact ⟨Tag.bare_spelled (by decide), Tag.bare_spelled (by decide),
    Tag.ended_spelled (by decide), Tag.ended_spelled (by decide), fun _ none => by cases none⟩

/-- The form section around it. -/
theorem rowsTemplate_eq : rowsTemplate = formSection (Tag.sources rowsInner) := by
  decide

/-- The loop over fields in it. -/
theorem rowsTemplate_eq' : rowsTemplate = Tag.sources rowsFront ++
    ((Tag.written "fieldsLoop" "").source ++
      ("" ++ ((Tag.ended "fieldsLoop").source ++ Tag.sources rowsBehind))) := by
  decide

/-- No tag names a field, asks for errors or depends on what the form is for. -/
theorem rowsTemplate_unnamed :
    Node.Unnamed ["field", "ifFormErrors", "formErrors", "ifExpandable", "noShowExpandable"]
      rowsTemplate := by
  rw [rowsTemplate_eq]
  exact formSection_unnamed (Tag.sources_tidy rowsInner_spelled) (by decide)
    (Node.unnamed_of_tags rowsInner_spelled (by decide))

/-- The inputs of the hidden fields that a loop over fields writes. -/
def hiddenInputs (request : Request) (catalog : Catalog) : String :=
  String.join ((hiddenNames request .empty catalog).map (fieldHtml request catalog))

/-- A body without anything stands for no text, for any field. -/
theorem writeFieldsLoop_nothing (request : Request) {page : Page} (fresh : page.emitted = [])
    (distinct : page.form.catalog.names.Nodup) :
    ((writeFieldsLoop request .empty "").run page).1 = hiddenInputs request page.form.catalog ∧
      ((writeFieldsLoop request .empty "").run page).2.form.binding = page.form.binding ∧
      ((writeFieldsLoop request .empty "").run page).2.queries = page.queries := by
  obtain ⟨written, standing⟩ := writeFieldsLoop_run request .empty "" fresh distinct
  have nothing (names : List String) : String.join (names.map (nameFirstTag "")) = "" := by
    induction names with
    | nil => rfl
    | cons name rest inductionHypothesis =>
      rw [List.map_cons, String.join_cons, inductionHypothesis]
      rfl
  rw [nothing, String.append_empty] at written
  refine ⟨written, ?_, ((across_calm request).fieldsLoop .empty "" page).queries⟩
  rw [standing.form]

section Pages

variable (request : Request) {binding : Binding} {connection : Connection} {rows : List Row}
  (resolved : request.connections.resolve (some binding.connection) = .ok connection)
  (some_ : rows ≠ [])

include resolved some_

/-- The row loop repeats the hidden inputs. -/
theorem writeSection_rows {page : Page} (fresh : page.emitted = [])
    (distinct : page.form.catalog.names.Nodup) (plain : page.form.NamesPlain)
    (bound : page.form.binding = some binding)
    (answered : connection.answerTo page.queries (rowsQuery connection binding) = .ok rows) :
    ((writeSection request rowsTemplate).run page).1 = formSection (String.join
      (List.replicate rows.length (Text.trim (hiddenInputs request page.form.catalog)))) := by
  obtain ⟨written, kept, queries⟩ := writeFieldsLoop_nothing request fresh distinct
  have inputs : Plain (hiddenInputs request page.form.catalog) :=
    hidden_plain request .empty plain
  have none : Plain "" := by decide
  have trimmed : Plain (Text.trim (hiddenInputs request page.form.catalog)) := inputs.trim
  have attributes : (Tag.written "fieldsLoop" "").attributes = .empty :=
    Tag.written_attributes (fun _ none => by cases none) "fieldsLoop"
  have nothing : Text.trim "" = "" := by decide
  have looped : (writeFieldsLoops request rowsTemplate).run page =
      ((Tag.written "form" "").source ++ ((Tag.written "rowLoop" "").source ++
        (hiddenInputs request page.form.catalog ++
          ((Tag.ended "rowLoop").source ++ (Tag.ended "form").source))),
        ((writeFieldsLoop request .empty "").run page).2) := by
    rw [rowsTemplate_eq', writeFieldsLoops_section request
      (.of_name (by decide) (Tag.bare_spelled (by decide)))
      (Node.unnamed_of_tags rowsFront_spelled (by decide))
      (Node.unnamed_of_plain none _)
      (Node.unnamed_of_tags rowsBehind_spelled (by decide)), attributes, nothing,
      run_then, run_return, written]
    simp [Tag.sources, rowsFront, rowsBehind, String.append_assoc]
  have repeated := writeRowLoop_plain request trimmed resolved some_ (queries ▸ answered)
    (kept.trans bound)
  unfold writeSection
  rw [Node.settleExpandable_unnamed (rowsTemplate_unnamed.mono (by simp))]
  dsimp only
  rw [run_then, looped]
  dsimp only
  rw [writeRowLoops_section request
    (.of_name (by decide) (Tag.bare_spelled (by decide)))
    (Node.unnamed_written form_spelled (by decide)) (Node.unnamed_of_plain inputs _)
    (Node.unnamed_ended (by decide) (by decide)), run_then, run_then, run_return, repeated]
  rfl

/-- On the page the hidden inputs are repeated for every row of the table. -/
theorem hidden_inputs_per_row (page : Page) (distinct : page.form.catalog.names.Nodup)
    (plain : page.form.NamesPlain) (bound : page.form.binding = some binding)
    (answered : connection.answerTo page.queries (rowsQuery connection binding) = .ok rows) :
    ∃ number, ((render request rowsTemplate).run page).1 = formStart request page.form number
      ++ String.join (List.replicate rows.length
        (Text.trim (hiddenInputs request page.start.form.catalog)))
      ++ formEnd request := by
  have names : page.start.form.catalog.names = page.form.catalog.names :=
    (start_calm page).form.names
  have plain : page.start.form.NamesPlain := plain.kept (start_calm page).form
  have looped := writeSection_rows request resolved some_ rfl (names ▸ distinct) plain bound
    answered
  have errors : Node.Unnamed ["ifFormErrors", "formErrors"] rowsTemplate :=
    rowsTemplate_unnamed.mono (by simp)
  have section_ := render_formSection request
    (Node.unnamed_of_tags rowsInner_spelled (by decide)) (rowsTemplate_eq ▸ errors) page
  rw [← rowsTemplate_eq, looped] at section_
  have kept : page.form.Kept ((writeSection request rowsTemplate).run page.start).2.form :=
    (start_calm page).form.trans (writeSection_within (fun _ _ => Calm.keeping) request
      (writeRowLoop_keeping request) rowsTemplate page.start)
  have trimmed := (hidden_plain request .empty plain).trim
  have repeated : Plain (String.join (List.replicate rows.length
      (Text.trim (hiddenInputs request page.start.form.catalog)))) :=
    .join fun text member => (List.mem_replicate.mp member).2 ▸ trimmed
  rw [section_, writeTags_formSection request repeated.tidy, writeTags_plain request repeated,
    run_then, writeTag_form, run_then, run_return, run_return, formStart_kept request kept]
  exact ⟨_, rfl⟩

end Pages

end Formwork.Page
