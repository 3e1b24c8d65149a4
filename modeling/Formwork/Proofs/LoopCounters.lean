import Formwork.Proofs.AskedOnce
import Formwork.Proofs.PlainMarkup
import Formwork.Proofs.RecordedRows
import Formwork.Proofs.RowTexts
import Formwork.Proofs.SinglePass

/-!
# Whose numbers the counters are

A page has one counter for rows and one for the field tags of a row. Every row loop sets both to
zero before it does anything else, and only a row loop whose answer has rows sets them again: to
the number of rows, and to the number of field tags in the body of the last row. It fills in the
counter tags of its own text at once, in one pass, and what is left of them on the page is filled
in by the last pass. Nothing else touches the counters, so the last pass gives the numbers of the
row loop that was run last. In a body whose braces all belong to tags every row has the field tags
of the body, for the row's identifier neither makes nor breaks one.
-/

namespace Formwork

open Text (Plain Tidy)

/-! ## Texts changed tag by tag -/

/-- A tag of a text is read again from its own source. -/
theorem Tag.marks_source {mark : Tag} {text : String} (among : .tag mark ∈ Token.tokenize text) :
    Text.marks mark.source = [mark] := by
  obtain ⟨front, behind, whole⟩ := List.append_of_mem among
  have alone : [.tag mark] <:+: Token.tokenize text := ⟨front, behind, by rw [whole]; simp⟩
  have marks := Token.marks_infix alone
  rwa [Token.sources_cons, show Token.sources [] = "" from rfl, String.append_empty] at marks

/-- Filling in plain texts for some tags of a tidy text takes these tags out of it, and leaves the
others. -/
theorem Text.marks_fill {text : String} (tidy : Tidy text) {fill : Token → String}
    {filled : Tag → Bool} (texts : ∀ content, fill (.text content) = content)
    (plain : ∀ mark, filled mark = true → Plain (fill (.tag mark)))
    (others : ∀ mark, filled mark = false → fill (.tag mark) = mark.source) :
    Text.marks (String.join ((Token.tokenize text).map fill)) =
      (Text.marks text).filter fun mark => !filled mark := by
  have each : ∀ token ∈ Token.tokenize text, token.Tidy ∧
      ∀ mark, token = .tag mark → Text.marks mark.source = [mark] := by
    refine fun token member => ⟨Token.tidy_of_mem_tokenize tidy token member, ?_⟩
    rintro mark rfl
    exact Tag.marks_source member
  rw [← Token.marks_tokenize text]
  generalize Token.tokenize text = tokens at each
  induction tokens with
  | nil => rfl
  | cons token rest inductionHypothesis =>
    obtain ⟨⟨here, read⟩, behind⟩ := List.forall_mem_cons.mp each
    rw [List.map_cons, String.join_cons]
    cases token with
    | text content =>
      have plain : Plain (fill (.text content)) := by
        rw [texts]
        exact here
      rw [Text.marks_append plain.tidy, plain.marks, inductionHypothesis behind]
      rfl
    | tag mark =>
      rw [List.filterMap_cons, Token.mark?]
      dsimp only
      cases taken : filled mark with
      | true =>
        have plain := plain mark taken
        rw [Text.marks_append plain.tidy, plain.marks, inductionHypothesis behind,
          List.filter_cons_of_neg (by simp [taken]), List.nil_append]
      | false =>
        rw [others mark taken, Text.marks_append here.tidy, read mark rfl,
          inductionHypothesis behind, List.filter_cons_of_pos (by simp [taken])]
        rfl

namespace Page

/-! ## Field tags of a body -/

/-- Field tags are counted among the tags of a text. -/
theorem countFields_tokenize (text : String) :
    countFields (Token.tokenize text) =
      ((Text.marks text).filter fun mark => (rowFieldName? mark).isSome).length := by
  rw [← Token.marks_tokenize, countFields]
  induction Token.tokenize text with
  | nil => rfl
  | cons token rest inductionHypothesis =>
    cases token with
    | text content => exact inductionHypothesis
    | tag mark =>
      rw [List.filter_cons, List.filterMap_cons, Token.mark?]
      dsimp only
      rw [List.filter_cons]
      split
      · exact congrArg (· + 1) inductionHypothesis
      · exact inductionHypothesis

/-- A tag is of one name only. -/
theorem opens_apart {mark : Tag} {name other : String} (opens : mark.opens name = true)
    (apart : name.toLower ≠ other.toLower) : mark.opens other = false := by
  unfold Tag.opens Tag.isNamed Text.sameName at *
  rw [Bool.and_eq_true, beq_iff_eq] at opens
  rw [opens.2, beq_eq_false_iff_ne.mpr apart, Bool.and_false]

/-- Filling in an identifier without braces takes the tags for it out of a tidy body, and leaves
the others. -/
theorem marks_fillRowId {body rowId : String} (tidy : Tidy body) (plain : Plain rowId) :
    Text.marks (fillRowId rowId body) =
      (Text.marks body).filter fun mark => !mark.opens "rowLoopID" := by
  refine Text.marks_fill tidy (fun _ => rfl) (fun mark opens => ?_) fun mark other => ?_
  · dsimp only
    rw [if_pos opens]
    exact plain
  · dsimp only
    rw [if_neg (Bool.not_eq_true _ ▸ other)]

/-- In a body whose braces belong to tags every identifier leaves the field tags of the body. -/
theorem countFields_fillRowId {body : String} (tidy : Tidy body) (key : PrimaryKey) :
    countFields (Token.tokenize (fillRowId (Form.rowIdentifier key) body)) =
      countFields (Token.tokenize body) := by
  rw [countFields_tokenize, countFields_tokenize,
    marks_fillRowId tidy (Form.rowIdentifier_plain key), List.filter_filter]
  congr 1
  refine List.filter_congr fun mark _ => ?_
  -- A tag for the identifier is none for a field.
  cases field : (rowFieldName? mark).isSome with
  | false => rfl
  | true =>
    obtain ⟨name, named⟩ := Option.isSome_iff_exists.mp field
    have opens := (rowFieldName?_eq_some_iff.mp named).1
    rw [opens_apart opens (by decide +kernel)]
    rfl

/-! ## Counter tags -/

/-- The tag is one for a counter. -/
def isCounter (mark : Tag) : Bool := mark.opens "rowCount" || mark.opens "fieldCount"

/-- The text that stands for a token once the counters are filled in. -/
inductive CounterText (rowCount fieldCount : Nat) : Token → String → Prop where
  /-- Text between tags stands for itself. -/
  | text (content : String) : CounterText rowCount fieldCount (.text content) content
  /-- The number of rows stands for the tags that open it. -/
  | rows {mark : Tag} (opens : mark.opens "rowCount" = true) :
      CounterText rowCount fieldCount (.tag mark) (Decimal.natText rowCount)
  /-- The number of field tags stands for the tags that open it. -/
  | fields {mark : Tag} (opens : mark.opens "fieldCount" = true) :
      CounterText rowCount fieldCount (.tag mark) (Decimal.natText fieldCount)
  /-- Every other tag stands for itself. -/
  | other {mark : Tag} (other : isCounter mark = false) :
      CounterText rowCount fieldCount (.tag mark) mark.source

/-- Counters are filled in token by token. -/
theorem fillCounters_texts (rowCount fieldCount : Nat) (text : String) :
    ∃ texts, fillCounters rowCount fieldCount text = String.join texts ∧
      List.Forall₂ (CounterText rowCount fieldCount) (Token.tokenize text) texts := by
  refine ⟨_, rfl, ?_⟩
  rw [List.forall₂_map_right_iff, List.forall₂_same]
  intro token _
  cases token with
  | text content => exact .text content
  | tag mark =>
    dsimp only
    split
    · rename_i opens
      exact .rows opens
    · rename_i noRows
      split
      · rename_i opens
        exact .fields opens
      · rename_i noFields
        exact .other (by simp [isCounter, noRows, noFields])

/-- In a text whose braces belong to tags all counter tags are filled in, and others are left. -/
theorem marks_fillCounters (rowCount fieldCount : Nat) {text : String} (tidy : Tidy text) :
    Text.marks (fillCounters rowCount fieldCount text) =
      (Text.marks text).filter fun mark => !isCounter mark := by
  refine Text.marks_fill tidy (fun _ => rfl) (fun mark counter => ?_) fun mark other => ?_
  · dsimp only
    split
    · exact Decimal.natText_plain rowCount
    · rename_i noRows
      rw [if_pos (by simpa [isCounter, noRows] using counter)]
      exact Decimal.natText_plain fieldCount
  · obtain ⟨noRows, noFields⟩ := Bool.or_eq_false_iff.mp other
    dsimp only
    rw [if_neg (Bool.not_eq_true _ ▸ noRows), if_neg (Bool.not_eq_true _ ▸ noFields)]

/-- So no counter tag is left in it. -/
theorem not_isCounter_of_mem {rowCount fieldCount : Nat} {text : String} (tidy : Tidy text)
    {mark : Tag} (among : .tag mark ∈ Token.tokenize (fillCounters rowCount fieldCount text)) :
    isCounter mark = false := by
  have marks := List.mem_filterMap.mpr ⟨.tag mark, among, (rfl : Token.mark? _ = some mark)⟩
  rw [Token.marks_tokenize, marks_fillCounters _ _ tidy] at marks
  simpa using (List.mem_filter.mp marks).2

/-! ## One row loop -/

/-- The numbers of rows and of field tags of the last row loop. -/
def counters (page : Page) : Nat × Nat := (page.rowCount, page.fieldCount)

/-- The number of rows stays. -/
def SameRowCount (before after : Page) : Prop := after.rowCount = before.rowCount

instance : IsPreorder Page SameRowCount where
  refl _ := rfl
  trans _ _ _ left right := Eq.trans right left

/-- Rows are written without counting them. -/
theorem across_sameRowCount (request : Request) : AcrossRows request SameRowCount where
  reports _ _ := rfl
  presents _ _ := rfl
  counts _ _ := rfl
  records _ _ _ := rfl
  warns _ _ := rfl

/-- The field tags of a row are counted. -/
theorem writeRow_fieldCount (request : Request) (body : String) (row : Row) (rowId : String)
    (page : Page) :
    ((writeRow request body row rowId).run page).2.fieldCount =
      countFields (Token.tokenize (fillRowId rowId body)) := by
  unfold writeRow
  simp only [run_then, run_modify, run_return]

/-- The field tags of the row that is written last are counted. -/
theorem writeRows_fieldCount (request : Request) (body table : String) {keyed : Bool}
    (position : Nat) (seen : List String) {rows : List Row} (page : Page)
    (is : keyed = !page.form.catalog.primaryNames.isEmpty) {last : String}
    (there : (identifiersOf page.form position rows).getLast? = some last) :
    ((writeRows request body table keyed position seen rows).run page).2.fieldCount =
      countFields (Token.tokenize (fillRowId last body)) := by
  induction rows generalizing position seen page with
  | nil => cases there
  | cons row rest inductionHypothesis =>
    obtain ⟨noted, written, step, still, others, behind, ran⟩ :=
      writeRows_cons_run request body table position seen row rest page is
    rw [ran, ← behind]
    rw [identifiersOf_cons] at there
    cases rest with
    | nil =>
      rw [show identifiersOf page.form (position + 1) [] = [] from rfl,
        List.getLast?_singleton] at there
      rw [writeRows, run_return, ← step.shown, writeRow_fieldCount, Option.some.inj there]
    | cons other others =>
      rw [identifiersOf_cons, List.getLast?_cons_cons] at there
      refine inductionHypothesis _ _ _ still ?_
      rw [identifiersOf_kept step.kept, identifiersOf_cons]
      exact there

/-- What a row loop has written for the rows of an answer before it fills in the counters. -/
def rowsText (request : Request) (body : String) (binding : Binding) (rows : List Row)
    (page : Page) : String :=
  ((writeRows request body binding.table (!page.form.catalog.primaryNames.isEmpty) 0 [] rows).run
    (page.answering rows)).1

/-- What a row loop counts in an answer with rows, and where it writes the numbers. -/
structure AnswerCounted (request : Request) (body : String) (binding : Binding) (rows : List Row)
    (page : Page) (text : String) (after : Page) : Prop where
  /-- The rows are counted. -/
  rowCount : after.rowCount = rows.length
  /-- So are the field tags of the body with the identifier of the last row. -/
  fieldCount : ∃ last, (identifiersOf page.form 0 rows).getLast? = some last ∧
    after.fieldCount = countFields (Token.tokenize (fillRowId last body))
  /-- They are as many in every row if the text between the tags of the body holds no brace. -/
  same : (∀ content, .text content ∈ Token.tokenize body → Plain content) →
    ∀ identifier ∈ identifiersOf page.form 0 rows,
      countFields (Token.tokenize (fillRowId identifier body)) = after.fieldCount
  /-- The numbers stand for all counter tags of the rows. -/
  filled : ∃ texts, text = String.join texts ∧
    List.Forall₂ (CounterText after.rowCount after.fieldCount)
      (Token.tokenize (rowsText request body binding rows page)) texts
  /-- No counter tag is left if the text between the tags of the rows holds no brace. -/
  settled : (∀ content, .text content ∈ Token.tokenize (rowsText request body binding rows page) →
    Plain content) → ∀ mark, .tag mark ∈ Token.tokenize text → isCounter mark = false

/-- Every identifier is that of a key. -/
theorem exists_key_of_mem {form : Form} {rows : List Row} {identifier : String} {position : Nat}
    (member : identifier ∈ identifiersOf form position rows) :
    ∃ key, identifier = Form.rowIdentifier key := by
  induction rows generalizing position with
  | nil => cases member
  | cons row rest inductionHypothesis =>
    rw [identifiersOf_cons] at member
    rcases List.mem_cons.mp member with rfl | behind
    · exact ⟨_, rfl⟩
    · exact inductionHypothesis behind

/-- An answer with rows is counted. -/
theorem writeAnswer_counted (request : Request) (body : String) (binding : Binding)
    {rows : List Row} (some_ : rows ≠ []) (page : Page) :
    AnswerCounted request body binding rows page
      ((writeAnswer request body binding rows).run page).1
      ((writeAnswer request body binding rows).run page).2 := by
  have nonempty : identifiersOf page.form 0 rows ≠ [] := fun none => some_ (by
    rw [← List.length_eq_zero_iff, ← length_identifiersOf page.form 0, none, List.length_nil])
  obtain ⟨last, there⟩ : ∃ last, (identifiersOf page.form 0 rows).getLast? = some last :=
    ⟨_, List.getLast?_eq_some_getLast nonempty⟩
  have fields : ((writeRows request body binding.table
      (!page.form.catalog.primaryNames.isEmpty) 0 [] rows).run (page.answering rows)).2.fieldCount =
        countFields (Token.tokenize (fillRowId last body)) :=
    writeRows_fieldCount request body binding.table 0 [] (page.answering rows) rfl there
  have total := (across_sameRowCount request).rows body binding.table
    (!page.form.catalog.primaryNames.isEmpty) 0 [] rows (page.answering rows)
  rw [writeAnswer_run]
  refine ⟨total, ⟨last, there, fields⟩, fun plain identifier member => ?_,
    fillCounters_texts _ _ _, fun plain mark among => ?_⟩
  · have tidy := Token.tidy_of_tokens plain
    obtain ⟨key, rfl⟩ := exists_key_of_mem member
    obtain ⟨lastKey, rfl⟩ := exists_key_of_mem (List.mem_of_getLast? there)
    dsimp only
    rw [fields, countFields_fillRowId tidy, countFields_fillRowId tidy]
  · exact not_isCounter_of_mem (Token.tidy_of_tokens plain) among

/-- What a row loop comes to on a page, and what it counts there. -/
inductive LoopCounted (request : Request) (body : String) (page : Page) :
    Except Failure String × Page → Prop where
  /-- The form has no table: nothing is written. -/
  | unbound {after : Page} (unbound : page.form.binding = none) (zero : counters after = (0, 0)) :
      LoopCounted request body page (.ok "", after)
  /-- The table has no connection: nothing is written. -/
  | unconnected {binding : Binding} {failure : Failure} {after : Page}
      (bound : page.form.binding = some binding)
      (unresolved : request.connections.resolve (some binding.connection) = .error failure)
      (zero : counters after = (0, 0)) : LoopCounted request body page (.ok "", after)
  /-- The query fails: the user is told. -/
  | failed {binding : Binding} {connection : Connection} {failure : Failure} {after : Page}
      (bound : page.form.binding = some binding)
      (resolved : request.connections.resolve (some binding.connection) = .ok connection)
      (failed : connection.answerTo page.queries (rowsQuery connection binding) = .error failure)
      (zero : counters after = (0, 0)) :
      LoopCounted request body page (.ok (Failure.query failure.message).userMessage, after)
  /-- The answer has no rows: the section ends. -/
  | empty {binding : Binding} {connection : Connection} {after : Page}
      (bound : page.form.binding = some binding)
      (resolved : request.connections.resolve (some binding.connection) = .ok connection)
      (answered : connection.answerTo page.queries (rowsQuery connection binding) = .ok [])
      (zero : counters after = (0, 0)) :
      LoopCounted request body page (.error (.emptyResult noRecords), after)
  /-- The answer has rows: they are counted. -/
  | rows {binding : Binding} {connection : Connection} {rows : List Row} {text : String}
      {after : Page} (bound : page.form.binding = some binding)
      (resolved : request.connections.resolve (some binding.connection) = .ok connection)
      (answered : connection.answerTo page.queries (rowsQuery connection binding) = .ok rows)
      (filled : rows ≠ [])
      (counted : AnswerCounted request body binding rows
        (page.asked (rowsQuery connection binding)) text after) :
      LoopCounted request body page (.ok text, after)

/-- Every row loop comes to one of these. -/
theorem writeRowLoop_counted (request : Request) (body : String) (page : Page) :
    LoopCounted request body page ((writeRowLoop request body).run page) := by
  cases bound : page.form.binding with
  | none =>
    rw [writeRowLoop_unbound request body bound]
    exact .unbound bound rfl
  | some binding =>
    cases resolved : request.connections.resolve (some binding.connection) with
    | error failure =>
      rw [writeRowLoop_unconnected resolved body bound]
      exact .unconnected bound resolved rfl
    | ok connection =>
      rw [writeRowLoop_run resolved body bound]
      dsimp only
      split
      · rename_i failure failed
        exact .failed bound resolved failed rfl
      · rename_i answered
        exact .empty bound resolved answered rfl
      · rename_i rows filled answered
        exact .rows bound resolved answered filled
          (writeAnswer_counted request body binding filled _)

/-! ## The row loops of a page -/

/-- A row loop that is run: its body, and the page as it is then. -/
structure LoopRun where
  /-- The body. -/
  body : String
  /-- The page before it. -/
  page : Page

/-- What it comes to, and the page after it. -/
def LoopRun.outcome (request : Request) (run : LoopRun) : Except Failure String × Page :=
  (writeRowLoop request run.body).run run.page

/-- The row loops that are run for nodes of a section, up to one that ends the section. -/
def nodesRuns (request : Request) : List Node → Page → List LoopRun
  | [], _ => []
  | .section _ children _ :: rest, page =>
    let run : LoopRun := ⟨Text.trim (Node.sources children), page⟩
    match run.outcome request with
    | (.error _, _) => [run]
    | (.ok _, after) => run :: nodesRuns request rest after
  | .text _ :: rest, page | .tag _ :: rest, page => nodesRuns request rest page

/-- The row loops that are run for a form section, once its loops over fields are written. -/
def sectionRuns (request : Request) (source : String) (page : Page) : List LoopRun :=
  let settled := Node.settleExpandable request.options.expandable source
  let looped := (writeFieldsLoops request settled).run page
  nodesRuns request (Node.parse ["rowLoop"] looped.1) looped.2

/-- The row loops that are run for the form sections among nodes. -/
def sectionsRuns (request : Request) : List Node → Page → List LoopRun
  | [], _ => []
  | .section opening children closing :: rest, page =>
    let source := Node.source (.section opening children closing)
    sectionRuns request source page ++
      sectionsRuns request rest ((writeSection request source).run page).2
  | .text _ :: rest, page | .tag _ :: rest, page => sectionsRuns request rest page

/-- The row loops that are run for a page, in order. -/
def loopRuns (request : Request) (template : String) (page : Page) : List LoopRun :=
  let errors := page.start.diagnostics.errorsHtml (page.start.form.errorScope request.kind)
  sectionsRuns request (Node.parse ["form"] (Node.settleErrors errors template)) page.start

/-- The counters of the page after the last of the row loops, or else the given ones. -/
def lastCounters (request : Request) (given : Nat × Nat) (runs : List LoopRun) : Nat × Nat :=
  (runs.getLast?.map fun run => counters (run.outcome request).2).getD given

/-- Later row loops have the last word. -/
theorem lastCounters_append (request : Request) (given : Nat × Nat) (first later : List LoopRun) :
    lastCounters request given (first ++ later) =
      lastCounters request (lastCounters request given first) later := by
  unfold lastCounters
  rw [List.getLast?_append]
  cases later.getLast? with
  | none => rfl
  | some run => rfl

/-- A single row loop has the last word. -/
theorem lastCounters_cons (request : Request) (given : Nat × Nat) (run : LoopRun)
    (later : List LoopRun) :
    lastCounters request given (run :: later) =
      lastCounters request (counters (run.outcome request).2) later :=
  lastCounters_append request given [run] later

/-- The counters stay. -/
def SameCounters (before after : Page) : Prop := counters after = counters before

instance : IsPreorder Page SameCounters where
  refl _ := rfl
  trans _ _ _ left right := Eq.trans right left

/-- Nothing that pages do outside of rows touches the counters. -/
theorem across_sameCounters (request : Request) : AcrossTags request SameCounters where
  reports _ _ := rfl
  presents _ _ := rfl
  marks _ page := by
    change counters (if _ then page else _) = counters page
    split
    · rfl
    · rfl
  issues _ := rfl

/-- The row loops of a section leave the counters of the last one. -/
theorem writeRowLoopsAll_counters (request : Request) (nodes : List Node) (page : Page) :
    counters ((writeRowLoopsAll request nodes).run page).2 =
      lastCounters request (counters page) (nodesRuns request nodes page) := by
  induction nodes generalizing page with
  | nil => rfl
  | cons node rest inductionHypothesis =>
    cases node with
    | text content =>
      rw [writeRowLoopsAll_text]
      exact inductionHypothesis page
    | tag mark =>
      rw [writeRowLoopsAll_tag]
      exact inductionHypothesis page
    | «section» opening children closing =>
      rw [writeRowLoopsAll_section, run_then, nodesRuns]
      dsimp only [LoopRun.outcome]
      generalize ran : (writeRowLoop request (Text.trim (Node.sources children))).run page =
        outcome
      obtain ⟨written, after⟩ := outcome
      cases written with
      | error failure =>
        simp only [lastCounters_cons, LoopRun.outcome, ran]
        rfl
      | ok text =>
        simp only [lastCounters_cons, LoopRun.outcome, ran]
        exact inductionHypothesis after

/-- So does a form section. -/
theorem writeSection_counters (request : Request) (source : String) (page : Page) :
    counters ((writeSection request source).run page).2 =
      lastCounters request (counters page) (sectionRuns request source page) := by
  have looped := (across_sameCounters request).fieldsLoops
    (Node.settleExpandable request.options.expandable source) page
  change counters _ = counters page at looped
  unfold writeSection writeRowLoops sectionRuns
  dsimp only
  rw [run_then, run_then, ← looped, ← writeRowLoopsAll_counters]
  generalize (writeRowLoopsAll request _).run _ = outcome
  obtain ⟨written, after⟩ := outcome
  cases written with
  | error failure => rfl
  | ok text => rfl

/-- Writes a node of a page, if it is a form section. -/
def writeNode (request : Request) : Node → StateM Page String
  | .section opening children closing =>
    writeSection request (Node.source (.section opening children closing))
  | .text content => return content
  | .tag mark => return mark.source

/-- The form sections of a text are written node by node. -/
theorem writeSections_eq (request : Request) (source : String) :
    writeSections request source = writeAll (Node.parse ["form"] source) (writeNode request) := by
  unfold writeSections
  congr 1
  funext node
  cases node with
  | text content => rfl
  | tag mark => rfl
  | «section» opening children closing => rfl

/-- The form sections of a page leave the counters of their last row loop. -/
theorem writeNodes_counters (request : Request) (nodes : List Node) (page : Page) :
    counters ((writeAll nodes (writeNode request)).run page).2 =
      lastCounters request (counters page) (sectionsRuns request nodes page) := by
  induction nodes generalizing page with
  | nil => rfl
  | cons node rest inductionHypothesis =>
    rw [writeAll_cons, run_then, run_then, run_return]
    cases node with
    | text content => exact inductionHypothesis page
    | tag mark => exact inductionHypothesis page
    | «section» opening children closing =>
      rw [inductionHypothesis, sectionsRuns, lastCounters_append, ← writeSection_counters,
        writeNode]

/-- The passes before the last one leave the counters of the last row loop. -/
theorem writeLoops_counters (request : Request) (template : String) (page : Page) :
    counters ((writeLoops request template).run page).2 =
      lastCounters request (counters page) (loopRuns request template page) := by
  unfold writeLoops loopRuns
  rw [run_then, run_then, run_modify, run_get]
  dsimp only
  rw [writeSections_eq, writeNodes_counters]
  rfl

/-! ## The last pass -/

/-- An opening tag has its name as its key. -/
theorem key_of_opens {mark : Tag} {name : String} (opens : mark.opens name = true) :
    mark.key = name.toLower := by
  unfold Tag.opens Tag.isNamed Text.sameName at opens
  rw [Bool.and_eq_true, Bool.not_eq_true', beq_iff_eq] at opens
  rw [Tag.key, if_neg (Bool.not_eq_true _ ▸ opens.1), opens.2]

/-- A counter tag stands for its number. -/
def CounterShown (numbers : Nat × Nat) (token : Token) (shown : String) : Prop :=
  ∀ mark, token = .tag mark →
    (mark.opens "rowCount" = true → shown = Decimal.natText numbers.1) ∧
      (mark.opens "fieldCount" = true → shown = Decimal.natText numbers.2)

/-- The last pass writes the counters of its page. -/
theorem writeToken_counter (request : Request) (token : Token) (page : Page) :
    CounterShown (counters page) token ((writeToken request token).run page).1 := by
  rintro mark rfl
  constructor
  · intro opens
    have key : mark.key = "rowcount" := (key_of_opens opens).trans (by decide +kernel)
    unfold writeToken writeTag
    dsimp only
    rw [key]
    rfl
  · intro opens
    have key : mark.key = "fieldcount" := (key_of_opens opens).trans (by decide +kernel)
    unfold writeToken writeTag
    dsimp only
    rw [key]
    rfl

/-- It gives all counter tags of its text the same numbers. -/
theorem writeTags_counters (request : Request) (source : String) (page : Page) :
    ∃ texts, ((writeTags request source).run page).1 = String.join texts ∧
      List.Forall₂ (CounterShown (counters page)) (Token.tokenize source) texts := by
  have before (first later : Page) (token : Token) (shown : String)
      (same : SameCounters first later) (there : CounterShown (counters later) token shown) :
      CounterShown (counters first) token shown := same ▸ there
  have within (token : Token) : Within SameCounters (writeToken request token) := by
    cases token with
    | text content => exact .pure _
    | tag mark => exact (across_sameCounters request).tag mark
  exact ⟨_, rfl, Within.mapM_values before within (writeToken_counter request) _ page⟩

/-- The counters of a page belong to the row loop that was run last. Every row loop sets both to
zero, and leaves them so unless its answer has rows: then they are the number of rows and the
number of field tags in the body of the last row, which is that of every row if the text of the
body holds no brace. In one pass these numbers stand for all counter tags that its rows have
written, and no counter tag is left where the text between their tags holds no brace. All counter
tags that are still on the page when its last pass begins stand for the numbers of the row loop
that was run last, or, where none was run, for those that the page began with. -/
theorem counters_of_last_loop (request : Request) (template : String) (page : Page) :
    (∀ body before, LoopCounted request body before ((writeRowLoop request body).run before)) ∧
      render request template = writeLoops request template >>= writeTags request ∧
      ∃ texts, ((render request template).run page).1 = String.join texts ∧
        List.Forall₂
          (CounterShown (lastCounters request (counters page) (loopRuns request template page)))
          (Token.tokenize ((writeLoops request template).run page).1) texts ∧
        counters ((render request template).run page).2 =
          lastCounters request (counters page) (loopRuns request template page) := by
  refine ⟨writeRowLoop_counted request, render_eq request template, ?_⟩
  rw [render_eq, run_then, ← writeLoops_counters]
  obtain ⟨texts, joined, shown⟩ := writeTags_counters request
    ((writeLoops request template).run page).1 ((writeLoops request template).run page).2
  exact ⟨texts, joined, shown, (across_sameCounters request).tags _ _⟩

/-- The table is to be shown, with a person in it when it is asked for the first time and then
with none. -/
def fleetingRequest : Request :=
  { markRequest with
    connections :=
      { defaultName := "appDB"
        byName := .ofList [("appDB",
          { vendor := "sqlite"
            answer := fun _ _ => .ok [⟨[("id", .int 1)]⟩]
            later := fun asked first => if asked.length = 1 then first else .ok [] })] } }

/-- A form section with a row loop. -/
def loopSection : String := "\x7bform\x7d\x7browLoop\x7d.\x7b/rowLoop\x7d\x7b/form\x7d"

-- The second row loop ends its section, and the counter behind both is its own.
example :
    ((render fleetingRequest (loopSection ++ loopSection ++ "\x7browCount\x7d")).run
      { form := markForm }).1 = formStart fleetingRequest markForm 1 ++ "." ++ noRecords ++ "0" := by
  decide +kernel

/-! ## A tag that a number completes -/

/-- A counter tag that is only complete once the counter tag in it has its number. -/
def nestedBody : String := "\x7bfieldCount \x7bfieldCount\x7d\x7d"

/-- A row loop over it, and another one with a field tag. -/
def nestedTemplate : String :=
  "\x7bform\x7d\x7browLoop\x7d" ++ nestedBody ++ "\x7b/rowLoop\x7d"
    ++ "\x7browLoop\x7d\x7bfield name=\"x\"\x7d\x7b/rowLoop\x7d\x7b/form\x7d"

/-- The table is to be shown, with one person in it. -/
def singleRequest : Request :=
  { markRequest with
    connections :=
      { defaultName := "appDB"
        byName := .ofList [("appDB",
          { vendor := "sqlite", answer := fun _ _ => .ok [⟨[("id", .int 1)]⟩] })] } }

/-- The numbers of a row loop do not stand for all counter tags of what it has written, as a tag
that they complete is left: the page shows it with the number of the next row loop. -/
theorem completed_counter_left :
    (¬ ∀ (request : Request) (body : String) (page : Page) (text : String),
      ((writeRowLoop request body).run page).1.toOption = some text →
        ∀ mark, .tag mark ∈ Token.tokenize text → isCounter mark = false) ∧
      ((writeRowLoop singleRequest nestedBody).run { form := markForm }).2.fieldCount = 0 ∧
      ((render singleRequest nestedTemplate).run { form := markForm }).1 =
        formStart singleRequest markForm 1 ++ "1" := by
  refine ⟨fun settled => ?_, by decide +kernel, by decide +kernel⟩
  have written : ((writeRowLoop singleRequest nestedBody).run { form := markForm }).1.toOption =
      some "\x7bfieldCount 0\x7d" := by decide +kernel
  have counter := settled singleRequest nestedBody { form := markForm } _ written
    ⟨"fieldCount", false, "0", "\x7bfieldCount 0\x7d"⟩ (by decide +kernel)
  exact absurd counter (by decide +kernel)

end Page

end Formwork
