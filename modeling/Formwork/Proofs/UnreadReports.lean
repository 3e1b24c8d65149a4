import Formwork.Proofs.Abreast
import Formwork.Proofs.PageFrame
import Mathlib.Data.List.Forall2

/-!
# Pages do not read reports

What goes wrong while a page is written is reported, and the page itself shows at
most a notice. Writing a page adds reports and never reads them: from pages that
differ only in the reasons that failed queries were reported with, every writer
gives the same text and leads to such pages again. Only a loop over rows looks at
the connections, and of a query that fails it shows the same notice whatever the
reason. Two pages on connections that give the same rows are therefore written
abreast.
-/

namespace Formwork

/-! ## Connections and reports that differ in reasons -/

/-- The report that a query failed. -/
def Report.failedQuery (failure : Failure) (sql : String) : Report :=
  ⟨.high, s!"SQL Error: {failure.message} ({sql})"⟩

/-- Two reports are the same, or both say that the same query failed, each with a
reason of its own. -/
inductive Report.SameButReason : Report → Report → Prop where
  /-- The same report. -/
  | same (report : Report) : SameButReason report report
  /-- The same query failed. -/
  | failed (reason other : Failure) (sql : String) :
    SameButReason (failedQuery reason sql) (failedQuery other sql)

/-- The same is wrong with the input of forms, and reports differ at most in the
reasons that queries failed for. -/
structure Diagnostics.Alike (left right : Diagnostics) : Prop where
  /-- The same is wrong with the input of forms. -/
  inputErrors : left.inputErrors = right.inputErrors
  /-- Reports differ at most in reasons. -/
  reports : List.Forall₂ Report.SameButReason left.reports right.reports

namespace Diagnostics

/-- Diagnostics are like themselves. -/
theorem Alike.refl (diagnostics : Diagnostics) : diagnostics.Alike diagnostics := by
  constructor
  · rfl
  · exact List.forall₂_same.mpr fun report _ => .same report

/-- One more report that is the same but for its reason. -/
theorem Alike.add {left right : Diagnostics} (alike : left.Alike right) {report report' : Report}
    (same : report.SameButReason report') :
    Alike { left with reports := left.reports ++ [report] }
      { right with reports := right.reports ++ [report'] } := by
  constructor
  · exact alike.inputErrors
  · exact List.rel_append alike.reports (.cons same .nil)

/-- Reporting the same keeps diagnostics alike. -/
theorem Alike.report {left right : Diagnostics} (alike : left.Alike right) (level : Level)
    (message : String) : (left.report level message).Alike (right.report level message) :=
  alike.add (.same _)

/-- Reporting the same failure keeps diagnostics alike. -/
theorem Alike.reportFailure {left right : Diagnostics} (alike : left.Alike right)
    (failure : Failure) : (left.reportFailure failure).Alike (right.reportFailure failure) := by
  unfold Diagnostics.reportFailure
  split <;> exact alike.report _ _

/-- What is shown beside the form is the same. -/
theorem Alike.errorsHtml {left right : Diagnostics} (alike : left.Alike right) (scope : String) :
    left.errorsHtml scope = right.errorsHtml scope := by
  simp only [Diagnostics.errorsHtml, errorsIn, alike.inputErrors]

end Diagnostics

/-- Two connections select the same rows by every query, whatever was asked before it,
and where one fails the other fails as well, for a reason of its own. -/
structure Connection.SameRows (left right : Connection) : Prop where
  /-- Names are quoted in the same way. -/
  quotationMark : left.quotationMark = right.quotationMark
  /-- The same rows are selected. -/
  rows : ∀ earlier query,
    (left.answerTo earlier query).toOption = (right.answerTo earlier query).toOption

/-- The same names stand for connections that select the same rows. -/
structure Connections.SameRows (left right : Connections) : Prop where
  /-- The same connection is the default. -/
  defaultName : left.defaultName = right.defaultName
  /-- Under every name both have a connection that selects the same rows, or none. -/
  byName : ∀ name, Option.Rel Connection.SameRows (left.byName.get? name) (right.byName.get? name)

/-- Connections that select the same rows answer with the same rows, or both fail. -/
theorem Connection.SameRows.answerTo {left right : Connection} (same : left.SameRows right)
    (earlier : List Query) (query : Query) :
    (∃ rows, left.answerTo earlier query = .ok rows ∧ right.answerTo earlier query = .ok rows) ∨
      ∃ reason other, left.answerTo earlier query = .error reason ∧
        right.answerTo earlier query = .error other := by
  have rows := same.rows earlier query
  cases first : left.answerTo earlier query with
  | ok selected =>
    cases second : right.answerTo earlier query with
    | ok others =>
      rw [first, second] at rows
      obtain rfl : selected = others := Option.some.inj rows
      exact .inl ⟨selected, rfl, rfl⟩
    | error other =>
      rw [first, second] at rows
      cases rows
  | error reason =>
    cases second : right.answerTo earlier query with
    | ok others =>
      rw [first, second] at rows
      cases rows
    | error other => exact .inr ⟨reason, other, rfl, rfl⟩

/-- Connections are found together, or neither is. -/
theorem Connections.SameRows.resolve {left right : Connections} (same : left.SameRows right)
    (name : Option String) :
    (∃ connection other, left.resolve name = .ok connection ∧ right.resolve name = .ok other ∧
      connection.SameRows other) ∨
      ∃ failure, left.resolve name = .error failure ∧ right.resolve name = .error failure := by
  have there := same.byName (name.getD right.defaultName)
  simp only [Connections.resolve, effectiveName, same.defaultName]
  cases first : left.byName.get? (name.getD right.defaultName) with
  | none =>
    cases second : right.byName.get? (name.getD right.defaultName) with
    | none => exact .inr ⟨_, rfl, rfl⟩
    | some other =>
      rw [first, second] at there
      cases there
  | some connection =>
    cases second : right.byName.get? (name.getD right.defaultName) with
    | none =>
      rw [first, second] at there
      cases there
    | some other =>
      rw [first, second] at there
      cases there with
      | some same => exact .inl ⟨connection, other, rfl, rfl, same⟩

/-! ## Pages that differ in reasons -/

namespace Page

/-- The page with other diagnostics. -/
def diagnosed (page : Page) (diagnostics : Diagnostics) : Page := { page with diagnostics }

/-- It has the same form. -/
@[simp] theorem diagnosed_form (page : Page) (diagnostics : Diagnostics) :
    (page.diagnosed diagnostics).form = page.form := rfl

/-- Nothing but reports differs, and these at most in reasons. -/
structure Alike (left right : Page) : Prop where
  /-- Besides its diagnostics the page is the same. -/
  rest : right = left.diagnosed right.diagnostics
  /-- Diagnostics differ at most in reasons. -/
  diagnostics : left.diagnostics.Alike right.diagnostics

/-- A writer that does not look at reports. -/
def Blind {α : Type} (writer : StateM Page α) : Prop := Abreast Alike writer writer

namespace Blind

variable {α β : Type}

/-- A writer that only gives a value. -/
theorem pure (value : α) : Blind (Pure.pure value) := Abreast.pure value

/-- One writer after another. -/
theorem bind {first : StateM Page α} {next : α → StateM Page β} (left : Blind first)
    (right : ∀ value, Blind (next value)) : Blind (first >>= next) :=
  Abreast.bind left right

/-- Reading what does not depend on the diagnostics. -/
theorem get {next : Page → StateM Page α}
    (reads : ∀ page diagnostics, next (diagnosed page diagnostics) = next page)
    (rest : ∀ page, Blind (next page)) : Blind (MonadState.get >>= next) := by
  apply Abreast.get
  intro page other alike
  rw [alike.rest, reads]
  exact rest page

/-- Changing what stands beside the diagnostics. -/
theorem step {change : Page → Page}
    (beside : ∀ page diagnostics,
      change (diagnosed page diagnostics) = (change page).diagnosed diagnostics) :
    Blind (modify change) := by
  apply Abreast.step
  intro page other alike
  have kept : (change page).diagnostics = page.diagnostics := by
    have whole := congrArg Page.diagnostics (beside page page.diagnostics)
    exact whole
  rw [alike.rest, beside]
  constructor
  · rfl
  · rw [kept]
    exact alike.diagnostics

/-- Reading and changing what stands beside the diagnostics. -/
theorem replace {change : Page → Page} {next : Page → StateM Page α}
    (beside : ∀ page diagnostics,
      change (diagnosed page diagnostics) = (change page).diagnosed diagnostics)
    (reads : ∀ page diagnostics, next (diagnosed page diagnostics) = next page)
    (rest : ∀ page, Blind (next page)) :
    Blind (do let page ← MonadState.get; set (change page); next page) := by
  apply Abreast.replace
  · intro page other alike
    exact (step beside page other alike).2
  · intro page other alike
    rw [alike.rest, reads]
    exact rest page

/-- One writer for each item of a list. -/
theorem writeAll (items : List α) {write : α → StateM Page String}
    (each : ∀ item, Blind (write item)) : Blind (writeAll items write) :=
  bind (Abreast.mapM items each) fun _ => pure _

end Blind

/-! ## Fields and tags -/

/-- Reporting adds the same report to both pages. -/
theorem report_blind (level : Level) (message : String) : Blind (report level message) := by
  apply Abreast.step
  intro page other alike
  rw [alike.rest]
  exact ⟨rfl, alike.diagnostics.report level message⟩

/-- Noting that a field was emitted does not look at reports. -/
theorem markEmitted_blind (name : String) : Blind (markEmitted name) := by
  apply Blind.step
  intro page diagnostics
  by_cases emitted : page.isEmitted name = true
  · have same : (page.diagnosed diagnostics).isEmitted name = true := emitted
    rw [if_pos emitted, if_pos same]
  · have same : ¬ (page.diagnosed diagnostics).isEmitted name = true := emitted
    rw [if_neg emitted, if_neg same]
    rfl

/-- Neither does presenting a field. -/
theorem present_blind (request : Request) (name : String) : Blind (present request name) :=
  .bind (.step fun _ _ => rfl) fun _ => .get (fun _ _ => rfl) fun _ => .pure _

/-- A field is written without looking at reports. -/
theorem writeField_blind (request : Request) (source name : String) (attributes : Attributes)
    (value : Option String) : Blind (writeField request source name attributes value) := by
  unfold writeField
  refine .bind (present_blind request name) fun shown => ?_
  split
  · exact .bind (report_blind _ _) fun _ => .pure _
  · split
    · exact .pure _
    · exact .pure _
    · exact .pure _
    · exact .bind (report_blind _ _) fun _ => .pure _

/-- So is a whole field. -/
theorem writeWhole_blind (request : Request) (name : String) : Blind (writeWhole request name) :=
  .bind (writeField_blind request "" name .empty none) fun _ =>
    .bind (markEmitted_blind name) fun _ => .pure _

/-- So is a loop over fields. -/
theorem writeFieldsLoop_blind (request : Request) (attributes : Attributes) (body : String) :
    Blind (writeFieldsLoop request attributes body) := by
  unfold writeFieldsLoop
  dsimp only
  split
  · refine .get (fun _ _ => rfl) fun page => ?_
    refine .bind (.writeAll _ (writeWhole_blind request)) fun hidden => ?_
    exact .get (fun _ _ => rfl) fun _ => .pure _
  · exact .bind (.pure _) fun _ => .get (fun _ _ => rfl) fun _ => .pure _

/-- So are all loops over fields. -/
theorem writeFieldsLoops_blind (request : Request) (source : String) :
    Blind (writeFieldsLoops request source) := by
  apply Blind.writeAll
  intro node
  split
  · exact writeFieldsLoop_blind request _ _
  · exact .pure _

/-- So is the start of the form. -/
theorem writeFormStart_blind (request : Request) (attributes : Attributes) :
    Blind (writeFormStart request attributes) := by
  unfold writeFormStart
  dsimp only
  refine .replace (fun _ _ => rfl) (fun _ _ => rfl) fun page => ?_
  split
  · exact .bind (.writeAll _ (writeWhole_blind request)) fun _ => .pure _
  · exact .bind (.pure _) fun _ => .pure _

/-- So are the fields that a tag stands for. -/
theorem writeFields_blind (request : Request) (attributes : Attributes) :
    Blind (writeFields request attributes) := by
  unfold writeFields
  dsimp only
  split
  · exact .bind (report_blind _ _) fun _ => .pure _
  · refine .get (fun _ _ => rfl) fun page => .writeAll _ fun name => ?_
    refine .bind (present_blind request name) fun shown => ?_
    split
    · exact .pure _
    · refine .bind (markEmitted_blind name) fun _ => ?_
      split <;> exact .pure _

/-- So is the field that a tag names. -/
theorem writeNamed_blind (request : Request) (mark : Tag) : Blind (writeNamed request mark) := by
  refine .get (fun _ _ => rfl) fun page => ?_
  split
  · exact .bind (report_blind _ _) fun _ => .pure _
  · split
    · exact .bind (report_blind _ _) fun _ => .pure _
    · split
      · exact .bind (report_blind _ _) fun _ => .pure _
      · exact .bind (writeField_blind _ _ _ _ _) fun _ => .bind (markEmitted_blind _) fun _ => .pure _

/-- So is everything that a single tag stands for. -/
theorem writeTag_blind (request : Request) (mark : Tag) : Blind (writeTag request mark) := by
  unfold writeTag
  split
  · exact .pure _
  · exact writeFormStart_blind request mark.attributes
  · exact .pure _
  · exact writeFields_blind request mark.attributes
  · exact writeNamed_blind request mark
  · exact .pure _
  · exact .pure _
  · exact .get (fun _ _ => rfl) fun _ => .pure _
  · exact .get (fun _ _ => rfl) fun _ => .pure _
  · exact .pure _

/-- So are all single tags of a text. -/
theorem writeTags_blind (request : Request) (source : String) : Blind (writeTags request source) := by
  apply Blind.writeAll
  intro token
  split
  · exact .pure _
  · exact writeTag_blind request _

/-! ## Rows -/

/-- A row is noted without looking at reports. -/
theorem recordRow_blind (row : Row) (position : Option Nat) : Blind (recordRow row position) :=
  .bind (.step fun _ _ => rfl) fun _ => .get (fun _ _ => rfl) fun _ =>
    .bind (.step fun _ _ => rfl) fun _ => .pure _

/-- So is a token of a row settled. -/
theorem settlePart_blind (request : Request) (row : Row) (rowId : String) (token : Token) :
    Blind (settlePart request row rowId token) := by
  cases token with
  | text content => exact .pure _
  | tag mark =>
    unfold settlePart
    dsimp only
    split
    · exact .pure _
    · refine .get (fun _ _ => rfl) fun page => ?_
      split
      · exact .bind (report_blind _ _) fun _ => .pure _
      · split
        · exact .pure _
        · exact .bind (writeField_blind _ _ _ _ _) fun _ => .pure _

/-- So is the body written for one row. -/
theorem writeRow_blind (request : Request) (body : String) (row : Row) (rowId : String) :
    Blind (writeRow request body row rowId) := by
  have counted (count : Nat) : Blind (modify fun page => { page with fieldCount := count }) :=
    .step fun _ _ => rfl
  refine .bind (Abreast.mapM _ (settlePart_blind request row rowId)) fun parts => ?_
  refine .bind (.writeAll _ fun part => ?_) fun written => ?_
  · cases part with
    | settled text => exact .pure _
    | late source name attributes => exact writeField_blind _ _ _ _ _
  · exact .bind (counted _) fun _ => .pure _

/-- So is it written for all rows. -/
theorem writeRows_blind (request : Request) (body table : String) (keyed : Bool) (position : Nat)
    (seen : List String) (rows : List Row) :
    Blind (writeRows request body table keyed position seen rows) := by
  induction rows generalizing position seen with
  | nil => exact .pure _
  | cons row rest inductionHypothesis =>
    refine .bind (recordRow_blind _ _) fun rowId => ?_
    have others : Blind (do
        let written ← writeRow request body row rowId
        return written ++
          (← writeRows request body table keyed (position + 1) (rowId :: seen) rest)) :=
      .bind (writeRow_blind request body row rowId) fun _ =>
        .bind (inductionHypothesis _ _) fun _ => .pure _
    dsimp only
    split
    · exact .bind (report_blind _ _) fun _ => others
    · exact others

/-- So is an answer. -/
theorem writeAnswer_blind (request : Request) (body : String) (binding : Binding)
    (rows : List Row) : Blind (writeAnswer request body binding rows) := by
  refine .bind (.step fun _ _ => rfl) fun _ => .get (fun _ _ => rfl) fun page => ?_
  have written (keyed : Bool) : Blind (do
      let written ← writeRows request body binding.table keyed 0 [] rows
      let page ← get
      return fillCounters page.rowCount page.fieldCount written) :=
    .bind (writeRows_blind _ _ _ _ _ _ _) fun _ => .get (fun _ _ => rfl) fun _ => .pure _
  dsimp only
  split
  · exact .bind (report_blind _ _) fun _ => written _
  · exact written _

/-! ## Loops on other connections -/

end Page

/-- The request on other connections. -/
def Request.asking (request : Request) (connections : Connections) : Request :=
  { request with connections }

namespace Page

variable {request : Request} {connections : Connections}

/-- Rows are written without asking anything. -/
theorem writeRows_asking (body table : String) (keyed : Bool) (position : Nat) (seen : List String)
    (rows : List Row) :
    writeRows (request.asking connections) body table keyed position seen rows =
      writeRows request body table keyed position seen rows := by
  induction rows generalizing position seen with
  | nil => rfl
  | cons row rest inductionHypothesis =>
    simp only [writeRows, inductionHypothesis]
    rfl

/-- So is an answer. -/
theorem writeAnswer_asking (body : String) (binding : Binding) (rows : List Row) :
    writeAnswer (request.asking connections) body binding rows =
      writeAnswer request body binding rows := by
  simp only [writeAnswer, writeRows_asking]

/-- Reporting that the same query failed, each for its reason. -/
theorem report_failed_abreast (reason other : Failure) (sql : String) :
    Abreast Alike (report .high s!"SQL Error: {reason.message} ({sql})")
      (report .high s!"SQL Error: {other.message} ({sql})") := by
  apply Abreast.step
  intro page page' alike
  rw [alike.rest]
  exact ⟨rfl, alike.diagnostics.add (.failed reason other sql)⟩

/-- Asks a connection for the rows of a loop and writes the answer. -/
def writeLoopOn (request : Request) (body : String) (binding : Binding) (connection : Connection) :
    StateM Page (Except Failure String) := do
  let query := rowsQuery connection binding
  match ← runQuery connection query with
  | .error failure =>
    report .high s!"SQL Error: {failure.message} ({query.sql})"
    return .ok (Failure.query failure.message).userMessage
  | .ok [] => return .error (.emptyResult noRecords)
  | .ok rows => return .ok (← writeAnswer request body binding rows)

/-- A row loop looks for its connection and asks it. -/
theorem writeRowLoop_eq (request : Request) (body : String) :
    writeRowLoop request body = (do
      modify fun page => { page with rowCount := 0, fieldCount := 0 }
      let form := (← get).form
      match form.binding with
      | none =>
        report .debug
          s!"No database table for the row loop of form '{form.name}' (link it to a database first)"
        return .ok ""
      | some binding =>
        match request.connections.resolve (some binding.connection) with
        | .error failure =>
          report .debug s!"Database connection failed to establish: {failure.message}"
          return .ok ""
        | .ok connection => writeLoopOn request body binding connection) := rfl

/-- Connections that select the same rows are asked abreast. A query that fails is
reported with its reason, and the notice in its place does not depend on it. -/
theorem writeLoopOn_abreast (body : String) (binding : Binding) {connection other : Connection}
    (same : connection.SameRows other) :
    Abreast Alike (writeLoopOn request body binding connection)
      (writeLoopOn (request.asking connections) body binding other) := by
  have noting (query : Query) :
      Blind (modify fun page => { page with queries := page.queries ++ [query] }) :=
    .step fun _ _ => rfl
  have asks : rowsQuery other binding = rowsQuery connection binding := by
    rw [rowsQuery, rowsQuery, same.quotationMark]
  unfold writeLoopOn runQuery
  simp only [bind_assoc, pure_bind, asks]
  apply Abreast.get
  intro page page' alike
  have queries : page'.queries = page.queries := by
    rw [alike.rest]
    rfl
  rw [queries]
  refine Abreast.bind (noting _) fun _ => ?_
  rcases same.answerTo page.queries (rowsQuery connection binding) with
    ⟨rows, first, second⟩ | ⟨reason, reason', first, second⟩
  · rw [first, second]
    cases rows with
    | nil => exact .pure _
    | cons row rest =>
      dsimp only
      rw [writeAnswer_asking]
      exact Abreast.bind (writeAnswer_blind request body binding _) fun _ => .pure _
  · rw [first, second]
    exact (report_failed_abreast reason reason' _).bind fun _ => .pure _

variable (same : request.connections.SameRows connections)

include same

/-- A row loop is written abreast. -/
theorem writeRowLoop_abreast (body : String) :
    Abreast Alike (writeRowLoop request body) (writeRowLoop (request.asking connections) body) := by
  have counting : Blind (modify fun page => { page with rowCount := 0, fieldCount := 0 }) :=
    .step fun _ _ => rfl
  rw [writeRowLoop_eq, writeRowLoop_eq]
  refine Abreast.bind counting fun _ => ?_
  apply Abreast.get
  intro page other alike
  have form : other.form = page.form := by rw [alike.rest, diagnosed_form]
  simp only [form]
  cases page.form.binding with
  | none => exact Abreast.bind (report_blind _ _) fun _ => .pure _
  | some binding =>
    have there : (request.asking connections).connections = connections := rfl
    simp only [there]
    rcases same.resolve (some binding.connection) with
      ⟨connection, connection', first, second, same⟩ | ⟨failure, first, second⟩
    · rw [first, second]
      exact writeLoopOn_abreast body binding same
    · rw [first, second]
      exact Abreast.bind (report_blind _ _) fun _ => .pure _

/-! ## Pages on other connections -/

/-- Row loops are written abreast up to one that ends the section. -/
theorem writeRowLoopsAll_abreast (nodes : List Node) :
    Abreast Alike (writeRowLoopsAll request nodes)
      (writeRowLoopsAll (request.asking connections) nodes) := by
  induction nodes with
  | nil => exact .pure _
  | cons node rest inductionHypothesis =>
    have joined (written : Except Failure String) :
        Abreast Alike (joinBehind written (writeRowLoopsAll request rest))
          (joinBehind written (writeRowLoopsAll (request.asking connections) rest)) := by
      cases written with
      | error failure => exact .pure _
      | ok written => exact inductionHypothesis.bind fun _ => .pure _
    cases node with
    | text content =>
      rw [writeRowLoopsAll_text, writeRowLoopsAll_text]
      exact joined _
    | tag mark =>
      rw [writeRowLoopsAll_tag, writeRowLoopsAll_tag]
      exact joined _
    | «section» opening children closing =>
      rw [writeRowLoopsAll_section, writeRowLoopsAll_section]
      exact (writeRowLoop_abreast same _).bind joined

/-- A form section is written abreast. -/
theorem writeSection_abreast (source : String) :
    Abreast Alike (writeSection request source)
      (writeSection (request.asking connections) source) := by
  refine Abreast.bind (writeFieldsLoops_blind request _) fun looped => ?_
  refine (writeRowLoopsAll_abreast same _).bind fun written => ?_
  cases written <;> exact .pure _

/-- So are the form sections of a text. -/
theorem writeSections_abreast (source : String) :
    Abreast Alike (writeSections request source)
      (writeSections (request.asking connections) source) := by
  refine (Abreast.mapM _ fun node => ?_).bind fun _ => .pure _
  cases node with
  | text content => exact .pure _
  | tag mark => exact .pure _
  | «section» opening children closing => exact writeSection_abreast same _

/-- A page is written abreast on connections that select the same rows. -/
theorem render_abreast (template : String) :
    Abreast Alike (render request template) (render (request.asking connections) template) := by
  have starting : Blind (modify Page.start) := .step fun _ _ => rfl
  refine Abreast.bind starting fun _ => ?_
  apply Abreast.get
  intro page other alike
  have errors : other.diagnostics.errorsHtml (other.form.errorScope request.kind) =
      page.diagnostics.errorsHtml (page.form.errorScope request.kind) := by
    rw [alike.diagnostics.errorsHtml, alike.rest]
    rfl
  change Abreast Alike
    (writeSections request (Node.settleErrors _ template) >>= writeTags request)
    (writeSections (request.asking connections)
      (Node.settleErrors (other.diagnostics.errorsHtml (other.form.errorScope request.kind)) template)
        >>= writeTags request)
  rw [errors]
  exact (writeSections_abreast same _).bind (writeTags_blind request)

end Page

end Formwork
