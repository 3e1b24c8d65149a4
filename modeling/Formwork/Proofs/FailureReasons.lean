import Formwork.Proofs.DeskRuns
import Formwork.Proofs.UnreadReports

/-!
# Reasons of failing queries stay among the reports

Two desks are the same but for their connections, which select the same rows, and
whose failing queries fail for different reasons. Whatever is displayed, both give
the same HTML and stay the same but for the reasons in their reports. Only the
display of the reports themselves shows a reason, and there the two lists differ
at most in the items of failed queries.
-/

namespace Formwork

namespace Desk

/-- The desk with other connections and diagnostics. -/
def beside (desk : Desk) (connections : Connections) (diagnostics : Diagnostics) : Desk :=
  { desk with connections, diagnostics }

/-- Connections select the same rows, reports differ at most in the reasons that
queries failed for, and nothing else differs. -/
structure Alike (left right : Desk) : Prop where
  /-- Besides connections and diagnostics the desk is the same. -/
  rest : right = left.beside right.connections right.diagnostics
  /-- Connections select the same rows. -/
  connections : left.connections.SameRows right.connections
  /-- Diagnostics differ at most in reasons. -/
  diagnostics : left.diagnostics.Alike right.diagnostics

/-- Changing what stands beside connections and diagnostics keeps desks alike. -/
theorem Alike.step {change : Desk → Desk}
    (apart : ∀ desk connections diagnostics,
      change (beside desk connections diagnostics) = (change desk).beside connections diagnostics)
    {left right : Desk} (alike : left.Alike right) : (change left).Alike (change right) := by
  have whole := apart left left.connections left.diagnostics
  have connections : (change left).connections = left.connections := by
    have part := congrArg Desk.connections whole
    exact part
  have diagnostics : (change left).diagnostics = left.diagnostics := by
    have part := congrArg Desk.diagnostics whole
    exact part
  rw [alike.rest, apart]
  constructor
  · rfl
  · rw [connections]
    exact alike.connections
  · rw [diagnostics]
    exact alike.diagnostics

/-- Reporting the same but for its reason keeps desks alike. -/
theorem Alike.diagnose {left right : Desk} (alike : left.Alike right)
    {diagnostics diagnostics' : Diagnostics} (same : diagnostics.Alike diagnostics') :
    Alike { left with diagnostics } { right with diagnostics := diagnostics' } := by
  rw [alike.rest]
  exact ⟨rfl, alike.connections, same⟩

/-- A display that looks neither at connections nor at reports. -/
def Blind {α : Type} (display : Display α) : Prop := FailAbreast Alike display display

namespace Blind

variable {α β : Type}

/-- One display after another. -/
theorem bind {first : Display α} {next : α → Display β} (left : Blind first)
    (right : ∀ value, Blind (next value)) : Blind (first >>= next) :=
  FailAbreast.bind left right

/-- Reading what depends neither on connections nor on diagnostics. -/
theorem get {next : Desk → Display α}
    (reads : ∀ desk connections diagnostics,
      next (beside desk connections diagnostics) = next desk)
    (rest : ∀ desk, Blind (next desk)) : Blind (MonadState.get >>= next) := by
  apply FailAbreast.get
  intro desk other alike
  rw [alike.rest, reads]
  exact rest desk

/-- Changing what stands beside connections and diagnostics. -/
theorem step {change : Desk → Desk}
    (apart : ∀ desk connections diagnostics,
      change (beside desk connections diagnostics) = (change desk).beside connections diagnostics) :
    Blind (modify change) :=
  FailAbreast.step fun _ _ => Alike.step apart

end Blind

/-- Reporting the same on both desks. -/
theorem report_abreast (level : Level) (message : String) :
    Blind (modify (·.report level message)) :=
  FailAbreast.step fun _ _ alike => alike.diagnose (alike.diagnostics.report level message)

/-! ## The steps of a display -/

/-- A form to be shown is looked up without looking at reports. -/
theorem formToShow_blind (name : String) : Blind (formToShow name) :=
  .get (fun _ _ _ => rfl) fun _ => .bind (FailAbreast.ofExcept _) fun _ =>
    .bind (FailAbreast.ofExcept _) fun _ => .bind (.step fun _ _ _ => rfl) fun _ => .pure _

/-- A fault of the store is what saving a form fails with. -/
theorem saveShown_fault {desk : Desk} {failure : Failure} (fault : desk.writeFault = some failure)
    (form : Form) (kind : FormKind) :
    (saveShown form kind).run.run desk = (.error failure, desk) := by
  unfold saveShown saveSnapshot
  rw [run_get_bind, run_lift_bind, fault]

/-- What is stored of a form has nothing of connections or reports. -/
theorem saveShown_blind (form : Form) (kind : FormKind) : Blind (saveShown form kind) := by
  intro left right alike
  have same : right.writeFault = left.writeFault := by
    rw [alike.rest]
    rfl
  cases fault : left.writeFault with
  | some failure =>
    rw [saveShown_fault fault, saveShown_fault (same.trans fault)]
    exact ⟨rfl, alike⟩
  | none =>
    have number : right.nextIdentifier = left.nextIdentifier := by
      rw [alike.rest]
      rfl
    rw [saveShown_run fault, saveShown_run (same.trans fault), number]
    exact ⟨rfl, @Alike.step (·.stored _) (fun _ _ _ => rfl) _ _ alike⟩

/-- A page is written abreast. -/
theorem writePage_abreast (name : String) (kind : FormKind) (formId : String)
    (options : PageOptions) : Blind (writePage name kind formId options) := by
  intro left right alike
  rw [writePage_run, writePage_run]
  have form : right.form name = left.form name := by
    rw [alike.rest]
    rfl
  have templates : right.templates = left.templates := by
    rw [alike.rest]
    rfl
  have request : right.request kind formId options =
      (left.request kind formId options).asking right.connections := by
    rw [alike.rest]
    rfl
  unfold written
  rw [form, templates, request]
  cases left.form name with
  | error failure => exact ⟨rfl, alike⟩
  | ok form =>
    simp only [Except.bind]
    cases left.templates.loadVariant (options.template.getD (form.template kind)) kind.variant with
    | error failure => exact ⟨rfl, alike⟩
    | ok template =>
      have blank : (left.blankPage form).Alike (right.blankPage form) := by
        rw [alike.rest]
        exact ⟨rfl, alike.diagnostics⟩
      have same : (left.request kind formId options).connections.SameRows right.connections :=
        alike.connections
      have pages := Page.render_abreast same template _ _ blank
      simp only [Except.map]
      generalize (Page.render _ template).run (left.blankPage form) = first at pages ⊢
      generalize (Page.render _ template).run (right.blankPage form) = second at pages ⊢
      obtain ⟨html, page⟩ := first
      obtain ⟨html', page'⟩ := second
      obtain ⟨same, pages⟩ := pages
      dsimp only at same pages
      subst same
      refine ⟨rfl, ?_⟩
      dsimp only
      rw [pages.rest, alike.rest]
      exact ⟨rfl, alike.connections, pages.diagnostics⟩

/-- A record is asked for abreast. If the query fails, its reason is reported. -/
theorem askRecord_abreast {connection other : Connection} (same : connection.SameRows other)
    (binding : Binding) (key : PrimaryKey) :
    FailAbreast Alike (askRecord connection binding key) (askRecord other binding key) := by
  have asks : recordQuery other binding key = recordQuery connection binding key := by
    rw [recordQuery, recordQuery, same.quotationMark]
  unfold askRecord
  rw [asks]
  apply FailAbreast.get
  intro left right alike
  have queries : right.queries = left.queries := by
    rw [alike.rest]
    rfl
  rw [queries]
  refine FailAbreast.bind (Blind.step fun _ _ _ => rfl) fun _ => ?_
  rcases same.answerTo left.queries (recordQuery connection binding key) with
    ⟨rows, first, second⟩ | ⟨reason, reason', first, second⟩
  · rw [first, second]
    cases rows with
    | nil => exact (report_abreast _ _).bind fun _ => .pure _
    | cons row rest => exact .pure _
  · rw [first, second]
    refine FailAbreast.bind (FailAbreast.step fun _ _ alike => ?_) fun _ => .pure _
    exact alike.diagnose (alike.diagnostics.add (.failed reason reason' _))

/-- A form is filled abreast. Both desks ask for the record under the same
conditions, on connections that select the same rows. -/
theorem fillRecord_abreast (name : String) (options : PageOptions) :
    Blind (fillRecord name options) := by
  unfold fillRecord
  refine .get (fun _ _ _ => rfl) fun _ => .bind (FailAbreast.ofExcept _) fun form => ?_
  refine .bind (.step fun _ _ _ => rfl) fun _ => ?_
  split
  · exact FailAbreast.pure _
  · rename_i binding bound
    split
    · exact FailAbreast.pure _
    · apply FailAbreast.get
      intro left right alike
      rcases alike.connections.resolve (some binding.connection) with
        ⟨connection, other, first, second, same⟩ | ⟨failure, first, second⟩
      · rw [first, second, lift_ok_bind, lift_ok_bind]
        refine (askRecord_abreast same binding _).bind fun answer => ?_
        cases answer with
        | none => exact FailAbreast.pure _
        | some row => exact Blind.step fun _ _ _ => rfl
      · rw [first, second, lift_error_bind]
        exact FailAbreast.ofExcept (.error failure)

/-- A form for a record is shown abreast. -/
theorem showRecord_blind (name : String) (kind : FormKind) (options : PageOptions) :
    Blind (showRecord name kind options) :=
  .bind (formToShow_blind name) fun form => .bind (saveShown_blind form kind) fun id =>
    writePage_abreast name kind id options

/-- So is a table. -/
theorem showTable_blind (name : String) (options : PageOptions) : Blind (showTable name options) := by
  refine .bind (formToShow_blind name) fun form => .get (fun _ _ _ => rfl) fun desk => ?_
  refine .bind (writePage_abreast name .table _ _) fun html => .get (fun _ _ _ => rfl) fun desk => ?_
  refine .bind (FailAbreast.ofExcept _) fun form => .bind (saveShown_blind form .table) fun _ => ?_
  exact FailAbreast.pure _

/-- A display that fails is reported abreast. -/
theorem degrade_abreast {display : Display String} (blind : Blind display) :
    Abreast Alike (degrade display) (degrade display) := by
  refine Abreast.bind blind fun result => ?_
  cases result with
  | ok html => exact .pure _
  | error failure =>
    refine Abreast.bind (Abreast.step fun _ _ alike => ?_) fun _ => .pure _
    exact alike.diagnose (alike.diagnostics.reportFailure failure)

/-- Scripts and styles are shown abreast. -/
theorem showAssets_abreast : Abreast Alike showAssets showAssets := by
  apply Abreast.get
  intro left right alike
  have names : right.assetNames = left.assetNames := by
    rw [alike.rest]
    rfl
  rw [names]
  refine (Abreast.mapM _ fun asset => ?_).bind fun _ => .pure _
  unfold writeAsset
  cases AssetKind.ofName? asset with
  | none =>
    refine Abreast.bind (Abreast.step fun _ _ alike => ?_) fun _ => .pure _
    exact alike.diagnose (alike.diagnostics.report _ _)
  | some kind =>
    apply Abreast.get
    intro left right alike
    have templates : right.templates = left.templates := by
      rw [alike.rest]
      rfl
    rw [templates]
    cases left.templates.load asset with
    | ok content => exact .pure _
    | error failure =>
      refine Abreast.bind (Abreast.step fun _ _ alike => ?_) fun _ => .pure _
      exact alike.diagnose (alike.diagnostics.reportFailure failure)

/-! ## Displays one after another -/

/-- Something that a page asks to be displayed. -/
inductive Call where
  /-- A form for inserting a record, or for updating the one that the options name. -/
  | insert (name : String) (options : PageOptions)
  /-- A form for updating a record. -/
  | update (name : String) (options : PageOptions)
  /-- A table. -/
  | table (name : String) (options : PageOptions)
  /-- Scripts and styles. -/
  | assets
  /-- The reports. -/
  | errors
  /-- What a word asks for. -/
  | display (name way : String) (options : PageOptions)
  /-- What a tag asks for. -/
  | tag (attributes : Attributes)

/-- The word for what a tag asks to be displayed. -/
def wayOf (attributes : Attributes) : String :=
  ((PageOptions.ofAttributes attributes).values.get? "display").getD "insert"

/-- The call asks for the reports. -/
def Call.asksReports : Call → Bool
  | .errors => true
  | .display _ way _ => (Text.trim way).toLower = "errors"
  | .tag attributes => (Text.trim (wayOf attributes)).toLower = "errors"
  | _ => false

/-- Displays what a call asks for. -/
def reply : Call → StateM Desk String
  | .insert name options => displayInsert name options
  | .update name options => displayUpdate name options
  | .table name options => displayTable name options
  | .assets => showAssets
  | .errors => return (← get).diagnostics.html
  | .display name way options => display name way options
  | .tag attributes => displayTag attributes

/-- The HTML that calls one after another are answered with. -/
def replies (desk : Desk) : List Call → List (Call × String)
  | [] => []
  | call :: rest => (call, ((reply call).run desk).1) :: replies ((reply call).run desk).2 rest

/-- Two answers to a call are the same, or are lists of reports that differ at most
in the reasons that queries failed for. -/
inductive SameButReasons : Call × String → Call × String → Prop where
  /-- The same HTML. -/
  | same (call : Call) (html : String) : SameButReasons (call, html) (call, html)
  /-- Two lists of reports. -/
  | reports {call : Call} (asks : call.asksReports = true) {left right : Diagnostics}
    (alike : left.Alike right) : SameButReasons (call, left.html) (call, right.html)

/-- A form for a record is displayed abreast. -/
theorem displayUpdate_abreast (name : String) (options : PageOptions) :
    Abreast Alike (displayUpdate name options) (displayUpdate name options) :=
  degrade_abreast (.bind (fillRecord_abreast name options) fun _ =>
    showRecord_blind name .update options)

/-- So is a form for inserting one. -/
theorem displayInsert_abreast (name : String) (options : PageOptions) :
    Abreast Alike (displayInsert name options) (displayInsert name options) := by
  unfold displayInsert
  split
  · exact displayUpdate_abreast name options
  · exact degrade_abreast (showRecord_blind name .insert options)

/-- What a word asks for is displayed abreast, unless it is the reports. -/
theorem display_abreast (name : String) {way : String} (other : (Text.trim way).toLower ≠ "errors")
    (options : PageOptions) :
    Abreast Alike (display name way options) (display name way options) := by
  unfold display
  split
  · exact displayInsert_abreast name options
  · exact displayInsert_abreast name options
  · exact displayInsert_abreast name options
  · exact displayInsert_abreast name options
  · exact degrade_abreast (showTable_blind name options)
  · exact degrade_abreast (showTable_blind name options)
  · exact showAssets_abreast
  · contradiction
  · exact degrade_abreast fun _ _ alike => ⟨rfl, alike⟩

/-- The word for the reports displays them. -/
theorem display_reports (name : String) {way : String} (errors : (Text.trim way).toLower = "errors")
    (options : PageOptions) (desk : Desk) :
    (display name way options).run desk = (desk.diagnostics.html, desk) := by
  simp only [display, errors]
  rfl

/-- A call that asks for the reports is answered with their list. -/
theorem reply_reports {call : Call} (asks : call.asksReports = true) (desk : Desk) :
    (reply call).run desk = (desk.diagnostics.html, desk) := by
  cases call with
  | errors => rfl
  | display name way options => exact display_reports name (of_decide_eq_true asks) options desk
  | tag attributes => exact display_reports _ (of_decide_eq_true asks) _ desk
  | _ => cases asks

/-- Every other call is answered abreast. -/
theorem reply_abreast {call : Call} (others : call.asksReports = false) :
    Abreast Alike (reply call) (reply call) := by
  cases call with
  | insert name options => exact displayInsert_abreast name options
  | update name options => exact displayUpdate_abreast name options
  | table name options => exact degrade_abreast (showTable_blind name options)
  | assets => exact showAssets_abreast
  | errors => cases others
  | display name way options => exact display_abreast name (of_decide_eq_false others) options
  | tag attributes => exact display_abreast _ (of_decide_eq_false others) _

/-- One call is answered the same but for reasons, and leaves desks alike. -/
theorem reply_alike {left right : Desk} (alike : left.Alike right) (call : Call) :
    SameButReasons (call, ((reply call).run left).1) (call, ((reply call).run right).1) ∧
      Alike ((reply call).run left).2 ((reply call).run right).2 := by
  by_cases asks : call.asksReports = true
  · rw [reply_reports asks, reply_reports asks]
    exact ⟨.reports asks alike.diagnostics, alike⟩
  · obtain ⟨html, after⟩ := reply_abreast (Bool.not_eq_true _ ▸ asks) left right alike
    rw [html]
    exact ⟨.same call _, after⟩

/-- Calls one after another are answered the same but for reasons. -/
theorem replies_alike {left right : Desk} (alike : left.Alike right) (calls : List Call) :
    List.Forall₂ SameButReasons (left.replies calls) (right.replies calls) := by
  induction calls generalizing left right with
  | nil => exact .nil
  | cons call rest inductionHypothesis =>
    obtain ⟨html, after⟩ := reply_alike alike call
    exact .cons html (inductionHypothesis after)

/-- Whatever is displayed, the reason that a query failed for is shown at most in
the list of reports: on connections that select the same rows, and whose failing
queries fail for different reasons, a desk answers all calls with the same HTML,
but for the items of failed queries in the lists of reports that are asked for. -/
theorem reasons_stay_in_reports (desk : Desk) (connections : Connections)
    (same : desk.connections.SameRows connections) (calls : List Call) :
    List.Forall₂ SameButReasons (desk.replies calls)
      (replies { desk with connections } calls) := by
  apply replies_alike
  exact ⟨rfl, same, .refl _⟩

/-- Connections on which every query fails for the given reason. -/
def failingConnections (reason : String) : Connections :=
  { defaultName := "appDB"
    byName := .ofList [("appDB", { vendor := "sqlite", answer := fun _ _ => .error (.query reason) })] }

/-- A desk for people on such connections, shown by a row loop. -/
def failingDesk (reason : String) : Desk :=
  let desk : Desk :=
    { settings := {}
      connections := failingConnections reason
      templates := .inMemory
        (.ofList [("default", "\x7bform\x7d\x7browLoop\x7d.\x7b/rowLoop\x7d\x7b/form\x7d")])
      issuer := fun number => ⟨"c" ++ Decimal.natText number, "t"⟩
      identifiers := fun number => String.ofList (List.replicate (number + 1) 'f') }
  desk.run [.create "people" (some { table := some "staff" })]

/-- No row is selected on such connections, whatever the reason is. -/
theorem failingDesk_sameRows (reason other : String) :
    (failingDesk reason).connections.SameRows (failingConnections other) := by
  have connections : (failingDesk reason).connections = failingConnections reason := by
    unfold failingDesk
    rfl
  have lookup (reason : String) (name : String) : (failingConnections reason).byName.get? name =
      if name = "appDB" then
        some { vendor := "sqlite", answer := fun _ _ => .error (.query reason) } else none :=
    TextMap.get?_insert .empty "appDB" _ name
  rw [connections]
  refine ⟨rfl, fun name => ?_⟩
  rw [lookup, lookup]
  split
  · exact .some ⟨rfl, fun _ _ => rfl⟩
  · exact .none

/-- The table of people is displayed, and then the reports. -/
def failingCalls : List Call := [.table "people" {}, .errors]

/-- A full disk and a lack of memory are told apart at most in the reports. -/
theorem failing_reasons_stay_in_reports :
    (failingDesk "disk full").connections.SameRows (failingConnections "out of memory") ∧
      List.Forall₂ SameButReasons ((failingDesk "disk full").replies failingCalls)
        (replies { failingDesk "disk full" with connections := failingConnections "out of memory" }
          failingCalls) := by
  have same := failingDesk_sameRows "disk full" "out of memory"
  exact ⟨same, reasons_stay_in_reports _ _ same failingCalls⟩

/-- There they are told apart: the HTML of the reports depends on the reason that a
query failed for. -/
theorem reasons_told_in_reports :
    ¬ ∀ (desk : Desk) (connections : Connections), desk.connections.SameRows connections →
      ∀ calls, desk.replies calls = replies { desk with connections } calls := by
  intro hidden
  have equal := hidden (failingDesk "disk full") (failingConnections "out of memory")
    (failingDesk_sameRows _ _) failingCalls
  have html := congrArg (List.map Prod.snd) equal
  revert html
  decide +kernel

end Desk

end Formwork
