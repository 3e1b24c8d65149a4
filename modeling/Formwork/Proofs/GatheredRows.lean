import Formwork.Proofs.RowKeys

/-!
# Rows are gathered, never dropped

A form keeps the keys of rows from one page to the next. What a page leaves on its
form is therefore an account of its queries: the keys that were there before, and
over them the keys of all rows that the queries of row loops gave, in the order in
which they were asked. What a query gives may depend on those before it, so an
account names them. Accounts of pages one after another add up. Keys that are noted
later count, so a page that asks any query ends with the key of every row that its
last one gave.
-/

namespace Formwork

/-- The rows that a query gives after others; none if it fails. -/
def Connections.rowsOf (connections : Connections) (earlier : List Query) (query : Query) :
    List Row :=
  match connections.resolve (some query.connection) with
  | .ok connection => (connection.answerTo earlier query).toOption.getD []
  | .error _ => []

/-- The query is the one for the rows of the form's table. -/
def Form.AsksRows (connections : Connections) (form : Form) (query : Query) : Prop :=
  ∃ binding connection, form.binding = some binding ∧
    connections.resolve (some binding.connection) = .ok connection ∧
    query = Page.rowsQuery connection binding

/-- The query of a row loop has no parameters; that for a single record has some. -/
def Query.isLoop (query : Query) : Bool := query.parameters.isEmpty

/-- A query for the rows of a table is that of a row loop. -/
theorem Form.AsksRows.isLoop {connections : Connections} {form : Form} {query : Query}
    (asks : form.AsksRows connections query) : query.isLoop = true := by
  obtain ⟨binding, connection, -, -, rfl⟩ := asks
  rfl

/-- The connection of a table gives its rows. -/
theorem Connections.rowsOf_rowsQuery {connections : Connections} {binding : Binding}
    {connection : Connection}
    (resolved : connections.resolve (some binding.connection) = .ok connection)
    (earlier : List Query) :
    connections.rowsOf earlier (Page.rowsQuery connection binding) =
      (connection.answerTo earlier (Page.rowsQuery connection binding)).toOption.getD [] := by
  simp only [rowsOf, Page.rowsQuery, resolved]

namespace Page

/-- The keys of the rows that the row loops among queries gave, by row identifier.
The queries are asked one after another, after the earlier ones. -/
def loopEntries (connections : Connections) (form : Form) :
    List Query → List Query → Entries PrimaryKey
  | _, [] => []
  | earlier, query :: rest =>
    (if query.isLoop then rowEntries form 0 (connections.rowsOf earlier query) else [])
      ++ loopEntries connections form (earlier ++ [query]) rest

/-- Entries of queries one after another. -/
theorem loopEntries_append (connections : Connections) (form : Form)
    (earlier first later : List Query) :
    loopEntries connections form earlier (first ++ later) =
      loopEntries connections form earlier first
        ++ loopEntries connections form (earlier ++ first) later := by
  induction first generalizing earlier with
  | nil => rw [List.nil_append, List.append_nil, loopEntries, List.nil_append]
  | cons query rest inductionHypothesis =>
    rw [List.cons_append, loopEntries, inductionHypothesis, loopEntries, List.append_assoc,
      List.append_assoc, List.singleton_append]

/-- Entries depend on the names of the primary key alone. -/
theorem loopEntries_congr (connections : Connections) {left right : Form}
    (same : left.catalog.primaryNames = right.catalog.primaryNames) (earlier queries : List Query) :
    loopEntries connections left earlier queries =
      loopEntries connections right earlier queries := by
  induction queries generalizing earlier with
  | nil => rfl
  | cons query rest inductionHypothesis =>
    rw [loopEntries, loopEntries, rowEntries_congr same, inductionHypothesis]

/-- A single query has the entries of its rows if it is that of a row loop. -/
theorem loopEntries_single (connections : Connections) (form : Form) (earlier : List Query)
    {query : Query} (loop : query.isLoop = true) :
    loopEntries connections form earlier [query] =
      rowEntries form 0 (connections.rowsOf earlier query) := by
  rw [loopEntries, if_pos loop, loopEntries, List.append_nil]

end Page

/-- The form has the same primary key, and over the keys of rows that it had before
it has those of the rows that the asked queries gave after the earlier ones. -/
structure Form.Gathers (connections : Connections) (earlier asked : List Query)
    (form last : Form) : Prop where
  /-- The same names are those of the primary key. -/
  primaryNames : last.catalog.primaryNames = form.catalog.primaryNames
  /-- The keys of the rows are noted over those from before. -/
  rowKeys :
    last.rowKeys = form.rowKeys.insertAll (Page.loopEntries connections form earlier asked)

namespace Form

/-- Without queries nothing is gathered. -/
theorem Gathers.none (connections : Connections) (earlier : List Query) {form last : Form}
    (primaryNames : last.catalog.primaryNames = form.catalog.primaryNames)
    (rowKeys : last.rowKeys = form.rowKeys) : Gathers connections earlier [] form last :=
  ⟨primaryNames, rowKeys⟩

/-- What is gathered first stays when more is. -/
theorem Gathers.trans {connections : Connections} {earlier asked later : List Query}
    {first second third : Form} (left : Gathers connections earlier asked first second)
    (right : Gathers connections (earlier ++ asked) later second third) :
    Gathers connections earlier (asked ++ later) first third := by
  constructor
  · exact right.primaryNames.trans left.primaryNames
  · rw [right.rowKeys, left.rowKeys, Page.loopEntries_append, TextMap.insertAll_append,
      Page.loopEntries_congr connections left.primaryNames]

end Form

namespace Page

/-! ## Pages -/

/-- The form is kept and gathers the rows of the queries that the page asks, which are
all for the rows of its table. -/
structure Gathers (connections : Connections) (before after : Page) : Prop where
  /-- The form is kept. -/
  form : before.form.Kept after.form
  /-- It gathers the rows of the queries asked. -/
  rows : ∃ asked, after.queries = before.queries ++ asked ∧
    (∀ query ∈ asked, before.form.AsksRows connections query) ∧
    before.form.Gathers connections before.queries asked after.form

instance (connections : Connections) : IsPreorder Page (Gathers connections) where
  refl page :=
    ⟨.refl page.form, [], (List.append_nil _).symm, by simp, .none connections _ rfl rfl⟩
  trans _ _ _ left right := by
    obtain ⟨asked, queries, loops, gathered⟩ := left.rows
    obtain ⟨later, laterQueries, laterLoops, laterGathered⟩ := right.rows
    rw [queries] at laterQueries laterGathered
    refine ⟨left.form.trans right.form, asked ++ later, ?_, ?_, gathered.trans laterGathered⟩
    · rw [laterQueries, List.append_assoc]
    · unfold Form.AsksRows at laterLoops
      rw [left.form.rest] at laterLoops
      exact List.forall_mem_append.mpr ⟨loops, laterLoops⟩

/-- A calm step gathers nothing. -/
theorem Calm.gathers (connections : Connections) {before after : Page} (calm : Calm before after) :
    Gathers connections before after := by
  refine ⟨calm.form, [], ?_, by simp, .none connections _ ?_ calm.rowKeys⟩
  · rw [calm.queries, List.append_nil]
  · exact Catalog.primaryNames_eq_of_settled calm.form.fields

/-- Writing an answer gathers the rows of its query. -/
theorem writeAnswer_gathers {request : Request} (body : String) {binding : Binding}
    {rows : List Row} {query : Query} {page : Page}
    (asks : page.form.AsksRows request.connections query)
    (given : request.connections.rowsOf page.queries query = rows) :
    Gathers request.connections page
      ((writeAnswer request body binding rows).run (page.asked query)).2 := by
  have kept : page.form.Kept ((writeAnswer request body binding rows).run (page.asked query)).2.form :=
    writeAnswer_within (fun _ _ => Calm.keeping) recordRow_keeping request body binding rows
      (page.asked query)
  have queries : SameQueries (page.asked query)
      ((writeAnswer request body binding rows).run (page.asked query)).2 :=
    writeAnswer_within (fun _ _ => Calm.queries) recordRow_sameQueries request body binding rows
      (page.asked query)
  refine ⟨kept, [query], queries, by simpa using asks,
    Catalog.primaryNames_eq_of_settled kept.fields, ?_⟩
  rw [writeAnswer_rowKeys, loopEntries_single _ _ _ asks.isLoop, given]
  rfl

/-- A query that gives no rows gathers none. -/
theorem asked_gathers {connections : Connections} {query : Query} {page : Page}
    (asks : page.form.AsksRows connections query)
    (given : connections.rowsOf page.queries query = []) :
    Gathers connections page (page.asked query) := by
  refine ⟨.refl page.form, [query], rfl, by simpa using asks, rfl, ?_⟩
  rw [loopEntries_single _ _ _ asks.isLoop, given]
  rfl

/-- A row loop gathers the rows of its query, if it asks one. -/
theorem writeRowLoop_gathers (request : Request) (body : String) :
    Within (Gathers request.connections) (writeRowLoop request body) := by
  intro page
  have begun : Calm page page.cleared := .beside rfl rfl
  cases bound : page.form.binding with
  | none =>
    rw [writeRowLoop_unbound request body bound]
    exact (trans_of Calm begun (report_calm _ _ _)).gathers _
  | some binding =>
    cases resolved : request.connections.resolve (some binding.connection) with
    | error failure =>
      rw [writeRowLoop_unconnected resolved body bound]
      exact (trans_of Calm begun (report_calm _ _ _)).gathers _
    | ok connection =>
      have given := Connections.rowsOf_rowsQuery resolved page.queries
      have asks : page.form.AsksRows request.connections (rowsQuery connection binding) :=
        ⟨binding, connection, bound, resolved, rfl⟩
      rw [writeRowLoop_run resolved body bound]
      dsimp only
      cases answered : connection.answerTo page.queries (rowsQuery connection binding) with
      | error failure =>
        rw [answered] at given
        exact trans_of (Gathers request.connections) (asked_gathers asks given)
          ((report_calm _ _ _).gathers _)
      | ok rows =>
        rw [answered] at given
        cases rows with
        | nil => exact asked_gathers asks given
        | cons row rest => exact writeAnswer_gathers body asks given

/-- A page gathers the rows of its queries. -/
theorem render_gathers (request : Request) (template : String) :
    Within (Gathers request.connections) (render request template) :=
  render_within (fun _ _ => Calm.gathers request.connections) request
    (writeRowLoop_gathers request) template

/-- A page that asks any query asks for the rows of its table last, and its form then has
the key of every row that this last query gave. -/
theorem Gathers.last {connections : Connections} {before after : Page}
    (gathers : Gathers connections before after) (asks : after.queries ≠ before.queries)
    {binding : Binding} (bound : before.form.binding = some binding) {connection : Connection}
    (resolved : connections.resolve (some binding.connection) = .ok connection) :
    ∃ earlier, after.queries = earlier ++ [rowsQuery connection binding] ∧
      ∀ rows, connection.answerTo earlier (rowsQuery connection binding) = .ok rows →
        ((rowEntries before.form 0 rows).map Prod.fst).Nodup →
        ∀ entry ∈ rowEntries before.form 0 rows,
          after.form.rowKeys.get? entry.1 = some entry.2 := by
  obtain ⟨asked, queries, loops, gathered⟩ := gathers.rows
  rcases List.eq_nil_or_concat asked with rfl | ⟨front, query, rfl⟩
  · exact absurd (queries.trans (List.append_nil _)) asks
  · obtain ⟨known, other, there, found, rfl⟩ := loops query (by simp)
    obtain rfl := Option.some.inj (bound.symm.trans there)
    obtain rfl := Except.ok.inj (resolved.symm.trans found)
    refine ⟨before.queries ++ front, ?_, fun rows answered distinct entry member => ?_⟩
    · rw [queries, List.concat_eq_append, List.append_assoc]
    · have given := Connections.rowsOf_rowsQuery resolved (before.queries ++ front)
      rw [answered] at given
      rw [gathered.rowKeys, List.concat_eq_append, loopEntries_append, TextMap.insertAll_append,
        loopEntries_single _ _ _ (loops _ (by simp)).isLoop, given]
      exact TextMap.get?_insertAll_of_mem _ _ distinct member

end Page

end Formwork
