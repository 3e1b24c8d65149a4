import Formwork.Proofs.NothingLost
import Formwork.Proofs.PageFrame

/-!
# A row loop that is kept asks its query

The list of queries only grows while a page is written. A form section that still
has a row loop when its conditional sections are settled, and has no loop over
fields, reaches that row loop unchanged, because nothing of its text is lost on the
way. If the form has a table that can be reached, the list grows there.
-/

namespace Formwork

/-- The node is a recognised section. -/
def Node.isSection : Node → Bool
  | .section .. => true
  | _ => false

namespace Page

/-- A form section has a row loop, and no loop over fields, once its conditional
sections are settled. -/
def keepsLoop (request : Request) (source : String) : Bool :=
  let settled := Node.settleExpandable request.options.expandable source
  !(Node.parse ["fieldsLoop"] settled).any Node.isSection &&
    (Node.parse ["rowLoop"] settled).any Node.isSection

/-- Some form section of a text keeps its row loop. -/
def hasKeptLoop (request : Request) (source : String) : Bool :=
  (Node.parse ["form"] source).any fun node => node.isSection && keepsLoop request node.source

/-- No query is taken back. -/
def Growing (before after : Page) : Prop := before.queries <+: after.queries

instance : IsPreorder Page Growing where
  refl _ := List.prefix_rfl
  trans _ _ _ left right := List.IsPrefix.trans left right

/-- Where the queries are the same none is taken back. -/
theorem SameQueries.growing {before after : Page} (same : SameQueries before after) :
    Growing before after := by
  rw [SameQueries] at same
  simp only [Growing, same, List.prefix_rfl]

/-- Calm steps ask no query. -/
theorem Calm.growing {before after : Page} (calm : Calm before after) : Growing before after :=
  SameQueries.growing calm.queries

/-- Nor is one asked where a row is noted. -/
theorem recordRow_growing (row : Row) (position : Option Nat) :
    Within Growing (recordRow row position) :=
  .mono (fun _ _ => SameQueries.growing) (recordRow_sameQueries row position)

/-- A row loop may ask a query. -/
theorem writeRowLoop_growing (request : Request) (body : String) :
    Within Growing (writeRowLoop request body) :=
  writeRowLoop_within (fun _ _ => Calm.growing) recordRow_growing
    (fun _ query => List.prefix_append _ [query]) request body

/-- Nodes that are left as they are stand for their text. -/
theorem writeAll_sources {write : Node → StateM Page String} {nodes : List Node}
    (left : ∀ node ∈ nodes, write node = Pure.pure node.source) :
    writeAll nodes write = Pure.pure (Node.sources nodes) := by
  have written : nodes.mapM write = Pure.pure (nodes.map Node.source) := by
    induction nodes with
    | nil => rfl
    | cons node rest inductionHypothesis =>
      obtain ⟨here, others⟩ := List.forall_mem_cons.mp left
      rw [List.mapM_cons, here, pure_bind, inductionHypothesis others, pure_bind]
      rfl
  have joined (nodes : List Node) : String.join (nodes.map Node.source) = Node.sources nodes := by
    induction nodes with
    | nil => rfl
    | cons node rest inductionHypothesis =>
      rw [List.map_cons, String.join_cons, inductionHypothesis, Node.sources]
  rw [writeAll, written, pure_bind, joined]

/-- A text without loops over fields is left as it is. -/
theorem writeFieldsLoops_eq (request : Request) {source : String}
    (none : (Node.parse ["fieldsLoop"] source).any Node.isSection = false) :
    writeFieldsLoops request source = Pure.pure source := by
  have left : ∀ node ∈ Node.parse ["fieldsLoop"] source, node.isSection = false := by
    simpa using none
  unfold writeFieldsLoops
  rw [writeAll_sources, Node.sources_parse]
  intro node member
  have apart := left node member
  cases node with
  | text content => rfl
  | tag mark => rfl
  | «section» opening children closing => cases apart

section Reached

variable {request : Request} {binding : Binding} {connection : Connection}

/-- A row loop of a form whose table can be reached asks its query. -/
theorem writeRowLoop_asks
    (resolved : request.connections.resolve (some binding.connection) = .ok connection)
    (body : String) {page : Page} (bound : page.form.binding = some binding) :
    page.queries.length < ((writeRowLoop request body).run page).2.queries.length := by
  have grown : Growing (page.asked (rowsQuery connection binding))
      ((writeRowLoop request body).run page).2 := by
    rw [writeRowLoop_run resolved body bound]
    dsimp only
    split
    · exact (report_calm _ _ _).growing
    · exact refl_of Growing _
    · exact writeAnswer_within (fun _ _ => Calm.growing) recordRow_growing _ _ _ _ _
  have longer : page.queries.length < (page.asked (rowsQuery connection binding)).queries.length := by
    simp [asked]
  exact Nat.lt_of_lt_of_le longer grown.length_le

/-- Row loops among nodes ask a query if there is one. -/
theorem writeRowLoopsAll_asks
    (resolved : request.connections.resolve (some binding.connection) = .ok connection)
    {nodes : List Node} (found : nodes.any Node.isSection = true) {page : Page}
    (bound : page.form.binding = some binding) :
    page.queries.length < ((writeRowLoopsAll request nodes).run page).2.queries.length := by
  induction nodes with
  | nil => cases found
  | cons node rest inductionHypothesis =>
    cases node with
    | text content => exact inductionHypothesis found
    | tag mark => exact inductionHypothesis found
    | «section» opening children closing =>
      rw [writeRowLoopsAll_section, run_then]
      have later : Within Growing (writeRowLoopsAll request rest) :=
        writeRowLoops_within request (writeRowLoop_growing request) rest
      exact Nat.lt_of_lt_of_le (writeRowLoop_asks resolved _ bound)
        (joinBehind_within _ later _).length_le

/-- A form section that keeps its row loop asks a query. -/
theorem writeSection_asks
    (resolved : request.connections.resolve (some binding.connection) = .ok connection)
    {source : String} (kept : keepsLoop request source = true) {page : Page}
    (bound : page.form.binding = some binding) :
    page.queries.length < ((writeSection request source).run page).2.queries.length := by
  unfold keepsLoop at kept
  simp only [Bool.and_eq_true, Bool.not_eq_true'] at kept
  obtain ⟨noFields, rows⟩ := kept
  have asks := writeRowLoopsAll_asks resolved rows bound
  unfold writeSection writeRowLoops
  dsimp only
  rw [writeFieldsLoops_eq request noFields, pure_bind, run_then]
  generalize (writeRowLoopsAll request _).run page = outcome at asks ⊢
  obtain ⟨written, after⟩ := outcome
  cases written with
  | ok text => exact asks
  | error failure => exact asks

/-- Among writers that keep the form, one that asks a query is enough. -/
theorem writeAll_asks {α : Type} {items : List α} {write : α → StateM Page String}
    (keeping : ∀ item, Within Keeping (write item)) (growing : ∀ item, Within Growing (write item))
    {item : α} (member : item ∈ items)
    (asks : ∀ page : Page, page.form.binding = some binding →
      page.queries.length < ((write item).run page).2.queries.length)
    {page : Page} (bound : page.form.binding = some binding) :
    page.queries.length < ((writeAll items write).run page).2.queries.length := by
  change page.queries.length < ((items.mapM write).run page).2.queries.length
  induction items generalizing page with
  | nil => cases member
  | cons head rest inductionHypothesis =>
    have others : Within Growing (rest.mapM write) := .mapM rest growing
    rw [List.mapM_cons, run_then]
    rcases List.mem_cons.mp member with rfl | later
    · exact Nat.lt_of_lt_of_le (asks page bound) (others _).length_le
    · refine Nat.lt_of_le_of_lt (growing head page).length_le (inductionHypothesis later ?_)
      rw [(keeping head page).rest]
      exact bound

/-- A text asks a query if one of its form sections keeps its row loop. -/
theorem writeSections_asks
    (resolved : request.connections.resolve (some binding.connection) = .ok connection)
    {source : String} (kept : hasKeptLoop request source = true) {page : Page}
    (bound : page.form.binding = some binding) :
    page.queries.length < ((writeSections request source).run page).2.queries.length := by
  obtain ⟨node, member, loops⟩ := List.any_eq_true.mp kept
  obtain ⟨delimited, keeps⟩ := Bool.and_eq_true_iff.mp loops
  unfold writeSections
  refine writeAll_asks (fun node => ?_) (fun node => ?_) member (fun page bound => ?_) bound
  · split
    · exact writeSection_within (fun _ _ => Calm.keeping) request (writeRowLoop_keeping request) _
    · exact .pure _
  · split
    · exact writeSection_within (fun _ _ => Calm.growing) request (writeRowLoop_growing request) _
    · exact .pure _
  · cases node with
    | text content => cases delimited
    | tag mark => cases delimited
    | «section» opening children closing =>
      dsimp only
      exact writeSection_asks resolved keeps bound

/-- A page asks a query if a form section of its template, once settled for errors,
keeps its row loop. -/
theorem render_asks
    (resolved : request.connections.resolve (some binding.connection) = .ok connection)
    {template : String} {page : Page} (bound : page.form.binding = some binding)
    (kept : hasKeptLoop request (Node.settleErrors
      (page.diagnostics.errorsHtml (page.form.errorScope request.kind)) template) = true) :
    page.queries.length < ((render request template).run page).2.queries.length := by
  have started : page.start.form.binding = some binding := bound
  have loops : (writeLoops request template).run page =
      (writeSections request (Node.settleErrors
        (page.diagnostics.errorsHtml (page.form.errorScope request.kind)) template)).run page.start := by
    unfold writeLoops
    rw [run_then, run_then, run_modify, run_get]
    rfl
  have asks := writeSections_asks resolved kept started
  have tags (source : String) : Within Growing (writeTags request source) :=
    .mono (fun _ _ => Calm.growing) (writeTags_calm request source)
  rw [render_eq, run_then, loops]
  exact Nat.lt_of_lt_of_le asks (tags _ _).length_le

end Reached

end Page

end Formwork
