import Formwork.Page.Render
import Formwork.Proofs.Within

/-!
# The steps that pages are written in

A page is written by many writers, but all of them change it in few ways: something is
reported, a widget learns where it is shown, a field counts as emitted, a token is issued, and
in rows something is counted, noted or asked. A relation that holds across each of these steps
holds across every writer made of them. The steps are grouped by the writers that take them, so
that a relation need not hold across a step that a writer never takes.
-/

namespace Formwork.Page

/-- The texts written for the items of a list. -/
theorem writeAll_within {α : Type} {related : Page → Page → Prop} [IsPreorder Page related]
    {write : α → StateM Page String} (items : List α)
    (each : ∀ item, Within related (write item)) : Within related (writeAll items write) :=
  (Within.mapM items each).bind fun _ => .pure _

/-- The relation holds across what is done to show a field. -/
structure AcrossFields (request : Request) (related : Page → Page → Prop) : Prop where
  /-- Something is reported to developers. -/
  reports : ∀ message, Within related (report .debug message)
  /-- A widget learns where it is shown. -/
  presents : ∀ name, Within related (present request name)

/-- It also holds across what is done where fields count as emitted. -/
structure AcrossTags (request : Request) (related : Page → Page → Prop) : Prop
    extends AcrossFields request related where
  /-- A field counts as emitted. -/
  marks : ∀ name, Within related (markEmitted name)
  /-- A token is issued. -/
  issues : ∀ page, related page { page with issued := page.issued + 1 }

/-- It also holds across what is done for rows. -/
structure AcrossRows (request : Request) (related : Page → Page → Prop) : Prop
    extends AcrossFields request related where
  /-- The field tags of a row are counted. -/
  counts : ∀ page count, related page { page with fieldCount := count }
  /-- A row is noted. -/
  records : ∀ row position, Within related (recordRow row position)
  /-- A warning is reported. -/
  warns : ∀ message, Within related (report .warning message)

/-- It also holds across what a row loop does around its rows. -/
structure AcrossLoops (request : Request) (related : Page → Page → Prop) : Prop
    extends AcrossRows request related where
  /-- The rows are counted. -/
  totals : ∀ page count, related page { page with rowCount := count }
  /-- A query is asked. -/
  asks : ∀ page query, related page { page with queries := page.queries ++ [query] }
  /-- A failure is reported. -/
  fails : ∀ message, Within related (report .high message)

variable {request : Request} {related : Page → Page → Prop} [IsPreorder Page related]

/-! ## Fields -/

namespace AcrossFields

/-- What a tag asks for of a field. -/
theorem field (across : AcrossFields request related) (source name : String)
    (attributes : Attributes) (value : Option String) :
    Within related (writeField request source name attributes value) := by
  unfold writeField
  refine .bind (across.presents name) fun shown => ?_
  split
  · exact .bind (across.reports _) fun _ => .pure _
  · split
    · exact .pure _
    · exact .pure _
    · exact .pure _
    · exact .bind (across.reports _) fun _ => .pure _

/-- A token of a row. -/
theorem part (across : AcrossFields request related) (row : Row) (rowId : String) (token : Token) :
    Within related (settlePart request row rowId token) := by
  cases token with
  | text content => exact .pure _
  | tag mark =>
    unfold settlePart
    dsimp only
    split
    · exact .pure _
    · refine .bind .get fun page => ?_
      split
      · exact .bind (across.reports _) fun _ => .pure _
      · split
        · exact .pure _
        · exact .bind (across.field _ _ _ _) fun _ => .pure _

/-- What was left for later in a row. -/
theorem late (across : AcrossFields request related) (part : RowPart) :
    Within related (finishPart request part) := by
  cases part with
  | settled text => exact .pure _
  | late source name attributes => exact across.field _ _ _ _

/-- The body for one row. -/
theorem row (across : AcrossFields request related)
    (counts : ∀ page count, related page { page with fieldCount := count }) (body : String)
    (row : Row) (rowId : String) : Within related (writeRow request body row rowId) := by
  unfold writeRow
  refine .bind (.mapM _ (across.part row rowId)) fun parts => ?_
  refine .bind (writeAll_within _ across.late) fun written => ?_
  exact .bind (.step fun page => counts page _) fun _ => .pure _

end AcrossFields

/-! ## Loops over fields and single tags -/

namespace AcrossTags

/-- A whole field. -/
theorem whole (across : AcrossTags request related) (name : String) :
    Within related (writeWhole request name) :=
  .bind (across.field "" name .empty none) fun _ => .bind (across.marks name) fun _ => .pure _

/-- A loop over fields. -/
theorem fieldsLoop (across : AcrossTags request related) (attributes : Attributes)
    (body : String) : Within related (writeFieldsLoop request attributes body) := by
  unfold writeFieldsLoop
  dsimp only
  split
  · refine .bind .get fun page => .bind (writeAll_within _ across.whole) fun hidden => ?_
    exact .bind .get fun _ => .pure _
  · exact .bind (.pure _) fun _ => .bind .get fun _ => .pure _

/-- Loops over fields. -/
theorem fieldsLoops (across : AcrossTags request related) (source : String) :
    Within related (writeFieldsLoops request source) := by
  refine writeAll_within _ fun node => ?_
  split
  · exact across.fieldsLoop _ _
  · exact .pure _

/-- The start of the form. -/
theorem formStart (across : AcrossTags request related) (attributes : Attributes) :
    Within related (writeFormStart request attributes) := by
  unfold writeFormStart
  dsimp only
  refine .replace across.issues fun page => ?_
  split
  · exact .bind (writeAll_within _ across.whole) fun _ => .pure _
  · exact .bind (.pure _) fun _ => .pure _

/-- The fields that a tag stands for. -/
theorem fields (across : AcrossTags request related) (attributes : Attributes) :
    Within related (writeFields request attributes) := by
  unfold writeFields
  dsimp only
  split
  · exact .bind (across.reports _) fun _ => .pure _
  · refine .bind .get fun page => writeAll_within _ fun name => ?_
    refine .bind (across.presents name) fun shown => ?_
    split
    · exact .pure _
    · refine .bind (across.marks name) fun _ => ?_
      split <;> exact .pure _

/-- The field that a tag names. -/
theorem named (across : AcrossTags request related) (mark : Tag) :
    Within related (writeNamed request mark) := by
  refine .bind .get fun page => ?_
  split
  · exact .bind (across.reports _) fun _ => .pure _
  · split
    · exact .bind (across.reports _) fun _ => .pure _
    · split
      · exact .bind (across.reports _) fun _ => .pure _
      · exact .bind (across.field _ _ _ _) fun _ => .bind (across.marks _) fun _ => .pure _

/-- What a tag stands for. -/
theorem tag (across : AcrossTags request related) (mark : Tag) :
    Within related (writeTag request mark) := by
  unfold writeTag
  split
  · exact .pure _
  · exact across.formStart mark.attributes
  · exact .pure _
  · exact across.fields mark.attributes
  · exact across.named mark
  · exact .pure _
  · exact .pure _
  · exact .bind .get fun _ => .pure _
  · exact .bind .get fun _ => .pure _
  · exact .pure _

/-- The single tags of a text. -/
theorem tags (across : AcrossTags request related) (source : String) :
    Within related (writeTags request source) := by
  refine writeAll_within _ fun token => ?_
  split
  · exact .pure _
  · exact across.tag _

end AcrossTags

/-! ## Loops over rows -/

namespace AcrossRows

/-- The rows of an answer, one after another. -/
theorem rows (across : AcrossRows request related) (body table : String) (keyed : Bool)
    (position : Nat) (seen : List String) (rows : List Row) :
    Within related (writeRows request body table keyed position seen rows) := by
  induction rows generalizing position seen with
  | nil => exact .pure _
  | cons row rest inductionHypothesis =>
    unfold writeRows
    refine .bind (across.records _ _) fun rowId => ?_
    have others : Within related (do
        let written ← writeRow request body row rowId
        return written ++
          (← writeRows request body table keyed (position + 1) (rowId :: seen) rest)) :=
      .bind (across.row across.counts body row rowId) fun _ =>
        (inductionHypothesis _ _).bind fun _ => .pure _
    dsimp only
    split
    · exact .bind (across.warns _) fun _ => others
    · exact others

/-- An answer. -/
theorem answer (across : AcrossRows request related)
    (totals : ∀ page count, related page { page with rowCount := count }) (body : String)
    (binding : Binding) (rows : List Row) :
    Within related (writeAnswer request body binding rows) := by
  unfold writeAnswer
  refine .bind (.step fun page => totals page _) fun _ => .bind .get fun page => ?_
  have written (keyed : Bool) : Within related (do
      let written ← writeRows request body binding.table keyed 0 [] rows
      let page ← get
      return fillCounters page.rowCount page.fieldCount written) :=
    .bind (across.rows _ _ _ _ _ _) fun _ => .bind .get fun _ => .pure _
  dsimp only
  split
  · exact .bind (across.reports _) fun _ => written _
  · exact written _

end AcrossRows

/-- What holds when a query is listed holds across its run. -/
theorem runQuery_within {query : Query}
    (asks : ∀ page, related page { page with queries := page.queries ++ [query] })
    (connection : Connection) : Within related (runQuery connection query) :=
  .bind .get fun _ => .bind (.step asks) fun _ => .pure _

/-- A row loop. -/
theorem AcrossLoops.rowLoop (across : AcrossLoops request related) (body : String) :
    Within related (writeRowLoop request body) := by
  have cleared (page : Page) : related page { page with rowCount := 0, fieldCount := 0 } :=
    trans_of related (across.totals page 0) (across.counts { page with rowCount := 0 } 0)
  unfold writeRowLoop
  refine .bind (.step cleared) fun _ => .bind .get fun page => ?_
  dsimp only
  split
  · exact .bind (across.reports _) fun _ => .pure _
  · split
    · exact .bind (across.reports _) fun _ => .pure _
    · refine .bind (runQuery_within (fun page => across.asks page _) _) fun answer => ?_
      split
      · exact .bind (across.fails _) fun _ => .pure _
      · exact .pure _
      · exact .bind (across.answer across.totals _ _ _) fun _ => .pure _

end Formwork.Page
