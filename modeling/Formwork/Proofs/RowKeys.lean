import Formwork.Proofs.MapLookup
import Formwork.Proofs.PageFrame
import Mathlib.Data.List.Nodup

/-!
# The keys of displayed rows

A row loop notes the primary key of every row of the answer under the row's
identifier. The key is read from the row by the names of the form's primary
fields, which no step of a page changes, so every loop of a page reads the keys of
the same rows alike, and notes them over those from before.
-/

namespace Formwork

namespace Catalog

/-- The primary key is known from the names and primary marks of the fields. -/
theorem primaryNames_eq_of_marks {left right : Catalog}
    (same : (left.fields.map fun field => (field.primary, field.name)) =
      right.fields.map fun field => (field.primary, field.name)) :
    left.primaryNames = right.primaryNames := by
  have through (catalog : Catalog) : catalog.primaryNames =
      ((catalog.fields.map fun field => (field.primary, field.name)).filter Prod.fst).map
        Prod.snd := by
    simp only [primaryNames, List.filter_map, List.map_map]
    rfl
  rw [through, through, same]

/-- Both are part of the settled description. -/
theorem primaryNames_eq_of_settled {left right : Catalog} (same : left.settled = right.settled) :
    left.primaryNames = right.primaryNames :=
  primaryNames_eq_of_marks (map_eq_of_settled _ (fun _ => rfl) same)

/-- The primary key names some of the fields, in order. -/
theorem primaryNames_sublist (catalog : Catalog) : catalog.primaryNames.Sublist catalog.names :=
  List.filter_sublist.map _

/-- Among fields of pairwise distinct names, one that is not primary has a name
of its own. -/
theorem name_not_mem_primaryNames {catalog : Catalog} (distinct : catalog.names.Nodup)
    {field : Field} (member : field ∈ catalog.fields) (free : field.primary = false) :
    field.name ∉ catalog.primaryNames := by
  intro named
  obtain ⟨other, taken, same⟩ := List.mem_map.mp named
  obtain ⟨there, primary⟩ := List.mem_filter.mp taken
  obtain rfl := List.inj_on_of_nodup_map distinct there member same
  rw [free] at primary
  cases primary

end Catalog

namespace Page

/-- A primary field that is a column of the row has its cell in the key. -/
theorem mem_keyOf {form : Form} {row : Row} {name : String} {cell : Cell}
    (primary : name ∈ form.catalog.primaryNames) (there : row.get? name = some cell) :
    (name, cell.formText) ∈ keyOf form row := by
  refine List.mem_filterMap.mpr ⟨name, primary, ?_⟩
  rw [there]
  rfl

/-- The columns of a key are primary fields, in order. -/
theorem keyOf_sublist (form : Form) (row : Row) :
    ((keyOf form row).map Prod.fst).Sublist form.catalog.primaryNames := by
  unfold keyOf
  induction form.catalog.primaryNames with
  | nil => exact List.Sublist.slnil
  | cons name rest inductionHypothesis =>
    rw [List.filterMap_cons]
    cases row.get? name with
    | none => exact inductionHypothesis.cons name
    | some cell => exact inductionHypothesis.cons_cons name

/-- The identifier of the row at a position. A form without a primary key knows
its rows by position. -/
def identifierOf (form : Form) (position : Nat) (row : Row) : String :=
  Form.rowIdentifier
    (if form.catalog.primaryNames.isEmpty then positionKey position else keyOf form row)

/-- The keys of the rows at and behind a position, by row identifier. -/
def rowEntries (form : Form) : Nat → List Row → Entries PrimaryKey
  | _, [] => []
  | position, row :: rest =>
    (identifierOf form position row, keyOf form row) :: rowEntries form (position + 1) rest

/-- Every row has its entry. -/
theorem mem_rowEntries {form : Form} {row : Row} {rows : List Row} {index : Nat}
    (there : rows[index]? = some row) (position : Nat) :
    (identifierOf form (position + index) row, keyOf form row) ∈ rowEntries form position rows := by
  induction rows generalizing position index with
  | nil => cases there
  | cons head rest inductionHypothesis =>
    cases index with
    | zero =>
      obtain rfl := Option.some.inj there
      exact List.mem_cons_self
    | succ index =>
      have later := inductionHypothesis there (position + 1)
      rw [Nat.add_right_comm, Nat.add_assoc] at later
      exact List.mem_cons_of_mem _ later

/-- Entries depend on the names of the primary key alone. -/
theorem rowEntries_congr {left right : Form}
    (same : left.catalog.primaryNames = right.catalog.primaryNames) (position : Nat)
    (rows : List Row) : rowEntries left position rows = rowEntries right position rows := by
  induction rows generalizing position with
  | nil => rfl
  | cons row rest inductionHypothesis =>
    simp only [rowEntries, identifierOf, keyOf, same, inductionHypothesis]

/-- A form that is kept gives the same entries. -/
theorem rowEntries_kept {before after : Form} (kept : before.Kept after) (position : Nat)
    (rows : List Row) : rowEntries after position rows = rowEntries before position rows :=
  rowEntries_congr (Catalog.primaryNames_eq_of_settled kept.fields) position rows

/-! ## One row -/

/-- A row is noted under its identifier. Noting its cells before changes no
primary name, so the key is that of the form before. -/
theorem recordRow_run (page : Page) (row : Row) {keyed : Bool} (position : Nat)
    (is : keyed = !page.form.catalog.primaryNames.isEmpty) :
    ((recordRow row (if keyed then none else some position)).run page).1 =
      identifierOf page.form position row ∧
    ((recordRow row (if keyed then none else some position)).run page).2.form.rowKeys =
      page.form.rowKeys.insert (identifierOf page.form position row) (keyOf page.form row) := by
  have calm : Calm page ((noteCells row).run page).2 := noteCells_calm row page
  unfold recordRow
  rw [run_then]
  generalize (noteCells row).run page = outcome at calm ⊢
  obtain ⟨done, noted⟩ := outcome
  have key : keyOf noted.form row = keyOf page.form row := by
    unfold keyOf
    rw [Catalog.primaryNames_eq_of_settled calm.form.fields]
  have identifier :
      Form.rowIdentifier
          (((if keyed then none else some position).map positionKey).getD (keyOf noted.form row)) =
        identifierOf page.form position row := by
    unfold identifierOf
    rw [is, key]
    cases page.form.catalog.primaryNames.isEmpty <;> rfl
  constructor
  · exact identifier
  · change noted.form.rowKeys.insert (Form.rowIdentifier _) (keyOf noted.form row) = _
    rw [identifier, key, calm.rowKeys]

/-! ## All rows of an answer -/

/-- What is reported about a row that shares its identifier with one before it. -/
def duplicateReport (table rowId : String) : Report :=
  ⟨.warning, s!"Duplicate primary key values in table '{table}': rows share identifier {rowId}"⟩

/-- The page with a report about a row whose identifier was seen before. -/
def reportingShared (table : String) (seen : List String) (rowId : String) (page : Page) : Page :=
  if seen.contains rowId then
    { page with
      diagnostics.reports := page.diagnostics.reports ++ [duplicateReport table rowId] }
  else page

/-- Reporting a shared identifier is calm. -/
theorem reportingShared_calm (table : String) (seen : List String) (rowId : String) (page : Page) :
    Calm page (page.reportingShared table seen rowId) := by
  unfold reportingShared
  split
  · exact .beside rfl rfl
  · exact refl_of Calm page

/-- What is done for a row of the given identifier: it is noted, reported if its identifier was
seen before, and written. -/
structure RowStep (request : Request) (body table : String) (keyed : Bool) (position : Nat)
    (seen : List String) (row : Row) (page noted : Page) (written : String × Page) : Prop where
  /-- The row is noted under its identifier. -/
  recorded : (recordRow row (if keyed then none else some position)).run page =
    (identifierOf page.form position row, noted)
  /-- It is written, perhaps behind a report. -/
  shown : (writeRow request body row (identifierOf page.form position row)).run
    (noted.reportingShared table seen (identifierOf page.form position row)) = written
  /-- Writing it is calm. -/
  calm : Calm noted written.2
  /-- The form is kept. -/
  kept : page.form.Kept written.2.form

/-- Behind a row the others are written. -/
theorem writeRows_cons_run (request : Request) (body table : String) {keyed : Bool}
    (position : Nat) (seen : List String) (row : Row) (rest : List Row) (page : Page)
    (is : keyed = !page.form.catalog.primaryNames.isEmpty) :
    ∃ noted written, RowStep request body table keyed position seen row page noted written ∧
      (keyed = !written.2.form.catalog.primaryNames.isEmpty) ∧
      ∃ others, (writeRows request body table keyed (position + 1)
          (identifierOf page.form position row :: seen) rest).run written.2 = others ∧
        (writeRows request body table keyed position seen (row :: rest)).run page =
          (written.1 ++ others.1, others.2) := by
  have recorded := (recordRow_run page row position is).1
  have keeping := recordRow_keeping row (if keyed then none else some position) page
  rcases ran : (recordRow row (if keyed then none else some position)).run page with ⟨rowId, noted⟩
  rw [ran] at recorded keeping
  dsimp only at recorded keeping
  subst recorded
  have calm := trans_of Calm
    (noted.reportingShared_calm table seen (identifierOf page.form position row))
    (writeRow_calm request body row (identifierOf page.form position row) _)
  have kept := Form.Kept.trans keeping calm.form
  refine ⟨noted, _, ⟨ran, rfl, calm, kept⟩, ?_, _, rfl, ?_⟩
  · rw [is, Catalog.primaryNames_eq_of_settled kept.fields]
  · rw [writeRows, run_then, ran]
    unfold reportingShared
    dsimp only
    split
    · simp only [run_then, run_return]
      rfl
    · simp only [run_then, run_return]

/-- The page on which the rows of an answer are written. -/
def answering (page : Page) (rows : List Row) : Page :=
  { page with
    rowCount := rows.length
    diagnostics :=
      if page.form.catalog.primaryNames.isEmpty then
        page.diagnostics.report .debug
          s!"Form '{page.form.name}' has no primary fields; rows are identified by position"
      else page.diagnostics }

/-- An answer is what is written for its rows, with the counters filled in. -/
theorem writeAnswer_run (request : Request) (body : String) (binding : Binding) (rows : List Row)
    (page : Page) :
    (writeAnswer request body binding rows).run page =
      let written := (writeRows request body binding.table
        (!page.form.catalog.primaryNames.isEmpty) 0 [] rows).run (page.answering rows)
      (fillCounters written.2.rowCount written.2.fieldCount written.1, written.2) := by
  unfold writeAnswer answering
  simp only [run_then, run_get, run_modify]
  by_cases unkeyed : page.form.catalog.primaryNames.isEmpty = true
  · simp only [unkeyed, Bool.not_true, Bool.not_false, if_true, run_then, run_get, run_return]
    rfl
  · simp only [unkeyed, Bool.not_false, Bool.not_true, Bool.false_eq_true, if_false, run_then,
      run_get, run_return]

/-- Rows are noted one after another. -/
theorem writeRows_rowKeys (request : Request) (body table : String) {keyed : Bool} (position : Nat)
    (seen : List String) (rows : List Row) (page : Page)
    (is : keyed = !page.form.catalog.primaryNames.isEmpty) :
    ((writeRows request body table keyed position seen rows).run page).2.form.rowKeys =
      page.form.rowKeys.insertAll (rowEntries page.form position rows) := by
  induction rows generalizing position seen page with
  | nil => rfl
  | cons row rest inductionHypothesis =>
    obtain ⟨noted, written, step, still, others, behind, ran⟩ :=
      writeRows_cons_run request body table position seen row rest page is
    have keys := (recordRow_run page row position is).2
    rw [step.recorded] at keys
    rw [ran, ← behind, inductionHypothesis _ _ _ still, step.calm.rowKeys, keys,
      rowEntries_kept step.kept]
    rfl

/-- After an answer was written its rows are noted. -/
theorem writeAnswer_rowKeys (request : Request) (body : String) (binding : Binding)
    (rows : List Row) (page : Page) :
    ((writeAnswer request body binding rows).run page).2.form.rowKeys =
      page.form.rowKeys.insertAll (rowEntries page.form 0 rows) := by
  rw [writeAnswer_run]
  exact writeRows_rowKeys request body binding.table 0 [] rows (page.answering rows) rfl

end Page

end Formwork
