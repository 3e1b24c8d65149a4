import Formwork.Proofs.PostedRows

/-!
# The rows that are collected

A table is collected field by field, each for all rows that something was posted for, and in
the end the noted keys are laid over what was collected. What comes out can be told from one
row at a time: a row is collected if it was displayed and a value stands at it for some column,
and its columns are these values, but for those of its own key. So nothing that is posted can
add a row, or change a column of the key of one.
-/

namespace Formwork.Processor

/-- The field is a column that a table may change: its value is posted back, its name is free,
and it does not belong to the primary key. -/
def IsColumn (field : Field) : Prop :=
  field.input ∉ [.plaintext, .submit, .button] ∧ field.name ∉ ["engineCSRFCheck", "submit"] ∧
    field.primary = false

instance (field : Field) : Decidable (IsColumn field) :=
  inferInstanceAs (Decidable (_ ∧ _ ∧ _))

/-- These are the fields that a table is collected for. -/
theorem mem_columns_iff {processor : Processor} {field : Field} :
    (field ∈ processor.storedFields.filter fun field => !field.primary) ↔
      field ∈ processor.fields ∧ IsColumn field := by
  have shown : (!field.input.isDisplayOnly) = true ↔
      field.input ∉ [.plaintext, .submit, .button] := by
    cases field.input <;> decide
  have free : (!reservedNames.contains field.name) = true ↔
      field.name ∉ ["engineCSRFCheck", "submit"] := by
    rw [Bool.not_eq_true', ← Bool.not_eq_true, List.contains_iff_mem]
    rfl
  rw [List.mem_filter, storedFields, List.mem_filter, Bool.and_eq_true, shown, free,
    Bool.not_eq_true', and_assoc, and_assoc]
  rfl

section Traces

variable {processor : Processor} {submission : Submission} {fields : List Field}

/-- Every collected row was displayed and has some column, and every value in it was posted for
one of the fields in this row. -/
def Traced (processor : Processor) (submission : Submission) (fields : List Field)
    (rows : TextMap Columns) : Prop :=
  ∀ rowId columns, rows.get? rowId = some columns →
    processor.rowKeys.contains rowId = true ∧ (∃ name value, columns.get? name = some value) ∧
      ∀ name value, columns.get? name = some value →
        (∃ field ∈ fields, field.name = name) ∧ submission.rowValue? name rowId = some value

/-- A cell of one of the fields can be traced. -/
theorem Traced.cell {rows : TextMap Columns} (traced : Traced processor submission fields rows)
    {field : Field} (member : field ∈ fields) (other : String) :
    Traced processor submission fields (processor.collectCell submission field rows other) := by
  intro rowId columns there
  unfold collectCell at there
  split at there
  · rename_i written shown posted
    rw [TextMap.get?_insert] at there
    by_cases here : rowId = other
    · subst here
      rw [if_pos rfl] at there
      obtain rfl := Option.some.inj there
      refine ⟨shown, ⟨field.name, written, TextMap.get?_insert_self _ _ _⟩, ?_⟩
      intro name value found
      rw [TextMap.get?_insert] at found
      by_cases same : name = field.name
      · rw [if_pos same] at found
        exact ⟨⟨field, member, same.symm⟩, by rw [same, posted, ← found]⟩
      · rw [if_neg same] at found
        -- Another column of the row was there before.
        cases before : rows.get? rowId with
        | none =>
          rw [before] at found
          cases found
        | some earlier =>
          rw [before] at found
          exact (traced rowId earlier before).2.2 name value found
    · rw [if_neg here] at there
      exact traced rowId columns there
  · exact traced rowId columns there

/-- All cells of the fields can be traced. -/
theorem traced_columns (processor : Processor) (submission : Submission) (fields : List Field) :
    Traced processor submission fields
      (fields.foldl (processor.collectColumn submission) .empty) := by
  refine List.foldlRecOn _ _ (fun _ _ => nofun) fun rows traced field member => ?_
  exact List.foldlRecOn _ _ traced fun rows traced other _ => traced.cell member other

/-- A displayed row is collected exactly if something was posted for one of the fields in it, and
it holds what was posted for the fields. -/
theorem columns_exact (processor : Processor) (submission : Submission) (fields : List Field)
    (rowId : String) :
    let rows := fields.foldl (processor.collectColumn submission) .empty
    (rows.contains rowId = true ↔ processor.rowKeys.contains rowId = true ∧
      ∃ field ∈ fields, ∃ value, submission.rowValue? field.name rowId = some value) ∧
    ∀ columns, rows.get? rowId = some columns → ∀ name value, columns.get? name = some value ↔
      (∃ field ∈ fields, field.name = name) ∧ submission.rowValue? name rowId = some value := by
  intro rows
  have traced := traced_columns processor submission fields rowId
  have filed {field : Field} (member : field ∈ fields) {value : String}
      (shown : processor.rowKeys.contains rowId = true)
      (posted : submission.rowValue? field.name rowId = some value) :
      Filed rowId field.name value rows :=
    foldl_of_mem member (collectColumn_files shown posted)
      (fun _ other before => collectColumn_filed posted other before) _
  refine ⟨⟨fun there => ?_, ?_⟩, fun columns there name value => ⟨fun found => ?_, ?_⟩⟩
  · obtain ⟨columns, found⟩ := Option.isSome_iff_exists.mp there
    obtain ⟨shown, ⟨name, value, written⟩, posted⟩ := traced columns found
    obtain ⟨⟨field, member, rfl⟩, stands⟩ := posted name value written
    exact ⟨shown, field, member, value, stands⟩
  · rintro ⟨shown, field, member, value, posted⟩
    obtain ⟨columns, found, -⟩ := filed member shown posted
    rw [TextMap.contains, found]
    rfl
  · exact (traced columns there).2.2 name value found
  · rintro ⟨⟨field, member, rfl⟩, posted⟩
    obtain ⟨columns', there', found⟩ := filed member (traced columns there).1 posted
    rw [there] at there'
    rwa [Option.some.inj there']

end Traces

/-- Laying keys over columns neither adds nor drops a row. -/
theorem addKeys_contains (processor : Processor) (rows : TextMap Columns) (rowId : String) :
    (processor.addKeys rows).contains rowId = rows.contains rowId := by
  cases there : rows.get? rowId with
  | some columns =>
    rw [TextMap.contains, processor.addKeys_get? there, TextMap.contains, there]
    rfl
  | none =>
    have absent : rows.contains rowId = false := by
      rw [TextMap.contains, there]
      rfl
    rw [absent, ← Bool.not_eq_true]
    intro laid
    rcases (TextMap.contains_insertAll _ _ _).mp laid with nothing | entry
    · cases nothing
    · obtain ⟨_, member, rfl⟩ := List.mem_map.mp entry
      obtain ⟨⟨name, columns⟩, before, rfl⟩ := List.mem_map.mp member
      rw [(TextMap.get?_eq_some_iff _ _ _).mpr before] at there
      cases there

/-- A table is collected from the rows that were noted when it was displayed. The rows that come
out are exactly the noted ones that a value stands at for some column; each holds the values that
stand at it, and over them the columns of its noted key, which always win. So what is posted has
no say in the columns of a key: in two collections of the same table they are the same for every
row that is in both.

Proof: a step of the collection writes one cell that was posted in a noted row, and no later one
takes it back, so before the keys are laid over them the rows hold just the posted cells. -/
theorem tables_trust_noted_rows (processor : Processor) (tabular : processor.kind = .table)
    (submission : Submission) :
    ∃ rows, processor.collect submission = .rows rows ∧
      (∀ rowId, rows.contains rowId = true ↔ processor.rowKeys.contains rowId = true ∧
        ∃ field ∈ processor.fields, IsColumn field ∧
          ∃ value, submission.rowValue? field.name rowId = some value) ∧
      (∀ rowId columns, rows.get? rowId = some columns →
        ∃ key, processor.rowKeys.get? rowId = some key ∧
          ∀ name value, columns.get? name = some value ↔ lastValue? name key = some value ∨
            lastValue? name key = none ∧
              (∃ field ∈ processor.fields, IsColumn field ∧ field.name = name) ∧
                submission.rowValue? name rowId = some value) ∧
      ∀ other others, processor.collect other = .rows others →
        ∀ rowId columns columns' key, rows.get? rowId = some columns →
          others.get? rowId = some columns' → processor.rowKeys.get? rowId = some key →
            ∀ name ∈ key.map Prod.fst, columns.get? name = columns'.get? name := by
  have collected (submission : Submission) :
      processor.collect submission = .rows (processor.collectRows submission) := by
    rw [collect, tabular]
  -- A row that comes out was noted, and the key is laid over what was posted.
  have laid (submission : Submission) {rowId : String} {columns : Columns}
      (there : (processor.collectRows submission).get? rowId = some columns) :
      ∃ key, processor.rowKeys.get? rowId = some key ∧ ∃ before : Columns,
        columns = before.insertAll key ∧ ∀ name value, before.get? name = some value ↔
          (∃ field ∈ processor.fields, IsColumn field ∧ field.name = name) ∧
            submission.rowValue? name rowId = some value := by
    have inside : (processor.collectRows submission).contains rowId = true := by
      rw [TextMap.contains, there]
      rfl
    obtain ⟨key, noted⟩ := Option.isSome_iff_exists.mp
      (processor.collectRows_onlyNoted submission rowId inside)
    obtain ⟨before, found⟩ := Option.isSome_iff_exists.mp
      ((processor.addKeys_contains _ rowId).symm.trans inside)
    have whole := processor.addKeys_get? found
    rw [noted, Option.getD_some] at whole
    refine ⟨key, noted, before, Option.some.inj (there.symm.trans whole), fun name value => ?_⟩
    rw [(columns_exact processor submission _ rowId).2 before found name value]
    simp only [mem_columns_iff, and_assoc]
  refine ⟨_, collected submission, fun rowId => ?_, fun rowId columns there => ?_, ?_⟩
  · rw [collectRows, addKeys_contains, (columns_exact processor submission _ rowId).1]
    simp only [mem_columns_iff, and_assoc]
  · obtain ⟨key, noted, before, rfl, posted⟩ := laid submission there
    refine ⟨key, noted, fun name value => ?_⟩
    rw [TextMap.get?_insertAll, ← posted]
    cases lastValue? name key <;> simp
  · intro other others collectedOther rowId columns columns' key there there' noted name member
    rw [collected] at collectedOther
    obtain rfl := Collected.rows.inj collectedOther
    obtain ⟨_, noted', before, rfl, -⟩ := laid submission there
    obtain rfl := Option.some.inj (noted.symm.trans noted')
    obtain ⟨_, noted', before', rfl, -⟩ := laid other there'
    obtain rfl := Option.some.inj (noted.symm.trans noted')
    rw [TextMap.get?_insertAll, TextMap.get?_insertAll]
    obtain ⟨value, last⟩ := lastValue?_of_mem member
    rw [last]
    rfl

/-- A table of two displayed rows. The city of the first one was noted with its key. -/
def staffTable : Processor where
  table := "staff"
  connection := "appDB"
  kind := .table
  fields := [{ name := "id", primary := true }, { name := "city" }, { name := "name" },
    { name := "note", input := .plaintext }]
  rowKeys := .ofList [("r1", [("id", "1"), ("city", "Bonn")]), ("r2", [("id", "2")])]

/-- What comes back: a forged key and city, a note, a group in place of a value, and a row that
was not displayed. -/
def staffPost : Submission :=
  .ofPairs [("name[r1]", "Ada"), ("id[r1]", "9"), ("city[r1]", "Kiel"), ("note[r2]", "x"),
    ("name[r2][a]", "y"), ("name[r3]", "Eve")]

/-- Only the first row is collected, with its own key and city. -/
theorem staff_trusts_noted_rows :
    staffTable.kind = .table ∧ ∃ rows, staffTable.collect staffPost = .rows rows ∧
      rows.contains "r1" = true ∧ rows.contains "r2" = false ∧ rows.contains "r3" = false ∧
      ∃ columns, rows.get? "r1" = some columns ∧ columns.get? "name" = some "Ada" ∧
        columns.get? "id" = some "1" ∧ columns.get? "city" = some "Bonn" := by
  obtain ⟨rows, collected, inside, laid, -⟩ := tables_trust_noted_rows staffTable rfl staffPost
  have nothing : ∀ field ∈ staffTable.fields, IsColumn field →
      staffPost.rowValue? field.name "r2" = none := by
    decide +kernel
  have first : rows.contains "r1" = true :=
    (inside "r1").mpr ⟨by decide +kernel, { name := "name" }, by decide +kernel, by decide, "Ada",
      by decide +kernel⟩
  obtain ⟨columns, there⟩ := Option.isSome_iff_exists.mp first
  obtain ⟨key, noted, holds⟩ := laid "r1" columns there
  have is : staffTable.rowKeys.get? "r1" = some [("id", "1"), ("city", "Bonn")] := by
    decide +kernel
  obtain rfl := Option.some.inj (is.symm.trans noted)
  refine ⟨rfl, rows, collected, first, ?_, ?_, columns, there, ?_, ?_, ?_⟩
  · rw [← Bool.not_eq_true, inside]
    rintro ⟨-, field, member, column, value, posted⟩
    rw [nothing field member column] at posted
    cases posted
  · rw [← Bool.not_eq_true, inside]
    rintro ⟨shown, -⟩
    exact absurd shown (by decide +kernel)
  · refine (holds _ _).mpr (.inr ⟨by decide, ⟨{ name := "name" }, ?_, by decide, rfl⟩, ?_⟩)
    · decide +kernel
    · decide +kernel
  · exact (holds _ _).mpr (.inl (by decide))
  · exact (holds _ _).mpr (.inl (by decide))

end Formwork.Processor
