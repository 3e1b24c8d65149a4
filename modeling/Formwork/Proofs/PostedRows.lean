import Formwork.Form.Processor
import Formwork.Proofs.BracketKeys
import Formwork.Proofs.MapLookup

/-!
# What is collected for a row

A value that was posted for a field in a row is found under a path of two
segments, the field and the row's identifier. Columns are collected field by
field and cell by cell, and the noted keys are laid over them at the end. Nothing
else that was posted can change a value once it is collected: other fields are
other columns, and the same field in the same row has the same value.
-/

namespace Formwork

/-- What a fold establishes at one item and keeps at all others holds at its end. -/
theorem foldl_of_mem {α β : Type} {holds : β → Prop} {step : β → α → β} {items : List α} {item : α}
    (member : item ∈ items) (establishes : ∀ state, holds (step state item))
    (keeps : ∀ state other, holds state → holds (step state other)) (state : β) :
    holds (items.foldl step state) := by
  induction items generalizing state with
  | nil => cases member
  | cons head rest inductionHypothesis =>
    rw [List.foldl_cons]
    rcases List.mem_cons.mp member with rfl | later
    · exact List.foldlRecOn rest step (establishes state) fun state before other _ =>
        keeps state other before
    · exact inductionHypothesis later _

/-! ## Identifiers of rows -/

/-- Hexadecimal text holds hexadecimal digits alone. -/
theorem Text.mem_hexText {octets : List UInt8} {c : Char} (member : c ∈ (hexText octets).toList) :
    ∃ digit < 16, c = hexDigit digit := by
  rw [hexText, String.toList_ofList, List.mem_flatMap] at member
  obtain ⟨octet, -, written⟩ := member
  have bound := octet.toNat_lt
  rcases List.mem_cons.mp written with rfl | last
  · exact ⟨octet.toNat / 16, by omega, rfl⟩
  · exact ⟨octet.toNat % 16, by omega, List.mem_singleton.mp last⟩

/-- A character that is no hexadecimal digit stands in no row identifier. -/
theorem Form.rowIdentifier_lacks {c : Char} (other : ∀ digit < 16, c ≠ Text.hexDigit digit)
    (key : PrimaryKey) : c ∉ (rowIdentifier key).toList := by
  intro member
  obtain ⟨digit, bound, is⟩ := Text.mem_hexText member
  exact other digit bound is

namespace Submission

/-! ## Cells that were posted -/

/-- A value under two segments is a member of the group under the first. -/
theorem mem_rowIds {submission : Submission} {field rowId value : String}
    (posted : submission.rowValue? field rowId = some value) :
    rowId ∈ submission.rowIds field := by
  unfold rowValue? get? at posted
  unfold rowIds get?
  simp only [Posted.getAt?] at posted ⊢
  split at posted
  · split at posted
    · rename_i root inner field' found
      obtain ⟨cell, there, -⟩ := Option.bind_eq_some_iff.mp posted
      simp only [found, Option.map_some, Option.getD_some, Posted.members]
      exact List.mem_map.mpr ⟨_, Entries.mem_of_get? there, rfl⟩
    · cases posted
  · cases posted

end Submission

namespace Processor

/-! ## Cells -/

/-- A value is collected for a column of a row. -/
def Filed (rowId name value : String) (rows : TextMap Columns) : Prop :=
  ∃ columns, rows.get? rowId = some columns ∧ columns.get? name = some value

section Cells

variable {processor : Processor} {submission : Submission} {rowId value : String}

/-- The value that was posted for a field in a displayed row is collected. -/
theorem collectCell_files {field : Field} (shown : processor.rowKeys.contains rowId = true)
    (posted : submission.rowValue? field.name rowId = some value) (rows : TextMap Columns) :
    Filed rowId field.name value (processor.collectCell submission field rows rowId) := by
  unfold collectCell
  rw [shown, posted]
  exact ⟨_, TextMap.get?_insert_self _ _ _, TextMap.get?_insert_self _ _ _⟩

/-- What was collected stays when other cells are. -/
theorem collectCell_filed {name : String} (posted : submission.rowValue? name rowId = some value)
    (field : Field) (other : String) {rows : TextMap Columns} (filed : Filed rowId name value rows) :
    Filed rowId name value (processor.collectCell submission field rows other) := by
  obtain ⟨columns, there, found⟩ := filed
  unfold collectCell
  split
  · rename_i written shown cell
    by_cases sameRow : rowId = other
    · subst sameRow
      refine ⟨_, TextMap.get?_insert_self _ _ _, ?_⟩
      rw [there, Option.getD_some, TextMap.get?_insert]
      by_cases sameName : name = field.name
      · rw [if_pos sameName, ← cell, ← sameName, posted]
      · rw [if_neg sameName, found]
    · refine ⟨columns, ?_, found⟩
      rw [TextMap.get?_insert, if_neg sameRow, there]
  · exact ⟨columns, there, found⟩

/-- What was collected stays when other columns are. -/
theorem collectColumn_filed {name : String}
    (posted : submission.rowValue? name rowId = some value) (field : Field)
    {rows : TextMap Columns} (filed : Filed rowId name value rows) :
    Filed rowId name value (processor.collectColumn submission rows field) :=
  List.foldlRecOn _ _ filed fun _ before other _ => collectCell_filed posted field other before

/-- The column of a field holds its value for every displayed row that it was
posted for. -/
theorem collectColumn_files {field : Field} (shown : processor.rowKeys.contains rowId = true)
    (posted : submission.rowValue? field.name rowId = some value) (rows : TextMap Columns) :
    Filed rowId field.name value (processor.collectColumn submission rows field) :=
  foldl_of_mem (Submission.mem_rowIds posted) (collectCell_files shown posted)
    (fun _ other before => collectCell_filed posted field other before) rows

end Cells

/-! ## Rows -/

/-- The keys of rows are laid over their columns. -/
theorem addKeys_get? (processor : Processor) {rows : TextMap Columns} {rowId : String}
    {columns : Columns} (there : rows.get? rowId = some columns) :
    (processor.addKeys rows).get? rowId =
      some (columns.insertAll ((processor.rowKeys.get? rowId).getD [])) := by
  unfold addKeys TextMap.ofList
  apply TextMap.get?_insertAll_of_mem
  · rw [List.map_map]
    exact (List.pairwise_map.mpr rows.ascending).imp String.ne_of_lt
  · exact List.mem_map.mpr ⟨_, (TextMap.get?_eq_some_iff _ _ _).mp there, rfl⟩

/-- A displayed row that a value was posted for is collected with this value and
with its own key. -/
theorem collectRows_files {processor : Processor} {submission : Submission} {field : Field}
    {rowId value : String} {key : PrimaryKey} (stored : field ∈ processor.storedFields)
    (free : field.primary = false) (noted : processor.rowKeys.get? rowId = some key)
    (apart : ∀ column ∈ key, column.1 ≠ field.name) (distinct : (key.map Prod.fst).Nodup)
    (posted : submission.rowValue? field.name rowId = some value) :
    ∃ columns, (processor.collectRows submission).get? rowId = some columns ∧
      columns.get? field.name = some value ∧
      ∀ column ∈ key, columns.get? column.1 = some column.2 := by
  have shown : processor.rowKeys.contains rowId = true := by
    rw [TextMap.contains, noted]
    rfl
  have taken : field ∈ processor.storedFields.filter fun field => !field.primary := by
    simp [stored, free]
  have filed : Filed rowId field.name value
      ((processor.storedFields.filter fun field => !field.primary).foldl
        (processor.collectColumn submission) .empty) :=
    foldl_of_mem taken (collectColumn_files shown posted)
      (fun _ other before => collectColumn_filed posted other before) _
  obtain ⟨columns, there, found⟩ := filed
  refine ⟨_, processor.addKeys_get? there, ?_, ?_⟩
  · rw [noted, Option.getD_some, TextMap.get?_insertAll_of_absent _ _ _ apart, found]
  · intro column member
    rw [noted, Option.getD_some]
    exact TextMap.get?_insertAll_of_mem _ _ distinct member

/-- All of the rows are noted. -/
def OnlyNoted (processor : Processor) (rows : TextMap Columns) : Prop :=
  ∀ rowId, rows.contains rowId = true → processor.rowKeys.contains rowId = true

/-- A cell is collected for a noted row alone. -/
theorem collectCell_onlyNoted {processor : Processor} {rows : TextMap Columns}
    (noted : processor.OnlyNoted rows) (submission : Submission) (field : Field) (other : String) :
    processor.OnlyNoted (processor.collectCell submission field rows other) := by
  intro rowId there
  unfold collectCell at there
  split at there
  · rename_i value shown posted
    rw [TextMap.contains, TextMap.get?_insert] at there
    split at there
    · rename_i same
      rw [same]
      exact shown
    · exact noted rowId there
  · exact noted rowId there

/-- Nothing is collected for a row that is not noted. -/
theorem collectRows_onlyNoted (processor : Processor) (submission : Submission) :
    processor.OnlyNoted (processor.collectRows submission) := by
  have columns : processor.OnlyNoted
      ((processor.storedFields.filter fun field => !field.primary).foldl
        (processor.collectColumn submission) .empty) := by
    refine List.foldlRecOn _ _ (fun _ => nofun) fun rows noted field _ => ?_
    exact List.foldlRecOn _ _ noted fun rows noted other _ =>
      collectCell_onlyNoted noted submission field other
  intro rowId collected
  unfold collectRows addKeys TextMap.ofList at collected
  rcases (TextMap.contains_insertAll _ _ _).mp collected with nothing | entry
  · cases nothing
  · obtain ⟨laid, member, rfl⟩ := List.mem_map.mp entry
    obtain ⟨⟨name, values⟩, there, rfl⟩ := List.mem_map.mp member
    apply columns
    rw [TextMap.contains, (TextMap.get?_eq_some_iff _ _ _).mpr there]
    rfl

/-- A form without noted rows collects no rows. -/
theorem collectRows_of_empty {processor : Processor} (none : processor.rowKeys = .empty)
    (submission : Submission) : processor.collectRows submission = .empty := by
  have column (rows : TextMap Columns) (field : Field) :
      processor.collectColumn submission rows field = rows := by
    unfold collectColumn
    refine List.foldlRecOn (motive := fun found => found = rows) _ _ rfl fun found same other _ => ?_
    rw [collectCell, none, same]
    rfl
  have nothing (fields : List Field) :
      fields.foldl (processor.collectColumn submission) .empty = .empty := by
    induction fields with
    | nil => rfl
    | cons field rest inductionHypothesis => rw [List.foldl_cons, column, inductionHypothesis]
  simp only [collectRows, nothing]
  rfl

end Processor

end Formwork
