import Formwork.Proofs.RowIdentifiers
import Formwork.Proofs.RowKeys
import Mathlib.Data.Finset.Card
import Mathlib.Data.Nat.Find

/-!
# What a row loop notes and reports about its rows

Rows are noted one after another, each under its identifier, and a row whose identifier was seen
before is reported. So of rows that share an identifier the last one is what the form knows in the
end, and there are as many reports as there are rows beyond the first of each identifier. Rows of
a form without a primary key are known by their positions: as far as the digest tells these apart,
no two rows share an identifier, and what is noted for each of them is empty.
-/

namespace Formwork

/-- A key written last has the value it was written with, whatever was written before. -/
theorem TextMap.get?_insertAll_of_last {α : Type} (map : TextMap α) {entries : Entries α}
    {index : Nat} {key : String} {value : α} (there : entries[index]? = some (key, value))
    (last : ∀ later entry, index < later → entries[later]? = some entry → entry.1 ≠ key) :
    (map.insertAll entries).get? key = some value := by
  induction entries generalizing map index with
  | nil => cases there
  | cons head rest inductionHypothesis =>
    cases index with
    | zero =>
      obtain rfl := Option.some.inj there
      have absent : ∀ entry ∈ rest, entry.1 ≠ key := by
        intro entry member
        obtain ⟨later, found⟩ := List.getElem?_of_mem member
        exact last (later + 1) entry (Nat.succ_pos later) found
      rw [insertAll_cons, get?_insertAll_of_absent _ rest key absent, get?_insert_self]
    | succ index =>
      exact inductionHypothesis _ there fun later entry behind found =>
        last (later + 1) entry (Nat.succ_lt_succ behind) found

namespace Page

/-! ## Identifiers seen before -/

/-- The identifiers that stand behind an equal one or were seen before, in order. -/
def repeated (seen : List String) : List String → List String
  | [] => []
  | identifier :: rest =>
    if seen.contains identifier then identifier :: repeated (identifier :: seen) rest
    else repeated (identifier :: seen) rest

/-- The first identifier is repeated if it was seen before. -/
theorem map_repeated_cons {α : Type} (change : String → α) (seen : List String)
    (identifier : String) (rest : List String) :
    (repeated seen (identifier :: rest)).map change =
      (if seen.contains identifier then [change identifier] else []) ++
        (repeated (identifier :: seen) rest).map change := by
  rw [repeated]
  split
  · rfl
  · rfl

/-- Every identifier is repeated or is the first of its kind. -/
theorem length_repeated (seen identifiers : List String) :
    (repeated seen identifiers).length + (identifiers.toFinset \ seen.toFinset).card =
      identifiers.length := by
  induction identifiers generalizing seen with
  | nil => simp [repeated]
  | cons identifier rest inductionHypothesis =>
    have behind := inductionHypothesis (identifier :: seen)
    rw [List.toFinset_cons] at behind
    rw [repeated, List.toFinset_cons, List.length_cons]
    by_cases known : identifier ∈ seen
    · have inside : identifier ∈ seen.toFinset := List.mem_toFinset.mpr known
      rw [Finset.insert_eq_of_mem inside] at behind
      rw [if_pos (List.contains_iff_mem.mpr known), Finset.insert_sdiff_of_mem _ inside,
        List.length_cons]
      omega
    · have outside : identifier ∉ seen.toFinset := fun inside => known (List.mem_toFinset.mp inside)
      have first : insert identifier rest.toFinset \ seen.toFinset =
          insert identifier (rest.toFinset \ insert identifier seen.toFinset) := by
        ext other
        by_cases same : other = identifier
        · simp [same, known]
        · simp [same]
      have fresh : identifier ∉ rest.toFinset \ insert identifier seen.toFinset := by simp
      rw [if_neg (fun contains => known (List.contains_iff_mem.mp contains)), first,
        Finset.card_insert_of_notMem fresh]
      omega

/-- Where no identifier repeats none is repeated. -/
theorem repeated_of_nodup {seen identifiers : List String} (distinct : identifiers.Nodup)
    (apart : ∀ identifier ∈ identifiers, identifier ∉ seen) : repeated seen identifiers = [] := by
  induction identifiers generalizing seen with
  | nil => rfl
  | cons identifier rest inductionHypothesis =>
    obtain ⟨fresh, others⟩ := List.nodup_cons.mp distinct
    obtain ⟨unseen, behind⟩ := List.forall_mem_cons.mp apart
    rw [repeated, if_neg (fun contains => unseen (List.contains_iff_mem.mp contains))]
    refine inductionHypothesis others fun other member known => ?_
    rcases List.mem_cons.mp known with rfl | known
    · exact fresh member
    · exact behind other member known

/-! ## Warnings -/

/-- The warnings on a page, in order. -/
def warnings (page : Page) : List Report := page.diagnostics.reports.filter (·.level = .warning)

/-- No warning is reported. -/
def SameWarnings (before after : Page) : Prop := warnings after = warnings before

instance : IsPreorder Page SameWarnings where
  refl _ := rfl
  trans _ _ _ left right := Eq.trans right left

/-- Reports of another level are no warnings. -/
theorem report_sameWarnings {level : Level} (other : level ≠ .warning) (message : String) :
    Within SameWarnings (report level message) := by
  refine .step fun page => ?_
  simp [SameWarnings, warnings, Diagnostics.report, other]

/-- Showing fields reports no warning. -/
theorem across_sameWarnings (request : Request) : AcrossFields request SameWarnings where
  reports := report_sameWarnings (by decide)
  presents _ _ := rfl

/-- A shared identifier is a warning. -/
theorem warnings_reportingShared (table : String) (seen : List String) (rowId : String)
    (page : Page) :
    warnings (page.reportingShared table seen rowId) =
      warnings page ++ (if seen.contains rowId then [duplicateReport table rowId] else []) := by
  unfold reportingShared
  split
  · simp [warnings, duplicateReport]
  · exact (List.append_nil _).symm

/-- The identifiers of the rows at and behind a position, in order. -/
def identifiersOf (form : Form) (position : Nat) (rows : List Row) : List String :=
  (rowEntries form position rows).map Prod.fst

/-- The identifier of the first row comes first. -/
theorem identifiersOf_cons (form : Form) (position : Nat) (row : Row) (rest : List Row) :
    identifiersOf form position (row :: rest) =
      identifierOf form position row :: identifiersOf form (position + 1) rest := rfl

/-- A form that is kept gives the same identifiers. -/
theorem identifiersOf_kept {before after : Form} (kept : before.Kept after) (position : Nat)
    (rows : List Row) : identifiersOf after position rows = identifiersOf before position rows :=
  congrArg (List.map Prod.fst) (rowEntries_kept kept position rows)

/-- Of the rows written, those are reported whose identifiers were seen before. -/
theorem writeRows_warnings (request : Request) (body table : String) {keyed : Bool} (position : Nat)
    (seen : List String) (rows : List Row) (page : Page)
    (is : keyed = !page.form.catalog.primaryNames.isEmpty) :
    warnings ((writeRows request body table keyed position seen rows).run page).2 =
      warnings page ++
        (repeated seen (identifiersOf page.form position rows)).map (duplicateReport table) := by
  induction rows generalizing position seen page with
  | nil => exact (List.append_nil _).symm
  | cons row rest inductionHypothesis =>
    obtain ⟨noted, written, step, still, others, behind, ran⟩ :=
      writeRows_cons_run request body table position seen row rest page is
    -- Neither the row's cells nor its text are warned about.
    have silent : warnings noted = warnings page := by
      have same : SameWarnings page
          ((recordRow row (if keyed then none else some position)).run page).2 := rfl
      rwa [step.recorded] at same
    have shown := (across_sameWarnings request).row (fun _ _ => rfl) body row
      (identifierOf page.form position row)
      (noted.reportingShared table seen (identifierOf page.form position row))
    rw [step.shown] at shown
    have reported : warnings written.2 = warnings page ++
        (if seen.contains (identifierOf page.form position row) then
          [duplicateReport table (identifierOf page.form position row)] else []) := by
      rw [shown, warnings_reportingShared, silent]
    rw [ran, ← behind, inductionHypothesis _ _ _ still, reported, identifiersOf_kept step.kept,
      identifiersOf_cons, map_repeated_cons, List.append_assoc]

/-! ## Keys -/

/-- The key is that of the row: the names of the primary fields that are columns of the row, in
the order of the form, each with the text of its cell. -/
structure IsKeyOf (form : Form) (row : Row) (key : PrimaryKey) : Prop where
  /-- The primary fields that are columns are named, in order. -/
  names : key.map Prod.fst =
    form.catalog.primaryNames.filter fun name => row.columns.contains name
  /-- Each has the text of its cell. -/
  texts : ∀ named ∈ key, (row.get? named.1).map Cell.formText = some named.2

/-- A name that is looked up in vain is that of no column. -/
theorem get?_eq_none_iff (row : Row) (name : String) :
    row.get? name = none ↔ row.columns.contains name = false := by
  rw [Row.get?, Option.map_eq_none_iff, List.find?_eq_none, ← Bool.not_eq_true,
    List.contains_iff_mem, Row.columns, List.mem_map]
  constructor
  · rintro apart ⟨cell, member, rfl⟩
    exact apart cell member (decide_eq_true rfl)
  · rintro absent cell member same
    exact absent ⟨cell, member, of_decide_eq_true same⟩

/-- The noted key is the key of the row. -/
theorem keyOf_isKeyOf (form : Form) (row : Row) : IsKeyOf form row (keyOf form row) := by
  constructor
  · unfold keyOf
    induction form.catalog.primaryNames with
    | nil => rfl
    | cons name rest inductionHypothesis =>
      rw [List.filterMap_cons, List.filter_cons]
      cases looked : row.get? name with
      | none =>
        rw [if_neg (Bool.not_eq_true _ ▸ (get?_eq_none_iff row name).mp looked)]
        exact inductionHypothesis
      | some cell =>
        have column : row.columns.contains name = true := by
          rw [← Bool.not_eq_false, ← get?_eq_none_iff, looked]
          exact Option.some_ne_none cell
        rw [if_pos column]
        exact congrArg (name :: ·) inductionHypothesis
  · rintro named member
    obtain ⟨name, -, given⟩ := List.mem_filterMap.mp member
    obtain ⟨cell, looked, rfl⟩ := Option.map_eq_some_iff.mp given
    exact congrArg (Option.map Cell.formText) looked

/-- A form without a primary key has nothing to note of a row. -/
theorem keyOf_unkeyed {form : Form} (unkeyed : form.catalog.primaryNames = []) (row : Row) :
    keyOf form row = [] := by
  rw [keyOf, unkeyed]
  rfl

/-! ## The entries of an answer -/

/-- The entry of a row stands at the row's place. -/
theorem getElem?_rowEntries (form : Form) (position index : Nat) (rows : List Row) :
    (rowEntries form position rows)[index]? = (rows[index]?).map fun row =>
      (identifierOf form (position + index) row, keyOf form row) := by
  induction rows generalizing position index with
  | nil => rfl
  | cons row rest inductionHypothesis =>
    cases index with
    | zero => rfl
    | succ index =>
      rw [rowEntries, List.getElem?_cons_succ, List.getElem?_cons_succ, inductionHypothesis]
      congr! 4
      omega

/-- There is an identifier for each row. -/
theorem length_identifiersOf (form : Form) (position : Nat) (rows : List Row) :
    (identifiersOf form position rows).length = rows.length := by
  induction rows generalizing position with
  | nil => rfl
  | cons row rest inductionHypothesis =>
    rw [identifiersOf_cons, List.length_cons, inductionHypothesis, List.length_cons]

/-- An item of a list has a last place. -/
theorem exists_last {α : Type} [DecidableEq α] {items : List α} {index : Nat} {item : α}
    (there : items[index]? = some item) :
    ∃ last, index ≤ last ∧ items[last]? = some item ∧
      ∀ later, last < later → items[later]? ≠ some item := by
  have inside {place : Nat} (found : items[place]? = some item) : place ≤ items.length :=
    (List.getElem?_eq_some_iff.mp found).1.le
  refine ⟨Nat.findGreatest (fun place => items[place]? = some item) items.length,
    Nat.le_findGreatest (inside there) there,
    Nat.findGreatest_spec (P := fun place => items[place]? = some item) (inside there) there, ?_⟩
  intro later behind found
  exact Nat.findGreatest_is_greatest behind (inside found) found

/-- The texts that the rows of a form without a primary key are told apart by. -/
def positionTexts (count : Nat) : Set String :=
  {text | ∃ position < count, text = Form.keyText (positionKey position)}

/-- As far as the digest tells positions apart, identifiers of rows without a key do. -/
theorem nodup_identifiersOf {form : Form} (unkeyed : form.catalog.primaryNames = [])
    {rows : List Row} (apart : Set.InjOn Sha256.ofText (positionTexts rows.length)) :
    (identifiersOf form 0 rows).Nodup := by
  have entry {index : Nat} (inside : index < (identifiersOf form 0 rows).length) :
      (identifiersOf form 0 rows)[index] = Sha256.ofText (Form.keyText (positionKey index)) := by
    have place : index < rows.length := by rwa [length_identifiersOf] at inside
    apply Option.some.inj
    rw [← List.getElem?_eq_getElem inside, identifiersOf, List.getElem?_map, getElem?_rowEntries,
      List.getElem?_eq_getElem place, Nat.zero_add]
    simp only [Option.map_some, identifierOf, unkeyed, List.isEmpty_nil, if_true]
    rfl
  rw [List.nodup_iff_injective_getElem]
  rintro ⟨left, inLeft⟩ ⟨right, inRight⟩ same
  simp only [entry] at same
  rw [length_identifiersOf] at inLeft inRight
  have texts := apart ⟨left, inLeft, rfl⟩ ⟨right, inRight, rfl⟩ same
  have numbers : Decimal.natText left = Decimal.natText right :=
    (String.append_right_inj "#").mp texts
  exact Fin.ext (Decimal.natText_injective numbers)

/-! ## One row loop -/

/-- What is noted and reported about the rows of an answer between two pages. -/
structure RowsRecorded (binding : Binding) (rows : List Row) (before after : Page) : Prop where
  /-- Under the identifier of a row stands the key of the last row with that identifier. -/
  keys : ∀ index identifier, (identifiersOf before.form 0 rows)[index]? = some identifier →
    ∃ (last : Nat) (row : Row) (key : PrimaryKey), index ≤ last ∧ rows[last]? = some row ∧
      (identifiersOf before.form 0 rows)[last]? = some identifier ∧
      (∀ later, last < later → (identifiersOf before.form 0 rows)[later]? ≠ some identifier) ∧
      IsKeyOf before.form row key ∧ after.form.rowKeys.get? identifier = some key
  /-- Under other identifiers nothing changes. -/
  others : ∀ identifier ∉ identifiersOf before.form 0 rows,
    after.form.rowKeys.get? identifier = before.form.rowKeys.get? identifier
  /-- The only warnings are about rows whose identifiers were seen before. -/
  reports : warnings after = warnings before ++
    (repeated [] (identifiersOf before.form 0 rows)).map (duplicateReport binding.table)
  /-- There are as many of them as there are rows more than identifiers. -/
  number : (warnings after).length + (identifiersOf before.form 0 rows).toFinset.card =
    (warnings before).length + rows.length
  /-- Rows of a form without a primary key have identifiers of their own as far as the digest
  tells positions apart. None of them is reported, and an empty key is noted for each. -/
  unkeyed : before.form.catalog.primaryNames = [] →
    Set.InjOn Sha256.ofText (positionTexts rows.length) →
      (identifiersOf before.form 0 rows).Nodup ∧ warnings after = warnings before ∧
        ∀ identifier ∈ identifiersOf before.form 0 rows,
          after.form.rowKeys.get? identifier = some []

/-- Entries written for rows, and warnings for repeated identifiers, are all there is to it. -/
theorem rowsRecorded_of_entries {binding : Binding} {rows : List Row} {before after : Page}
    (keys : after.form.rowKeys =
      before.form.rowKeys.insertAll (rowEntries before.form 0 rows))
    (reports : warnings after = warnings before ++
      (repeated [] (identifiersOf before.form 0 rows)).map (duplicateReport binding.table)) :
    RowsRecorded binding rows before after := by
  have lastKey (index : Nat) (identifier : String)
      (there : (identifiersOf before.form 0 rows)[index]? = some identifier) :
      ∃ (last : Nat) (row : Row), index ≤ last ∧ rows[last]? = some row ∧
        (identifiersOf before.form 0 rows)[last]? = some identifier ∧
        (∀ later, last < later → (identifiersOf before.form 0 rows)[later]? ≠ some identifier) ∧
        after.form.rowKeys.get? identifier = some (keyOf before.form row) := by
    obtain ⟨last, behind, found, greatest⟩ := exists_last there
    have entry := found
    rw [identifiersOf, List.getElem?_map, getElem?_rowEntries, Option.map_map] at entry
    obtain ⟨row, placed, rfl⟩ := Option.map_eq_some_iff.mp entry
    refine ⟨last, row, behind, placed, found, greatest, ?_⟩
    rw [keys]
    have stands : (rowEntries before.form 0 rows)[last]? =
        some (identifierOf before.form (0 + last) row, keyOf before.form row) := by
      rw [getElem?_rowEntries, placed]
      rfl
    refine TextMap.get?_insertAll_of_last _ stands fun later entry above taken same => ?_
    refine greatest later above ?_
    rw [identifiersOf, List.getElem?_map, taken]
    exact congrArg some same
  refine ⟨fun index identifier there => ?_, fun identifier absent => ?_, reports, ?_,
    fun unkeyed apart => ⟨nodup_identifiersOf unkeyed apart, ?_, fun identifier member => ?_⟩⟩
  · obtain ⟨last, row, behind, placed, found, greatest, noted⟩ := lastKey index identifier there
    exact ⟨last, row, _, behind, placed, found, greatest, keyOf_isKeyOf before.form row, noted⟩
  · rw [keys]
    refine TextMap.get?_insertAll_of_absent _ _ _ fun entry member same => absent ?_
    exact List.mem_map.mpr ⟨entry, member, same⟩
  · have count := length_repeated [] (identifiersOf before.form 0 rows)
    rw [length_identifiersOf, List.toFinset_nil, Finset.sdiff_empty] at count
    rw [reports, List.length_append, List.length_map]
    omega
  · rw [reports, repeated_of_nodup (nodup_identifiersOf unkeyed apart) (by simp)]
    exact List.append_nil _
  · obtain ⟨index, there⟩ := List.getElem?_of_mem member
    obtain ⟨last, row, -, -, -, -, noted⟩ := lastKey index identifier there
    rw [noted, keyOf_unkeyed unkeyed]

/-- A row loop over an answer with rows notes under every identifier the key of the last row that
has it, and nothing under others, and reports as many repeated identifiers as there are more rows
than identifiers. For a form without a primary key, and as far as the digest tells positions
apart, all identifiers differ, none is reported and every noted key is empty. -/
theorem row_loop_records_rows (request : Request) (body : String) (page : Page) {binding : Binding}
    {connection : Connection} {rows : List Row} (bound : page.form.binding = some binding)
    (resolved : request.connections.resolve (some binding.connection) = .ok connection)
    (answered : connection.answerTo page.queries (rowsQuery connection binding) = .ok rows)
    (filled : rows ≠ []) :
    RowsRecorded binding rows page ((writeRowLoop request body).run page).2 := by
  rw [writeRowLoop_filled resolved body bound answered filled]
  refine rowsRecorded_of_entries (writeAnswer_rowKeys request body binding rows _) ?_
  generalize rowsQuery connection binding = query
  have written := writeRows_warnings request body binding.table 0 [] rows
    ((page.asked query).answering rows) rfl
  have counted : warnings ((page.asked query).answering rows) = warnings page := by
    unfold answering
    split
    · exact report_sameWarnings (by decide) _ (page.asked query)
    · rfl
  rw [writeAnswer_run]
  exact written.trans (congrArg (· ++ _) counted)

/-- A form of persons with a number as their key, for a table. -/
def staffForm (keyed : Bool) : Form where
  name := "staff"
  catalog := ⟨[{ field := { name := "id", primary := keyed } }, { field := { name := "name" } }]⟩
  binding := some { table := "staff", connection := "appDB" }
  insertTemplate := ""
  editTemplate := ""
  browserValidation := true

/-- Two of the three persons share a number. -/
def staffRows : List Row :=
  [⟨[("id", .int 1), ("name", .text "Ada")]⟩, ⟨[("id", .int 2), ("name", .text "Bo")]⟩,
    ⟨[("id", .int 1), ("name", .text "Cy")]⟩]

/-- The table is to be shown. -/
def staffRequest : Request where
  kind := .table
  formId := "fid"
  connections :=
    { defaultName := "appDB"
      byName := .ofList [("appDB", { vendor := "sqlite", answer := fun _ _ => .ok staffRows })] }
  issuer := fun number => ⟨"cid" ++ Decimal.natText number, "tok" ++ Decimal.natText number⟩

/-- The name of a person. -/
def staffBody : String := "\x7bfield name=\"name\"\x7d"

/-- The page after a row loop over the staff. -/
def staffPage (keyed : Bool) : Page :=
  ((writeRowLoop staffRequest staffBody).run { form := staffForm keyed }).2

/-- One person of the staff is reported, the last one of the first number. Without a key nobody
is. -/
theorem staff_recorded :
    staffRows ≠ [] ∧ Set.InjOn Sha256.ofText (positionTexts staffRows.length) ∧
      (warnings (staffPage true)).length = 1 ∧
      (∃ key, (staffPage true).form.rowKeys.get? (Form.rowIdentifier [("id", "1")]) = some key ∧
        key.map Prod.fst = ["id"]) ∧
      (identifiersOf (staffForm false) 0 staffRows).Nodup ∧ warnings (staffPage false) = [] := by
  have filled : staffRows ≠ [] := List.cons_ne_nil _ _
  have recorded (keyed : Bool) : RowsRecorded { table := "staff", connection := "appDB" } staffRows
      { form := staffForm keyed } (staffPage keyed) :=
    row_loop_records_rows staffRequest staffBody { form := staffForm keyed } rfl rfl rfl filled
  have digests : ((List.range 3).map fun position =>
      Sha256.ofText (Form.keyText (positionKey position))).Nodup := by decide +kernel
  have apart : Set.InjOn Sha256.ofText (positionTexts staffRows.length) := by
    rintro _ ⟨left, inLeft, rfl⟩ _ ⟨right, inRight, rfl⟩ same
    exact congrArg (fun position => Form.keyText (positionKey position))
      (List.inj_on_of_nodup_map digests (List.mem_range.mpr inLeft) (List.mem_range.mpr inRight)
        same)
  obtain ⟨distinct, silent, -⟩ := (recorded false).unkeyed rfl apart
  have number := (recorded true).number
  dsimp only at number
  have none : (warnings { form := staffForm true }).length = 0 := rfl
  have three : staffRows.length = 3 := rfl
  have card : (identifiersOf (staffForm true) 0 staffRows).toFinset.card = 2 := by decide +kernel
  have first : (identifiersOf (staffForm true) 0 staffRows)[0]? =
      some (Form.rowIdentifier [("id", "1")]) := by decide +kernel
  obtain ⟨last, row, key, -, placed, -, -, isKey, noted⟩ := (recorded true).keys 0 _ first
  have names : key.map Prod.fst = ["id"] := by
    have columns : ∀ row ∈ staffRows, ((staffForm true).catalog.primaryNames.filter
        fun name => row.columns.contains name) = ["id"] := by decide
    exact isKey.names.trans (columns row (List.mem_of_getElem? placed))
  refine ⟨filled, apart, ?_, ⟨key, noted, names⟩, distinct, silent⟩
  omega

end Page

end Formwork
