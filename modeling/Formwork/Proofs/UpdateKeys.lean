import Formwork.Proofs.FilledDefaults
import Formwork.Proofs.QuotedNames
import Formwork.Proofs.SpelledTexts

/-!
# Keys of updated records are parameters

The record of an update form is selected by the columns of the primary key that the
options give. The statement is written from the names of the table and of these columns
alone, each quoted, with a placeholder for each column; the values are its parameters, in
the order of the columns. So whatever the values are, the statement is the same, and
whatever the names are, it has as many placeholders as parameters.
-/

namespace Formwork

namespace Select

/-- The condition that a column has the value of a parameter. -/
def equation (column : String) : String := quoteIdentifier '"' column ++ " = ?"

/-- Conditions on columns begin with a mark and end with a placeholder. -/
theorem equations_ends {columns : List String} (given : columns ≠ []) :
    ∃ middle, (Text.joinWith " AND " (columns.map equation)).toList = '"' :: (middle ++ ['?']) := by
  have starts (column : String) :
      ∃ middle, (equation column).toList = '"' :: (middle ++ ['?']) := by
    refine ⟨Statement.doubled column.toList ++ ['"', ' ', '=', ' '], ?_⟩
    simp [equation, Statement.toList_quoteIdentifier]
  induction columns with
  | nil => contradiction
  | cons column rest inductionHypothesis =>
    obtain ⟨first, written⟩ := starts column
    cases rest with
    | nil => exact ⟨first, written⟩
    | cons next others =>
      obtain ⟨later, behind⟩ := inductionHypothesis (List.cons_ne_nil next others)
      refine ⟨first ++ '?' :: (" AND ".toList ++ '"' :: later), ?_⟩
      rw [List.map_cons, Text.joinWith.eq_3 _ _ _ (by simp), String.toList_append,
        String.toList_append, written, behind]
      simp

/-- Behind the table stand the conditions, with nothing trimmed, and the greatest number of rows. -/
theorem record_clauses (table : String) {columns : List String} (given : columns ≠ []) :
    (record table (quoteIdentifier '"') columns).clauses =
      " WHERE " ++ (Text.joinWith " AND " (columns.map equation) ++ " LIMIT 1") := by
  obtain ⟨middle, written⟩ := equations_ends given
  have trimmed : Text.trim (Text.joinWith " AND " (columns.map equation)) =
      Text.joinWith " AND " (columns.map equation) := by
    have kept : Text.trimChars ('"' :: (middle ++ ['?'])) = '"' :: (middle ++ ['?']) :=
      Text.trimChars_kept (List.forall_mem_nil _) (by decide) (by decide)
    rw [Text.trim, written, kept, ← String.toList_inj, String.toList_ofList, written]
  have present : Text.joinWith " AND " (columns.map equation) ≠ "" := by
    intro none
    rw [none] at written
    cases written
  have limit : Text.trim "1" = "1" := by decide
  change clause "WHERE" (Option.some (Text.joinWith " AND " (columns.map equation)))
    ++ clause "ORDER BY" none ++ clause "LIMIT" (Option.some "1") = _
  simp only [clause, Option.map_some, Option.map_none, trimmed, limit, if_neg present]
  simp [← String.toList_inj]

/-- The parts of the condition that a column has the value of a parameter. -/
def equationParts (column : String) : List Statement.Part :=
  .name column :: " = ?".toList.map .sign

/-- The parts of conditions on columns, with a word between neighbours. -/
def equationsParts (columns : List String) : List Statement.Part :=
  (" AND ".toList.map .sign).intercalate (columns.map equationParts)

/-- The parts of the statement for a record: a fixed text around the names. -/
def recordParts (table : String) (columns : List String) : List Statement.Part :=
  "SELECT * FROM ".toList.map .sign ++ .name table :: (" WHERE ".toList.map .sign ++
    (equationsParts columns ++ " LIMIT 1".toList.map .sign))

/-- Conditions on columns are read as these parts. -/
theorem equations_spelled (columns : List String) :
    Statement.Spells (Text.joinWith " AND " (columns.map equation)).toList
      (equationsParts columns) := by
  have spelled (column : String) :
      Statement.Spells (equation column).toList (equationParts column) := by
    rw [equation, String.toList_append]
    exact Statement.spells_quoted column (by decide) (Statement.spells_signs (by decide))
  exact Statement.spells_joinWith (Statement.spells_signs (by decide)) spelled columns

/-- So is the statement for a record. -/
theorem read_record (table : String) {columns : List String} (given : columns ≠ []) :
    Statement.read .outside
        ((record table (quoteIdentifier '"') columns).sql (quoteIdentifier '"')).toList =
      recordParts table columns := by
  have behind : Statement.Spells
      (" WHERE ".toList ++
        ((Text.joinWith " AND " (columns.map equation)).toList ++ " LIMIT 1".toList))
      (" WHERE ".toList.map .sign ++ (equationsParts columns ++ " LIMIT 1".toList.map .sign)) :=
    (Statement.spells_signs (by decide)).append
      ((equations_spelled columns).append (Statement.spells_signs (by decide)))
  rw [← String.toList_append, ← String.toList_append, ← record_clauses table given] at behind
  rw [read_sql, behind.read_eq]
  rfl

/-- In conditions on columns stand the names of the columns, in order, and outside of them a
placeholder for each. -/
theorem equationsParts_counted (columns : List String) :
    (equationsParts columns).filterMap Statement.Part.name? = columns ∧
      ((equationsParts columns).filterMap Statement.Part.sign?).count '?' = columns.length := by
  induction columns with
  | nil => exact ⟨rfl, rfl⟩
  | cons column rest inductionHypothesis =>
    cases rest with
    | nil => simp [equationsParts, equationParts, List.filterMap_cons]
    | cons next others =>
      obtain ⟨names, placeholders⟩ := inductionHypothesis
      have joined : equationsParts (column :: next :: others) =
          equationParts column ++ " AND ".toList.map .sign ++ equationsParts (next :: others) :=
        List.intercalate_cons_cons
      rw [joined]
      exact ⟨by simp [equationParts, List.filterMap_cons, names],
        by simp [equationParts, List.filterMap_cons, placeholders]⟩

/-- In the statement for a record stand the names of the table and of the columns, in order, and
outside of them a placeholder for each column. -/
theorem record_spelled (table : String) {columns : List String} (given : columns ≠ []) :
    Statement.names ((record table (quoteIdentifier '"') columns).sql (quoteIdentifier '"')) =
        table :: columns ∧
      (Statement.signs
        ((record table (quoteIdentifier '"') columns).sql (quoteIdentifier '"'))).count '?' =
          columns.length := by
  obtain ⟨names, placeholders⟩ := equationsParts_counted columns
  rw [Statement.names, Statement.signs, read_record table given]
  unfold recordParts
  constructor
  · simp only [List.filterMap_append, List.filterMap_cons, Statement.filterMap_name?_signs,
      Statement.Part.name?_name, names, List.nil_append, List.append_nil]
  · simp only [List.filterMap_append, List.filterMap_cons, Statement.filterMap_sign?_signs,
      Statement.Part.sign?_name, List.count_append, placeholders]
    simp

end Select

/-! ## The key that options give -/

namespace Form

/-- The columns of a given key are the fields of the primary key that have a value. -/
theorem givenKey_columns (form : Form) (options : PageOptions) :
    (form.givenKey options).map (·.1) =
      form.catalog.primaryNames.filter options.values.contains := by
  unfold givenKey
  induction form.catalog.primaryNames with
  | nil => rfl
  | cons name rest inductionHypothesis =>
    cases given : options.values.get? name with
    | none => simp [TextMap.contains, given, inductionHypothesis]
    | some value => simp [TextMap.contains, given, inductionHypothesis]

/-- The values of a given key are the values of its columns. -/
theorem givenKey_values (form : Form) (options : PageOptions) :
    ((form.givenKey options).map (·.1)).map options.values.get? =
      ((form.givenKey options).map (·.2)).map some := by
  unfold givenKey
  induction form.catalog.primaryNames with
  | nil => rfl
  | cons name rest inductionHypothesis =>
    cases given : options.values.get? name with
    | none => simpa [given] using inductionHypothesis
    | some value => simpa [given] using inductionHypothesis

end Form

namespace Desk

/-- The values of a given key are parameters and never a part of the statement. A form that is not
bound, or given no field of its primary key, is filled without any query. Otherwise the fields of
the primary key that are given, whatever their values, decide on the statement. In it stand the
names of the table and of these fields, each quoted, and outside of names as many placeholders as
there are fields; the parameters are the values of the fields in the same order.

Proof: the statement is written from the columns of the key alone, and a quoted name is read back
as a name whatever characters it has. -/
theorem update_keys_stay_parameters {desk : Desk} {name : String} {form : Form}
    (found : desk.form name = .ok form) :
    (∀ options : PageOptions,
      form.binding = none ∨ form.catalog.primaryNames.filter options.values.contains = [] →
        ((fillRecord name options).run.run desk).2.queries = desk.queries) ∧
    ∀ (binding : Binding) (connection : Connection), form.binding = some binding →
      desk.connections.resolve (some binding.connection) = .ok connection →
      connection.quotationMark = '"' →
      ∀ columns : List String, columns ≠ [] → ∃ sql : String,
        Statement.names sql = binding.table :: columns ∧
        (Statement.signs sql).count '?' = columns.length ∧
        ∀ options : PageOptions,
          form.catalog.primaryNames.filter options.values.contains = columns →
            ∃ values : List String, columns.map options.values.get? = values.map some ∧
              ((fillRecord name options).run.run desk).2.queries =
                desk.queries ++ [⟨binding.connection, sql, values.map Cell.text⟩] := by
  constructor
  · intro options unasked
    rw [(fillRecord_run found options).2.2, keyQuery?]
    obtain unbound | ungiven := unasked
    · rw [unbound]
      exact List.append_nil _
    · rw [← Form.givenKey_columns, List.map_eq_nil_iff] at ungiven
      rw [ungiven]
      cases form.binding <;> exact List.append_nil _
  · intro binding connection bound resolved standard columns given
    obtain ⟨names, placeholders⟩ := Select.record_spelled binding.table given
    refine ⟨_, names, placeholders, fun options same => ?_⟩
    rw [← Form.givenKey_columns] at same
    refine ⟨(form.givenKey options).map (·.2), ?_, ?_⟩
    · rw [← same]
      exact Form.givenKey_values form options
    · have some : form.givenKey options ≠ [] := by
        intro none
        rw [none] at same
        exact given same.symm
      rw [(fillRecord_run found options).2.2, keyQuery?, bound, Option.bind_some, if_neg some,
        resolved, ← standard, ← same, List.map_map]
      rfl

/-- A form for a table whose names have marks, placeholders and words of statements in them. -/
def itemsEvents : List Event :=
  [.create "item" (some { table := some "items\" WHERE ?" }),
    .change "item" (.add { field := { name := "order\"?", primary := true } }),
    .change "item" (.add { field := { name := "? AND line", primary := true } }),
    .change "item" (.add { field := { name := "text" } })]

/-- A desk with that form. -/
def itemsDesk : Desk := (contactsDesk "").run itemsEvents

/-- That form. -/
def itemForm : Form :=
  { name := "item"
    catalog :=
      ⟨[{ field := { name := "order\"?", primary := true } },
        { field := { name := "? AND line", primary := true } }, { field := { name := "text" } }]⟩
    binding := some { table := "items\" WHERE ?", connection := "appDB" }
    insertTemplate := "default", editTemplate := "default", browserValidation := true }

/-- Options that give both fields of the key, the first with words of statements. -/
def itemOptions : PageOptions :=
  { values := .ofList [("? AND line", "2"), ("order\"?", "1 OR 1 = 1")] }

/-- The item is selected by a statement with two placeholders, and by the two values as they are. -/
theorem item_key_stays_parameters :
    itemsDesk.form "item" = .ok itemForm ∧ ∃ sql,
      Statement.names sql = ["items\" WHERE ?", "order\"?", "? AND line"] ∧
      (Statement.signs sql).count '?' = 2 ∧
      ((fillRecord "item" itemOptions).run.run itemsDesk).2.queries =
        [⟨"appDB", sql, [.text "1 OR 1 = 1", .text "2"]⟩] := by
  have registered : itemsDesk.form "item" = .ok itemForm := by decide +kernel
  obtain ⟨sql, names, placeholders, asks⟩ := (update_keys_stay_parameters registered).2 _
    { vendor := "sqlite", answer := fun _ _ => .ok contactRows } rfl rfl rfl
    ["order\"?", "? AND line"] (by decide)
  obtain ⟨values, taken, queries⟩ := asks itemOptions (by decide)
  have given : ["order\"?", "? AND line"].map itemOptions.values.get? =
      ["1 OR 1 = 1", "2"].map some := by decide
  obtain rfl : ["1 OR 1 = 1", "2"] = values :=
    List.map_injective_iff.mpr (fun _ _ => Option.some.inj) (given.symm.trans taken)
  exact ⟨registered, sql, names, placeholders, queries⟩

end Desk

end Formwork
