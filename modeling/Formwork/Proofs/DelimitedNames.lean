import Formwork.Proofs.UpdateKeys

/-!
# Quoted names delimit themselves

Who reads a quoted name from its first mark on needs to know nothing of what follows: two
marks stand for one, and the first single mark ends the name. So exactly the quoted names
are read, each up to its own last mark, in front of every text that does not begin with
another mark. All that a statement says behind a name begins with a blank. So whatever the
names of the table and of the columns are, the rest of the statement is the same text and
is read as the same parts.
-/

namespace Formwork

namespace Statement

/-! ## Reading one name -/

/-- Reads a name from behind its first mark: the characters of the name, and what follows the mark
that ends it. A name that does not end is not read. -/
def scanName : List Char → Option (List Char × List Char)
  | [] => none
  | '"' :: '"' :: rest => (scanName rest).map fun (name, behind) => ('"' :: name, behind)
  | '"' :: rest => some ([], rest)
  | c :: rest => (scanName rest).map fun (name, behind) => (c :: name, behind)

/-- The quoted name that a text begins with, and the text behind it. -/
def quotedName? (text : String) : Option (String × String) :=
  match text.toList with
  | '"' :: inside =>
    (scanName inside).map fun (name, behind) => (String.ofList name, String.ofList behind)
  | _ => none

/-- Two marks stand for one. -/
theorem scanName_mark (rest : List Char) :
    scanName ('"' :: '"' :: rest) =
      (scanName rest).map fun (name, behind) => ('"' :: name, behind) := rfl

/-- A single mark ends the name. -/
theorem scanName_end {rest : List Char} (single : rest.head? ≠ some '"') :
    scanName ('"' :: rest) = some ([], rest) :=
  scanName.eq_3 rest fun others same => single (by rw [same, List.head?_cons])

/-- Every other character stands for itself. -/
theorem scanName_sign {c : Char} (unmarked : c ≠ '"') (rest : List Char) :
    scanName (c :: rest) = (scanName rest).map fun (name, behind) => (c :: name, behind) :=
  scanName.eq_4 c rest (fun _ same _ => unmarked same) unmarked

/-- A doubled name is read up to the mark behind it, unless another mark follows.

Proof: induction on the name. A mark of it stands there twice and is read as one, so the mark behind
the name is the first single one. -/
theorem scanName_doubled (name : List Char) {rest : List Char} (single : rest.head? ≠ some '"') :
    scanName (doubled name ++ '"' :: rest) = some (name, rest) := by
  induction name with
  | nil => exact scanName_end single
  | cons c others inductionHypothesis =>
    by_cases mark : c = '"'
    · subst mark
      rw [doubled_mark, List.cons_append, List.cons_append, scanName_mark, inductionHypothesis]
      rfl
    · rw [doubled_sign mark, List.cons_append, scanName_sign mark, inductionHypothesis]
      rfl

/-- Whatever is read is such a name, with a mark behind it and no other mark behind that. -/
theorem eq_doubled_of_scanName {chars name rest : List Char}
    (found : scanName chars = some (name, rest)) :
    chars = doubled name ++ '"' :: rest ∧ rest.head? ≠ some '"' := by
  fun_induction scanName chars generalizing name with
  | case1 => cases found
  | case2 others inductionHypothesis =>
    obtain ⟨⟨_, _⟩, again, same⟩ := Option.map_eq_some_iff.mp found
    obtain ⟨rfl, rfl⟩ := Prod.mk.inj same
    obtain ⟨split, single⟩ := inductionHypothesis again
    exact ⟨by rw [split]; rfl, single⟩
  | case3 others undoubled =>
    obtain ⟨rfl, rfl⟩ := Prod.mk.inj (Option.some.inj found)
    refine ⟨rfl, fun marked => ?_⟩
    obtain ⟨later, same⟩ := List.head?_eq_some_iff.mp marked
    exact undoubled later same
  | case4 c others _ unmarked inductionHypothesis =>
    obtain ⟨⟨_, _⟩, again, same⟩ := Option.map_eq_some_iff.mp found
    obtain ⟨rfl, rfl⟩ := Prod.mk.inj same
    obtain ⟨split, single⟩ := inductionHypothesis again
    exact ⟨by rw [split, doubled_sign unmarked]; rfl, single⟩

/-- Exactly the quoted names are read, in front of exactly the texts that begin with no mark. -/
theorem quotedName?_eq_some_iff {text name rest : String} :
    quotedName? text = some (name, rest) ↔
      text = quoteIdentifier '"' name ++ rest ∧ rest.toList.head? ≠ some '"' := by
  constructor
  · intro found
    unfold quotedName? at found
    split at found
    · rename_i inside opened
      obtain ⟨⟨_, _⟩, scanned, same⟩ := Option.map_eq_some_iff.mp found
      obtain ⟨rfl, rfl⟩ := Prod.mk.inj same
      obtain ⟨split, single⟩ := eq_doubled_of_scanName scanned
      refine ⟨?_, by rwa [String.toList_ofList]⟩
      rw [← String.toList_inj, opened, split, String.toList_append, toList_quoteIdentifier]
      simp
    · cases found
  · rintro ⟨rfl, single⟩
    have opened : (quoteIdentifier '"' name ++ rest).toList =
        '"' :: (doubled name.toList ++ '"' :: rest.toList) := by
      simp [toList_quoteIdentifier]
    rw [quotedName?, opened]
    simp only [scanName_doubled name.toList single, Option.map_some, String.ofList_toList]

/-- Different names are quoted differently. -/
theorem quoteIdentifier_injective : Function.Injective (quoteIdentifier '"') := by
  intro left right same
  have alone (name : String) : quotedName? (quoteIdentifier '"' name) = some (name, "") :=
    quotedName?_eq_some_iff.mpr ⟨String.append_empty.symm, by decide⟩
  have read : some (left, "") = some (right, "") := by rw [← alone left, same, alone right]
  exact congrArg Prod.fst (Option.some.inj read)

/-- The reader of whole statements reads the same name and goes on behind it. -/
theorem read_quotedName? {text name rest : String} (found : quotedName? text = some (name, rest)) :
    read .outside text.toList = .name name :: read .outside rest.toList := by
  obtain ⟨rfl, single⟩ := quotedName?_eq_some_iff.mp found
  rw [String.toList_append, read_quoted name single]

/-! ## Names of tables and columns -/

/-- Quoted names delimit themselves. From a text a name and a rest are read exactly if the text is
the quoted name in front of the rest and the rest does not begin with a mark, so different names are
quoted differently; a reader of whole statements finds the same names. In every statement that
selects rows the name of the table ends where its clauses begin, and these are the same for all
tables. In the statement for a record the names of the table and of all columns are read as names,
and what is read around them is a fixed text.

Proof: the clauses begin with a blank, if there are any, and so does what stands behind the name of
a column. -/
theorem names_delimit_themselves :
    (∀ text name rest : String, quotedName? text = some (name, rest) ↔
      text = quoteIdentifier '"' name ++ rest ∧ rest.toList.head? ≠ some '"') ∧
    Function.Injective (quoteIdentifier '"') ∧
    (∀ text name rest : String, quotedName? text = some (name, rest) →
      read .outside text.toList = .name name :: read .outside rest.toList) ∧
    (∀ select : Select, ∃ behind : String,
      select.sql (quoteIdentifier '"') = "SELECT * FROM " ++ behind ∧
        quotedName? behind = some (select.table, select.clauses)) ∧
    ∀ (table column : String) (columns : List String),
      read .outside ((Select.record table (quoteIdentifier '"') (column :: columns)).sql
          (quoteIdentifier '"')).toList =
        Select.recordParts table (column :: columns) := by
  refine ⟨fun _ _ _ => quotedName?_eq_some_iff, quoteIdentifier_injective,
    fun _ _ _ found => read_quotedName? found, fun select => ?_, fun table column columns => ?_⟩
  · exact ⟨quoteIdentifier '"' select.table ++ select.clauses, select.sql_eq _,
      quotedName?_eq_some_iff.mpr ⟨rfl, select.clauses_unmarked⟩⟩
  · exact Select.read_record table (List.cons_ne_nil column columns)

/-- A name with a mark inside and a mark at its end, in front of a condition. -/
theorem weird_name_delimits_itself :
    quotedName? "\"we\"\"ird\"\"\" WHERE id = 1" = some ("we\"ird\"", " WHERE id = 1") ∧
      read .outside "\"we\"\"ird\"\"\" WHERE id = 1".toList =
        .name "we\"ird\"" :: read .outside " WHERE id = 1".toList := by
  obtain ⟨scanned, -, agrees, -⟩ := names_delimit_themselves
  have found : quotedName? "\"we\"\"ird\"\"\" WHERE id = 1" =
      some ("we\"ird\"", " WHERE id = 1") := (scanned _ _ _).mpr ⟨by decide, by decide⟩
  exact ⟨found, agrees _ _ _ found⟩

end Statement

end Formwork
