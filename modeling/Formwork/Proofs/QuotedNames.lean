import Formwork.Data.Select

/-!
# Names in statements

A statement is read from left to right: a quotation mark begins a name, in which two marks
stand for one and a single mark ends the name, and every other character stands for
itself. A quoted name is read back wherever it stands, unless another mark follows, so a
name cannot end its own quotation and nothing in it is read as a part of the statement.
In a statement that selects rows the name of the table is followed by nothing or by a
blank, so what stands behind it is read as it would be alone.
-/

namespace Formwork.Statement

/-- A part of a statement. -/
inductive Part where
  /-- A quoted name. -/
  | name (name : String)
  /-- A character outside of names. -/
  | sign (c : Char)
deriving DecidableEq, Repr

/-- The name, if the part is one. -/
def Part.name? : Part → Option String
  | name given => some given
  | sign _ => none

/-- The character, if the part is one. -/
def Part.sign? : Part → Option Char
  | name _ => none
  | sign c => some c

/-- A name has its name. -/
@[simp] theorem Part.name?_name (given : String) : (name given).name? = some given := rfl

/-- A character has none. -/
@[simp] theorem Part.name?_sign (c : Char) : (sign c).name? = none := rfl

/-- A name is no character. -/
@[simp] theorem Part.sign?_name (given : String) : (name given).sign? = none := rfl

/-- A character is itself. -/
@[simp] theorem Part.sign?_sign (c : Char) : (sign c).sign? = some c := rfl

/-- There are no names in characters. -/
@[simp] theorem filterMap_name?_signs (chars : List Char) :
    (chars.map Part.sign).filterMap Part.name? = [] := by
  induction chars with
  | nil => rfl
  | cons c rest inductionHypothesis => exact inductionHypothesis

/-- The characters are there in order. -/
@[simp] theorem filterMap_sign?_signs (chars : List Char) :
    (chars.map Part.sign).filterMap Part.sign? = chars := by
  induction chars with
  | nil => rfl
  | cons c rest inductionHypothesis => exact congrArg (c :: ·) inductionHypothesis

/-- Where a reader of a statement stands. -/
inductive Place where
  /-- Outside of names. -/
  | outside
  /-- Inside of a name, behind the given characters, last first. -/
  | inside (reversed : List Char)
  /-- Behind a mark that ends the name, unless another mark follows. -/
  | behind (reversed : List Char)

/-- The name of characters that are given last first. -/
def named (reversed : List Char) : Part := .name (String.ofList reversed.reverse)

/-- The parts that are read from characters on. A name that does not end is no part. -/
def read : Place → List Char → List Part
  | .outside, [] => []
  | .inside _, [] => []
  | .behind reversed, [] => [named reversed]
  | .outside, c :: rest =>
    if c = '"' then read (.inside []) rest else .sign c :: read .outside rest
  | .inside reversed, c :: rest =>
    if c = '"' then read (.behind reversed) rest else read (.inside (c :: reversed)) rest
  | .behind reversed, c :: rest =>
    if c = '"' then read (.inside (c :: reversed)) rest
    else named reversed :: .sign c :: read .outside rest

/-- The names of a statement, in order. -/
def names (sql : String) : List String := (read .outside sql.toList).filterMap Part.name?

/-- The characters of a statement outside of its names, in order. -/
def signs (sql : String) : List Char := (read .outside sql.toList).filterMap Part.sign?

/-- The characters make up the parts, whatever follows them. -/
def Spells (chars : List Char) (parts : List Part) : Prop :=
  ∀ rest, read .outside (chars ++ rest) = parts ++ read .outside rest

/-- A statement is read as the parts that it is made up of. -/
theorem Spells.read_eq {sql : String} {parts : List Part} (spelled : Spells sql.toList parts) :
    read .outside sql.toList = parts := by
  have whole := spelled []
  rwa [List.append_nil, read, List.append_nil] at whole

/-- Characters one after another make up the parts one after another. -/
theorem Spells.append {first second : List Char} {parts others : List Part}
    (left : Spells first parts) (right : Spells second others) :
    Spells (first ++ second) (parts ++ others) := by
  intro rest
  rw [List.append_assoc, left, right, List.append_assoc]

/-- Characters without marks stand for themselves. -/
theorem spells_signs {chars : List Char} (unmarked : '"' ∉ chars) :
    Spells chars (chars.map Part.sign) := by
  intro rest
  induction chars with
  | nil => rfl
  | cons c others inductionHypothesis =>
    rw [List.mem_cons, not_or] at unmarked
    rw [List.cons_append, read, if_neg (Ne.symm unmarked.1), inductionHypothesis unmarked.2]
    rfl

/-- Characters with every mark among them written twice. -/
def doubled (chars : List Char) : List Char :=
  chars.flatMap fun c => if c = '"' then ['"', '"'] else [c]

/-- Without characters there are no marks. -/
@[simp] theorem doubled_nil : doubled [] = [] := rfl

/-- A mark is written twice. -/
@[simp] theorem doubled_mark (rest : List Char) :
    doubled ('"' :: rest) = '"' :: '"' :: doubled rest := rfl

/-- Any other character is written once. -/
theorem doubled_sign {c : Char} (unmarked : c ≠ '"') (rest : List Char) :
    doubled (c :: rest) = c :: doubled rest := by
  rw [doubled, List.flatMap_cons, if_neg unmarked]
  rfl

/-- A quoted name is the doubled name between two marks. -/
theorem toList_quoteIdentifier (name : String) :
    (quoteIdentifier '"' name).toList = '"' :: (doubled name.toList ++ ['"']) :=
  String.toList_ofList

/-- Inside of a name, doubled marks are read as marks and all other characters as themselves. -/
theorem read_doubled (chars reversed rest : List Char) :
    read (.inside reversed) (doubled chars ++ rest) =
      read (.inside (chars.reverse ++ reversed)) rest := by
  induction chars generalizing reversed with
  | nil => rfl
  | cons c others inductionHypothesis =>
    rw [List.reverse_cons, List.append_assoc]
    by_cases mark : c = '"'
    · subst mark
      simp only [doubled_mark, List.cons_append, read, if_true]
      exact inductionHypothesis _
    · rw [doubled_sign mark]
      simp only [List.cons_append, read, if_neg mark]
      exact inductionHypothesis _

/-- A mark ends the name in front of anything that does not begin with another mark. -/
theorem read_behind (reversed : List Char) {rest : List Char} (unmarked : rest.head? ≠ some '"') :
    read (.behind reversed) rest = named reversed :: read .outside rest := by
  cases rest with
  | nil => rfl
  | cons c others =>
    have apart : c ≠ '"' := fun same => unmarked (congrArg some same)
    simp only [read, if_neg apart]

/-- A quoted name is read back in front of anything that does not begin with a mark. -/
theorem read_quoted (name : String) {rest : List Char} (unmarked : rest.head? ≠ some '"') :
    read .outside ((quoteIdentifier '"' name).toList ++ rest) =
      .name name :: read .outside rest := by
  have inside : (quoteIdentifier '"' name).toList ++ rest =
      '"' :: (doubled name.toList ++ '"' :: rest) := by simp [toList_quoteIdentifier]
  have back : named name.toList.reverse = .name name := by simp [named]
  rw [inside, read, if_pos rfl, read_doubled, List.append_nil, read, if_pos rfl,
    read_behind _ unmarked, back]

/-- So it spells itself in front of any character that is no mark. -/
theorem spells_quoted (name : String) {c : Char} (unmarked : c ≠ '"') {chars : List Char}
    {parts : List Part} (behind : Spells (c :: chars) parts) :
    Spells ((quoteIdentifier '"' name).toList ++ c :: chars) (.name name :: parts) := by
  intro rest
  rw [List.append_assoc, read_quoted name (by simpa using unmarked), behind, List.cons_append]

/-- Texts with a text between neighbours make up their parts with its parts between neighbours. -/
theorem spells_joinWith {between : String} {signs : List Part}
    (separates : Spells between.toList signs) {α : Type} {text : α → String}
    {parts : α → List Part} (spelled : ∀ item, Spells (text item).toList (parts item))
    (items : List α) :
    Spells (Text.joinWith between (items.map text)).toList
      (signs.intercalate (items.map parts)) := by
  induction items with
  | nil => exact fun _ => rfl
  | cons item rest inductionHypothesis =>
    cases rest with
    | nil => simpa [Text.joinWith] using spelled item
    | cons next others =>
      have written : (Text.joinWith between ((item :: next :: others).map text)).toList =
          (text item).toList ++ between.toList ++
            (Text.joinWith between ((next :: others).map text)).toList := by
        rw [List.map_cons, Text.joinWith.eq_3 _ _ _ (by simp)]
        simp
      have joined : signs.intercalate ((item :: next :: others).map parts) =
          parts item ++ signs ++ signs.intercalate ((next :: others).map parts) :=
        List.intercalate_cons_cons
      rw [written, joined]
      exact ((spelled item).append separates).append inductionHypothesis

end Formwork.Statement

namespace Formwork.Select

/-- What a statement says behind the table. -/
def clauses (select : Select) : String :=
  clause "WHERE" select.condition ++ clause "ORDER BY" select.order ++ clause "LIMIT" select.limit

/-- The table stands quoted in front of that. -/
theorem sql_eq (select : Select) (quote : String → String) :
    select.sql quote = "SELECT * FROM " ++ (quote select.table ++ select.clauses) := by
  unfold sql clauses
  simp only [String.append_assoc]

/-- A clause that is there begins with a blank. -/
theorem clause_unmarked (keyword : String) (part : Option String) :
    (clause keyword part).toList.head? ≠ some '"' := by
  have blank (text : String) : (" " ++ text).toList.head? = some ' ' := by
    rw [String.toList_append]
    rfl
  unfold clause
  split
  · split
    · decide
    · rw [String.append_assoc, String.append_assoc, blank]
      decide
  · decide

/-- So what stands behind the table begins with no mark. -/
theorem clauses_unmarked (select : Select) : select.clauses.toList.head? ≠ some '"' := by
  rw [clauses, String.toList_append, String.toList_append, List.head?_append, List.head?_append]
  intro marked
  rcases Option.or_eq_some_iff.mp marked with first | ⟨-, third⟩
  · rcases Option.or_eq_some_iff.mp first with first | ⟨-, second⟩
    · exact clause_unmarked _ _ first
    · exact clause_unmarked _ _ second
  · exact clause_unmarked _ _ third

/-- The table is read as one name, whatever it is, and what stands behind it is read as it would be
alone. -/
theorem read_sql (select : Select) :
    Statement.read .outside (select.sql (quoteIdentifier '"')).toList =
      "SELECT * FROM ".toList.map .sign ++
        .name select.table :: Statement.read .outside select.clauses.toList := by
  have front : Statement.Spells "SELECT * FROM ".toList ("SELECT * FROM ".toList.map .sign) :=
    Statement.spells_signs (by decide)
  rw [sql_eq, String.toList_append, String.toList_append, front,
    Statement.read_quoted select.table select.clauses_unmarked]

end Formwork.Select
