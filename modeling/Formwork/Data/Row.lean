import Formwork.Data.Cell

/-!
# Result rows

A row pairs each column name with its cell, in the order of the query. Names may repeat; a look-up
finds the first.
-/

namespace Formwork

/-- A row of a query result. -/
structure Row where
  /-- Column names with their cells, in order. -/
  cells : List (String × Cell)
deriving DecidableEq, Repr

namespace Row

/-- The row of column names and cells, if there are as many of one as of the other. -/
def ofColumns? (columns : List String) (cells : List Cell) : Option Row :=
  if columns.length = cells.length then some ⟨columns.zip cells⟩ else none

/-- The column names. -/
def columns (row : Row) : List String := row.cells.map (·.1)

/-- The number of columns. -/
def size (row : Row) : Nat := row.cells.length

/-- The row has no columns. -/
def isEmpty (row : Row) : Bool := row.cells.isEmpty

/-- The cell of the first column with the given name. -/
def get? (row : Row) (column : String) : Option Cell :=
  (row.cells.find? fun cell => cell.1 = column).map (·.2)

/-- The cell found is the first of its column, whatever stands behind it. -/
theorem get?_eq_some_iff (row : Row) (column : String) (cell : Cell) :
    row.get? column = some cell ↔
      ∃ front behind, row.cells = front ++ (column, cell) :: behind ∧
        ∀ earlier ∈ front, earlier.1 ≠ column := by
  simp only [get?, Option.map_eq_some_iff, List.find?_eq_some_iff_append]
  constructor
  · rintro ⟨⟨name, value⟩, ⟨same, front, behind, cells, apart⟩, rfl⟩
    obtain rfl : name = column := by simpa using same
    exact ⟨front, behind, cells, fun earlier member => by simpa using apart earlier member⟩
  · rintro ⟨front, behind, cells, apart⟩
    exact ⟨(column, cell), ⟨by simp, front, behind, cells,
      fun earlier member => by simpa using apart earlier member⟩, rfl⟩

end Row

end Formwork
