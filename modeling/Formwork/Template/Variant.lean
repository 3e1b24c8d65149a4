/-!
# Template variants

A template set holds one template for single records and one for tables of rows.
-/

namespace Formwork

/-- Which template of a set is meant. -/
inductive Variant where
  /-- The template for inserting or updating one record. -/
  | insert
  /-- The template for editing a table of rows. -/
  | edit
deriving DecidableEq, Repr

/-- The file stem of the variant. -/
def Variant.name : Variant → String
  | .insert => "insert"
  | .edit => "edit"

end Formwork
