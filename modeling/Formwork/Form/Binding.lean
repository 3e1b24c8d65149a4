import Formwork.Data.Select
import Formwork.Failure

/-!
# Binding a form to a table

What an application says about the table of a form becomes a binding, which always names a table and
a connection.
-/

namespace Formwork

/-- What an application says about the table of a form. -/
structure LinkOptions where
  /-- The table. -/
  table : Option String := none
  /-- The name of the connection; the default connection if there is none. -/
  connection : Option String := none
  /-- The order of rows. -/
  order : Option String := none
  /-- The condition on rows. -/
  condition : Option String := none
  /-- The greatest number of rows. -/
  limit : Option String := none
deriving DecidableEq, Repr

/-- The table of a form and how its rows are selected. -/
structure Binding where
  /-- The table. -/
  table : String
  /-- The name of the connection. -/
  connection : String
  /-- The order of rows. -/
  order : Option String := none
  /-- The condition on rows. -/
  condition : Option String := none
  /-- The greatest number of rows. -/
  limit : Option String := none
deriving DecidableEq, Repr

namespace Binding

/-- The statement that selects the rows. -/
def select (binding : Binding) : Select :=
  { table := binding.table, condition := binding.condition, order := binding.order
    limit := binding.limit }

/-- The binding as a JSON document. -/
def toJson (binding : Binding) : Json :=
  .object [
    ("table", .string binding.table),
    ("connection", .string binding.connection),
    ("order", Json.ofText? binding.order),
    ("where", Json.ofText? binding.condition),
    ("limit", Json.ofText? binding.limit)]

/-- Reads a binding from a JSON document. -/
def ofJson (json : Json) : Except Json.Fault Binding := do
  let members ← Json.asRecord ["table", "connection", "order", "where", "limit"] .refused json
  return {
    table := ← Json.required Json.asText "table" members
    connection := ← Json.required Json.asText "connection" members
    order := ← Json.optional Json.asText "order" members
    condition := ← Json.optional Json.asText "where" members
    limit := ← Json.optional Json.asText "limit" members }

end Binding

namespace LinkOptions

/-- The options that only name a table. -/
def ofTable (table : String) : LinkOptions := { table := some table }

/-- A name that is given and not blank, trimmed. -/
def given (name : Option String) : Option String := (name.map Text.trim).filter (· ≠ "")

/-- The binding that the options ask for. -/
def bind (options : LinkOptions) (defaultConnection : String) : Except Failure Binding :=
  match given options.table with
  | none => .error .missingTable
  | some table =>
    .ok {
      table
      connection := (given options.connection).getD defaultConnection
      order := options.order, condition := options.condition, limit := options.limit }

/-- The options as a JSON document. -/
def toJson (options : LinkOptions) : Json :=
  .object [
    ("table", Json.ofText? options.table),
    ("connection", Json.ofText? options.connection),
    ("order", Json.ofText? options.order),
    ("where", Json.ofText? options.condition),
    ("limit", Json.ofText? options.limit)]

/-- Reads options from a JSON document; every member may be left out. -/
def ofJson (json : Json) : Except Json.Fault LinkOptions := do
  let members ← Json.asRecord ["table", "connection", "order", "where", "limit"] .allowed json
  return {
    table := ← Json.optional Json.asText "table" members
    connection := ← Json.optional Json.asText "connection" members
    order := ← Json.optional Json.asText "order" members
    condition := ← Json.optional Json.asText "where" members
    limit := ← Json.optional Json.asText "limit" members }

end LinkOptions

end Formwork
