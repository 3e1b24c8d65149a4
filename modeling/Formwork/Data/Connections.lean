import Formwork.Data.Row
import Formwork.Failure

/-!
# Database connections

A form names its connection and never holds it. A connection is known by its vendor, the mark it
quotes names with, and its answer to every query. Connections are looked up by name, and one name is
the default.

What a database holds may change from one query to the next. The answer to a query may therefore
depend on all queries that were asked before it. No two moments at which queries are asked have the
same queries before them, so this covers every course that the databases may take.
-/

namespace Formwork

/-- A query as it was run. -/
structure Query where
  /-- The name of the connection. -/
  connection : String
  /-- The statement. -/
  sql : String
  /-- The parameters. -/
  parameters : List Cell := []
deriving DecidableEq, Repr

/-- A connection to a database. -/
structure Connection where
  /-- The vendor's name. -/
  vendor : String
  /-- The mark that quotes table and column names. -/
  quotationMark : Char := '"'
  /-- The rows that a query with its parameters selects at first. -/
  answer : String → List Cell → Except Failure (List Row)
  /-- What an answer has become by the time that these queries were asked, the last of which is the
  one to be answered. A database that nothing changes still answers as at first. -/
  later : List Query → Except Failure (List Row) → Except Failure (List Row) := fun _ first => first

/-- The answer to a query that is asked after others. -/
def Connection.answerTo (connection : Connection) (earlier : List Query) (query : Query) :
    Except Failure (List Row) :=
  connection.later (earlier ++ [query]) (connection.answer query.sql query.parameters)

/-- Connections by name. -/
structure Connections where
  /-- The name that is meant when none is given. -/
  defaultName : String
  /-- The connections. -/
  byName : TextMap Connection := .empty

namespace Connections

/-- Registers a connection; one of the same name is replaced. -/
def register (connections : Connections) (name : String) (connection : Connection) : Connections :=
  { connections with byName := connections.byName.insert name connection }

/-- The names in order. -/
def names (connections : Connections) : List String := connections.byName.keys

/-- The given name or the default. -/
def effectiveName (connections : Connections) (name : Option String) : String :=
  name.getD connections.defaultName

/-- The connection of the given name, or the default connection. -/
def resolve (connections : Connections) (name : Option String) : Except Failure Connection :=
  let name := connections.effectiveName name
  match connections.byName.get? name with
  | some connection => .ok connection
  | none => .error (.unknownConnection name)

/-- The connections in words for developers: the default and all names. -/
def summary (connections : Connections) : String :=
  "ConnectionRegistry \x7b default_name: " ++ Text.quoted connections.defaultName
    ++ ", connections: " ++ Text.bracketed (connections.names.map Text.quoted) ++ " \x7d"

end Connections

end Formwork
