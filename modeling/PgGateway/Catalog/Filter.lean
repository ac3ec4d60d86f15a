import PgGateway.Catalog.Argument
import PgGateway.Sql.Condition

set_option autoImplicit false

/-!
# Tools that count rows

The tools that count the rows of a table and ask whether there are any, under a condition that is
the caller's own.

## Main definitions

* `PgGateway.Catalog.Filter` — the arguments of both tools.
* `PgGateway.Catalog.Filter.countTool`, `PgGateway.Catalog.Filter.existsTool` — the tools.
-/

namespace PgGateway.Catalog

open Shape
open Schema (must may)

/-- The rows of a table that satisfy a condition. -/
structure Filter where
  /-- The table. -/
  table : String
  /-- The condition. -/
  condition : Option String

namespace Filter

/-- The reader of the arguments. -/
def read : Reader Filter :=
  let table := Field.required "table" text
  let condition := (Field.omissible "where" text).orNamed "filter"
  Record.read ⟨"struct TableFilterArgs", [table.slot, condition.slot], fun given => do
    return ⟨← table.of given, ← condition.of given⟩⟩

/-- The statement that counts the rows. -/
def countSql? (a : Filter) : Except ToolError String := do
  let table ← Sql.quoteName a.table
  return "SELECT count(*) AS count FROM " ++ table ++ Sql.whereClause a.condition

/-- The statement that asks whether there are rows. -/
def existsSql? (a : Filter) : Except ToolError String := do
  let table ← Sql.quoteName a.table
  return "SELECT EXISTS (SELECT 1 FROM " ++ table ++ Sql.whereClause a.condition ++ ") AS exists"

/-- Counts the rows. -/
def countPlan (a : Filter) : Except ToolError Action := do
  let sql ← a.countSql?
  return .query sql none fun r =>
    .ok (.object [("count", .int (((r.firstCell? "count").bind Cell.int?).getD 0))])

/-- Asks whether there are rows. -/
def existsPlan (a : Filter) : Except ToolError Action := do
  let sql ← a.existsSql?
  return .query sql none fun r =>
    .ok (.object [("exists", .bool (((r.firstCell? "exists").bind Cell.bool?).getD false))])

/-- The schema of the arguments. -/
def schema : Schema :=
  .record
    [must "table" .text,
      may "where" (.described "SQL condition without the WHERE keyword" .text)]

/-- The tool that counts rows. -/
def countTool : Tool :=
  .reading "core" "pg_count" "Count rows in a table, optionally filtered by a WHERE condition."
    schema read countPlan

/-- The tool that asks whether there are rows. -/
def existsTool : Tool :=
  .reading "core" "pg_exists" "Check whether any row matches a WHERE condition."
    schema read existsPlan

end Filter

end PgGateway.Catalog
