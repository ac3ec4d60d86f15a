import PgGateway.Catalog.Argument
import PgGateway.Sql.Literal

set_option autoImplicit false

/-!
# Tools that list what is in a database

The tools that list tables and schemas and describe the columns of a table. They read the
information schema, and names of schemas and tables are literals there.

## Main definitions

* `PgGateway.Catalog.ListTables`, `DescribeTable` — the arguments of the tools.
* `PgGateway.Catalog.ListSchemas.tool` — the tool that takes no arguments.
-/

namespace PgGateway.Catalog

open Shape
open Schema (must may)

/-- The tables of one schema, or of all. -/
structure ListTables where
  /-- The schema. -/
  schema : Option String

namespace ListTables

/-- The reader of the arguments. -/
def read : Reader ListTables :=
  let schema := Field.omissible "schema" text
  Record.read ⟨"struct ListTablesArgs", [schema.slot], fun given => do
    return ⟨← schema.of given⟩⟩

/-- The condition on the schema of a table. -/
def condition (a : ListTables) : String :=
  match a.schema with
  | some schema => "table_schema = " ++ Sql.quoteLiteral schema
  | none => "table_schema NOT IN ('pg_catalog', 'information_schema')"

/-- The statement that lists the tables. -/
def sql (a : ListTables) : String :=
  "SELECT table_schema AS schema, table_name AS name, table_type AS type " ++
    "FROM information_schema.tables WHERE " ++ a.condition ++ " ORDER BY table_schema, table_name"

/-- Lists the tables. -/
def plan (a : ListTables) : Except ToolError Action :=
  .ok (.query a.sql none fun r =>
    .ok (.object [("tables", r.rowsJson), ("count", .nat r.rowCount)]))

/-- The tool that lists tables. -/
def tool : Tool :=
  .reading "core" "pg_list_tables"
    "List tables and views, optionally restricted to one schema."
    (.record [may "schema" (.described "Schema name (default: all user schemas)" .text)])
    read plan

end ListTables

namespace ListSchemas

/-- The statement that lists the schemas of users. -/
def sql : String :=
  "SELECT schema_name AS name, schema_owner AS owner FROM information_schema.schemata " ++
    "WHERE schema_name NOT IN ('pg_catalog', 'information_schema') " ++
    "AND schema_name NOT LIKE 'pg_toast%' AND schema_name NOT LIKE 'pg_temp%' " ++
    "ORDER BY schema_name"

/-- Lists the schemas, whatever the arguments. -/
def plan (_ : Json) : Except ToolError Action :=
  .ok (.query sql none fun r => .ok (.object [("schemas", r.rowsJson)]))

/-- The tool that lists schemas. -/
def tool : Tool :=
  .reading "core" "pg_list_schemas" "List user schemas in the current database." (.record [])
    any plan

end ListSchemas

/-- A table whose columns are asked for. -/
structure DescribeTable where
  /-- The table, perhaps with its schema. -/
  table : String
  /-- The schema, which counts more than one that the table is given with. -/
  schema : Option String

namespace DescribeTable

/-- The reader of the arguments. -/
def read : Reader DescribeTable :=
  let table := Field.required "table" text
  let schema := Field.omissible "schema" text
  Record.read ⟨"struct DescribeTableArgs", [table.slot, schema.slot], fun given => do
    return ⟨← table.of given, ← schema.of given⟩⟩

/-- The schema and the name of the table. -/
def target (a : DescribeTable) : String × String :=
  let (schema, table) := Sql.splitName a.table
  (a.schema.getD schema, table)

/-- The statement that returns the columns. -/
def sql (a : DescribeTable) : String :=
  "SELECT column_name AS name, data_type AS type, is_nullable = 'YES' AS nullable, " ++
    "column_default AS default_value FROM information_schema.columns " ++
    "WHERE table_schema = " ++ Sql.quoteLiteral a.target.1 ++
    " AND table_name = " ++ Sql.quoteLiteral a.target.2 ++ " ORDER BY ordinal_position"

/-- The description of a table made of the rows about its columns. A table has at least one. -/
def conclude (a : DescribeTable) (r : ResultSet) : Except Failure Json :=
  let (schema, table) := a.target
  if r.rows.isEmpty then
    .error (.tool (.executionFailed ("Table not found: " ++ schema ++ "." ++ table)))
  else
    .ok (.object [("schema", .str schema), ("table", .str table), ("columns", r.rowsJson)])

/-- Describes the columns of the table. -/
def plan (a : DescribeTable) : Except ToolError Action :=
  .ok (.query a.sql none a.conclude)

/-- The tool that describes a table. -/
def tool : Tool :=
  .reading "core" "pg_describe_table"
    "Describe the columns of a table: name, type, nullability and default."
    (.record
      [must "table" (.described "Table name, optionally schema-qualified" .text),
        may "schema" (.described "Schema name (default: public)" .text)])
    read plan

end DescribeTable

end PgGateway.Catalog
