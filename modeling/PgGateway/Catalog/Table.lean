import PgGateway.Catalog.Argument
import PgGateway.Sql.ColumnType

set_option autoImplicit false

/-!
# Tools that create and drop tables

A new table is described column by column. Names are quoted and types checked; only the default of
a column is an expression of the caller's own.

## Main definitions

* `PgGateway.Catalog.ColumnPlan` — a column of a new table.
* `PgGateway.Catalog.CreateTable`, `DropTable` — the arguments of the tools.
-/

namespace PgGateway.Catalog

open Shape
open Schema (must may)

/-- A column of a new table. -/
structure ColumnPlan where
  /-- The name of the column. -/
  name : String
  /-- The type of the column. -/
  dataType : String
  /-- Whether the column may hold NULL. -/
  nullable : Bool
  /-- Whether the column is the primary key. -/
  primaryKey : Bool
  /-- Whether the values of the column are distinct. -/
  unique : Bool
  /-- The expression for the value of a row that gives none. -/
  default : Option String

namespace ColumnPlan

/-- The reader of a column. -/
def read : Reader ColumnPlan :=
  let name := Field.required "name" text
  let dataType := Field.required "type" text
  let nullable := Field.defaulted "nullable" flag true
  let primaryKey := (Field.defaulted "primary_key" flag false).orNamed "primaryKey"
  let unique := Field.defaulted "unique" flag false
  let default := Field.omissible "default" text
  Record.read ⟨"struct ColumnDefinition",
    [name.slot, dataType.slot, nullable.slot, primaryKey.slot, unique.slot, default.slot],
    fun given => do
      return ⟨← name.of given, ← dataType.of given, ← nullable.of given, ← primaryKey.of given,
        ← unique.of given, ← default.of given⟩⟩

/-- The constraints of a column. A primary key is never NULL, so it does not say so. -/
def constraints (c : ColumnPlan) : String :=
  (if c.primaryKey then " PRIMARY KEY" else when (!c.nullable) " NOT NULL") ++
    when c.unique " UNIQUE" ++
    match c.default with
    | some expression => " DEFAULT " ++ expression
    | none => ""

/-- The column as it stands in the statement. -/
def sql? (c : ColumnPlan) : Except ToolError String :=
  if Sql.isColumnType (Text.trim c.dataType.toList) then do
    let name ← Sql.quoteName c.name
    return name ++ " " ++ Text.strip c.dataType ++ c.constraints
  else
    .error (refused ("Invalid type for column " ++ c.name ++ ": '" ++ c.dataType ++ "'"))

end ColumnPlan

/-- A table to create. -/
structure CreateTable where
  /-- The name of the table. -/
  table : String
  /-- The columns in order. -/
  columns : List ColumnPlan
  /-- Whether an existing table is left alone. -/
  ifNotExists : Bool

namespace CreateTable

/-- The reader of the arguments. -/
def read : Reader CreateTable :=
  let table := Field.required "table" text
  let columns := Field.required "columns" (list ColumnPlan.read)
  let ifNotExists := (Field.defaulted "if_not_exists" flag false).orNamed "ifNotExists"
  Record.read ⟨"struct CreateTableArgs", [table.slot, columns.slot, ifNotExists.slot],
    fun given => do
      return ⟨← table.of given, ← columns.of given, ← ifNotExists.of given⟩⟩

/-- The statement that creates the table. -/
def sql? (a : CreateTable) : Except ToolError String :=
  if a.columns.isEmpty then .error Sql.noColumns
  else do
    let columns ← a.columns.mapM ColumnPlan.sql?
    let table ← Sql.quoteName a.table
    return "CREATE TABLE " ++ when a.ifNotExists "IF NOT EXISTS " ++ table ++
      " (" ++ Text.join ", " columns ++ ")"

/-- Creates the table and returns the statement that did. -/
def plan (a : CreateTable) : Except ToolError Action := do
  let sql ← a.sql?
  return .execute sql fun _ => success [("table", .str a.table), ("sql", .str sql)]

/-- The schema of a column. -/
def columnSchema : Schema :=
  .record
    [must "name" .text, must "type" .text, may "nullable" .flag, may "primary_key" .flag,
      may "unique" .flag, may "default" (.described "SQL default expression" .text)]

/-- The tool that creates a table. -/
def tool : Tool :=
  .reading "core" "pg_create_table" "Create a table from a list of column definitions."
    (.record
      [must "table" (.described "Table name, optionally schema-qualified" .text),
        must "columns" (.listOf columnSchema), may "if_not_exists" .flag])
    read plan

end CreateTable

/-- A table to drop. -/
structure DropTable where
  /-- The name of the table. -/
  table : String
  /-- Whether it is no error if there is no such table. -/
  ifExists : Bool
  /-- Whether to drop what depends on the table as well. -/
  cascade : Bool

namespace DropTable

/-- The reader of the arguments. -/
def read : Reader DropTable :=
  let table := Field.required "table" text
  let ifExists := (Field.defaulted "if_exists" flag true).orNamed "ifExists"
  let cascade := Field.defaulted "cascade" flag false
  Record.read ⟨"struct DropTableArgs", [table.slot, ifExists.slot, cascade.slot], fun given => do
    return ⟨← table.of given, ← ifExists.of given, ← cascade.of given⟩⟩

/-- The statement that drops the table. -/
def sql? (a : DropTable) : Except ToolError String := do
  let table ← Sql.quoteName a.table
  return "DROP TABLE " ++ when a.ifExists "IF EXISTS " ++ table ++ when a.cascade " CASCADE"

/-- Drops the table. -/
def plan (a : DropTable) : Except ToolError Action := do
  let sql ← a.sql?
  return .execute sql fun _ => success [("table", .str a.table)]

/-- The tool that drops a table. -/
def tool : Tool :=
  .reading "core" "pg_drop_table" "Drop a table."
    (.record
      [must "table" .text, may "if_exists" (.described "Default: true" .flag),
        may "cascade" (.described "Also drop dependent objects" .flag)])
    read plan

end DropTable

end PgGateway.Catalog
