import PgGateway.Catalog.Argument
import PgGateway.Text.Lower

set_option autoImplicit false

/-!
# Tools for indexes

The tools that create an index on columns of a table and rebuild the indexes of a table.

## Main definitions

* `PgGateway.Catalog.CreateIndex`, `Reindex` — the arguments of the tools.
-/

namespace PgGateway.Catalog

open Shape
open Schema (must may)

/-- An index to create. -/
structure CreateIndex where
  /-- The table. -/
  table : String
  /-- The columns in order. -/
  columns : List String
  /-- The name of the index. -/
  name : Option String
  /-- Whether the index forbids equal rows. -/
  unique : Bool
  /-- Whether an existing index is left alone. -/
  ifNotExists : Bool
  /-- The access method. -/
  method : Option String

namespace CreateIndex

/-- The reader of the arguments. -/
def read : Reader CreateIndex :=
  let table := Field.required "table" text
  let columns := Field.required "columns" oneOrMany
  let name := Field.omissible "name" text
  let unique := Field.defaulted "unique" flag false
  let ifNotExists := (Field.defaulted "if_not_exists" flag false).orNamed "ifNotExists"
  let method := Field.omissible "method" text
  Record.read ⟨"struct CreateIndexArgs",
    [table.slot, columns.slot, name.slot, unique.slot, ifNotExists.slot, method.slot],
    fun given => do
      return ⟨← table.of given, ← columns.of given, ← name.of given, ← unique.of given,
        ← ifNotExists.of given, ← method.of given⟩⟩

/-- The access methods. -/
def methods : List String :=
  ["btree", "hash", "gin", "gist", "brin", "spgist"]

/-- The name of the index: the one given, or one made of the table and the columns. -/
def indexName (a : CreateIndex) : String :=
  a.name.getD ("idx_" ++ (Sql.splitName a.table).2 ++ "_" ++ Text.join "_" a.columns)

/-- The part of the statement that names the access method. -/
def usingPart? (a : CreateIndex) : Except ToolError String :=
  match a.method.map Text.lowered with
  | none => .ok ""
  | some m =>
    if methods.contains m then .ok (" USING " ++ m)
    else .error (refused ("Unknown index method: " ++ m))

/-- The statement that creates the index. -/
def sql? (a : CreateIndex) : Except ToolError String := do
  let usingPart ← a.usingPart?
  let name ← Sql.quoteName a.indexName
  let table ← Sql.quoteName a.table
  let columns ← Sql.quoteNames a.columns
  return "CREATE " ++ when a.unique "UNIQUE " ++ "INDEX " ++ when a.ifNotExists "IF NOT EXISTS " ++
    name ++ " ON " ++ table ++ usingPart ++ " (" ++ columns ++ ")"

/-- Creates the index and returns its name and the statement. -/
def plan (a : CreateIndex) : Except ToolError Action := do
  let sql ← a.sql?
  return .execute sql fun _ => success [("index", .str a.indexName), ("sql", .str sql)]

/-- The tool that creates an index. -/
def tool : Tool :=
  .reading "core" "pg_create_index" "Create an index on one or more columns."
    (.record
      [must "table" .text, must "columns" Schema.textOrTexts,
        may "name" (.described "Index name (default: idx_<table>_<columns>)" .text),
        may "unique" .flag, may "if_not_exists" .flag, may "method" (.choice methods)])
    read plan

end CreateIndex

/-- A table whose indexes are rebuilt. -/
structure Reindex where
  /-- The table. -/
  table : String
  /-- Whether writers go on meanwhile. -/
  concurrently : Bool

namespace Reindex

/-- The reader of the arguments. -/
def read : Reader Reindex :=
  let table := Field.required "table" text
  let concurrently := Field.defaulted "concurrently" flag false
  Record.read ⟨"struct ReindexArgs", [table.slot, concurrently.slot], fun given => do
    return ⟨← table.of given, ← concurrently.of given⟩⟩

/-- The statement that rebuilds the indexes. -/
def sql? (a : Reindex) : Except ToolError String := do
  let table ← Sql.quoteName a.table
  return "REINDEX TABLE " ++ when a.concurrently "CONCURRENTLY " ++ table

/-- Rebuilds the indexes and returns the statement that did. -/
def plan (a : Reindex) : Except ToolError Action := do
  let sql ← a.sql?
  return .execute sql fun _ => success [("sql", .str sql)]

/-- The tool that rebuilds the indexes of a table. -/
def tool : Tool :=
  .reading "admin" "pg_reindex" "Rebuild every index of a table."
    (.record
      [must "table" .text,
        may "concurrently" (.described "Rebuild without blocking writes" .flag)])
    read plan

end Reindex

end PgGateway.Catalog
