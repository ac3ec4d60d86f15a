import PgGateway.Catalog.Argument
import PgGateway.Sql.Condition
import PgGateway.Sql.Literal
import PgGateway.Sql.Path

set_option autoImplicit false

/-!
# Tools for JSON columns

The tools that take values out of a column of JSON documents, put values into it, list its keys and
find documents that contain a value.

## Main definitions

* `PgGateway.Catalog.JsonExtract`, `JsonSet`, `JsonKeys`, `JsonContains` — the arguments of the
  tools.
-/

namespace PgGateway.Catalog

open Shape
open Schema (must may)

/-- A place in the documents of a column, whose values are asked for. -/
structure JsonExtract where
  /-- The table. -/
  table : String
  /-- The column. -/
  column : String
  /-- The path to the place. -/
  path : Json
  /-- The condition on the rows. -/
  condition : Option String
  /-- The greatest number of rows. -/
  limit : Option Nat

namespace JsonExtract

/-- The reader of the arguments. -/
def read : Reader JsonExtract :=
  let table := Field.required "table" text
  let column := Field.required "column" text
  let path := Field.required "path" any
  let condition := Field.omissible "where" text
  let limit := Field.omissible "limit" natural32
  Record.read ⟨"struct ExtractArgs",
    [table.slot, column.slot, path.slot, condition.slot, limit.slot], fun given => do
      return ⟨← table.of given, ← column.of given, ← path.of given, ← condition.of given,
        ← limit.of given⟩⟩

/-- The statement that returns the values. -/
def sql? (a : JsonExtract) : Except ToolError String := do
  let path ← Sql.parsePath a.path
  let column ← Sql.quoteName a.column
  let table ← Sql.quoteName a.table
  return "SELECT " ++ column ++ " #> " ++ Sql.arrayLiteral path ++ " AS value FROM " ++ table ++
    Sql.whereAll a.condition none

/-- Returns the values. -/
def plan (a : JsonExtract) : Except ToolError Action := do
  let sql ← a.sql?
  return .query sql a.limit fun r =>
    let values := r.cellsUnder "value"
    .ok (.object [("values", .arr (values.map Cell.toJson)), ("count", .nat values.length)])

/-- The tool that extracts values. -/
def tool : Tool :=
  .reading "json" "pg_json_extract" "Extract the value at a JSON path from a jsonb column."
    (.record
      [must "table" .text, must "column" .text,
        must "path" (.described "Path as 'a.b.0', '$.a.b' or an array of segments"
          (.oneOf [.text, .list])),
        may "where" .text, may "limit" (.integer (some 1) none)])
    read plan

end JsonExtract

/-- A value to put at a place in the documents of a column. -/
structure JsonSet where
  /-- The table. -/
  table : String
  /-- The column. -/
  column : String
  /-- The path to the place. -/
  path : Json
  /-- The value. -/
  value : Json
  /-- The condition on the rows. -/
  condition : Option String
  /-- Whether a place that a document does not have is made. -/
  createMissing : Bool

namespace JsonSet

/-- The reader of the arguments. -/
def read : Reader JsonSet :=
  let table := Field.required "table" text
  let column := Field.required "column" text
  let path := Field.required "path" any
  let value := Field.required "value" any
  let condition := Field.omissible "where" text
  let createMissing := (Field.defaulted "create_missing" flag true).orNamed "createMissing"
  Record.read ⟨"struct SetArgs",
    [table.slot, column.slot, path.slot, value.slot, condition.slot, createMissing.slot],
    fun given => do
      return ⟨← table.of given, ← column.of given, ← path.of given, ← value.of given,
        ← condition.of given, ← createMissing.of given⟩⟩

/-- The statement that puts the value. -/
def sql? (a : JsonSet) : Except ToolError String := do
  let column ← Sql.quoteName a.column
  let path ← Sql.parsePath a.path
  let table ← Sql.quoteName a.table
  return "UPDATE " ++ table ++ " SET " ++ column ++ " = jsonb_set(COALESCE(" ++ column ++
    ", '{}'::jsonb), " ++ Sql.arrayLiteral path ++ ", " ++ Sql.jsonbLiteral a.value ++ ", " ++
    (if a.createMissing then "true" else "false") ++ ")" ++ Sql.whereAll a.condition none

/-- Puts the value and returns the number of affected rows. -/
def plan (a : JsonSet) : Except ToolError Action := do
  let sql ← a.sql?
  return .execute sql affected

/-- The tool that sets values. -/
def tool : Tool :=
  .reading "json" "pg_json_set" "Set the value at a JSON path in a jsonb column (jsonb_set)."
    (.record
      [must "table" .text, must "column" .text, must "path" (.oneOf [.text, .list]),
        must "value" (.described "Any JSON value" .any),
        may "where" (.described "Rows to update (default: all)" .text),
        may "create_missing" (.described "Default: true" .flag)])
    read plan

end JsonSet

/-- Documents of a column, or objects at a place in them, whose keys are asked for. -/
structure JsonKeys where
  /-- The table. -/
  table : String
  /-- The column. -/
  column : String
  /-- The path to the objects. -/
  path : Option Json
  /-- The condition on the rows. -/
  condition : Option String

namespace JsonKeys

/-- The reader of the arguments. -/
def read : Reader JsonKeys :=
  let table := Field.required "table" text
  let column := Field.required "column" text
  let path := Field.omissible "path" any
  let condition := Field.omissible "where" text
  Record.read ⟨"struct KeysArgs", [table.slot, column.slot, path.slot, condition.slot],
    fun given => do
      return ⟨← table.of given, ← column.of given, ← path.of given, ← condition.of given⟩⟩

/-- The expression for the objects. -/
def target? (a : JsonKeys) : Except ToolError String := do
  let column ← Sql.quoteName a.column
  match a.path with
  | some path => return column ++ " #> " ++ Sql.arrayLiteral (← Sql.parsePath path)
  | none => return column

/-- The statement that returns the keys. -/
def sql? (a : JsonKeys) : Except ToolError String := do
  let target ← a.target?
  let table ← Sql.quoteName a.table
  return "SELECT DISTINCT jsonb_object_keys(" ++ target ++ ") AS key FROM " ++ table ++
    Sql.whereAll a.condition (some ("jsonb_typeof(" ++ target ++ ") = 'object'")) ++
    " ORDER BY key"

/-- Returns the keys. -/
def plan (a : JsonKeys) : Except ToolError Action := do
  let sql ← a.sql?
  return .query sql none fun r =>
    .ok (.object [("keys", .arr ((r.cellsUnder "key").map Cell.toJson))])

/-- The tool that lists keys. -/
def tool : Tool :=
  .reading "json" "pg_json_keys"
    "List the distinct top-level keys of a jsonb column, or of the object at a path."
    (.record
      [must "table" .text, must "column" .text, may "path" (.oneOf [.text, .list]),
        may "where" .text])
    read plan

end JsonKeys

/-- A value that documents of a column contain. -/
structure JsonContains where
  /-- The table. -/
  table : String
  /-- The column. -/
  column : String
  /-- The value. -/
  value : Json
  /-- The condition on the rows. -/
  condition : Option String
  /-- The greatest number of rows. -/
  limit : Option Nat

namespace JsonContains

/-- The reader of the arguments. -/
def read : Reader JsonContains :=
  let table := Field.required "table" text
  let column := Field.required "column" text
  let value := Field.required "value" any
  let condition := Field.omissible "where" text
  let limit := Field.omissible "limit" natural32
  Record.read ⟨"struct ContainsArgs",
    [table.slot, column.slot, value.slot, condition.slot, limit.slot], fun given => do
      return ⟨← table.of given, ← column.of given, ← value.of given, ← condition.of given,
        ← limit.of given⟩⟩

/-- The number of rows that are returned if the caller does not say. -/
def defaultLimit : Nat := 100

/-- The statement that returns the rows. -/
def sql? (a : JsonContains) : Except ToolError String := do
  let column ← Sql.quoteName a.column
  let table ← Sql.quoteName a.table
  return "SELECT * FROM " ++ table ++
    Sql.whereAll a.condition (some (column ++ " @> " ++ Sql.jsonbLiteral a.value))

/-- Returns the rows. -/
def plan (a : JsonContains) : Except ToolError Action := do
  let sql ← a.sql?
  return .query sql (some (a.limit.getD defaultLimit)) fun r => .ok r.toJson

/-- The tool that finds documents. -/
def tool : Tool :=
  .reading "json" "pg_json_contains"
    "Find rows whose jsonb column contains the given JSON value (@>)."
    (.record
      [must "table" .text, must "column" .text,
        must "value" (.described "JSON value the column must contain" .any),
        may "where" .text, may "limit" (.integer (some 1) none)])
    read plan

end JsonContains

end PgGateway.Catalog
