import PgGateway.Catalog.Argument

set_option autoImplicit false

/-!
# Tools for maintenance

The tools that reclaim storage and refresh the statistics of the planner, for one table or for the
whole database.

## Main definitions

* `PgGateway.Catalog.Vacuum`, `Analyze` — the arguments of the tools.
-/

namespace PgGateway.Catalog

open Shape
open Schema (must may)

/-- A command, followed by the name of a table if there is one. -/
def onTable (command : String) (table : Option String) : Except ToolError String :=
  match table with
  | some table => do
    let name ← Sql.quoteName table
    return command ++ " " ++ name
  | none => .ok command

/-- A clean-up of one table or of all. -/
structure Vacuum where
  /-- The table. -/
  table : Option String
  /-- Whether the table is written anew. -/
  full : Bool
  /-- Whether the statistics of the planner are refreshed as well. -/
  analyze : Bool
  /-- Whether the database reports what it does. -/
  verbose : Bool

namespace Vacuum

/-- The reader of the arguments. -/
def read : Reader Vacuum :=
  let table := Field.omissible "table" text
  let full := Field.defaulted "full" flag false
  let analyze := Field.defaulted "analyze" flag false
  let verbose := Field.defaulted "verbose" flag false
  Record.read ⟨"struct VacuumArgs", [table.slot, full.slot, analyze.slot, verbose.slot],
    fun given => do
      return ⟨← table.of given, ← full.of given, ← analyze.of given, ← verbose.of given⟩⟩

/-- The options that are set. -/
def options (a : Vacuum) : List String :=
  ([(a.full, "FULL"), (a.analyze, "ANALYZE"), (a.verbose, "VERBOSE")].filter Prod.fst).map Prod.snd

/-- The statement that cleans up. -/
def sql? (a : Vacuum) : Except ToolError String :=
  onTable ("VACUUM" ++ when (!a.options.isEmpty) (" (" ++ Text.join ", " a.options ++ ")")) a.table

/-- Cleans up and returns the statement that did. -/
def plan (a : Vacuum) : Except ToolError Action := do
  let sql ← a.sql?
  return .execute sql fun _ => success [("sql", .str sql)]

/-- The tool that cleans up. -/
def tool : Tool :=
  .reading "admin" "pg_vacuum"
    ("Reclaim storage with VACUUM, for one table or the whole database. " ++
      "FULL rewrites the table and takes an exclusive lock.")
    (.record
      [may "table" (.described "Table to vacuum (default: all)" .text), may "full" .flag,
        may "analyze" (.described "Also update planner statistics" .flag), may "verbose" .flag])
    read plan

end Vacuum

/-- A refresh of the statistics of one table or of all. -/
structure Analyze where
  /-- The table. -/
  table : Option String

namespace Analyze

/-- The reader of the arguments. -/
def read : Reader Analyze :=
  let table := Field.omissible "table" text
  Record.read ⟨"struct AnalyzeArgs", [table.slot], fun given => do return ⟨← table.of given⟩⟩

/-- The statement that refreshes the statistics. -/
def sql? (a : Analyze) : Except ToolError String :=
  onTable "ANALYZE" a.table

/-- Refreshes the statistics and returns the statement that did. -/
def plan (a : Analyze) : Except ToolError Action := do
  let sql ← a.sql?
  return .execute sql fun _ => success [("sql", .str sql)]

/-- The tool that refreshes the statistics. -/
def tool : Tool :=
  .reading "admin" "pg_analyze"
    "Update planner statistics for one table or the whole database."
    (.record [may "table" .text])
    read plan

end Analyze

end PgGateway.Catalog
