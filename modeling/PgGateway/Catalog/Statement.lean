import PgGateway.Catalog.Argument
import PgGateway.Sql.Statement

set_option autoImplicit false

/-!
# Tools for whole statements

The tools that run statements as the caller wrote them: one that reads, one that changes data,
several in one transaction, and the plan of a statement. Which of the tools takes a statement is
decided by whether it only reads data.

## Main definitions

* `PgGateway.Catalog.ReadQuery`, `WriteQuery`, `Transaction`, `Explain` — the arguments of the
  tools, each with its `plan` and its `tool`.
-/

namespace PgGateway.Catalog

open Shape
open Schema (must may)

/-- A statement that reads. -/
structure ReadQuery where
  /-- The statement. -/
  sql : String
  /-- The greatest number of rows to return. -/
  limit : Option Nat

namespace ReadQuery

/-- The reader of the arguments. -/
def read : Reader ReadQuery :=
  let sql := Field.required "sql" text
  let limit := Field.omissible "limit" natural32
  Record.read ⟨"struct ReadQueryArgs", [sql.slot, limit.slot], fun given => do
    return ⟨← sql.of given, ← limit.of given⟩⟩

/-- The number of rows that are returned if the caller does not say. -/
def defaultLimit : Nat := 1000

/-- Runs a statement that only reads data, and returns its rows. -/
def plan (a : ReadQuery) : Except ToolError Action :=
  if Sql.isReadOnly a.sql then
    .ok (.query a.sql (some (a.limit.getD defaultLimit)) fun r => .ok r.toJson)
  else .error (refused "Only read-only statements are allowed; use writeQuery for changes")

/-- The tool that runs a statement that reads. -/
def tool : Tool :=
  .reading "core" "pg_read_query"
    ("Run a read-only SQL statement (SELECT, WITH, EXPLAIN, SHOW, VALUES, TABLE) " ++
      "and return its rows. Use 'limit' instead of a LIMIT clause.")
    (.record
      [must "sql" (.described "Read-only SQL statement" .text),
        may "limit" (.described "Maximum rows to return (default: 1000)"
          (.integer (some 1) (some 100000)))])
    read plan

end ReadQuery

/-- A statement that changes data. -/
structure WriteQuery where
  /-- The statement. -/
  sql : String

namespace WriteQuery

/-- The reader of the arguments. -/
def read : Reader WriteQuery :=
  let sql := Field.required "sql" text
  Record.read ⟨"struct WriteQueryArgs", [sql.slot], fun given => do return ⟨← sql.of given⟩⟩

/-- Runs a statement that may change data, and returns the number of affected rows. -/
def plan (a : WriteQuery) : Except ToolError Action :=
  if Sql.isReadOnly a.sql then .error (refused "Read-only statement; use readQuery to fetch rows")
  else .ok (.execute a.sql affected)

/-- The tool that runs a statement that changes data. -/
def tool : Tool :=
  .reading "core" "pg_write_query"
    ("Run a data-modifying SQL statement (INSERT, UPDATE, DELETE, DDL) " ++
      "and return the number of affected rows.")
    (.record [must "sql" (.described "SQL statement to execute" .text)])
    read plan

end WriteQuery

/-- Statements that take effect together or not at all. -/
structure Transaction where
  /-- The statements in order. -/
  statements : List String

namespace Transaction

/-- The reader of an object that holds a statement. -/
def statementObject : Reader String
  | .obj ms =>
    let sql := Field.required "sql" text
    Record.ofMembers ⟨"struct variant Statement::Object", [sql.slot], fun given => sql.of given⟩ ms
  | other => .error (.kind other "struct variant Statement::Object")

/-- The reader of a statement, given as a string or as an object that holds it. -/
def statement : Reader String :=
  oneOf "Statement" [text, statementObject]

/-- The reader of the arguments. -/
def read : Reader Transaction :=
  let statements := Field.required "statements" (list statement)
  Record.read ⟨"struct TransactionArgs", [statements.slot], fun given => do
    return ⟨← statements.of given⟩⟩

/-- The statements that are not blank. -/
def effective (a : Transaction) : List String :=
  a.statements.filter fun sql => !(Text.strip sql).isEmpty

/-- Runs the statements that are not blank in one transaction, and returns the number of rows that
each affected. -/
def plan (a : Transaction) : Except ToolError Action :=
  if a.effective.isEmpty then .error (refused "At least one statement is required")
  else
    .ok (.transaction a.effective fun counts =>
      success [("statements", .nat a.effective.length), ("rows_affected", .arr (counts.map .nat))])

/-- The tool that runs a transaction. -/
def tool : Tool :=
  .reading "transactions" "pg_transaction_execute"
    ("Execute several statements in one transaction. " ++
      "Any failure rolls back every statement.")
    (.record
      [must "statements" (.listOf (.oneOf [.text, .record [must "sql" .text]]))])
    read plan

end Transaction

/-- A statement whose execution plan is asked for. -/
structure Explain where
  /-- The statement. -/
  sql : String
  /-- Whether to run it and report actual times. -/
  analyze : Bool
  /-- Whether to report the use of buffers as well. -/
  buffers : Bool

namespace Explain

/-- The reader of the arguments. -/
def read : Reader Explain :=
  let sql := Field.required "sql" text
  let analyze := Field.defaulted "analyze" flag false
  let buffers := Field.defaulted "buffers" flag false
  Record.read ⟨"struct ExplainArgs", [sql.slot, analyze.slot, buffers.slot], fun given => do
    return ⟨← sql.of given, ← analyze.of given, ← buffers.of given⟩⟩

/-- The options of the statement that asks for the plan. -/
def options (a : Explain) : List String :=
  "FORMAT JSON" ::
    if a.analyze then "ANALYZE" :: if a.buffers then ["BUFFERS"] else [] else []

/-- The statement that asks for the plan. A statement that may change data is not run for it. -/
def sql? (a : Explain) : Except ToolError String :=
  if a.analyze && !Sql.isReadOnly a.sql then
    .error (refused "EXPLAIN ANALYZE is only allowed for read-only statements")
  else
    .ok ("EXPLAIN (" ++ Text.join ", " a.options ++ ") " ++ Sql.withoutTerminator a.sql)

/-- Asks for the plan and returns it. -/
def plan (a : Explain) : Except ToolError Action := do
  let sql ← a.sql?
  return .query sql none fun r =>
    .ok (.object [("plan", .ofOption Cell.toJson (r.firstCell? "QUERY PLAN")),
      ("analyzed", .bool a.analyze)])

/-- The tool that returns the plan of a statement. -/
def tool : Tool :=
  .reading "performance" "pg_explain"
    ("Show the execution plan of a statement as JSON. " ++
      "With 'analyze', the (read-only) statement is executed and actual timings are reported.")
    (.record
      [must "sql" .text,
        may "analyze" (.described "Run the statement (default: false)" .flag),
        may "buffers" (.described "Include buffer usage (requires analyze)" .flag)])
    read plan

end Explain

end PgGateway.Catalog
