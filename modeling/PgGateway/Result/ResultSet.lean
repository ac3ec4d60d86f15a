import PgGateway.Result.Cell
import PgGateway.Shape.Record

set_option autoImplicit false

/-!
# Result sets

The rows that a statement returned, with the columns they have.

## Main definitions

* `PgGateway.Column`, `PgGateway.Row`, `PgGateway.ResultSet` — columns, rows and results.
* `PgGateway.ResultSet.toJson`, `PgGateway.ResultSet.read` — the written form, and its reader.
-/

namespace PgGateway

open Shape

/-- A column of a result. -/
structure Column where
  /-- The name of the column. -/
  name : String
  /-- The name of its type. -/
  dataType : String
  deriving DecidableEq, Inhabited

/-- The cells of a row, each under the name of its column. -/
abbrev Row := Keyed Cell

/-- The rows that a statement returned. -/
structure ResultSet where
  /-- The columns in order. -/
  columns : List Column := []
  /-- The rows in order. -/
  rows : List Row := []
  /-- The number of rows. -/
  rowCount : Nat := 0
  /-- How long the statement took. -/
  elapsedMillis : Nat := 0
  /-- Whether rows were left out, if there was a limit. -/
  truncated : Option Bool := none
  deriving Inhabited

namespace Column

/-- The written form of a column. -/
def toJson (c : Column) : Json :=
  .object [("name", .str c.name), ("data_type", .str c.dataType)]

/-- The fields of a column. -/
def record : Record Column :=
  let name := Field.required "name" text
  let dataType := Field.required "data_type" text
  ⟨"struct Column", [name.slot, dataType.slot], fun given => do
    return ⟨← name.of given, ← dataType.of given⟩⟩

end Column

/-- The written form of a row. -/
def Row.toJson (row : Row) : Json :=
  .obj (row.mapValues Cell.toJson)

/-- The cells of a row that stand under the names of the columns, where a later column takes the
place of an earlier one of the same name. -/
def Row.ofCells (columns : List Column) (cells : List Cell) : Row :=
  Keyed.ofList ((columns.map Column.name).zip cells)

namespace ResultSet

/-- A result of the given rows, without a limit. -/
def ofRows (columns : List Column) (rows : List Row) (elapsedMillis : Nat) : ResultSet :=
  ⟨columns, rows, rows.length, elapsedMillis, none⟩

/-- The result of at most `limit` of the rows, which says whether there were more. -/
def ofRowsWithin (columns : List Column) (rows : List Row) (elapsedMillis limit : Nat) :
    ResultSet :=
  { ofRows columns (rows.take limit) elapsedMillis with
    truncated := some (limit < rows.length) }

/-- The cell of the first row under a name. -/
def firstCell? (r : ResultSet) (column : String) : Option Cell :=
  r.rows.head?.bind (Keyed.get? column)

/-- The cells of all rows under a name, without the rows that do not have it. -/
def cellsUnder (r : ResultSet) (column : String) : List Cell :=
  r.rows.filterMap (Keyed.get? column)

/-- The rows in written form. -/
def rowsJson (r : ResultSet) : Json :=
  .arr (r.rows.map Row.toJson)

/-- The written form of a result. -/
def toJson (r : ResultSet) : Json :=
  .object ([("columns", .arr (r.columns.map Column.toJson)), ("rows", r.rowsJson),
    ("row_count", .nat r.rowCount), ("execution_time_ms", .nat r.elapsedMillis)] ++
    (match r.truncated with | some b => [("truncated", .bool b)] | none => []))

/-- The fields of a result. -/
def record : Record ResultSet :=
  let columns := Field.required "columns" (list Column.record.read)
  let rows := Field.required "rows" (list (map Cell.read))
  let rowCount := Field.required "row_count" size
  let elapsed := Field.required "execution_time_ms" natural64
  let truncated := Field.optional "truncated" flag
  ⟨"struct QueryResult",
    [columns.slot, rows.slot, rowCount.slot, elapsed.slot, truncated.slot], fun given => do
    return ⟨← columns.of given, ← rows.of given, ← rowCount.of given, ← elapsed.of given,
      ← truncated.of given⟩⟩

/-- The reader of a result. -/
def read : Reader ResultSet :=
  record.read

end ResultSet

end PgGateway
