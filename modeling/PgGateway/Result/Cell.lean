import PgGateway.Json.Written
import PgGateway.Number.Decimal
import PgGateway.Shape.Reader
import PgGateway.Time.Instant

set_option autoImplicit false

/-!
# Cells

The values in the rows of a result. A cell is written as plain JSON without a mark of its kind, so
reading it back has to decide: a number is an integer where 64 bits can hold it, a string that
denotes a decimal is one, and every other string stays a string.

## Main definitions

* `PgGateway.Cell` — the values.
* `PgGateway.Cell.toJson`, `PgGateway.Cell.ofJson` — the written form, and back.
-/

namespace PgGateway

/-- A value in a row. -/
inductive Cell where
  /-- The database's NULL. -/
  | null
  /-- A truth value. -/
  | bool (value : Bool)
  /-- An integer of 64 bits. -/
  | int (value : Int)
  /-- A floating-point number. -/
  | float (value : Binary64)
  /-- An exact number. -/
  | decimal (value : Decimal)
  /-- A text. -/
  | string (value : String)
  /-- A point in time. -/
  | instant (value : Instant)
  /-- A date. -/
  | date (value : Date)
  /-- A JSON document. -/
  | json (value : Json)
  deriving Inhabited

namespace Cell

/-- The written form of a cell. Infinities and words that are no number are null. -/
def toJson : Cell → Json
  | .null => .null
  | .bool b => .bool b
  | .int n => .int n
  | .float x => if x.isFinite then .float x else .null
  | .decimal d => .str (String.ofList d.written)
  | .string s => .str s
  | .instant t => .str (String.ofList t.written)
  | .date d => .str (String.ofList d.written)
  | .json j => j

/-- The cell that a written form is read as. -/
def ofJson : Json → Cell
  | .null => .null
  | .bool b => .bool b
  | .int n => if -Nat.pow 2 63 ≤ n && n < Nat.pow 2 63 then .int n else .float (Binary64.ofInt n)
  | .float x => .float x
  | .str s =>
    match Decimal.read? s.toList with
    | some d => .decimal d
    | none => .string s
  | other => .json other

/-- The reader of a cell, which accepts every value. -/
def read : Shape.Reader Cell :=
  fun j => .ok (ofJson j)

/-- Whether the cell is NULL. -/
def isNull : Cell → Bool
  | .null => true
  | _ => false

/-- The integer in a cell. -/
def int? : Cell → Option Int
  | .int n => some n
  | _ => none

/-- The truth value in a cell. -/
def bool? : Cell → Option Bool
  | .bool b => some b
  | _ => none

/-- The name of the kind of a cell. -/
def kind : Cell → String
  | .null => "Null"
  | .bool _ => "Bool"
  | .int _ => "Int"
  | .float _ => "Float"
  | .decimal _ => "Decimal"
  | .string _ => "String"
  | .instant _ => "DateTime"
  | .date _ => "Date"
  | .json _ => "Json"

end Cell

end PgGateway
