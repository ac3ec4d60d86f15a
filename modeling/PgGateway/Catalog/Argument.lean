import PgGateway.Sql.Name
import PgGateway.Tool.Basic

set_option autoImplicit false

/-!
# Parts that arguments of several tools share

Lists of names that may be given as one name, the names of the groups, and pieces of statements
that are written or not.

## Main definitions

* `PgGateway.Catalog.oneOrMany` — the reader of one string or a list of strings.
* `PgGateway.Catalog.when` — a piece of a statement that depends on a flag.
-/

namespace PgGateway.Catalog

open Shape

/-- Reads one string, or a list of strings. -/
def oneOrMany : Reader (List String) :=
  oneOf "OneOrMany" [mapped (fun s => [s]) text, list text]

/-- A piece of a statement if the flag is set, and nothing otherwise. -/
def when (flag : Bool) (piece : String) : String :=
  if flag then piece else ""

/-- The answer of a tool that has done what it was asked. -/
def success (rest : List (String × Json)) : Json :=
  .object (("success", .bool true) :: rest)

/-- The answer that tells the number of affected rows. -/
def affected (rows : Nat) : Json :=
  .object [("rows_affected", .nat rows)]

/-- The error of arguments that fit their shape but make no sense. -/
def refused (detail : String) : ToolError :=
  .invalidArguments detail

end PgGateway.Catalog
