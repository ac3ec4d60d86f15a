import PgGateway.Text.Blank
import PgGateway.Text.Cut

set_option autoImplicit false

/-!
# Conditions

The `WHERE` part of a statement made from a condition that the caller wrote and one that the tool
adds. The caller's condition is used as it is; a blank one is none.

## Main definitions

* `PgGateway.Sql.whereClause` — the clause of a caller's condition.
* `PgGateway.Sql.whereAll` — the clause of a caller's condition, in parentheses, and one more.
-/

namespace PgGateway.Sql

/-- The condition of a caller without the blanks around it, if anything is left. -/
def condition? (filter : Option String) : Option String :=
  match filter with
  | some f => if (Text.strip f).isEmpty then none else some (Text.strip f)
  | none => none

/-- The clause of a caller's condition. -/
def whereClause (filter : Option String) : String :=
  match condition? filter with
  | some f => " WHERE " ++ f
  | none => ""

/-- The clause of a caller's condition and one that is added to it. -/
def whereAll (filter extra : Option String) : String :=
  let own := (condition? filter).map fun f => "(" ++ f ++ ")"
  let conditions := own.toList ++ extra.toList
  if conditions.isEmpty then "" else " WHERE " ++ Text.join " AND " conditions

end PgGateway.Sql
