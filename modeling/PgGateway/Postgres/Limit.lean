import PgGateway.Sql.Statement

set_option autoImplicit false

/-!
# Limited statements

A statement that reads is wrapped so that the server returns at most one row more than the limit:
the additional row tells whether there are more. `EXPLAIN` and `SHOW` return rows but cannot stand
inside another statement, so they are sent as they are, like statements that write.

## Main definitions

* `PgGateway.Sql.limited` — the statement that is sent for a statement and a limit.
-/

namespace PgGateway.Sql

/-- Whether a statement that reads can stand inside another one. After comments and blanks it may
not start with `EXPLAIN` or `SHOW`. -/
def isNestable (sql : String) : Bool :=
  let start := (skipGaps sql.toList).map Char.toUpper
  !(Text.beginsWith "EXPLAIN".toList start || Text.beginsWith "SHOW".toList start)

/-- A statement inside another one that returns at most `count` of its rows. The closing
parenthesis stands on a line of its own, where a comment at the end of the statement cannot reach
it. -/
def wrapped (sql : String) (count : Nat) : String :=
  "SELECT * FROM (\n" ++ sql ++ "\n) AS limited_result LIMIT " ++ toString count

/-- The statement that is sent for a statement and a limit. -/
def limited (sql : String) (limit : Option Nat) : String :=
  let inner := withoutTerminator sql
  match limit with
  | some n => if isReadOnly inner && isNestable inner then wrapped inner (n + 1) else inner
  | none => inner

end PgGateway.Sql
