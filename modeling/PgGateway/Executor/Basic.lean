import PgGateway.Failure
import PgGateway.Result.ResultSet
import PgGateway.Time.Span

set_option autoImplicit false

/-!
# Executors

What runs statements for the tools. An executor is a state machine: each call takes the state of
the executor to an outcome and a new state.

## Main definitions

* `PgGateway.Executor` — the interface.
* `PgGateway.Executor.disconnected` — the executor in use when there is no database.
-/

namespace PgGateway

/-- What runs statements, with states of type `σ`. -/
structure Executor (σ : Type) where
  /-- The name of the executor. -/
  name : String
  /-- Runs a statement that returns rows, of which at most `limit` are kept. -/
  query : (sql : String) → (limit : Option Nat) → (timeout : Span) → σ →
    Except DatabaseError ResultSet × σ
  /-- Runs a statement and returns the number of affected rows. -/
  execute : (sql : String) → (timeout : Span) → σ → Except DatabaseError Nat × σ
  /-- Runs all statements or none, and returns the number of affected rows of each. -/
  transaction : (statements : List String) → (timeout : Span) → σ →
    Except DatabaseError (List Nat) × σ

namespace Executor

variable {σ : Type}

/-- The executor without a database, which refuses every call. -/
def disconnected : Executor σ where
  name := "disconnected"
  query _ _ _ s := (.error .notConnected, s)
  execute _ _ s := (.error .notConnected, s)
  transaction _ _ s := (.error .notConnected, s)

/-- Whether the executor has a database. -/
def isConnected (e : Executor σ) : Bool :=
  e.name != "disconnected"

end Executor

end PgGateway
