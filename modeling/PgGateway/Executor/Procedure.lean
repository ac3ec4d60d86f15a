import PgGateway.Executor.Basic

set_option autoImplicit false

/-!
# Procedures over an executor

What a tool does to an executor, step by step: it makes a call, goes on by the outcome of that, also
by a failed one, and is done with a value or a failure in the end. Nothing limits the number of
calls, and nothing says what becomes of their errors.

## Main definitions

* `PgGateway.Procedure` — the procedures.
* `PgGateway.Procedure.run` — runs a procedure by means of an executor.
-/

namespace PgGateway

/-- A procedure over an executor. -/
inductive Procedure where
  /-- It is done. -/
  | done (outcome : Except Failure Json)
  /-- It runs a statement that returns rows, and goes on by the outcome. -/
  | query (sql : String) (limit : Option Nat) (next : Except DatabaseError ResultSet → Procedure)
  /-- It runs a statement that does not, and goes on by the outcome. -/
  | execute (sql : String) (next : Except DatabaseError Nat → Procedure)
  /-- It runs several statements as one transaction, and goes on by the outcome. -/
  | transaction (statements : List String) (next : Except DatabaseError (List Nat) → Procedure)

namespace Procedure

variable {σ : Type}

/-- Runs a procedure by means of an executor in a given state. -/
def run (executor : Executor σ) (timeout : Span) : Procedure → σ → Except Failure Json × σ
  | .done outcome, s => (outcome, s)
  | .query sql limit next, s =>
    let (outcome, s) := executor.query sql limit timeout s
    (next outcome).run executor timeout s
  | .execute sql next, s =>
    let (outcome, s) := executor.execute sql timeout s
    (next outcome).run executor timeout s
  | .transaction statements next, s =>
    let (outcome, s) := executor.transaction statements timeout s
    (next outcome).run executor timeout s

end Procedure

end PgGateway
