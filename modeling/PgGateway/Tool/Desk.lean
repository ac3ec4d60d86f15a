import PgGateway.Tool.Basic

set_option autoImplicit false

/-!
# Numbered calls

Every call of a tool gets the next number. The numbers handed out and the state of the executor
are all that a server keeps from call to call for its tools.

## Main definitions

* `PgGateway.Desk` — the numbers handed out and the state of the executor.
* `PgGateway.Desk.serve` — one more call.
-/

namespace PgGateway

/-- What is kept between calls of tools. -/
structure Desk (σ : Type) where
  /-- How many calls there have been. -/
  issued : Nat
  /-- The state of the executor. -/
  executor : σ
  deriving Inhabited

namespace Desk

variable {σ : Type}

/-- The context of the next call. -/
def nextContext (d : Desk σ) (origin : Origin) (timeout : Span) : Context :=
  ⟨d.issued + 1, origin, timeout⟩

/-- Makes one more call: what is done may depend on its context. -/
def serve (executor : Executor σ) (timeout : Span) (origin : Origin) (act : Context → Action)
    (d : Desk σ) : Except Failure Json × Desk σ :=
  let context := d.nextContext origin timeout
  let (outcome, s) := (act context).run executor timeout d.executor
  (outcome, ⟨context.requestId, s⟩)

end Desk

end PgGateway
