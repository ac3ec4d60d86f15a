import PgGateway.Executor.Recording
import PgGateway.Tool.Basic
import Mathlib.Tactic.Common

set_option autoImplicit false

/-!
# What a tool asks of the executor

An action names the one call it makes, if it makes any, before it is run. So what a tool asks of a
database can be read off its action, whatever the executor answers.

## Main definitions

* `PgGateway.Action.calls` — the calls of an action.
* `PgGateway.Action.concluded` — what an action makes of the outcome of its call.
* `PgGateway.Tool.statements` — the texts that a tool hands to the executor.

## Main results

* `PgGateway.Tool.actionOf_eq_of_calls` — a call is made only on arguments that are read and
  accepted.
-/

namespace PgGateway

/-- The texts of a call. -/
def Call.statements : Call → List String
  | .query sql _ _ => [sql]
  | .execute sql _ => [sql]
  | .transaction statements _ => statements

namespace Action

variable {σ : Type}

/-- The calls that an action makes, in order. -/
def calls (timeout : Span) : Action → List Call
  | .answer _ | .fail _ => []
  | .query sql limit _ => [.query sql limit timeout]
  | .execute sql _ => [.execute sql timeout]
  | .transaction statements _ => [.transaction statements timeout]

/-- The outcome of a call followed by what is made of it. -/
def concluded {α : Type} (conclude : α → Except Failure Json)
    (called : Except DatabaseError α × σ) : Except Failure Json × σ :=
  (passed conclude called.1, called.2)

@[simp]
lemma run_answer (executor : Executor σ) (timeout : Span) (value : Json) (s : σ) :
    (Action.answer value).run executor timeout s = (.ok value, s) := rfl

@[simp]
lemma run_fail (executor : Executor σ) (timeout : Span) (cause : Failure) (s : σ) :
    (Action.fail cause).run executor timeout s = (.error cause, s) := rfl

@[simp]
lemma run_query (executor : Executor σ) (timeout : Span) (sql : String) (limit : Option Nat)
    (conclude : ResultSet → Except Failure Json) (s : σ) :
    (Action.query sql limit conclude).run executor timeout s =
      concluded conclude (executor.query sql limit timeout s) := rfl

@[simp]
lemma run_execute (executor : Executor σ) (timeout : Span) (sql : String) (conclude : Nat → Json)
    (s : σ) :
    (Action.execute sql conclude).run executor timeout s =
      concluded (fun n => .ok (conclude n)) (executor.execute sql timeout s) := rfl

@[simp]
lemma run_transaction (executor : Executor σ) (timeout : Span) (statements : List String)
    (conclude : List Nat → Json) (s : σ) :
    (Action.transaction statements conclude).run executor timeout s =
      concluded (fun ns => .ok (conclude ns)) (executor.transaction statements timeout s) := rfl

end Action

namespace Tool

/-- The calls that a tool makes with given arguments. -/
def calls (t : Tool) (c : Context) (given : Json) : List Call :=
  (t.act c given).calls c.timeout

/-- The texts that a tool hands to the executor with given arguments. -/
def statements (t : Tool) (c : Context) (given : Json) : List String :=
  (t.calls c given).flatMap Call.statements

variable {α : Type} {arguments : Shape.Reader α} {plan : α → Except ToolError Action}

/-- A call is made only on arguments that are read and accepted. -/
lemma actionOf_eq_of_calls {timeout : Span} {given : Json}
    (h : (actionOf arguments plan given).calls timeout ≠ []) :
    ∃ a action, arguments given = .ok a ∧ plan a = .ok action ∧
      actionOf arguments plan given = action := by
  rw [actionOf] at h ⊢
  cases hread : arguments given with
  | error mismatch => rw [hread] at h; exact absurd rfl h
  | ok a =>
    cases hplan : plan a with
    | error e => simp only [hread, hplan] at h; exact absurd rfl h
    | ok action => exact ⟨a, action, rfl, hplan, by simp [hplan]⟩

end Tool

end PgGateway
