import PgGateway.Executor.Basic

set_option autoImplicit false

/-!
# The recording executor

An executor that answers from a prepared list of replies and keeps a record of the calls made to
it. It shows what a tool asks of a database.

## Main definitions

* `PgGateway.Reply`, `PgGateway.Call` — prepared answers and recorded calls.
* `PgGateway.Recorder` — the replies still to be given and the calls made so far.
* `PgGateway.Executor.recording` — the executor.
-/

namespace PgGateway

/-- A prepared answer. Parts that do not fit the kind of the call are not looked at. -/
structure Reply where
  /-- The error to fail with. -/
  failure : Option DatabaseError := none
  /-- The result of a query. -/
  result : Option ResultSet := none
  /-- The numbers of affected rows: one for a statement, or one for each of a transaction. -/
  affected : Option (List Nat) := none
  deriving Inhabited

/-- A recorded call. -/
inductive Call where
  /-- A statement that returns rows. -/
  | query (sql : String) (limit : Option Nat) (timeout : Span)
  /-- A statement that does not. -/
  | execute (sql : String) (timeout : Span)
  /-- A transaction. -/
  | transaction (statements : List String) (timeout : Span)
  deriving DecidableEq, Inhabited

/-- The state of the recording executor. -/
structure Recorder where
  /-- The replies still to be given. -/
  replies : List Reply := []
  /-- The calls made so far, in order. -/
  calls : List Call := []
  deriving Inhabited

namespace Recorder

/-- The next reply; when they are used up, an empty one. -/
def next (r : Recorder) : Reply :=
  r.replies.headD {}

/-- The state after a call. -/
def after (r : Recorder) (call : Call) : Recorder :=
  ⟨r.replies.tail, r.calls ++ [call]⟩

/-- The outcome of a call that a reply decides: its failure, or the given answer. -/
def outcome {α : Type} (reply : Reply) (answer : α) : Except DatabaseError α :=
  match reply.failure with
  | some e => .error e
  | none => .ok answer

end Recorder

/-- The executor that records its calls. A query is answered with an empty result unless a reply
has one, and every statement affects one row unless a reply says otherwise. -/
def Executor.recording : Executor Recorder where
  name := "recording"
  query sql limit timeout r :=
    (Recorder.outcome r.next (r.next.result.getD {}), r.after (.query sql limit timeout))
  execute sql timeout r :=
    (Recorder.outcome r.next ((r.next.affected.bind List.head?).getD 1),
      r.after (.execute sql timeout))
  transaction statements timeout r :=
    (Recorder.outcome r.next (r.next.affected.getD (statements.map fun _ => 1)),
      r.after (.transaction statements timeout))

end PgGateway
