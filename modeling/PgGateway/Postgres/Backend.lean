import PgGateway.Postgres.Wire
import PgGateway.Result.ResultSet

set_option autoImplicit false

/-!
# Database servers

What a server does with a connection, and a server that acts by a script.

## Main definitions

* `PgGateway.Backend` — the interface of a server.
* `PgGateway.Script` — a server given by the replies that it makes in order; it keeps a record of
  the statements that it received.
-/

namespace PgGateway

/-- Why a statement got no answer. -/
inductive Fault where
  /-- The server reported an error. -/
  | rejected
  /-- The connection was closed. -/
  | closed
  /-- No answer came. -/
  | stalled
  deriving DecidableEq, Inhabited

/-- How a fault is described; its wording does not depend on what the server reported. -/
def Fault.message : Fault → String
  | .rejected => "db error"
  | .closed => "connection closed"
  | .stalled => "no answer"

/-- The statements that enclose a transaction. -/
inductive Control where
  /-- Starts a transaction. -/
  | start
  /-- Makes its changes permanent. -/
  | commit
  /-- Takes its changes back. -/
  | rollback
  deriving DecidableEq, Inhabited

/-- The text of a statement that encloses a transaction. -/
def Control.sql : Control → String
  | .start => "START TRANSACTION"
  | .commit => "COMMIT"
  | .rollback => "ROLLBACK"

/-- The answer to a statement. -/
structure Answer where
  /-- The columns of its rows. -/
  columns : List Column := []
  /-- The rows, with the bytes of each cell. -/
  rows : List (List (Option Wire.Bytes)) := []
  /-- The number of rows that the server says are affected. -/
  affected : Nat := 0
  deriving Inhabited

/-- A database server with states of type `β`. -/
structure Backend (β : Type) where
  /-- Whether a new connection is accepted. -/
  connect : β → Bool × β
  /-- Runs a statement. -/
  run : (sql : String) → β → Except Fault Answer × β
  /-- Runs a statement that encloses a transaction. -/
  control : Control → β → Except Fault Unit × β

/-- What a scripted server does with a statement. -/
inductive ScriptReply where
  /-- Answers. -/
  | answer (a : Answer)
  /-- Fails with the fault. -/
  | fault (f : Fault)
  deriving Inhabited

/-- A scripted server. -/
structure Script where
  /-- The replies to statements, in the order in which they are received. -/
  replies : List ScriptReply := []
  /-- The enclosing statements that fail. -/
  failing : List Control := []
  /-- How many connections are still accepted, if they are counted. -/
  accepts : Option Nat := none
  /-- Whether the server has stopped to answer. -/
  stalled : Bool := false
  /-- The statements received so far, in order. -/
  received : List String := []
  deriving Inhabited

namespace Script

/-- The next reply; when they are used up, an empty answer. -/
def next (s : Script) : ScriptReply :=
  s.replies.headD (.answer {})

/-- Accepts a connection as long as there are any left. -/
def accept (s : Script) : Bool × Script :=
  match s.accepts with
  | none => (true, s)
  | some 0 => (false, s)
  | some (n + 1) => (true, { s with accepts := some n })

/-- Replies to a statement. -/
def reply (sql : String) (s : Script) : Except Fault Answer × Script :=
  if s.stalled then (.error .stalled, s)
  else
    let received := { s with received := s.received ++ [sql], replies := s.replies.tail }
    match s.next with
    | .answer a => (.ok a, received)
    | .fault .stalled => (.error .stalled, { received with stalled := true })
    | .fault f => (.error f, received)

/-- Replies to a statement that encloses a transaction. -/
def enclose (c : Control) (s : Script) : Except Fault Unit × Script :=
  if s.stalled then (.error .stalled, s)
  else
    let received := { s with received := s.received ++ [c.sql] }
    if s.failing.contains c then (.error .rejected, received) else (.ok (), received)

/-- The scripted server as a server. -/
def backend : Backend Script :=
  ⟨accept, reply, enclose⟩

end Script

end PgGateway
