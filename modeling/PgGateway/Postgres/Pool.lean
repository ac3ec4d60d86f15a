import PgGateway.Executor.Basic
import PgGateway.Postgres.Backend
import PgGateway.Postgres.Limit

set_option autoImplicit false

/-!
# The pooled executor

The executor of a PostgreSQL database. Calls come one after the other, so the pool has at most one
connection: it is made when the executor is, kept from call to call, and made anew when a call
finds it closed.

## Main definitions

* `PgGateway.Pool` — a server and whether there is a connection to it.
* `PgGateway.Pool.connect` — the pool with a first connection.
* `PgGateway.Pool.executor` — the executor.
-/

namespace PgGateway

/-- A server in a state of type `β`, and whether there is a connection to it. -/
structure Pool (β : Type) where
  /-- The state of the server. -/
  server : β
  /-- Whether there is a connection. -/
  isOpen : Bool
  deriving Inhabited

namespace Pool

variable {β : Type}

/-- The pool of a server that accepts a first connection. -/
def connect (b : Backend β) (server : β) : Except DatabaseError Unit × Pool β :=
  match b.connect server with
  | (true, server) => (.ok (), ⟨server, true⟩)
  | (false, server) =>
    let detail := "Error occurred while creating a new object: " ++ Fault.rejected.message
    (.error (.connectionFailed detail), ⟨server, false⟩)

/-- The pool with a connection, which is made if there is none. -/
def checkout (b : Backend β) (p : Pool β) : Except DatabaseError Unit × Pool β :=
  if p.isOpen then (.ok (), p)
  else
    match b.connect p.server with
    | (true, server) => (.ok (), ⟨server, true⟩)
    | (false, server) => (.error .poolExhausted, ⟨server, false⟩)

/-- The error of a fault, where `describe` tells how an error of the server is reported. -/
def errorOf (timeout : Span) (describe : String → DatabaseError) : Fault → DatabaseError
  | .stalled => .timeout timeout.toMillis
  | f => describe f.message

/-- The pool after a fault: a closed connection is gone. -/
def afterFault (server : β) (f : Fault) : Pool β :=
  ⟨server, f != .closed⟩

/-- Runs a statement on the connection of the pool. -/
def run (b : Backend β) (sql : String) (timeout : Span) (describe : String → DatabaseError)
    (p : Pool β) : Except DatabaseError Answer × Pool β :=
  match b.run sql p.server with
  | (.ok answer, server) => (.ok answer, ⟨server, true⟩)
  | (.error f, server) => (.error (errorOf timeout describe f), afterFault server f)

/-- The cells of a row of an answer. -/
def rowOf (columns : List Column) (bytes : List (Option Wire.Bytes)) : Row :=
  Row.ofCells columns
    ((columns.zip bytes).map fun (column, cell) => Wire.decode column.dataType cell)

/-- The result of an answer and a limit. -/
def resultOf (answer : Answer) (limit : Option Nat) : ResultSet :=
  let rows := answer.rows.map (rowOf answer.columns)
  match limit with
  | some n => ResultSet.ofRowsWithin answer.columns rows 0 n
  | none => ResultSet.ofRows answer.columns rows 0

/-- Runs a statement that returns rows. -/
def query (b : Backend β) (sql : String) (limit : Option Nat) (timeout : Span) (p : Pool β) :
    Except DatabaseError ResultSet × Pool β :=
  match checkout b p with
  | (.error e, p) => (.error e, p)
  | (.ok (), p) =>
    match run b (Sql.limited sql limit) timeout .queryFailed p with
    | (.ok answer, p) => (.ok (resultOf answer limit), p)
    | (.error e, p) => (.error e, p)

/-- Runs a statement that does not return rows. -/
def execute (b : Backend β) (sql : String) (timeout : Span) (p : Pool β) :
    Except DatabaseError Nat × Pool β :=
  match checkout b p with
  | (.error e, p) => (.error e, p)
  | (.ok (), p) =>
    match run b sql timeout .queryFailed p with
    | (.ok answer, p) => (.ok answer.affected, p)
    | (.error e, p) => (.error e, p)

/-- Takes back an unfinished transaction after a fault, unless the connection is closed. A server
that does not answer is asked as well: the request waits behind the one that has no answer, and
nobody waits for it. -/
def abandon (b : Backend β) (server : β) (f : Fault) : Pool β :=
  match f with
  | .closed => afterFault server .closed
  | .rejected | .stalled => ⟨(b.control .rollback server).2, true⟩

/-- Runs the statements of a started transaction in order and commits it. `index` numbers the first
of them, and `counts` are the numbers of affected rows of those before it. -/
def runAll (b : Backend β) (timeout : Span) (index : Nat) (counts : List Nat) (server : β) :
    List String → Except DatabaseError (List Nat) × Pool β
  | [] =>
    match b.control .commit server with
    | (.ok (), server) => (.ok counts, ⟨server, true⟩)
    | (.error f, server) => (.error (errorOf timeout .transaction f), afterFault server f)
  | sql :: rest =>
    match b.run sql server with
    | (.ok answer, server) =>
      runAll b timeout (index + 1) (counts ++ [answer.affected]) server rest
    | (.error f, server) =>
      let describe detail :=
        DatabaseError.transaction ("statement " ++ toString index ++ " failed: " ++ detail)
      (.error (errorOf timeout describe f), abandon b server f)

/-- Runs all statements in one transaction. -/
def transaction (b : Backend β) (statements : List String) (timeout : Span) (p : Pool β) :
    Except DatabaseError (List Nat) × Pool β :=
  match checkout b p with
  | (.error e, p) => (.error e, p)
  | (.ok (), p) =>
    match b.control .start p.server with
    | (.ok (), server) => runAll b timeout 0 [] server statements
    | (.error f, server) => (.error (errorOf timeout .transaction f), abandon b server f)

/-- The executor of a server. -/
def executor (b : Backend β) : Executor (Pool β) where
  name := "postgres"
  query := query b
  execute := execute b
  transaction := transaction b

end Pool

end PgGateway
