import PgGateway.Rpc.Session
import PgGateway.Server.Handler

set_option autoImplicit false

/-!
# The program

The program serves one session over its standard input and output. It takes its configuration from
the environment and does not start if that is wrong. It has no connection to a database of its own,
so its tools work on the disconnected executor.

## Main definitions

* `PgGateway.Program.server?` — the server of an environment.
* `PgGateway.Program.run` — the exit code and the output of the program for its whole input.
-/

namespace PgGateway.Program

open Rpc

/-- The server of an environment. -/
def server? (env : Config.Environment) : Except ConfigError (Server Unit) := do
  let database ← Config.Database.withEnvironment {} env
  let database ← database.validated
  let codeMode ← Config.CodeMode.ofEnvironment env
  Server.make? { database, codeMode } Catalog.standard Executor.disconnected

/-- A new session of the program. -/
def session : Session (Server.State Unit) :=
  .start (.fresh ())

/-- The exit code and the output of the program for some input. -/
def run (env : Config.Environment) (input : List UInt8) : Nat × List Response :=
  match server? env with
  | .ok server => (0, (session.run server.handler (linesOf input)).1)
  | .error _ => (1, [])

end PgGateway.Program
