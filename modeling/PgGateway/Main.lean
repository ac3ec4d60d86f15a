import PgGateway.Server.Program

set_option autoImplicit false

/-!
# The command line

Reads lines from standard input as they come and writes the answer to each before it reads the
next.

## Main definitions

* `main` — the program. It ends with code 1 if the configuration is wrong.
-/

namespace PgGateway.CommandLine

/-- The variables that the configuration is made of. -/
def settingNames : List String :=
  ["DATABASE_URL", "DATABASE_HOST", "DATABASE_PORT", "DATABASE_NAME", "DATABASE_USER",
    "DATABASE_PASSWORD", "DATABASE_POOL_SIZE", "DATABASE_QUERY_TIMEOUT_MS", "CODEMODE_ENABLED",
    "CODEMODE_STRICT"]

/-- The values of the variables in the environment of the process. -/
def readSettings : IO Config.Environment := do
  let values ← settingNames.mapM fun name => return (name, ← IO.getEnv name)
  return fun name => (values.lookup name).join

/-- Serves the lines of standard input from here on. A line that is not UTF-8 ends the session. -/
partial def serveLines (handler : Rpc.Handler (Server.State Unit))
    (session : Rpc.Session (Server.State Unit)) : IO Unit := do
  if session.isOver then return
  let line ← try (← IO.getStdin).getLine catch _ => return
  if line.isEmpty then return
  let (answer, session) := session.step handler line
  if let some response := answer then
    let output ← IO.getStdout
    output.putStrLn response.line
    output.flush
  serveLines handler session

/-- Serves the session of the process. -/
def run : IO UInt32 := do
  match Program.server? (← readSettings) with
  | .ok server =>
    serveLines server.handler Program.session
    return 0
  | .error cause =>
    (← IO.getStderr).putStrLn (Failure.config cause).message
    return 1

end PgGateway.CommandLine

/-- Runs the program. -/
def main : IO UInt32 := PgGateway.CommandLine.run
