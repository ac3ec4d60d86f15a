set_option autoImplicit false

/-!
# The lifecycle of a session

Before the handshake only the handshake itself and pings are served. After a shutdown nothing more
is read.

## Main definitions

* `PgGateway.Rpc.Lifecycle` — the states.
* `PgGateway.Rpc.Lifecycle.admits`, `PgGateway.Rpc.Lifecycle.advance` — which methods are served in
  a state, and the state after them.
-/

namespace PgGateway.Rpc

/-- The states of a session. -/
inductive Lifecycle where
  /-- The handshake has not begun. -/
  | created
  /-- The client has greeted, and has not yet confirmed the answer. -/
  | greeted
  /-- The session is running. -/
  | running
  /-- The client has asked for a shutdown. -/
  | shuttingDown
  /-- The session is over. -/
  | stopped
  deriving DecidableEq, Inhabited

namespace Lifecycle

/-- The name of a state. -/
def name : Lifecycle → String
  | .created => "Created"
  | .greeted => "Initializing"
  | .running => "Running"
  | .shuttingDown => "ShuttingDown"
  | .stopped => "Stopped"

/-- The state of a name. -/
def ofName? (name : String) : Option Lifecycle :=
  [created, greeted, running, shuttingDown, stopped].find? fun s => s.name = name

/-- Whether a method is served in a state. -/
def admits (method : String) : Lifecycle → Bool
  | .created => method == "initialize" || method == "ping"
  | .greeted | .running => true
  | .shuttingDown | .stopped => false

/-- The state after a method has been served. -/
def advance (method : String) : Lifecycle → Lifecycle
  | .created => if method = "initialize" then .greeted else .created
  | .greeted =>
    if method = "initialized" then .running
    else if method = "shutdown" then .shuttingDown
    else .greeted
  | .running => if method = "shutdown" then .shuttingDown else .running
  | .shuttingDown => .shuttingDown
  | .stopped => .stopped

end Lifecycle

end PgGateway.Rpc
