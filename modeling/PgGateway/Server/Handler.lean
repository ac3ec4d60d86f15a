import PgGateway.Rpc.Handler
import PgGateway.Sandbox.Path
import PgGateway.Server.State

set_option autoImplicit false

/-!
# The handler of a server

How a server serves the methods of the protocol with its tools and its code mode.

## Main definitions

* `PgGateway.Server.handler` — the handler.
-/

namespace PgGateway.Server

open Rpc

variable {σ : Type}

/-- The groups of some tools, in the order in which they first occur. -/
def groupNames (tools : List Tool) : List String :=
  tools.foldl (fun names t => if names.contains t.group then names else names ++ [t.group]) []

/-- What the server says about its database. -/
def connectionText (server : Server σ) : String :=
  let c := server.config.database
  if server.executor.isConnected then
    "connected to " ++ c.database ++ " at " ++ c.host ++ ":" ++ toString c.port
  else "not connected; tools that touch the database will fail"

/-- What the server says about its code mode. -/
def codeModeText : String :=
  " Code mode: call codemode/help for the " ++ Sandbox.rootName ++
    " API, then codemode/call with a path such as '" ++ Sandbox.rootName ++
    ".core.readQuery' and positional args."

/-- How the server is used. -/
def instructions (server : Server σ) : String :=
  "PostgreSQL MCP server (" ++ server.connectionText ++ "). " ++
    toString server.registry.size ++ " tools in groups: " ++
    Text.join ", " (groupNames server.registry.tools) ++ "." ++
    (if server.surface.isSome then codeModeText else "")

/-- What the server can do. -/
def capabilities (server : Server σ) : Capabilities :=
  ⟨some ⟨some false⟩, server.surface.map fun _ => Capabilities.codeMode Sandbox.rootName⟩

/-- The answer of the server to a greeting. -/
def welcome (server : Server σ) : Welcome :=
  ⟨protocolVersion, server.capabilities, ⟨server.config.name, server.config.version⟩,
    some server.instructions⟩

/-- Calls a tool. The call gets a number even if there is no such tool. -/
def callTool (server : Server σ) (c : ToolCall) : Service (State σ) ToolAnswer := fun s =>
  let (outcome, desk) := s.desk.serve server.executor server.timeout .protocol fun context =>
    server.registry.act c.name context c.arguments
  (.ok (.ofOutcome outcome), { s with desk })

/-- The help of the code mode at a path. -/
def helpAt (surface : Sandbox.Surface) (q : HelpQuery) : Except ProtocolError Json :=
  match surface.describe q.path with
  | .ok help => .ok help
  | .error (.notFound path) => .error (.invalidParams ("Unknown code-mode path: " ++ path))
  | .error e => .error (.internalError (Failure.tool e).message)

/-- Helps with the code mode. -/
def codeHelp (server : Server σ) (q : HelpQuery) : Service (State σ) Json := fun s =>
  match server.surface with
  | some surface => (helpAt surface q, s)
  | none => Service.missing "codemode/help" s

/-- Calls a method in code. -/
def codeCall (server : Server σ) (c : CodeCall) : Service (State σ) ToolAnswer := fun s =>
  match server.surface with
  | some surface =>
    let (outcome, desk) := surface.invoke c.path c.arguments server.executor server.timeout s.desk
    (.ok (.ofOutcome outcome), { s with desk })
  | none => Service.missing "codemode/call" s

/-- The handler of a server. -/
def handler (server : Server σ) : Rpc.Handler (State σ) where
  greet g s := (.ok server.welcome, { s with client := some g.client })
  confirm := Service.constant ()
  shutdown := Service.constant ()
  listTools := Service.constant ⟨server.registry.definitions, none⟩
  callTool := server.callTool
  codeHelp := server.codeHelp
  codeCall := server.codeCall

end PgGateway.Server
