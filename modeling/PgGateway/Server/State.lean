import PgGateway.Catalog.Standard
import PgGateway.Config.Server
import PgGateway.Rpc.Handshake
import PgGateway.Sandbox.Surface

set_option autoImplicit false

/-!
# Servers

A server is fixed by its configuration, its tools and its executor. While it runs it only keeps
who its client is and what its tools need from call to call.

## Main definitions

* `PgGateway.Server` — the servers; `Server.make?` builds one.
* `PgGateway.Server.State` — what a server keeps.
-/

namespace PgGateway

/-- A server. -/
structure Server (σ : Type) where
  /-- Its configuration. -/
  config : Config.Server
  /-- Its tools. -/
  registry : Registry
  /-- What it runs statements with. -/
  executor : Executor σ
  /-- Its code mode, if that is enabled. -/
  surface : Option Sandbox.Surface

namespace Server

/-- What a server keeps while it runs. -/
structure State (σ : Type) where
  /-- The calls of tools so far and the state of the executor. -/
  desk : Desk σ
  /-- The client, once it has greeted. -/
  client : Option Rpc.Peer
  deriving Inhabited

namespace State

variable {σ : Type}

/-- The state of a new server. -/
def fresh (executor : σ) : State σ :=
  ⟨⟨0, executor⟩, none⟩

/-- Whether the client has greeted. -/
def isReady (s : State σ) : Bool :=
  s.client.isSome

end State

variable {σ : Type}

/-- The code mode of a configuration, with the standard aliases and convention. -/
def surfaceOf (config : Config.CodeMode) (registry : Registry) :
    Except ConfigError (Option Sandbox.Surface) :=
  if config.enabled then
    (Sandbox.Surface.ofTools config.strict Sandbox.Alias.standard Sandbox.Convention.standard
      registry.tools).map some
  else .ok none

/-- The server of a configuration. A strict code mode that does not fit the tools is refused. -/
def make? (config : Config.Server) (registry : Registry) (executor : Executor σ) :
    Except ConfigError (Server σ) := do
  let surface ← surfaceOf config.codeMode registry
  return ⟨config, registry, executor, surface⟩

/-- How long a statement may take. -/
def timeout (server : Server σ) : Span :=
  server.config.database.queryTimeout

end Server

end PgGateway
