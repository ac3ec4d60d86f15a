import PgGateway.Config.Environment

set_option autoImplicit false

/-!
# Configuration of the server

The name and the version by which the server introduces itself, its database, and whether and how
strictly it serves the code mode.

## Main definitions

* `PgGateway.Config.CodeMode`, `PgGateway.Config.Server` — the configurations, with written form and
  reader.
-/

namespace PgGateway.Config

open Shape

/-- The configuration of the code mode. -/
structure CodeMode where
  /-- Whether the code mode is served. -/
  enabled : Bool := true
  /-- Whether the server refuses to start if its tables do not fit its tools. -/
  strict : Bool := false
  deriving DecidableEq, Inhabited

namespace CodeMode

/-- The configuration that the environment sets. -/
def ofEnvironment (env : Environment) : Except ConfigError CodeMode := do
  let enabled ← flagSetting env "CODEMODE_ENABLED" true
  let strict ← flagSetting env "CODEMODE_STRICT" false
  return ⟨enabled, strict⟩

/-- The written form of a configuration. -/
def toJson (c : CodeMode) : Json :=
  .object [("enabled", .bool c.enabled), ("strict", .bool c.strict)]

/-- The reader of a configuration. -/
def read : Reader CodeMode :=
  let enabled := Field.required "enabled" flag
  let strict := Field.required "strict" flag
  Record.read ⟨"struct CodeModeConfig", [enabled.slot, strict.slot], fun given => do
    return ⟨← enabled.of given, ← strict.of given⟩⟩

end CodeMode

/-- The name by which the server introduces itself. -/
def serverName : String := "pg-codemode-mcp"

/-- The version of the server. -/
def serverVersion : String := "0.1.0"

/-- The configuration of the server. -/
structure Server where
  /-- The name of the server. -/
  name : String := serverName
  /-- The version of the server. -/
  version : String := serverVersion
  /-- The database. -/
  database : Database := {}
  /-- The code mode. -/
  codeMode : CodeMode := {}
  deriving DecidableEq, Inhabited

namespace Server

/-- The written form of a configuration. -/
def toJson (c : Server) : Json :=
  .object [("name", .str c.name), ("version", .str c.version), ("database", c.database.toJson),
    ("codemode", c.codeMode.toJson)]

/-- The reader of a configuration. -/
def read : Reader Server :=
  let name := Field.required "name" text
  let version := Field.required "version" text
  let database := Field.required "database" Database.read
  let codeMode := Field.required "codemode" CodeMode.read
  Record.read ⟨"struct ServerConfig", [name.slot, version.slot, database.slot, codeMode.slot],
    fun given => do
      return ⟨← name.of given, ← version.of given, ← database.of given, ← codeMode.of given⟩⟩

end Server

end PgGateway.Config
