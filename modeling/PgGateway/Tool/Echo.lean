import PgGateway.Tool.Basic

set_option autoImplicit false

/-!
# Echo tools

Tools that need no database. An echo tool answers with the circumstances of its call, so it shows
what arrives at a tool; a failing tool fails always.

## Main definitions

* `PgGateway.Tool.echo` — the tool that answers with its call.
* `PgGateway.Tool.failing` — the tool that fails.
-/

namespace PgGateway.Tool

/-- The answer of an echo tool to a call. -/
def echoAnswer (name : String) (context : Context) (arguments : Json) : Json :=
  .object [("tool", .str name), ("params", arguments), ("request_id", .nat context.requestId),
    ("origin", .str context.origin.name), ("timeout_ms", .nat context.timeout.toMillis)]

/-- The tool that answers with its call. -/
def echo (name group : String) : Tool :=
  ⟨⟨name, some "Echo parameters", Schema.map.toJson⟩, group, fun context arguments =>
    .answer (echoAnswer name context arguments)⟩

/-- The tool that fails. -/
def failing (name group : String) : Tool :=
  ⟨⟨name, none, Schema.map.toJson⟩, group, fun _ _ =>
    .fail (.database (.queryFailed (name ++ " failed")))⟩

end PgGateway.Tool
