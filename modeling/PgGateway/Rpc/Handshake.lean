import PgGateway.Rpc.Message

set_option autoImplicit false

/-!
# The handshake

A session begins with a handshake: the client says who it is and what it can do, and the server
answers with the same about itself.

## Main definitions

* `PgGateway.Rpc.Peer` — who takes part.
* `PgGateway.Rpc.Greeting`, `PgGateway.Rpc.Welcome` — what the client says, and the answer.
-/

namespace PgGateway.Rpc

open Shape

/-- The version of the protocol that the server speaks. -/
def protocolVersion : String := "2024-11-05"

/-- A client or a server. -/
structure Peer where
  /-- Its name. -/
  name : String
  /-- Its version. -/
  version : String
  deriving DecidableEq, Inhabited

namespace Peer

/-- The written form. -/
def toJson (p : Peer) : Json :=
  .object [("name", .str p.name), ("version", .str p.version)]

/-- The fields, for a kind of peer. -/
def record (kind : String) : Record Peer :=
  let name := Field.required "name" text
  let version := Field.required "version" text
  ⟨kind, [name.slot, version.slot], fun given => do
    return ⟨← name.of given, ← version.of given⟩⟩

/-- The reader of a client. -/
def readClient : Reader Peer :=
  (record "struct ClientInfo").read

/-- The reader of a server. -/
def readServer : Reader Peer :=
  (record "struct ServerInfo").read

end Peer

/-- What the client says. -/
structure Greeting where
  /-- The version of the protocol that it speaks. -/
  protocolVersion : String
  /-- What it can do. -/
  capabilities : Keyed Json
  /-- Who it is. -/
  client : Peer
  deriving Inhabited

namespace Greeting

/-- The reader of the capabilities of a client: any object. -/
def readCapabilities : Reader (Keyed Json)
  | .obj ms => .ok ms
  | other => .error (.kind other "struct ClientCapabilities")

/-- The written form. -/
def toJson (g : Greeting) : Json :=
  .object [("protocolVersion", .str g.protocolVersion), ("capabilities", .obj g.capabilities),
    ("clientInfo", g.client.toJson)]

/-- The reader. -/
def read : Reader Greeting :=
  let version := Field.required "protocolVersion" text
  let capabilities := Field.required "capabilities" readCapabilities
  let client := Field.required "clientInfo" Peer.readClient
  Record.read ⟨"struct InitializeParams", [version.slot, capabilities.slot, client.slot],
    fun given => do
      return ⟨← version.of given, ← capabilities.of given, ← client.of given⟩⟩

end Greeting

/-- What a server can do with its list of tools. -/
structure ToolsCapability where
  /-- Whether it announces changes of the list. -/
  listChanged : Option Bool
  deriving DecidableEq, Inhabited

namespace ToolsCapability

/-- The written form. -/
def toJson (c : ToolsCapability) : Json :=
  .object (memberIf "listChanged" (c.listChanged.map .bool))

/-- The reader. -/
def read : Reader ToolsCapability :=
  let listChanged := Field.optional "listChanged" flag
  Record.read ⟨"struct ToolsCapability", [listChanged.slot], fun given => do
    return ⟨← listChanged.of given⟩⟩

end ToolsCapability

/-- What a server can do. -/
structure Capabilities where
  /-- It has tools. -/
  tools : Option ToolsCapability
  /-- It can do things that are not part of the protocol. -/
  experimental : Option Json
  deriving Inhabited

namespace Capabilities

/-- The written form. -/
def toJson (c : Capabilities) : Json :=
  .object (memberIf "tools" (c.tools.map ToolsCapability.toJson) ++
    memberIf "experimental" c.experimental)

/-- The reader. -/
def read : Reader Capabilities :=
  let tools := Field.optional "tools" ToolsCapability.read
  let experimental := Field.optional "experimental" any
  Record.read ⟨"struct ServerCapabilities", [tools.slot, experimental.slot], fun given => do
    return ⟨← tools.of given, ← experimental.of given⟩⟩

/-- The announcement of the code mode, whose methods are called below the given root. -/
def codeMode (root : String) : Json :=
  .object [("codemode", .object [("root", .str root),
    ("methods", Json.strings ["codemode/help", "codemode/call"])])]

end Capabilities

/-- The answer of the server. -/
structure Welcome where
  /-- The version of the protocol that it speaks. -/
  protocolVersion : String
  /-- What it can do. -/
  capabilities : Capabilities
  /-- Who it is. -/
  server : Peer
  /-- How it is used. -/
  instructions : Option String
  deriving Inhabited

namespace Welcome

/-- The written form. -/
def toJson (w : Welcome) : Json :=
  .object ([("protocolVersion", .str w.protocolVersion),
    ("capabilities", w.capabilities.toJson), ("serverInfo", w.server.toJson)] ++
    memberIf "instructions" (w.instructions.map .str))

/-- The reader. -/
def read : Reader Welcome :=
  let version := Field.required "protocolVersion" text
  let capabilities := Field.required "capabilities" Capabilities.read
  let server := Field.required "serverInfo" Peer.readServer
  let instructions := Field.optional "instructions" text
  Record.read ⟨"struct InitializeResult",
    [version.slot, capabilities.slot, server.slot, instructions.slot], fun given => do
      return ⟨← version.of given, ← capabilities.of given, ← server.of given,
        ← instructions.of given⟩⟩

end Welcome

end PgGateway.Rpc
