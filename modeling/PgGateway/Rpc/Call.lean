import PgGateway.Rpc.Message
import PgGateway.Tool.Basic

set_option autoImplicit false

/-!
# Calls of tools

What requests about tools and about the code mode carry, and their answers. An answer of a tool is
a list of texts, and says whether the tool failed.

## Main definitions

* `PgGateway.Rpc.ToolCall`, `PgGateway.Rpc.CodeCall`, `PgGateway.Rpc.HelpQuery` — the parameters.
* `PgGateway.Rpc.ToolListing`, `PgGateway.Rpc.ToolAnswer` — the answers.
-/

namespace PgGateway.Rpc

open Shape

/-- A call of a tool. -/
structure ToolCall where
  /-- The name of the tool. -/
  name : String
  /-- Its arguments; null if none are given. -/
  arguments : Json
  deriving Inhabited

namespace ToolCall

/-- The written form. -/
def toJson (c : ToolCall) : Json :=
  .object [("name", .str c.name), ("arguments", c.arguments)]

/-- The reader. -/
def read : Reader ToolCall :=
  let name := Field.required "name" text
  let arguments := Field.defaulted "arguments" any .null
  Record.read ⟨"struct CallToolParams", [name.slot, arguments.slot], fun given => do
    return ⟨← name.of given, ← arguments.of given⟩⟩

end ToolCall

/-- A call of a method in code. -/
structure CodeCall where
  /-- The path of the method. -/
  path : String
  /-- The arguments in order. -/
  arguments : List Json
  deriving Inhabited

namespace CodeCall

/-- The written form. -/
def toJson (c : CodeCall) : Json :=
  .object [("path", .str c.path), ("args", .arr c.arguments)]

/-- The reader. -/
def read : Reader CodeCall :=
  let path := Field.required "path" text
  let arguments := Field.defaulted "args" (list any) []
  Record.read ⟨"struct CodeModeCallParams", [path.slot, arguments.slot], fun given => do
    return ⟨← path.of given, ← arguments.of given⟩⟩

end CodeCall

/-- A question for help about the code mode. -/
structure HelpQuery where
  /-- The path that the help is about. -/
  path : Option String
  deriving DecidableEq, Inhabited

namespace HelpQuery

/-- The written form. -/
def toJson (q : HelpQuery) : Json :=
  .object [("path", .ofOption .str q.path)]

/-- The reader. -/
def read : Reader HelpQuery :=
  let path := Field.omissible "path" text
  Record.read ⟨"struct CodeModeHelpParams", [path.slot], fun given => do
    return ⟨← path.of given⟩⟩

end HelpQuery

/-- The tools of a server. -/
structure ToolListing where
  /-- The definitions of the tools. -/
  tools : List Definition
  /-- Where the list goes on. -/
  nextCursor : Option String
  deriving Inhabited

namespace ToolListing

/-- The written form. -/
def toJson (l : ToolListing) : Json :=
  .object (("tools", .arr (l.tools.map Definition.toJson)) ::
    memberIf "nextCursor" (l.nextCursor.map .str))

/-- The reader. -/
def read : Reader ToolListing :=
  let tools := Field.required "tools" (list Definition.record.read)
  let nextCursor := Field.optional "nextCursor" text
  Record.read ⟨"struct ListToolsResult", [tools.slot, nextCursor.slot], fun given => do
    return ⟨← tools.of given, ← nextCursor.of given⟩⟩

end ToolListing

/-! ## Content

A piece of an answer is an object whose member `type` says of what kind it is; there is only text.
It can also be given as a list of the kind and the text. -/

/-- The written form of a text in an answer. -/
def textContent (s : String) : Json :=
  .object [("type", .str "text"), ("text", .str s)]

/-- What a message calls the data of a text. -/
def textVariant : String := "struct variant ToolContent::Text"

/-- Reads the kind of a piece. -/
def contentKind : Reader Unit
  | .str "text" => .ok ()
  | .str other => .error (.unknownVariant other "`text`")
  | other => .error (.kind other "variant identifier")

/-- Reads a text after its kind from the items of a list. -/
def contentOfItems : List Json → Except Mismatch String
  | [] => .error (.length 0 (textVariant ++ " with 1 element"))
  | value :: rest => do
    let s ← text value
    if rest.isEmpty then return s
    else .error (.length (rest.length + 1) "1 element in sequence")

/-- Reads a piece of an answer. -/
def readContent : Reader String
  | .obj ms =>
    match Keyed.get? "type" ms with
    | none => .error (.missingField "type")
    | some kind => do
      contentKind kind
      match Keyed.get? "text" ms with
      | some value => text value
      | none => .error (.missingField "text")
  | .arr [] => .error (.missingField "type")
  | .arr (kind :: rest) => do
    contentKind kind
    contentOfItems rest
  | other => .error (.kind other "internally tagged enum ToolContent")

/-- The answer of a tool. -/
structure ToolAnswer where
  /-- The texts of the answer. -/
  content : List String
  /-- Whether the tool failed, if that is said. -/
  isError : Option Bool
  deriving DecidableEq, Inhabited

namespace ToolAnswer

/-- The answer that reports the outcome of a tool: its value as a text, or its failure. -/
def ofOutcome : Except Failure Json → ToolAnswer
  | .ok value => ⟨[value.pretty], none⟩
  | .error e => ⟨[e.message], some true⟩

/-- The written form. -/
def toJson (a : ToolAnswer) : Json :=
  .object (("content", .arr (a.content.map textContent)) ::
    memberIf "isError" (a.isError.map .bool))

/-- The reader. -/
def read : Reader ToolAnswer :=
  let content := Field.required "content" (list readContent)
  let isError := Field.optional "isError" flag
  Record.read ⟨"struct CallToolResult", [content.slot, isError.slot], fun given => do
    return ⟨← content.of given, ← isError.of given⟩⟩

end ToolAnswer

end PgGateway.Rpc
