import PgGateway.Executor.Procedure
import PgGateway.Shape.Record
import PgGateway.Tool.Schema

set_option autoImplicit false

/-!
# Tools

A tool has a definition, which callers see, and turns its arguments into an action: an answer at
once, or one call to the executor together with what is made of its result. An action stands for a
procedure over the executor, which passes the error of the call on.

## Main definitions

* `PgGateway.Action` — what a tool does; `Action.procedure` is the procedure that it stands for, and
  `Action.run` runs this.
* `PgGateway.Definition` — the name, the description and the schema of a tool.
* `PgGateway.Tool` — the tools; `Tool.reading` makes one of a reader for its arguments.
-/

namespace PgGateway

/-- The surface through which a tool is called. -/
inductive Origin where
  /-- As a tool of the protocol. -/
  | protocol
  /-- As a method of the code mode. -/
  | codeMode
  deriving DecidableEq, Inhabited

/-- The name of a surface. -/
def Origin.name : Origin → String
  | .protocol => "Protocol"
  | .codeMode => "CodeMode"

/-- The circumstances of one call of a tool. -/
structure Context where
  /-- The number of the call. -/
  requestId : Nat := 0
  /-- The surface through which it came. -/
  origin : Origin := .protocol
  /-- How long a statement may take. -/
  timeout : Span := Span.ofSeconds 30
  deriving DecidableEq, Inhabited

/-- The text that shows a context and the name of its executor. -/
def Context.shown (c : Context) (executor : String) : String :=
  r"ToolContext { request_id: " ++ toString c.requestId ++ ", origin: " ++ c.origin.name ++
    ", query_timeout: " ++ c.timeout.shown ++ ", executor: " ++ Text.quoted executor ++ r" }"

/-- What a tool does with its arguments. -/
inductive Action where
  /-- It answers without a call. -/
  | answer (value : Json)
  /-- It fails without a call. -/
  | fail (cause : Failure)
  /-- It runs a statement that returns rows. -/
  | query (sql : String) (limit : Option Nat) (conclude : ResultSet → Except Failure Json)
  /-- It runs a statement that does not. -/
  | execute (sql : String) (conclude : Nat → Json)
  /-- It runs several statements as one transaction. -/
  | transaction (statements : List String) (conclude : List Nat → Json)

namespace Action

variable {σ : Type}

/-- What is made of the outcome of a call: its error is passed on. -/
def passed {α : Type} (conclude : α → Except Failure Json) :
    Except DatabaseError α → Except Failure Json
  | .ok a => conclude a
  | .error e => .error (.database e)

/-- The procedure that an action stands for. -/
def procedure : Action → Procedure
  | .answer value => .done (.ok value)
  | .fail cause => .done (.error cause)
  | .query sql limit conclude => .query sql limit fun outcome => .done (passed conclude outcome)
  | .execute sql conclude =>
    .execute sql fun outcome => .done (passed (fun n => .ok (conclude n)) outcome)
  | .transaction statements conclude =>
    .transaction statements fun outcome => .done (passed (fun ns => .ok (conclude ns)) outcome)

/-- Does what the action says by means of an executor in a given state. -/
def run (executor : Executor σ) (timeout : Span) (action : Action) (s : σ) :
    Except Failure Json × σ :=
  action.procedure.run executor timeout s

end Action

/-- What callers see of a tool. -/
structure Definition where
  /-- The name of the tool. -/
  name : String
  /-- What the tool does. -/
  description : Option String
  /-- The shape of its arguments. -/
  inputSchema : Json
  deriving Inhabited

namespace Definition

/-- The written form of a definition. -/
def toJson (d : Definition) : Json :=
  .object ([("name", .str d.name), ("inputSchema", d.inputSchema)] ++
    match d.description with
    | some text => [("description", .str text)]
    | none => [])

/-- The fields of a definition. -/
def record : Shape.Record Definition :=
  let name := Shape.Field.required "name" Shape.text
  let description := Shape.Field.optional "description" Shape.text
  let inputSchema := Shape.Field.required "inputSchema" Shape.any
  ⟨"struct Tool", [name.slot, description.slot, inputSchema.slot], fun given => do
    return ⟨← name.of given, ← description.of given, ← inputSchema.of given⟩⟩

end Definition

/-- A tool: what callers see of it, the group that it belongs to, and what it does. -/
structure Tool where
  /-- What callers see of the tool. -/
  definition : Definition
  /-- The group of the tool. -/
  group : String
  /-- What it does with its arguments. -/
  act : Context → Json → Action

namespace Tool

/-- The name of a tool. -/
def name (t : Tool) : String :=
  t.definition.name

/-- The text that shows a tool. -/
def shown (t : Tool) : String :=
  r"ToolDescriptor { name: " ++ Text.quoted t.name ++ ", group: " ++ Text.quoted t.group ++
    r" }"

/-- What is done with arguments that a reader takes from JSON: arguments that do not fit, and those
that are refused, make no call. -/
def actionOf {α : Type} (arguments : Shape.Reader α) (plan : α → Except ToolError Action)
    (given : Json) : Action :=
  match arguments given with
  | .error mismatch => .fail (.tool (.invalidArguments mismatch.message))
  | .ok a =>
    match plan a with
    | .error e => .fail (.tool e)
    | .ok action => action

/-- The tool with arguments that a reader takes from JSON. -/
def reading {α : Type} (group name description : String) (schema : Schema)
    (arguments : Shape.Reader α) (plan : α → Except ToolError Action) : Tool :=
  ⟨⟨name, some description, schema.toJson⟩, group, fun _ => actionOf arguments plan⟩

end Tool

end PgGateway
