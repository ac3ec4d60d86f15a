import PgGateway.Rpc.Call
import PgGateway.Rpc.Handshake

set_option autoImplicit false

/-!
# Handlers

What serves the methods of the protocol. A handler works on data: dispatching a request reads the
parameters for it and writes its answer.

## Main definitions

* `PgGateway.Rpc.Handler` — the handlers.
* `PgGateway.Rpc.Handler.dispatch` — serves a request.
-/

namespace PgGateway.Rpc

open Shape

/-- Serves a method, with states of type `τ`. -/
abbrev Service (τ α : Type) := τ → Except ProtocolError α × τ

/-- Serves a method that there is not. -/
def Service.missing {τ α : Type} (method : String) : Service τ α :=
  fun t => (.error (.methodNotFound method), t)

/-- Serves a method by a value. -/
def Service.constant {τ α : Type} (value : α) : Service τ α :=
  fun t => (.ok value, t)

/-- Serves the methods of the protocol, with states of type `τ`. -/
structure Handler (τ : Type) where
  /-- Answers the greeting of a client. -/
  greet : Greeting → Service τ Welcome
  /-- Takes notice that the client has seen the answer. -/
  confirm : Service τ Unit
  /-- Takes notice that the session ends. -/
  shutdown : Service τ Unit
  /-- Lists the tools. -/
  listTools : Service τ ToolListing
  /-- Calls a tool. -/
  callTool : ToolCall → Service τ ToolAnswer
  /-- Shows that the server is there. -/
  ping : Service τ Json := Service.constant (.obj [])
  /-- Helps with the code mode. -/
  codeHelp : HelpQuery → Service τ Json := fun _ => Service.missing "codemode/help"
  /-- Calls a method in code. -/
  codeCall : CodeCall → Service τ ToolAnswer := fun _ => Service.missing "codemode/call"

namespace Handler

variable {τ α β : Type}

/-- The outcome of a service with its value replaced by an image. -/
def written (f : α → Json) : Except ProtocolError α × τ → Except ProtocolError Json × τ
  | (.ok a, t) => (.ok (f a), t)
  | (.error e, t) => (.error e, t)

/-- The parameters of a request as data. -/
def paramsOf (read : Reader α) : Option Json → Except ProtocolError α
  | none => .error (.invalidParams "Missing params")
  | some j =>
    match read j with
    | .ok a => .ok a
    | .error mismatch => .error (.invalidParams mismatch.message)

/-- Serves a method that takes parameters. -/
def withParams (read : Reader α) (service : α → Service τ β) (write : β → Json)
    (params : Option Json) (t : τ) : Except ProtocolError Json × τ :=
  match paramsOf read params with
  | .ok a => written write (service a t)
  | .error e => (.error e, t)

/-- The parameters of a question for help: missing ones and null ask for the help as a whole. -/
def helpParams : Option Json → Json
  | none | some .null => .obj []
  | some j => j

/-- The outcome of a method with parameters. -/
def outcome (h : Handler τ) (method : String) (params : Option Json) (t : τ) :
    Except ProtocolError Json × τ :=
  match method with
  | "initialize" => withParams Greeting.read h.greet Welcome.toJson params t
  | "initialized" => written (fun _ => .null) (h.confirm t)
  | "shutdown" => written (fun _ => .null) (h.shutdown t)
  | "ping" => h.ping t
  | "tools/list" => written ToolListing.toJson (h.listTools t)
  | "tools/call" => withParams ToolCall.read h.callTool ToolAnswer.toJson params t
  | "codemode/help" => withParams HelpQuery.read h.codeHelp id (some (helpParams params)) t
  | "codemode/call" => withParams CodeCall.read h.codeCall ToolAnswer.toJson params t
  | other => (.error (.methodNotFound other), t)

/-- Serves a request. -/
def dispatch (h : Handler τ) (r : Request) (t : τ) : Response × τ :=
  let (result, t) := h.outcome r.method r.params t
  (Response.ofOutcome r.id result, t)

end Handler

end PgGateway.Rpc
