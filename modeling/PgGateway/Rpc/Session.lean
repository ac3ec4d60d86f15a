import PgGateway.Rpc.Handler
import PgGateway.Rpc.Lifecycle
import PgGateway.Rpc.Line

set_option autoImplicit false

/-!
# Sessions

A session takes lines one after the other and answers the requests among them. Whether a request is
served depends on how far the session is; a notification is served like any other request, but not
answered. Responses and blank lines are passed over.

## Main definitions

* `PgGateway.Rpc.Session` — how far a session is, and the state of its handler.
* `PgGateway.Rpc.Session.step` — what a session does with a line.
* `PgGateway.Rpc.Session.run` — what it does with all of them.
-/

namespace PgGateway.Rpc

/-- How far a session is, and the state of its handler. -/
structure Session (τ : Type) where
  /-- How far the session is. -/
  lifecycle : Lifecycle
  /-- The state of the handler. -/
  state : τ
  deriving Inhabited

namespace Session

variable {τ : Type}

/-- A new session. -/
def start (state : τ) : Session τ :=
  ⟨.created, state⟩

/-- A new session, which needs a handler. -/
def start? (handler : Option (Handler τ)) (state : τ) : Except Failure (Handler τ × Session τ) :=
  match handler with
  | some h => .ok (h, start state)
  | none => .error (.internal "Handler is required")

/-- Serves a request if the session is far enough. The session goes on even if the request could
not be served well. -/
def serve (h : Handler τ) (r : Request) (s : Session τ) : Response × Session τ :=
  if s.lifecycle.admits r.method then
    let (response, state) := h.dispatch r s.state
    (response, ⟨s.lifecycle.advance r.method, state⟩)
  else (.failure r.id (.ofProtocol .notInitialized), s)

/-- What a session does with what a line holds: its answer, if it gives one. -/
def react (h : Handler τ) (s : Session τ) : Incoming → Option Response × Session τ
  | .blank | .response _ => (none, s)
  | .malformed => (some (.failure none .parseError), s)
  | .request r =>
    let (response, s) := s.serve h r
    (if r.isNotification then none else some response, s)

/-- What a session does with a line. -/
def step (h : Handler τ) (s : Session τ) (line : String) : Option Response × Session τ :=
  s.react h (.ofLine line)

/-- Whether the session reads no more lines. -/
def isOver (s : Session τ) : Bool :=
  s.lifecycle == .shuttingDown

/-- What a session does with lines until it is over, and its end. -/
def run (h : Handler τ) (s : Session τ) : List String → List Response × Session τ
  | [] => ([], { s with lifecycle := .stopped })
  | line :: rest =>
    if s.isOver then ([], { s with lifecycle := .stopped })
    else
      let (answer, s) := s.step h line
      let (answers, s) := s.run h rest
      (answer.toList ++ answers, s)

/-- The text of some responses, a line for each. -/
def outputOf (responses : List Response) : String :=
  String.join (responses.map fun r => r.line ++ "\n")

end Session

end PgGateway.Rpc
