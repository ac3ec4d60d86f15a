import PgGateway.Server.Handler
import Mathlib.Tactic.Common

set_option autoImplicit false

/-!
# Calls of tools on a server

A tool can be called by its name or, as a method, in code. Both calls come to the same thing: the
tool acts on some arguments, the next number is used up, and the outcome is the answer.

## Main definitions

* `PgGateway.Server.served` — what a call of a tool comes to.

## Main results

* `PgGateway.Server.dispatch_toolCall` — a call of a tool by its name.
* `PgGateway.Server.dispatch_codeCall` — a call of a tool as a method.
* `PgGateway.Server.served_congr` — calls with the same action come to the same.
-/

namespace PgGateway.Server

open Rpc

variable {σ : Type} (server : Server σ)

/-- What a call of a tool with some arguments comes to: the answer, and the state after it. -/
def served (origin : Origin) (t : Tool) (given : Json) (s : State σ) : ToolAnswer × State σ :=
  let (outcome, desk) := s.desk.serve server.executor server.timeout origin fun c => t.act c given
  (.ofOutcome outcome, { s with desk })

/-- The response to a request and the state after it, for a call of a tool that was made. -/
def responded (id : Option RequestId) : ToolAnswer × State σ → Response × State σ
  | (answer, s) => (.success id answer.toJson, s)

/-- Calls of a tool come to the same if it does the same with the arguments, whatever the surface
is. -/
lemma served_congr {t : Tool} (hcontext : ∀ c c' j, t.act c j = t.act c' j) {given given' : Json}
    (origin origin' : Origin) (hact : ∀ c, t.act c given = t.act c given') (s : State σ) :
    server.served origin t given s = server.served origin' t given' s := by
  simp only [served, Desk.serve]
  rw [hcontext _ (s.desk.nextContext origin' server.timeout), hact]
  rfl

variable (s : State σ) (version : String) (id : Option RequestId)

/-- A call of a tool by its name is made with the arguments that the parameters hold. -/
theorem dispatch_toolCall {c : ToolCall} {params : Json} (hread : ToolCall.read params = .ok c)
    {t : Tool} (ht : server.registry.get? c.name = some t) :
    server.handler.dispatch ⟨version, id, "tools/call", some params⟩ s =
      responded id (server.served .protocol t c.arguments s) := by
  have hact : ∀ context, server.registry.act c.name context c.arguments =
      t.act context c.arguments := by
    intro context
    rw [Registry.act, ht]
  have houtcome : server.handler.outcome "tools/call" (some params) s =
      Handler.written ToolAnswer.toJson (server.callTool c s) := by
    change Handler.withParams ToolCall.read server.callTool ToolAnswer.toJson (some params) s = _
    rw [Handler.withParams, Handler.paramsOf, hread]
  rw [Handler.dispatch, houtcome, callTool]
  simp only [hact]
  rfl

/-- A call in code at the path of a method is made with the parameters that the arguments stand
for. -/
theorem dispatch_codeCall {c : CodeCall} {params : Json} (hread : CodeCall.read params = .ok c)
    {surface : Sandbox.Surface} (hsurface : server.surface = some surface) {m : Sandbox.Method}
    (hm : surface.target c.path = .ok (.method m)) :
    server.handler.dispatch ⟨version, id, "codemode/call", some params⟩ s =
      responded id (server.served .codeMode m.tool (surface.parameters m c.arguments) s) := by
  have houtcome : server.handler.outcome "codemode/call" (some params) s =
      Handler.written ToolAnswer.toJson (server.codeCall c s) := by
    change Handler.withParams CodeCall.read server.codeCall ToolAnswer.toJson (some params) s = _
    rw [Handler.withParams, Handler.paramsOf, hread]
  rw [Handler.dispatch, houtcome, codeCall, hsurface]
  simp only [Sandbox.Surface.invoke, hm]
  rfl

end PgGateway.Server
