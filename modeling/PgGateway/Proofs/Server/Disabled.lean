import PgGateway.Executor.Recording
import PgGateway.Proofs.Rpc.Call
import PgGateway.Proofs.Server.Event

set_option autoImplicit false

/-!
# Servers without a code mode

A server whose code mode is disabled does nothing for the methods of the code mode. It reads the
parameters before it looks for the code mode, so it only says that there is no such method to
requests with parameters that a code mode could read, and refuses the parameters of others.

## Main definitions

* `PgGateway.Rpc.Request.FitsCodeMode` — whether the parameters of a request are such.

## Main results

* `PgGateway.Server.react_of_codeMode_disabled` — what a server without a code mode answers.
-/

namespace PgGateway

namespace Rpc

/-- The methods of the code mode. -/
def Handler.codeMethods : List String :=
  ["codemode/help", "codemode/call"]

/-- Whether a request for a method of the code mode has parameters that the method can read. Help
can be asked for without parameters, and a call cannot. -/
def Request.FitsCodeMode (r : Request) : Prop :=
  if r.method = "codemode/help" then HelpQuery.IsParams (Handler.helpParams r.params)
  else ∃ j, r.params = some j ∧ CodeCall.IsParams j

/-- A method with parameters that there is not is only said to be missing if the parameters can be
read. -/
lemma Handler.withParams_missing {τ α β : Type} (read : Shape.Reader α) (method : String)
    (write : β → Json) (params : Option Json) (t : τ) :
    (∃ j a, params = some j ∧ read j = .ok a) ∧
        withParams read (fun _ => Service.missing method) write params t =
          (.error (.methodNotFound method), t) ∨
      (¬ ∃ j a, params = some j ∧ read j = .ok a) ∧
        ∃ detail, withParams read (fun _ => Service.missing method) write params t =
          (.error (.invalidParams detail), t) := by
  cases params with
  | none => exact .inr ⟨by simp, _, rfl⟩
  | some j =>
    simp only [withParams, paramsOf]
    cases hread : read j with
    | ok a => exact .inl ⟨⟨j, a, rfl, hread⟩, rfl⟩
    | error mismatch => exact .inr ⟨by simp [hread], _, rfl⟩

end Rpc

namespace Server

open Rpc

variable {σ : Type}

/-- A server whose code mode is disabled has none. -/
lemma make?_of_disabled {config : Config.Server}
    (hdisabled : config.codeMode.enabled = false) (registry : Registry) (executor : Executor σ) :
    make? config registry executor = .ok ⟨config, registry, executor, none⟩ := by
  rw [make?, surfaceOf, hdisabled]
  rfl

/-- Without a code mode, a method of the code mode has no outcome. -/
lemma outcome_of_surface_eq_none {server : Server σ} (hnone : server.surface = none) {r : Request}
    (hmethod : r.method ∈ Handler.codeMethods) (t : State σ) :
    r.FitsCodeMode ∧ server.handler.outcome r.method r.params t =
        (.error (.methodNotFound r.method), t) ∨
      ¬ r.FitsCodeMode ∧ ∃ detail, server.handler.outcome r.method r.params t =
        (.error (.invalidParams detail), t) := by
  obtain ⟨version, id, method, params⟩ := r
  have hhelp : server.codeHelp = fun _ => Service.missing "codemode/help" := by
    funext q s
    rw [codeHelp, hnone]
  have hcall : server.codeCall = fun _ => Service.missing "codemode/call" := by
    funext c s
    rw [codeCall, hnone]
  simp only [Handler.codeMethods, List.mem_cons, List.not_mem_nil, or_false] at hmethod
  rcases hmethod with rfl | rfl
  · have hfits : Request.FitsCodeMode ⟨version, id, "codemode/help", params⟩ ↔
        ∃ j q, some (Handler.helpParams params) = some j ∧ HelpQuery.read j = .ok q := by
      rw [Request.FitsCodeMode, if_pos rfl, ← HelpQuery.exists_read_iff]
      simp
    change _ ∧ Handler.withParams HelpQuery.read server.codeHelp _ _ t = _ ∨
      _ ∧ ∃ detail, Handler.withParams HelpQuery.read server.codeHelp _ _ t = _
    rw [hfits, hhelp]
    exact Handler.withParams_missing _ _ _ _ t
  · have hfits : Request.FitsCodeMode ⟨version, id, "codemode/call", params⟩ ↔
        ∃ j c, params = some j ∧ CodeCall.read j = .ok c := by
      have hne : "codemode/call" ≠ "codemode/help" := by decide
      rw [Request.FitsCodeMode, if_neg hne]
      simp [← CodeCall.exists_read_iff]
    change _ ∧ Handler.withParams CodeCall.read server.codeCall _ _ t = _ ∨
      _ ∧ ∃ detail, Handler.withParams CodeCall.read server.codeCall _ _ t = _
    rw [hfits, hcall]
    exact Handler.withParams_missing _ _ _ _ t

/-- Without a code mode, a request for a method of the code mode asks for no call of a tool. -/
lemma job?_of_surface_eq_none {server : Server σ} (hnone : server.surface = none) {r : Request}
    (hmethod : r.method ∈ Handler.codeMethods) : server.job? r = none := by
  have hcode : server.codeJob? = fun _ => none := by
    funext c
    rw [codeJob?, hnone]
    rfl
  have hne : r.method ≠ "tools/call" := by
    rintro heq
    rw [heq] at hmethod
    exact absurd hmethod (by decide)
  rw [job?, if_neg hne, hcode]
  simp

/-- A method of the code mode takes no session further. -/
lemma advance_of_mem_codeMethods {method : String} (hmethod : method ∈ Handler.codeMethods)
    (l : Lifecycle) : l.advance method = l := by
  simp only [Handler.codeMethods, List.mem_cons, List.not_mem_nil, or_false] at hmethod
  rcases hmethod with rfl | rfl <;> cases l <;> rfl

/-- **Servers without a code mode.** Take a configuration that disables the code mode, with any
tools and any executor. There is a server of it. A request for a method of the code mode, at any
time when the session serves it, asks for no call of a tool and changes nothing: not how far the
session is, not the count of contexts, not the executor and not who the client is. It is answered
with an error if it has an id. The error is -32601 exactly if the parameters are ones that the
method can read, and it is -32602 otherwise.

**Proof sketch.** The handler reads the parameters first and then finds no code mode
(`outcome_of_surface_eq_none`). -/
theorem react_of_codeMode_disabled {config : Config.Server}
    (hdisabled : config.codeMode.enabled = false) (registry : Registry) (executor : Executor σ) :
    ∃ server, make? config registry executor = .ok server ∧
      ∀ (s : Session (State σ)) (r : Request), r.method ∈ Handler.codeMethods →
        s.lifecycle.admits r.method = true →
        ∃ error : RpcError,
          s.react server.handler (.request r) =
            (r.id.map fun id => .failure (some id) error, s) ∧
          server.job? r = none ∧
          (r.FitsCodeMode ∧ error = ⟨-32601, "Method not found: " ++ r.method, none⟩ ∨
            ¬ r.FitsCodeMode ∧ ∃ detail, error = ⟨-32602, "Invalid params: " ++ detail, none⟩) := by
  refine ⟨_, make?_of_disabled hdisabled registry executor, ?_⟩
  intro s r hmethod hadmits
  let server : Server σ := ⟨config, registry, executor, none⟩
  have hreact : ∀ e : ProtocolError, server.handler.outcome r.method r.params s.state =
      (.error e, s.state) → s.react server.handler (.request r) =
        (r.id.map fun id => .failure (some id) (.ofProtocol e), s) := by
    intro e he
    simp only [Session.react, Session.serve, if_pos hadmits, Handler.dispatch, he,
      advance_of_mem_codeMethods hmethod, Request.isNotification]
    cases r.id <;> rfl
  have hjob : server.job? r = none := job?_of_surface_eq_none rfl hmethod
  have houtcomes := outcome_of_surface_eq_none (show server.surface = none from rfl) hmethod s.state
  rcases houtcomes with ⟨hfits, houtcome⟩ | ⟨hfits, detail, houtcome⟩
  · exact ⟨_, hreact _ houtcome, hjob, .inl ⟨hfits, rfl⟩⟩
  · exact ⟨_, hreact _ houtcome, hjob, .inr ⟨hfits, detail, rfl⟩⟩

/-- A call in code with parameters of a call, for a tool that there would be. -/
def callRequest : Request :=
  ⟨rpcVersion, some (.number 1), "codemode/call", some (.obj [("path", .str "core.listTables")])⟩

/-- A call in code without parameters. -/
def bareCallRequest : Request :=
  ⟨rpcVersion, some (.number 1), "codemode/call", none⟩

/-- The configuration that disables the code mode and is the standard one otherwise. -/
def withoutCodeMode : Config.Server :=
  { codeMode := { enabled := false } }

/-- A running server of the catalog without a code mode answers a call in code of a method that it
would have with the error for methods that there are not. -/
theorem react_of_codeMode_disabled_of_callRequest :
    withoutCodeMode.codeMode.enabled = false ∧
    ∃ server, make? withoutCodeMode Catalog.standard Executor.recording = .ok server ∧
      callRequest.method ∈ Handler.codeMethods ∧
      Lifecycle.running.admits callRequest.method = true ∧
      (⟨.running, .fresh {}⟩ : Session (State Recorder)).react server.handler
          (.request callRequest) =
        (some (.failure (some (.number 1)) ⟨-32601, "Method not found: codemode/call", none⟩),
          ⟨.running, .fresh {}⟩) := by
  have hdisabled : withoutCodeMode.codeMode.enabled = false := rfl
  obtain ⟨server, hmake, hreact⟩ :=
    react_of_codeMode_disabled hdisabled Catalog.standard Executor.recording
  refine ⟨rfl, server, hmake, by decide, rfl, ?_⟩
  obtain ⟨error, hanswer, -, hcode⟩ :=
    hreact ⟨.running, .fresh {}⟩ callRequest (by decide) rfl
  have hfits : callRequest.FitsCodeMode :=
    ⟨_, rfl, ⟨"core.listTables", rfl⟩, .inl rfl⟩
  rcases hcode with ⟨-, rfl⟩ | ⟨hnot, -⟩
  · exact hanswer
  · exact absurd hfits hnot

/-- A running server of the catalog without a code mode answers a call in code without parameters
with the error for wrong parameters, and not with the one for methods that there are not. -/
theorem react_of_bareCallRequest :
    ∃ server, make? withoutCodeMode Catalog.standard Executor.recording = .ok server ∧
      (⟨.running, .fresh {}⟩ : Session (State Recorder)).react server.handler
          (.request bareCallRequest) =
        (some (.failure (some (.number 1)) ⟨-32602, "Invalid params: Missing params", none⟩),
          ⟨.running, .fresh {}⟩) :=
  ⟨_, make?_of_disabled rfl Catalog.standard Executor.recording, rfl⟩

end Server

end PgGateway
