import PgGateway.Proofs.Executor.Observed
import PgGateway.Proofs.Server.Calls
import PgGateway.Proofs.Server.Handshake

set_option autoImplicit false

/-!
# What happens in a session

Beside its answer, a request may bring about one call of a tool: a context is handed out, the tool
is executed if there is one, and the tool may call the executor. That is all that a session does to
the numbers of a server and to its executor.

## Main definitions

* `PgGateway.Server.Job` — a call of a tool; `Server.job?` is the one that a request asks for.
* `PgGateway.Server.calledWith` — what such a call comes to with a context.
* `PgGateway.Server.Event` — what happens in a call of a tool.
* `PgGateway.Server.eventsOn`, `PgGateway.Server.trace` — what happens on a line, and in a run.

## Main results

* `PgGateway.Server.dispatch_of_job` — a request that asks for a call makes it with the next context
  of the desk.
* `PgGateway.Server.desk_dispatch` — a request does to the desk what the call that it asks for does.
* `PgGateway.Server.desk_step` — so does a line.
* `PgGateway.Server.trace_append` — what happens on two inputs.
* `PgGateway.Server.issued_reached` — every context that is handed out is an event.
* `PgGateway.Server.log_reached` — every call to the executor is an event.
-/

namespace PgGateway.Server

open Rpc

/-! ## Calls of tools -/

/-- A call of a tool. -/
structure Job where
  /-- The surface through which the tool is called. -/
  origin : Origin
  /-- The name by which it is called. -/
  name : String
  /-- The tool, if there is one of that name. -/
  tool : Option Tool
  /-- The arguments. -/
  given : Json

/-- Something that happens in a session beside the answers. -/
inductive Event where
  /-- A context is handed out. -/
  | context (c : Context)
  /-- A tool is executed. -/
  | execution (t : Tool) (c : Context) (given : Json)
  /-- A call is made to the executor. -/
  | call (c : Call)

namespace Event

/-- Whether a context is handed out. -/
def isContext : Event → Bool
  | .context _ => true
  | _ => false

/-- The call that is made to the executor. -/
def call? : Event → Option Call
  | .call c => some c
  | _ => none

end Event

namespace Job

/-- What is done in a call of a tool. -/
def act (j : Job) (c : Context) : Action :=
  match j.tool with
  | some t => t.act c j.given
  | none => .fail (.tool (.notFound j.name))

/-- What happens in a call of a tool with a context. -/
def events (j : Job) (c : Context) : List Event :=
  .context c ::
    match j.tool with
    | some t => .execution t c j.given :: (t.calls c j.given).map .call
    | none => []

/-- In a call of a tool one context is handed out. -/
lemma countP_events (j : Job) (c : Context) : (j.events c).countP Event.isContext = 1 := by
  rw [events, List.countP_cons_of_pos rfl]
  cases j.tool <;> simp [Event.isContext, List.countP_map, Function.comp_def]

/-- The calls to the executor are those of what is done. -/
lemma filterMap_events (j : Job) (c : Context) :
    (j.events c).filterMap Event.call? = (j.act c).calls c.timeout := by
  have hcalls : ∀ calls : List Call, (calls.map Event.call).filterMap Event.call? = calls := by
    intro calls
    rw [List.filterMap_map]
    exact List.filterMap_some
  rw [events, act, List.filterMap_cons_none rfl]
  cases j.tool with
  | none => rfl
  | some t => exact (List.filterMap_cons_none rfl).trans (hcalls _)

end Job

variable {σ : Type} (server : Server σ)

/-- The call of a tool that is made by the name of the tool. -/
def toolJob (c : ToolCall) : Job :=
  ⟨.protocol, c.name, server.registry.get? c.name, c.arguments⟩

/-- The call of a tool that is made in code, if the path means a method. -/
def codeJob? (c : CodeCall) : Option Job :=
  server.surface.bind fun surface =>
    match surface.target c.path with
    | .ok (.method m) => some ⟨.codeMode, m.name, some m.tool, surface.parameters m c.arguments⟩
    | _ => none

/-- The call of a tool that a request asks for. -/
def job? (r : Request) : Option Job :=
  if r.method = "tools/call" then
    (Handler.paramsOf ToolCall.read r.params).toOption.map server.toolJob
  else if r.method = "codemode/call" then
    (Handler.paramsOf CodeCall.read r.params).toOption.bind server.codeJob?
  else none

/-- The desk after a call of a tool, or as it is without one. -/
def deskAfter (d : Desk σ) : Option Job → Desk σ
  | some j => (d.serve server.executor server.timeout j.origin j.act).2
  | none => d

/-- The state after a method with parameters is that after the service, if they can be read. -/
lemma snd_withParams {α β : Type} {read : Shape.Reader α} {service : α → Service (State σ) β}
    {write : β → Json} (params : Option Json) (t : State σ) :
    (Handler.withParams read service write params t).2 =
      match (Handler.paramsOf read params).toOption with
      | some a => (service a t).2
      | none => t := by
  rw [Handler.withParams]
  cases Handler.paramsOf read params with
  | error e => rfl
  | ok a => exact written_snd write (service a t)

/-- What the call of a tool comes to with a context: the answer reports what is done with this
context, and the desk counts as far as its number. -/
def calledWith (j : Job) (c : Context) (t : State σ) : ToolAnswer × State σ :=
  let (outcome, executor) := (j.act c).run server.executor server.timeout t.desk.executor
  (.ofOutcome outcome, { t with desk := ⟨c.requestId, executor⟩ })

/-- A call by name comes to what the call of the tool does with the next context. -/
lemma callTool_eq (c : ToolCall) (t : State σ) :
    server.callTool c t = (server.calledWith (server.toolJob c)
      (t.desk.nextContext .protocol server.timeout) t).map .ok id := by
  have hact : (server.toolJob c).act =
      fun context => server.registry.act c.name context c.arguments := by
    funext context
    cases hget : server.registry.get? c.name <;> simp [Job.act, toolJob, Registry.act, hget]
  rw [calledWith, hact]
  rfl

/-- A call in code whose path means a method comes to what the call of the method does with the next
context. -/
lemma codeCall_of_job {c : CodeCall} {j : Job} (hjob : server.codeJob? c = some j) (t : State σ) :
    server.codeCall c t =
      (server.calledWith j (t.desk.nextContext j.origin server.timeout) t).map .ok id := by
  rw [codeJob?] at hjob
  rw [codeCall]
  cases hsurface : server.surface with
  | none =>
    rw [hsurface] at hjob
    cases hjob
  | some surface =>
    rw [hsurface, Option.bind_some] at hjob
    simp only [Sandbox.Surface.invoke]
    cases htarget : surface.target c.path with
    | error e =>
      rw [htarget] at hjob
      cases hjob
    | ok target =>
      rw [htarget] at hjob
      cases target <;> cases hjob
      rfl

/-- A call in code whose path means no method leaves the desk as it is. -/
lemma desk_codeCall_of_no_job {c : CodeCall} (hjob : server.codeJob? c = none) (t : State σ) :
    (server.codeCall c t).2.desk = t.desk := by
  rw [codeJob?] at hjob
  rw [codeCall]
  cases hsurface : server.surface with
  | none => rfl
  | some surface =>
    rw [hsurface, Option.bind_some] at hjob
    simp only [Sandbox.Surface.invoke]
    cases htarget : surface.target c.path with
    | error e => rfl
    | ok target =>
      rw [htarget] at hjob
      cases target <;> cases hjob
      rfl

/-- Help does nothing to the state. -/
lemma state_codeHelp (q : HelpQuery) (t : State σ) : (server.codeHelp q t).2 = t := by
  unfold codeHelp
  split <;> rfl

/-- Methods other than the greeting and the calls of tools do nothing to the state. -/
lemma state_outcome_of_ne {method : String} (hgreeting : method ≠ "initialize")
    (htool : method ≠ "tools/call") (hcode : method ≠ "codemode/call") (params : Option Json)
    (t : State σ) : (server.handler.outcome method params t).2 = t := by
  unfold Handler.outcome
  split
  case h_1 => exact absurd rfl hgreeting
  case h_6 => exact absurd rfl htool
  case h_8 => exact absurd rfl hcode
  case h_7 =>
    rw [snd_withParams]
    cases (Handler.paramsOf HelpQuery.read (some (Handler.helpParams params))).toOption with
    | none => rfl
    | some q => exact server.state_codeHelp q t
  all_goals rfl

/-- What can be read of the parameters of a method is what its service gets. -/
lemma paramsOf_eq_ok {α : Type} {read : Shape.Reader α} {params : Option Json} {a : α}
    (h : (Handler.paramsOf read params).toOption = some a) :
    Handler.paramsOf read params = .ok a := by
  cases hparams : Handler.paramsOf read params with
  | error e =>
    rw [hparams] at h
    cases h
  | ok b =>
    rw [hparams] at h
    exact congrArg _ (Option.some.inj h)

/-- **Requests that call a tool.** They make the call that they ask for, with the next context of
the desk, and are answered with its outcome.

**Proof sketch.** By the method. A call by name and a call in code come to what the calls of their
tools do (`callTool_eq`, `codeCall_of_job`) if their parameters can be read. No other request asks
for a call. -/
theorem dispatch_of_job {r : Request} {j : Job} (hjob : server.job? r = some j) (t : State σ) :
    server.handler.dispatch r t =
      responded r.id (server.calledWith j (t.desk.nextContext j.origin server.timeout) t) := by
  have houtcome : server.handler.outcome r.method r.params t =
      Handler.written ToolAnswer.toJson
        ((server.calledWith j (t.desk.nextContext j.origin server.timeout) t).map .ok id) := by
    rw [job?] at hjob
    split at hjob
    · next htool =>
      obtain ⟨c, hc, rfl⟩ := Option.map_eq_some_iff.mp hjob
      rw [htool]
      change Handler.withParams ToolCall.read server.callTool ToolAnswer.toJson r.params t = _
      rw [Handler.withParams, paramsOf_eq_ok hc]
      exact congrArg (Handler.written ToolAnswer.toJson) (server.callTool_eq c t)
    · split at hjob
      · next hcode =>
        obtain ⟨c, hc, hjob⟩ := Option.bind_eq_some_iff.mp hjob
        rw [hcode]
        change Handler.withParams CodeCall.read server.codeCall ToolAnswer.toJson r.params t = _
        rw [Handler.withParams, paramsOf_eq_ok hc]
        exact congrArg (Handler.written ToolAnswer.toJson) (server.codeCall_of_job hjob t)
      · cases hjob
  rw [Handler.dispatch, houtcome]
  rfl

/-- Requests that call no tool leave the desk as it is. -/
lemma desk_dispatch_of_no_job {r : Request} (hjob : server.job? r = none) (t : State σ) :
    (server.handler.dispatch r t).2.desk = t.desk := by
  change (server.handler.outcome r.method r.params t).2.desk = _
  rw [job?] at hjob
  -- Once the method is known, the handler says which service serves it.
  by_cases htool : r.method = "tools/call"
  · rw [if_pos htool, Option.map_eq_none_iff] at hjob
    rw [htool]
    change (Handler.withParams ToolCall.read server.callTool ToolAnswer.toJson r.params t).2.desk =
      _
    rw [snd_withParams, hjob]
  · rw [if_neg htool] at hjob
    by_cases hcode : r.method = "codemode/call"
    · rw [if_pos hcode] at hjob
      rw [hcode]
      change
        (Handler.withParams CodeCall.read server.codeCall ToolAnswer.toJson r.params t).2.desk = _
      rw [snd_withParams]
      cases hparams : (Handler.paramsOf CodeCall.read r.params).toOption with
      | none => rfl
      | some c =>
        rw [hparams, Option.bind_some] at hjob
        exact server.desk_codeCall_of_no_job hjob t
    · by_cases hgreeting : r.method = "initialize"
      · rw [hgreeting, outcome_initialize]
        cases Handler.paramsOf Greeting.read r.params <;> rfl
      · rw [server.state_outcome_of_ne hgreeting htool hcode]

/-- **What a request does.** It does to the desk what the call of a tool does that it asks for, and
nothing if it asks for none. -/
theorem desk_dispatch (r : Request) (t : State σ) :
    (server.handler.dispatch r t).2.desk = server.deskAfter t.desk (server.job? r) := by
  cases hjob : server.job? r with
  | some j =>
    rw [server.dispatch_of_job hjob]
    rfl
  | none => exact server.desk_dispatch_of_no_job hjob t

/-! ## What happens on a line -/

/-- The call of a tool that a line brings about: that of a request which the session serves. -/
def jobOn? (s : Session (State σ)) (line : String) : Option Job :=
  match Incoming.ofLine line with
  | .request r => if s.lifecycle.admits r.method then server.job? r else none
  | _ => none

/-- What happens on a line, in order. -/
def eventsOn (s : Session (State σ)) (line : String) : List Event :=
  match server.jobOn? s line with
  | some j => j.events (s.state.desk.nextContext j.origin server.timeout)
  | none => []

/-- **What a line does.** It does to the desk what the call of a tool does that it brings about, and
nothing if it brings about none. -/
theorem desk_step (s : Session (State σ)) (line : String) :
    (s.step server.handler line).2.state.desk =
      server.deskAfter s.state.desk (server.jobOn? s line) := by
  rw [Session.step, jobOn?]
  cases Incoming.ofLine line with
  | blank | response | malformed => rfl
  | request r =>
    simp only [Session.react, Session.serve]
    split
    · exact server.desk_dispatch r s.state
    · rfl

/-- A line on which nothing happens leaves the desk as it is. -/
lemma desk_step_of_eventsOn_eq_nil {s : Session (State σ)} {line : String}
    (hnothing : server.eventsOn s line = []) :
    (s.step server.handler line).2.state.desk = s.state.desk := by
  rw [desk_step]
  rw [eventsOn] at hnothing
  cases hjob : server.jobOn? s line with
  | none => rfl
  | some j =>
    rw [hjob] at hnothing
    cases hnothing

/-- The contexts handed out on a line are counted by the desk. -/
lemma issued_step (s : Session (State σ)) (line : String) :
    (s.step server.handler line).2.state.desk.issued =
      s.state.desk.issued + (server.eventsOn s line).countP Event.isContext := by
  rw [desk_step, eventsOn]
  cases server.jobOn? s line with
  | none => rfl
  | some j => simp [deskAfter, Desk.serve, Desk.nextContext, j.countP_events]

/-- The calls made on a line are those that the executor logs. -/
lemma log_step {log : σ → List Call} (hlog : server.executor.Logs log) (s : Session (State σ))
    (line : String) :
    log (s.step server.handler line).2.state.desk.executor =
      log s.state.desk.executor ++ (server.eventsOn s line).filterMap Event.call? := by
  rw [desk_step, eventsOn]
  cases server.jobOn? s line with
  | none => exact (List.append_nil _).symm
  | some j =>
    rw [Job.filterMap_events]
    exact hlog _ _ _

/-! ## What happens in a run -/

/-- What happens on the lines that a session takes, in order. -/
def trace (s : Session (State σ)) : List String → List Event
  | [] => []
  | line :: rest =>
    if s.isOver then [] else server.eventsOn s line ++ trace (s.step server.handler line).2 rest

/-- Nothing happens in a session that is over. -/
lemma trace_of_isOver {s : Session (State σ)} (hover : s.isOver = true) (lines : List String) :
    server.trace s lines = [] := by
  cases lines <;> simp [trace, hover]

/-- What happens on two inputs is what happens on the first and then on the second. -/
theorem trace_append (s : Session (State σ)) (before after : List String) :
    server.trace s (before ++ after) =
      server.trace s before ++ server.trace (s.reached server.handler before) after := by
  induction before generalizing s with
  | nil => rfl
  | cons line rest ih =>
    by_cases hover : s.isOver = true
    · simp [trace, Session.reached, hover, server.trace_of_isOver hover]
    · simp [trace, Session.reached, hover, ih]

/-- Every event of a run happens on some line, in the session that has taken those before. -/
theorem exists_mem_eventsOn_of_mem_trace {s : Session (State σ)} {lines : List String} {e : Event}
    (he : e ∈ server.trace s lines) : ∃ before line after, lines = before ++ line :: after ∧
      e ∈ server.eventsOn (s.reached server.handler before) line := by
  induction lines generalizing s with
  | nil => cases he
  | cons line rest ih =>
    rw [trace] at he
    split at he
    · cases he
    · next hover =>
      rcases List.mem_append.mp he with hfirst | hrest
      · exact ⟨[], line, rest, rfl, hfirst⟩
      · obtain ⟨before, other, after, rfl, hother⟩ := ih hrest
        exact ⟨line :: before, other, after, rfl, by rwa [Session.reached, if_neg hover]⟩

/-- **Every context is an event.** The desk has counted the contexts that were handed out in a
run. -/
theorem issued_reached (s : Session (State σ)) (lines : List String) :
    (s.reached server.handler lines).state.desk.issued =
      s.state.desk.issued + (server.trace s lines).countP Event.isContext := by
  induction lines generalizing s with
  | nil => rfl
  | cons line rest ih =>
    rw [Session.reached, trace]
    split
    · rfl
    · rw [ih, issued_step, List.countP_append, Nat.add_assoc]

/-- **Every call is an event.** An executor that logs its calls has logged those made in a run. -/
theorem log_reached {log : σ → List Call} (hlog : server.executor.Logs log)
    (s : Session (State σ)) (lines : List String) :
    log (s.reached server.handler lines).state.desk.executor =
      log s.state.desk.executor ++ (server.trace s lines).filterMap Event.call? := by
  induction lines generalizing s with
  | nil => exact (List.append_nil _).symm
  | cons line rest ih =>
    rw [Session.reached, trace]
    split
    · exact (List.append_nil _).symm
    · rw [ih, server.log_step hlog, List.filterMap_append, List.append_assoc]

end PgGateway.Server
