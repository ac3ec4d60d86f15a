import PgGateway.Proofs.Outcome
import PgGateway.Proofs.Server.Event
import PgGateway.Tool.Echo
import Mathlib.Algebra.Group.Nat.Defs

set_option autoImplicit false

/-!
# The numbers of calls

A server counts the contexts that it hands out, and a context carries its place in this count. Both
surfaces share the count, and a tool is called with the context that was handed out for it. A
request takes part in it exactly if the session serves it and it is a call by name whose parameters
can be read, whatever tool it names, or a call in code whose parameters can be read and whose path
means a method. Requests that are refused, other methods, parameters that cannot be read, paths that
ask for help and paths that mean nothing leave the count alone.

## Main definitions

* `PgGateway.Rpc.Session.served` — the requests that a session serves, in order.
* `PgGateway.Server.callsTool`, `PgGateway.Server.callsMethod` — the requests that are counted.
* `PgGateway.Server.origin?` — the surface of a request that is counted.
* `PgGateway.Server.stepWith` — what a session does on a line whose request calls a tool with a
  context.

## Main results

* `PgGateway.Server.filterMap_context?_eventsOn` — the context that is handed out on a line.
* `PgGateway.Server.step_of_job` — a tool is called with this context.
* `PgGateway.Server.contexts_trace` — the numbers and the surfaces of the contexts of a run.
* `PgGateway.Server.run_counted` — the count in the end is the number of such requests.
-/

namespace PgGateway

namespace Rpc

/-- Whether a line holds a request. -/
def Incoming.isRequest (i : Incoming) : Bool :=
  i.method?.isSome

namespace Session

variable {τ : Type} (h : Handler τ)

/-- The request that a line holds, if a session serves it. -/
def servedOn? (s : Session τ) (line : String) : Option Request :=
  match Incoming.ofLine line with
  | .request r => if s.lifecycle.admits r.method then some r else none
  | _ => none

/-- The requests that a session serves on some lines, in order. -/
def served (s : Session τ) : List String → List Request
  | [] => []
  | line :: rest =>
    if s.isOver then [] else (s.servedOn? line).toList ++ served (s.step h line).2 rest

/-- Only a line that holds a request brings one to be served. -/
lemma length_servedOn?_le (s : Session τ) (line : String) :
    (s.servedOn? line).toList.length ≤ [line].countP fun l => (Incoming.ofLine l).isRequest := by
  rw [servedOn?, List.countP_singleton]
  cases Incoming.ofLine line with
  | blank | response | malformed => exact Nat.zero_le _
  | request r =>
    dsimp only [Incoming.isRequest, Incoming.method?]
    split <;> simp

/-- A session serves at most the requests that the lines hold. -/
lemma length_served_le (s : Session τ) (lines : List String) :
    (s.served h lines).length ≤ lines.countP fun l => (Incoming.ofLine l).isRequest := by
  induction lines generalizing s with
  | nil => exact Nat.le_refl 0
  | cons line rest ih =>
    rw [served]
    split
    · exact Nat.zero_le _
    · rw [List.length_append, ← List.singleton_append, List.countP_append]
      exact Nat.add_le_add (s.length_servedOn?_le line) (ih _)

end Session

end Rpc

/-- Whether a path means a method, and not help or nothing. -/
def Sandbox.Surface.meansMethod (s : Sandbox.Surface) (path : String) : Bool :=
  match s.target path with
  | .ok (.method _) => true
  | _ => false

namespace Server

open Rpc

variable {σ : Type} (server : Server σ)

/-- The context that is handed out, if that is what happens. -/
def Event.context? : Event → Option Context
  | .context c => some c
  | _ => none

/-! ## The requests that are counted -/

/-- Whether a request is a call by name whose parameters can be read, whatever tool it names. -/
def callsTool (r : Request) : Bool :=
  r.method == "tools/call" && (Handler.paramsOf ToolCall.read r.params).toOption.isSome

/-- Whether a request is a call in code, on a server that has a code mode, whose parameters can be
read and whose path means a method. -/
def callsMethod (r : Request) : Bool :=
  r.method == "codemode/call" &&
    (Handler.paramsOf CodeCall.read r.params).toOption.any fun c =>
      server.surface.any fun surface => surface.meansMethod c.path

/-- The surface through which a request calls a tool, if it does. -/
def origin? (r : Request) : Option Origin :=
  if callsTool r then some .protocol
  else if server.callsMethod r then some .codeMode
  else none

/-- A request is not counted on both surfaces. -/
lemma callsMethod_of_callsTool {r : Request} (htool : callsTool r = true) :
    server.callsMethod r = false := by
  have hmethod : r.method = "tools/call" := by
    rw [callsTool, Bool.and_eq_true, beq_iff_eq] at htool
    exact htool.1
  simp [callsMethod, hmethod]

/-- A call in code is made exactly if the path means a method. -/
lemma map_origin_codeJob? (c : CodeCall) :
    (server.codeJob? c).map Job.origin =
      if server.surface.any (fun surface => surface.meansMethod c.path) then some .codeMode
      else none := by
  rw [codeJob?]
  cases server.surface with
  | none => rfl
  | some surface =>
    rw [Option.bind_some, Option.any_some, Sandbox.Surface.meansMethod]
    cases surface.target c.path with
    | error e => rfl
    | ok target => cases target <;> rfl

/-- A request asks for a call of a tool exactly if it is counted, and on the same surface. -/
lemma map_origin_job? (r : Request) : (server.job? r).map Job.origin = server.origin? r := by
  rw [job?, origin?, callsTool, callsMethod]
  by_cases htool : r.method = "tools/call"
  · cases (Handler.paramsOf ToolCall.read r.params).toOption <;> simp [htool, toolJob]
  · by_cases hcode : r.method = "codemode/call"
    · cases (Handler.paramsOf CodeCall.read r.params).toOption <;>
        simp [hcode, map_origin_codeJob?]
    · simp [htool, hcode]

/-- The requests that are counted are the calls by name and the calls in code. -/
lemma length_filterMap_origin? (requests : List Request) :
    (requests.filterMap server.origin?).length =
      requests.countP callsTool + requests.countP server.callsMethod := by
  induction requests with
  | nil => rfl
  | cons r rest ih =>
    rw [List.filterMap_cons, List.countP_cons, List.countP_cons, origin?]
    cases htool : callsTool r with
    | true =>
      simp [server.callsMethod_of_callsTool htool, ih]
      omega
    | false =>
      cases server.callsMethod r <;> simp [ih]
      omega

/-- A server has a code mode exactly if its configuration says so. -/
lemma isSome_surface_of_make? {config : Config.Server} {registry : Registry}
    {executor : Executor σ} {server : Server σ}
    (hmake : make? config registry executor = .ok server) :
    server.surface.isSome = config.codeMode.enabled := by
  obtain ⟨surface, hsurface, hserver⟩ := exists_of_bind_eq_ok hmake
  cases hserver
  rw [surfaceOf] at hsurface
  split at hsurface
  · next henabled =>
    rw [henabled]
    cases hbuilt : Sandbox.Surface.ofTools config.codeMode.strict Sandbox.Alias.standard
        Sandbox.Convention.standard registry.tools with
    | error e => simp [hbuilt, Except.map] at hsurface
    | ok s =>
      rw [hbuilt] at hsurface
      cases hsurface
      rfl
  · next hdisabled =>
    cases hsurface
    simpa using hdisabled

/-- Without a code mode no request is a call in code. -/
lemma countP_callsMethod_of_make? {config : Config.Server} {registry : Registry}
    {executor : Executor σ} {server : Server σ}
    (hmake : make? config registry executor = .ok server) (requests : List Request) :
    requests.countP server.callsMethod =
      if config.codeMode.enabled then requests.countP server.callsMethod else 0 := by
  split
  · rfl
  · next hdisabled =>
    have hnone : server.surface = none := by
      rw [← Option.not_isSome_iff_eq_none, isSome_surface_of_make? hmake]
      exact hdisabled
    exact List.countP_eq_zero.mpr fun r _ => by simp [callsMethod, hnone]

/-! ## The contexts that are handed out -/

/-- The call of a tool on a line is the one that the request asks for which is served there. -/
lemma jobOn?_eq (s : Session (State σ)) (line : String) :
    server.jobOn? s line = (s.servedOn? line).bind server.job? := by
  rw [jobOn?, Session.servedOn?]
  cases Incoming.ofLine line with
  | blank | response | malformed => rfl
  | request r =>
    dsimp only
    split <;> rfl

/-- In a call of a tool one context is handed out, the one with which the tool is called. -/
lemma Job.filterMap_context? (j : Job) (c : Context) :
    (j.events c).filterMap Event.context? = [c] := by
  have hcalls : ∀ calls : List Call, (calls.map Event.call).filterMap Event.context? = [] := by
    intro calls
    rw [List.filterMap_map]
    exact List.filterMap_eq_nil_iff.mpr fun _ _ => rfl
  rw [events, List.filterMap_cons]
  cases j.tool with
  | none => rfl
  | some t => exact congrArg _ ((List.filterMap_cons_none rfl).trans (hcalls _))

/-- **The context of a line.** One is handed out exactly if a request is served that is counted. It
has the next number and the surface of the request. -/
theorem filterMap_context?_eventsOn (s : Session (State σ)) (line : String) :
    (server.eventsOn s line).filterMap Event.context? =
      ((s.servedOn? line).bind server.origin?).toList.map fun origin =>
        s.state.desk.nextContext origin server.timeout := by
  rw [eventsOn, jobOn?_eq]
  cases s.servedOn? line with
  | none => rfl
  | some r =>
    rw [Option.bind_some, Option.bind_some, ← map_origin_job?]
    cases server.job? r with
    | none => rfl
    | some j => exact j.filterMap_context? _

/-- A line on which no request is counted leaves the count and the executor as they are. -/
lemma desk_step_of_origin?_eq_none {s : Session (State σ)} {line : String}
    (hnot : (s.servedOn? line).bind server.origin? = none) :
    (s.step server.handler line).2.state.desk = s.state.desk := by
  have hcontexts := server.filterMap_context?_eventsOn s line
  rw [hnot] at hcontexts
  refine server.desk_step_of_eventsOn_eq_nil ?_
  -- A call of a tool starts with a context, so without one nothing happens at all.
  rw [eventsOn] at hcontexts ⊢
  split at hcontexts
  · cases hcontexts
  · rfl

/-- What a session does on a line whose request calls a tool with a context: it answers what the
call comes to, unless nobody waits for that, and goes on from the state after the call. -/
def stepWith (s : Session (State σ)) (r : Request) (j : Job) (c : Context) :
    Option Response × Session (State σ) :=
  let (response, state) := responded r.id (server.calledWith j c s.state)
  (if r.isNotification then none else some response, ⟨s.lifecycle.advance r.method, state⟩)

/-- **The context of a call.** A tool that is called on a line is called with the next context of
the desk. -/
theorem step_of_job {s : Session (State σ)} {line : String} {r : Request} {j : Job}
    (hserved : s.servedOn? line = some r) (hjob : server.job? r = some j) :
    s.step server.handler line =
      server.stepWith s r j (s.state.desk.nextContext j.origin server.timeout) := by
  rw [Session.servedOn?] at hserved
  rw [Session.step]
  cases hline : Incoming.ofLine line with
  | blank | response | malformed =>
    rw [hline] at hserved
    cases hserved
  | request r' =>
    simp only [hline, Option.ite_none_right_eq_some, Option.some.injEq] at hserved
    obtain ⟨hadmits, rfl⟩ := hserved
    rw [Session.react, Session.serve, if_pos hadmits, server.dispatch_of_job hjob]
    rfl

/-- The contexts of some events are counted by the number of these. -/
lemma length_filterMap_context? (events : List Event) :
    (events.filterMap Event.context?).length = events.countP Event.isContext := by
  rw [List.length_filterMap_eq_countP]
  refine List.countP_congr fun e _ => ?_
  cases e <;> simp [Event.context?, Event.isContext]

/-- **The contexts of a run.** Their numbers follow on the count at the beginning without a gap, and
their surfaces are those of the requests that are counted among the ones served, in order.

**Proof sketch.** Induction on the lines, from any session. A line on which a context is handed out
gives it the next number and moves the count on by one (`issued_step`); any other leaves the
count. -/
theorem contexts_trace (s : Session (State σ)) (lines : List String) :
    ((server.trace s lines).filterMap Event.context?).map Context.requestId =
        List.range' (s.state.desk.issued + 1)
          ((server.trace s lines).filterMap Event.context?).length ∧
      ((server.trace s lines).filterMap Event.context?).map Context.origin =
        (s.served server.handler lines).filterMap server.origin? := by
  induction lines generalizing s with
  | nil => exact ⟨rfl, rfl⟩
  | cons line rest ih =>
    rw [trace, Session.served]
    split
    · exact ⟨rfl, rfl⟩
    · obtain ⟨hnumbers, horigins⟩ := ih (s.step server.handler line).2
      have hline := server.filterMap_context?_eventsOn s line
      rw [issued_step, ← length_filterMap_context?] at hnumbers
      rw [List.filterMap_append, List.filterMap_append, List.map_append, List.map_append, hnumbers,
        horigins, hline, List.length_append]
      cases hserved : s.servedOn? line with
      | none => simp
      | some r =>
        cases horigin : server.origin? r with
        | none => simp [horigin]
        | some origin =>
          simp [horigin, Desk.nextContext, List.range'_succ, Nat.add_comm 1]

/-- The desk has counted the contexts of the lines that a session has taken from its beginning. -/
lemma issued_reached_start (e : σ) (lines : List String) :
    ((Session.start (State.fresh e)).reached server.handler lines).state.desk.issued =
      ((server.trace (Session.start (State.fresh e)) lines).filterMap Event.context?).length := by
  rw [issued_reached, ← length_filterMap_context?]
  exact Nat.zero_add _

/-- In a run from the beginning, the tool that a line calls is called with the context that was
handed out for the line. -/
lemma exists_context_of_origin? (e : σ) {before after : List String} {line : String} {r : Request}
    {origin : Origin} (hgoing : ((Session.start (State.fresh e)).reached server.handler
      before).isOver = false)
    (hserved : ((Session.start (State.fresh e)).reached server.handler before).servedOn? line =
      some r) (horigin : server.origin? r = some origin) :
    let start := Session.start (State.fresh e)
    let earlier := (server.trace start before).filterMap Event.context?
    ∃ j c, server.job? r = some j ∧ c = ⟨earlier.length + 1, origin, server.timeout⟩ ∧
      ((server.trace start (before ++ line :: after)).filterMap Event.context?)[earlier.length]? =
        some c ∧
      (start.reached server.handler before).step server.handler line =
        server.stepWith (start.reached server.handler before) r j c := by
  intro start earlier
  obtain ⟨j, hjob, rfl⟩ := Option.map_eq_some_iff.mp ((server.map_origin_job? r).trans horigin)
  have hnext := congrArg (Context.mk · j.origin server.timeout)
    (congrArg (· + 1) (server.issued_reached_start e before))
  refine ⟨j, _, hjob, hnext, ?_, server.step_of_job hserved hjob⟩
  rw [trace_append, trace, if_neg (by rw [hgoing]; decide), List.filterMap_append,
    List.filterMap_append, filterMap_context?_eventsOn, hserved, Option.bind_some, horigin]
  refine (List.getElem?_append_right (Nat.le_refl _)).trans ?_
  rw [Nat.sub_self]
  rfl

/-- **The numbers of calls.** Take a server as it is built and a session of fewer than 2^64 - 1
requests. The contexts that are handed out in it, on both surfaces together, have the numbers 1, 2,
3 and so on in this order, all of them and the next one numbers of 64 bits, and the surfaces of the
requests that are counted, in order. Each of these requests calls its tool with the context that was
handed out for it: this decides what is done, what is answered and how far the server has counted.
The count in the end is the number of contexts, and that is the number of calls by name with
parameters that can be read among the requests that the session serves, together with, if the code
mode is enabled, the number of calls in code among them whose parameters can be read and whose path
means a method. A line without such a request leaves the count and the executor as they are.

**Proof sketch.** The numbers and the surfaces are those of the contexts of a run from a count of
zero (`contexts_trace`), the desk has counted the contexts (`issued_reached_start`), and a tool is
called with the next one (`step_of_job`). There are as many as requests that are counted
(`length_filterMap_origin?`), so no more than the lines hold. -/
theorem run_counted {config : Config.Server} {registry : Registry} {executor : Executor σ}
    {server : Server σ} (hmake : make? config registry executor = .ok server) (e : σ)
    (lines : List String)
    (hfew : (lines.countP fun line => (Incoming.ofLine line).isRequest) < 2 ^ 64 - 1) :
    let start := Session.start (State.fresh e)
    let contexts := (server.trace start lines).filterMap Event.context?
    let served := start.served server.handler lines
    contexts.map Context.requestId = List.range' 1 contexts.length ∧
      (∀ c ∈ contexts, c.requestId + 1 < 2 ^ 64) ∧
      contexts.map Context.origin = served.filterMap server.origin? ∧
      (start.run server.handler lines).2.state.desk.issued = contexts.length ∧
      contexts.length = served.countP callsTool +
        (if config.codeMode.enabled then served.countP server.callsMethod else 0) ∧
      ∀ before line after, lines = before ++ line :: after →
        let s := start.reached server.handler before
        let earlier := (server.trace start before).filterMap Event.context?
        (s.isOver = false → ∀ r origin, s.servedOn? line = some r →
          server.origin? r = some origin →
            ∃ j c, server.job? r = some j ∧ c = ⟨earlier.length + 1, origin, server.timeout⟩ ∧
              contexts[earlier.length]? = some c ∧
              s.step server.handler line = server.stepWith s r j c) ∧
        ((s.servedOn? line).bind server.origin? = none →
          (s.step server.handler line).2.state.desk = s.state.desk) := by
  intro start contexts served
  obtain ⟨hnumbers, horigins⟩ := server.contexts_trace start lines
  have hlength : contexts.length = (served.filterMap server.origin?).length := by
    rw [← horigins, List.length_map]
  refine ⟨hnumbers, ?_, horigins, ?_, ?_, ?_⟩
  · intro c hc
    have hmem : c.requestId ∈ List.range' 1 contexts.length :=
      hnumbers ▸ List.mem_map_of_mem hc
    have hserved : served.length ≤ _ := Session.length_served_le server.handler start lines
    have hcounted : (served.filterMap server.origin?).length ≤ served.length :=
      List.length_filterMap_le _ _
    rw [List.mem_range'_1, hlength] at hmem
    omega
  · rw [Session.run_eq]
    exact server.issued_reached_start e lines
  · rw [hlength, length_filterMap_origin?]
    exact congrArg (served.countP callsTool + ·) (countP_callsMethod_of_make? hmake served)
  · intro before line after hlines s earlier
    refine ⟨fun hgoing r origin hserved horigin => ?_, server.desk_step_of_origin?_eq_none⟩
    subst hlines
    exact server.exists_context_of_origin? e hgoing hserved horigin

/-- A request with an id for a method with parameters. -/
def requestOf (method : String) (params : Json) : String :=
  (Request.toJson ⟨rpcVersion, some (.number 3), method, some params⟩).compact

/-- Lines on which a client greets, calls a tool that there is not and asks for help in code. -/
def askingLines : List String :=
  [bareGreeting, requestOf "tools/call" (ToolCall.toJson ⟨"pg_lost", .null⟩),
    requestOf "codemode/call" (CodeCall.toJson ⟨"core.help", []⟩)]

/-- A call in code. -/
def noteCall : CodeCall :=
  ⟨"core.note", []⟩

/-- These lines, after which the client calls a method in code. -/
def callingLines : List String :=
  askingLines ++ [requestOf "codemode/call" noteCall.toJson]

/-- The call of a tool that there is not is counted and help is not, so the call in code has the
number two, and the tool answers with this number. -/
theorem run_counted_of_callingLines :
    ∃ server, make? {} (.ofList [Tool.echo "pg_note" "core"]) Executor.disconnected =
        .ok (server : Server Unit) ∧
      (callingLines.countP fun line => (Incoming.ofLine line).isRequest) < 2 ^ 64 - 1 ∧
      ((server.trace (Session.start (State.fresh ())) callingLines).filterMap
        Event.context?).map Context.requestId = [1, 2] ∧
      ((server.trace (Session.start (State.fresh ())) callingLines).filterMap
        Event.context?).map Context.origin = [.protocol, .codeMode] ∧
      ((Session.start (State.fresh ())).run server.handler callingLines).2.state.desk.issued = 2 ∧
      (((Session.start (State.fresh ())).reached server.handler askingLines).step server.handler
          (requestOf "codemode/call" noteCall.toJson)).1.map Response.line =
        some (Response.line (.success (some (.number 3)) (ToolAnswer.ofOutcome (.ok
          (Tool.echoAnswer "pg_note" ⟨2, .codeMode, server.timeout⟩ (.obj [])))).toJson)) := by
  have hfew : (callingLines.countP fun line => (Incoming.ofLine line).isRequest) < 2 ^ 64 - 1 :=
    Nat.lt_of_le_of_lt List.countP_le_length (by decide)
  refine ⟨_, rfl, hfew, ?_⟩
  have hmake : make? {} (.ofList [Tool.echo "pg_note" "core"])
      (Executor.disconnected : Executor Unit) = .ok _ := rfl
  obtain ⟨hnumbers, -, horigins, hissued, -, -⟩ := run_counted hmake () callingLines hfew
  have hboth : _ = [Origin.protocol, .codeMode] := horigins.trans (by decide +kernel)
  have htwo := congrArg List.length hboth
  rw [List.length_map] at htwo
  rw [htwo] at hnumbers hissued
  exact ⟨hnumbers, hboth, hissued, by decide +kernel⟩

end Server

end PgGateway
