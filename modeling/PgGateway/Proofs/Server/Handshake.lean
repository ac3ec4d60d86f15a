import PgGateway.Proofs.Rpc.Run
import PgGateway.Server.Handler

set_option autoImplicit false

/-!
# The handshake of a server

A server keeps the client of the last greeting that it has understood. The session, for its part,
counts a greeting whether or not it was understood, and whether or not the client waits for the
answer. So a session may serve requests although no client has been welcomed, or although the
client that the server keeps was not the one that was.

## Main definitions

* `PgGateway.Rpc.Incoming.greeting?` — the greeting that a line holds.
* `PgGateway.Server.greeters`, `PgGateway.Server.awaitedGreeters` — the clients that some lines
  greet for, and those of them that wait for the answer.
* `PgGateway.Server.Welcomes` — whether a client was greeted back.

## Main results

* `PgGateway.Server.client_reached` — the server keeps the client of the last greeting.
* `PgGateway.Server.welcomed_iff` — when a session that serves requests has welcomed the client
  that the server keeps.
-/

namespace PgGateway

namespace Rpc.Incoming

/-- The greeting of a client, if the line holds one that can be understood. -/
def greeting? : Incoming → Option Greeting
  | .request r =>
    if r.method = "initialize" then (Handler.paramsOf Greeting.read r.params).toOption else none
  | _ => none

/-- The greeting of a client that waits for an answer. -/
def awaitedGreeting? : Incoming → Option Greeting
  | .request r => if r.isNotification then none else (Incoming.request r).greeting?
  | _ => none

end Rpc.Incoming

namespace Server

open Rpc

variable {σ : Type}

/-- The clients for which some lines hold a greeting, in order. -/
def greeters (lines : List String) : List Peer :=
  lines.filterMap fun line => (Incoming.ofLine line).greeting?.map Greeting.client

/-- The clients for which some lines hold a greeting whose answer is waited for, in order. -/
def awaitedGreeters (lines : List String) : List Peer :=
  lines.filterMap fun line => (Incoming.ofLine line).awaitedGreeting?.map Greeting.client

/-- Whether a line with its answer welcomes a client: the line is a greeting of the client, and the
answer has a result. -/
def Welcomes (p : Peer) (line : String) (answer : Option Response) : Prop :=
  (∃ g, (Incoming.ofLine line).greeting? = some g ∧ g.client = p) ∧
    ∃ response, answer = some response ∧ response.result.isSome = true

/-- Whether a session serves every request. -/
def IsServing (s : Session (State σ)) : Prop :=
  s.lifecycle = .greeted ∨ s.lifecycle = .running

/-- A session that serves requests is going. -/
lemma IsServing.isGoing {s : Session (State σ)} (hserving : IsServing s) :
    s.lifecycle.IsGoing := by
  rcases hserving with hgreeted | hrunning
  · rw [hgreeted]
    exact ⟨nofun, nofun⟩
  · rw [hrunning]
    exact ⟨nofun, nofun⟩

/-! ## One request -/

variable (server : Server σ)

/-- What is made of the value of a service does not matter to the state. -/
lemma written_snd {α : Type} (f : α → Json) (outcome : Except ProtocolError α × State σ) :
    (Handler.written f outcome).2 = outcome.2 := by
  obtain ⟨result, s⟩ := outcome
  cases result <;> rfl

/-- A service that keeps the client keeps it with parameters, too. -/
lemma client_withParams {α β : Type} {read : Shape.Reader α}
    {service : α → Service (State σ) β} {write : β → Json}
    (hservice : ∀ a t, (service a t).2.client = t.client) (params : Option Json) (t : State σ) :
    (Handler.withParams read service write params t).2.client = t.client := by
  rw [Handler.withParams]
  split
  · rw [written_snd, hservice]
  · rfl

/-- Code keeps the client of the server. -/
lemma client_codeCall (c : CodeCall) (t : State σ) :
    (server.codeCall c t).2.client = t.client := by
  unfold codeCall
  split <;> rfl

/-- Help keeps the client of the server. -/
lemma client_codeHelp (q : HelpQuery) (t : State σ) :
    (server.codeHelp q t).2.client = t.client := by
  unfold codeHelp
  split <;> rfl

/-- A greeting that is understood is answered with a result, and its client is kept. Any other is
answered with an error. -/
lemma outcome_initialize (params : Option Json) (t : State σ) :
    server.handler.outcome "initialize" params t =
      match Handler.paramsOf Greeting.read params with
      | .ok g => (.ok server.welcome.toJson, { t with client := some g.client })
      | .error e => (.error e, t) := by
  change Handler.withParams Greeting.read server.handler.greet Welcome.toJson params t = _
  rw [Handler.withParams]
  cases Handler.paramsOf Greeting.read params <;> rfl

/-- Methods other than the greeting keep the client. -/
lemma client_outcome_of_ne {method : String} (hne : method ≠ "initialize") (params : Option Json)
    (t : State σ) : (server.handler.outcome method params t).2.client = t.client := by
  unfold Handler.outcome
  split
  case h_1 => exact absurd rfl hne
  case h_6 => exact client_withParams (fun _ _ => rfl) params t
  case h_7 => exact client_withParams server.client_codeHelp _ t
  case h_8 => exact client_withParams server.client_codeCall params t
  all_goals rfl

/-- Only the method of greetings greets. -/
lemma method_eq_of_greeting {r : Request} {g : Greeting}
    (hg : (Incoming.request r).greeting? = some g) : r.method = "initialize" := by
  by_contra hne
  simp [Incoming.greeting?, hne] at hg

/-- The client that a server keeps after a request. -/
lemma client_dispatch (r : Request) (t : State σ) :
    (server.handler.dispatch r t).2.client =
      ((Incoming.request r).greeting?.map Greeting.client).or t.client := by
  by_cases hmethod : r.method = "initialize"
  · rw [Handler.dispatch, hmethod, outcome_initialize]
    simp only [Incoming.greeting?, hmethod, if_true]
    cases Handler.paramsOf Greeting.read r.params <;> rfl
  · simp [Handler.dispatch, client_outcome_of_ne server hmethod, Incoming.greeting?, hmethod]

/-- A greeting that is understood is answered with a result. -/
lemma result_dispatch_of_greeting {r : Request} {g : Greeting}
    (hg : (Incoming.request r).greeting? = some g) (t : State σ) :
    (server.handler.dispatch r t).1.result.isSome = true := by
  have hmethod := method_eq_of_greeting hg
  rw [Incoming.greeting?, if_pos hmethod] at hg
  rw [Handler.dispatch, hmethod, outcome_initialize]
  cases hparams : Handler.paramsOf Greeting.read r.params with
  | ok g' => rfl
  | error e => simp [hparams, Except.toOption] at hg

/-! ## One line -/

/-- After a line, a session that is going has the client of the greeting on it, or the one that it
had. -/
theorem client_step {s : Session (State σ)} (hgoing : s.lifecycle.IsGoing) (line : String) :
    (s.step server.handler line).2.state.client =
      ((Incoming.ofLine line).greeting?.map Greeting.client).or s.state.client := by
  rw [Session.step]
  cases Incoming.ofLine line with
  | blank | response | malformed => rfl
  | request r =>
    simp only [Session.react, Session.serve]
    split
    · exact client_dispatch server r s.state
    · next hrefused =>
      have hne : r.method ≠ "initialize" := fun hmethod =>
        hrefused (hmethod ▸ hgoing.admits_initialize)
      simp [Incoming.greeting?, hne]

/-- A session that is going welcomes a client exactly if the line is a greeting of the client that
waits for the answer. -/
theorem welcomes_step {s : Session (State σ)} (hgoing : s.lifecycle.IsGoing) (line : String)
    (p : Peer) :
    Welcomes p line (s.step server.handler line).1 ↔
      (Incoming.ofLine line).awaitedGreeting?.map Greeting.client = some p := by
  rw [Welcomes, Session.step]
  cases hline : Incoming.ofLine line with
  | blank | response | malformed => simp [Incoming.greeting?, Incoming.awaitedGreeting?]
  | request r =>
    by_cases hnote : r.isNotification = true
    · simp [Incoming.awaitedGreeting?, Session.react, hnote]
    · simp only [Incoming.awaitedGreeting?, Session.react, hnote, Option.map_eq_some_iff]
      refine ⟨fun hwelcome => hwelcome.1, fun hgreeting => ⟨hgreeting, _, rfl, ?_⟩⟩
      obtain ⟨g, hg, -⟩ := hgreeting
      have hmethod := method_eq_of_greeting hg
      rw [Session.serve, hmethod, hgoing.admits_initialize, if_pos rfl, ← hmethod]
      exact result_dispatch_of_greeting server hg s.state

/-! ## All lines -/

/-- The greeter on the first line comes before those on the others. -/
lemma greeters_cons (line : String) (rest : List String) :
    greeters (line :: rest) =
      ((Incoming.ofLine line).greeting?.map Greeting.client).toList ++ greeters rest := by
  rw [greeters, List.filterMap_cons]
  cases (Incoming.ofLine line).greeting?.map Greeting.client <;> rfl

/-- **The client of a server.** As long as a session is going, the server keeps the client of the
last greeting that it has understood. -/
theorem client_reached {s : Session (State σ)} (hgoing : s.lifecycle.IsGoing) {lines : List String}
    (hend : (s.reached server.handler lines).lifecycle.IsGoing) :
    (s.reached server.handler lines).state.client =
      (greeters lines).getLast?.or s.state.client := by
  induction lines generalizing s with
  | nil => rfl
  | cons line rest ih =>
    rw [Session.reached_cons_of_isGoing _ hgoing] at hend ⊢
    rw [ih (Session.isGoing_step _ hgoing hend) hend, client_step server hgoing, greeters_cons,
      List.getLast?_append]
    cases (Incoming.ofLine line).greeting?.map Greeting.client <;> simp

/-- As long as a session is going, it welcomes each client whose greeting waits for the answer, and
no other. -/
theorem welcomes_history {s : Session (State σ)} (hgoing : s.lifecycle.IsGoing)
    {lines : List String} (hend : (s.reached server.handler lines).lifecycle.IsGoing) (p : Peer) :
    (∃ entry ∈ s.history server.handler lines, Welcomes p entry.1 entry.2) ↔
      p ∈ awaitedGreeters lines := by
  induction lines generalizing s with
  | nil => simp [Session.history, awaitedGreeters]
  | cons line rest ih =>
    rw [Session.reached_cons_of_isGoing _ hgoing] at hend
    have hrest := ih (Session.isGoing_step _ hgoing hend) hend
    rw [Session.history_cons_of_isGoing _ hgoing]
    simp only [List.mem_cons, exists_eq_or_imp, hrest, welcomes_step server hgoing]
    simp only [awaitedGreeters, List.mem_filterMap, List.mem_cons, exists_eq_or_imp]

/-- **When the handshake is kept.** A session that serves requests has greeted a client back, and
the server keeps that client, exactly if the last greeting on the lines that can be understood is
for a client with a greeting that waits for the answer.

**Proof sketch.** A session that serves requests has been going all along, so the client that the
server keeps is the last greeter (`client_reached`), and the clients that were greeted back are
those whose greetings wait for the answer (`welcomes_history`). -/
theorem welcomed_iff (e : σ) (lines : List String)
    (hserving : IsServing ((Session.start (State.fresh e)).reached server.handler lines)) :
    (∃ p, (∃ entry ∈ (Session.start (State.fresh e)).history server.handler lines,
        Welcomes p entry.1 entry.2) ∧
      ((Session.start (State.fresh e)).reached server.handler lines).state.client = some p) ↔
      ∃ p, (greeters lines).getLast? = some p ∧ p ∈ awaitedGreeters lines := by
  have hstart : (Session.start (State.fresh e)).lifecycle.IsGoing := ⟨nofun, nofun⟩
  have hend := hserving.isGoing
  have hclient := client_reached server hstart hend
  rw [show (Session.start (State.fresh e)).state.client = none by rfl, Option.or_none] at hclient
  refine exists_congr fun p => ?_
  rw [welcomes_history server hstart hend, hclient, and_comm]

/-- A server without tools, to which nothing is connected. -/
def idle : Server Unit :=
  ⟨{}, .ofList [], .disconnected, none⟩

/-- A greeting without parameters, which cannot be understood. -/
def bareGreeting : String :=
  r#"{"id":1,"jsonrpc":"2.0","method":"initialize"}"#

/-- A request for the list of tools. -/
def listingRequest : String :=
  r#"{"id":2,"jsonrpc":"2.0","method":"tools/list"}"#

/-- The greeting of a client, which waits for the answer. -/
def greetingOf (p : Peer) : String :=
  let params := Greeting.toJson ⟨protocolVersion, .ofList [], p⟩
  (Request.toJson ⟨rpcVersion, some (.number 2), "initialize", some params⟩).compact

/-- A client that greets a second time, and well, is welcomed and kept. -/
theorem welcomed_of_second_greeting :
    IsServing ((Session.start (State.fresh ())).reached idle.handler
      [bareGreeting, greetingOf ⟨"client", "1"⟩]) ∧
    ∃ p, (∃ entry ∈ (Session.start (State.fresh ())).history idle.handler
        [bareGreeting, greetingOf ⟨"client", "1"⟩], Welcomes p entry.1 entry.2) ∧
      ((Session.start (State.fresh ())).reached idle.handler
        [bareGreeting, greetingOf ⟨"client", "1"⟩]).state.client = some p := by
  have hserving : IsServing ((Session.start (State.fresh ())).reached idle.handler
      [bareGreeting, greetingOf ⟨"client", "1"⟩]) := .inl (by decide +kernel)
  exact ⟨hserving, (welcomed_iff idle () _ hserving).2
    ⟨⟨"client", "1"⟩, by decide +kernel, by decide +kernel⟩⟩

/-- After a greeting that cannot be understood, a session lists the tools, although it has welcomed
no client and the server keeps none. -/
theorem not_welcomed_of_bareGreeting :
    IsServing ((Session.start (State.fresh ())).reached idle.handler [bareGreeting]) ∧
    ((((Session.start (State.fresh ())).reached idle.handler [bareGreeting]).step idle.handler
      listingRequest).1.bind Response.result).isSome = true ∧
    ¬ ∃ p, (∃ entry ∈ (Session.start (State.fresh ())).history idle.handler [bareGreeting],
        Welcomes p entry.1 entry.2) ∧
      ((Session.start (State.fresh ())).reached idle.handler [bareGreeting]).state.client =
        some p := by
  have hclient : ((Session.start (State.fresh ())).reached idle.handler
      [bareGreeting]).state.client = none := by decide +kernel
  refine ⟨.inl (by decide +kernel), by decide +kernel, fun ⟨p, _, hp⟩ => ?_⟩
  rw [hclient] at hp
  cases hp

end Server

end PgGateway
