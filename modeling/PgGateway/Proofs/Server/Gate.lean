import PgGateway.Proofs.Rpc.Progress
import PgGateway.Proofs.Server.Event

set_option autoImplicit false

/-!
# The gate of a server

A server hands out contexts, executes tools and calls its executor only between the first greeting
that its session serves and the first shutdown that it serves. Requests before that are refused and
change nothing.

## Main results

* `PgGateway.Server.serves_of_mem_eventsOn` — when something happens on a line.
* `PgGateway.Server.run_gated` — the order of the states, and what happens in which of them.
-/

namespace PgGateway.Server

open Rpc

variable {σ : Type} (server : Server σ)

/-- A request that asks for a call of a tool has one of two methods. -/
lemma method_of_job? {r : Request} {j : Job} (hj : server.job? r = some j) :
    r.method = "tools/call" ∨ r.method = "codemode/call" := by
  by_contra hne
  rw [not_or] at hne
  rw [job?, if_neg hne.1, if_neg hne.2] at hj
  cases hj

/-- Something only happens on a line while the session serves every request. -/
lemma isServing_of_mem_eventsOn {s : Session (State σ)} {line : String} {e : Event}
    (he : e ∈ server.eventsOn s line) : IsServing s := by
  rw [eventsOn, jobOn?] at he
  cases hline : Incoming.ofLine line with
  | blank | response | malformed =>
    rw [hline] at he
    cases he
  | request r =>
    simp only [hline] at he
    split at he
    · next j hj =>
      split at hj
      · next hadmits =>
        have hmethod := server.method_of_job? hj
        rw [IsServing]
        cases hs : s.lifecycle with
        | greeted => exact .inl rfl
        | running => exact .inr rfl
        | created | shuttingDown | stopped =>
          rcases hmethod with h | h <;> simp [hs, h, Lifecycle.admits] at hadmits
      · cases hj
    · cases he

/-- **When something happens.** Something only happens on a line of a new session after a greeting
that was served, and before any shutdown that is served. -/
theorem serves_of_mem_eventsOn {t : State σ} {before : List String} {line : String} {event : Event}
    (hevent : event ∈ server.eventsOn ((Session.start t).reached server.handler before) line) :
    (Session.start t).Serves server.handler before "initialize" ∧
      ¬ (Session.start t).Serves server.handler before "shutdown" := by
  obtain ⟨hgreeting, hshutdown, -⟩ := Session.lifecycle_reached server.handler t before
  have hserving := server.isServing_of_mem_eventsOn hevent
  rw [← hgreeting, ← hshutdown]
  rcases hserving with hgreeted | hrunning
  · simp [hgreeted, Session.isOver]
  · simp [hrunning, Session.isOver]

/-- At any other time a line leaves the desk as it is. -/
lemma serves_or_desk_eq (t : State σ) (before : List String) (line : String) :
    (Session.start t).Serves server.handler before "initialize" ∧
        ¬ (Session.start t).Serves server.handler before "shutdown" ∨
      ((Session.start t).reached server.handler (before ++ [line])).state.desk =
        ((Session.start t).reached server.handler before).state.desk := by
  cases hevents : server.eventsOn ((Session.start t).reached server.handler before) line with
  | nil =>
    right
    rw [Session.reached_concat]
    split
    · rfl
    · exact server.desk_step_of_eventsOn_eq_nil hevents
  | cons event rest =>
    exact .inl (server.serves_of_mem_eventsOn (hevents ▸ List.mem_cons_self))

/-- As long as no greeting was served, a new session refuses requests other than greetings and
pings. -/
lemma step_of_not_serves (t : State σ) {before : List String}
    (hnone : ¬ (Session.start t).Serves server.handler before "initialize") {line : String}
    {r : Request} (hline : Incoming.ofLine line = .request r) (hgreeting : r.method ≠ "initialize")
    (hping : r.method ≠ "ping") :
    ((Session.start t).reached server.handler before).step server.handler line =
      (r.id.map fun id => .failure (some id) ⟨-32002, "Server not initialized", none⟩,
        (Session.start t).reached server.handler before) := by
  have hcreated : ((Session.start t).reached server.handler before).lifecycle = .created := by
    by_contra hne
    exact hnone ((Session.lifecycle_reached server.handler t before).1.mp hne)
  refine Session.step_of_refused server.handler hline ?_
  rw [hcreated]
  simp [Lifecycle.admits, hgreeting, hping]

/-- **The gate.** On any lines a new session goes through its states in order and never back, and is
in one of them whenever it comes to a line. The contexts that are handed out and the calls to the
executor are those among the events of the run, and each event, also the execution of a tool,
happens after the session has served a greeting and while it has not served a shutdown. A line at
any other time leaves the count of contexts and the executor as they were. Before the session has
served a greeting, a request for something else than a greeting or a ping is refused with the error
-32002, or dropped if it has no id, and changes neither the session nor the state of the server.

**Proof sketch.** What happens on a line is a call of a tool for a request that the session serves,
and it serves these in two states only, those between the two requests
(`Session.lifecycle_reached`). A line on which nothing happens leaves the desk alone. Before a
greeting is served the session is a new one, which refuses the request. -/
theorem run_gated (t : State σ) (lines : List String) :
    ((Session.start t).visited server.handler lines).Pairwise (fun l l' => l.rank ≤ l'.rank) ∧
      (∀ before after, lines = before ++ after →
        ((Session.start t).reached server.handler before).lifecycle ∈
          (Session.start t).visited server.handler lines) ∧
      ((Session.start t).run server.handler lines).2.state.desk.issued = t.desk.issued +
        (server.trace (Session.start t) lines).countP Event.isContext ∧
      (∀ log, server.executor.Logs log →
        log ((Session.start t).run server.handler lines).2.state.desk.executor =
          log t.desk.executor ++
            (server.trace (Session.start t) lines).filterMap Event.call?) ∧
      (∀ event ∈ server.trace (Session.start t) lines,
        ∃ before line after, lines = before ++ line :: after ∧
          event ∈ server.eventsOn ((Session.start t).reached server.handler before) line ∧
          (Session.start t).Serves server.handler before "initialize" ∧
          ¬ (Session.start t).Serves server.handler before "shutdown") ∧
      (∀ before line after, lines = before ++ line :: after →
        (Session.start t).Serves server.handler before "initialize" ∧
            ¬ (Session.start t).Serves server.handler before "shutdown" ∨
          ((Session.start t).reached server.handler (before ++ [line])).state.desk =
            ((Session.start t).reached server.handler before).state.desk) ∧
      ∀ before line after r, lines = before ++ line :: after →
        ¬ (Session.start t).Serves server.handler before "initialize" →
        Incoming.ofLine line = .request r → r.method ≠ "initialize" → r.method ≠ "ping" →
        ((Session.start t).reached server.handler before).step server.handler line =
          (r.id.map fun id => .failure (some id) ⟨-32002, "Server not initialized", none⟩,
            (Session.start t).reached server.handler before) := by
  refine ⟨Session.pairwise_visited _ _ _, ?_, ?_, fun log hlog => ?_, ?_,
    fun before line after _ => server.serves_or_desk_eq t before line,
    fun before line after r _ hnone => server.step_of_not_serves t hnone⟩
  · rintro before after rfl
    exact Session.lifecycle_reached_mem_visited _ _ before after
  · rw [Session.run_eq]
    exact server.issued_reached (Session.start t) lines
  · rw [Session.run_eq]
    exact server.log_reached hlog (Session.start t) lines
  · intro event hevent
    obtain ⟨before, line, after, hlines, hline⟩ := server.exists_mem_eventsOn_of_mem_trace hevent
    exact ⟨before, line, after, hlines, hline, server.serves_of_mem_eventsOn hline⟩

/-- A new session refuses to list the tools, and asks nothing of the executor. -/
theorem run_gated_of_listingRequest :
    let watched : Server (Unit × List Observation) :=
      ⟨{}, .ofList [], Executor.disconnected.observed, none⟩
    ¬ (Session.start (State.fresh ())).Serves idle.handler [] "initialize" ∧
    (∃ r, Incoming.ofLine listingRequest = .request r ∧ r.method = "tools/list" ∧
      (Session.start (State.fresh ())).step idle.handler listingRequest =
        (r.id.map fun id => .failure (some id) ⟨-32002, "Server not initialized", none⟩,
          Session.start (State.fresh ()))) ∧
    ((Session.start (State.fresh ((), []))).run watched.handler
      [listingRequest]).2.state.desk.executor.2.map Observation.call = [] := by
  intro watched
  have hmethod : (Incoming.ofLine listingRequest).method? = some "tools/list" := by
    decide +kernel
  have hnone : ¬ (Session.start (State.fresh ())).Serves idle.handler [] "initialize" :=
    Session.not_serves_nil _ _ _
  cases hline : Incoming.ofLine listingRequest with
  | blank | response | malformed =>
    rw [hline] at hmethod
    cases hmethod
  | request r =>
    rw [hline] at hmethod
    have hlist : r.method = "tools/list" := Option.some.inj hmethod
    have hgreeting : r.method ≠ "initialize" := by rw [hlist]; decide
    have hping : r.method ≠ "ping" := by rw [hlist]; decide
    obtain ⟨-, -, -, -, -, -, hrefused⟩ := run_gated idle (State.fresh ()) [listingRequest]
    refine ⟨hnone, ⟨r, rfl, hlist,
      hrefused [] listingRequest [] r rfl hnone hline hgreeting hping⟩, ?_⟩
    obtain ⟨-, -, -, hlog, -⟩ := run_gated watched (State.fresh ((), [])) [listingRequest]
    refine (hlog _ (Executor.logs_observed _)).trans ?_
    decide +kernel

end PgGateway.Server
