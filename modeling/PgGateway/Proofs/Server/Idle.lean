import PgGateway.Proofs.Server.Event

set_option autoImplicit false

/-!
# Lines without effect

Blank lines, lines that cannot be read, responses, and requests that only ask something or that have
an unknown method do nothing to a session, however far it is. So such a line can be left out of the
input anywhere: only its own answer is missing then.

## Main definitions

* `PgGateway.Rpc.Handler.methods` — the methods of the protocol.
* `PgGateway.Rpc.Incoming.IsIdle` — whether what a line holds has no effect.

## Main results

* `PgGateway.Server.step_of_isIdle` — such a line does nothing to a session.
* `PgGateway.Server.run_of_isIdle` — such a line can be left out.
-/

namespace PgGateway

namespace Rpc

/-- The methods of the protocol. -/
def Handler.methods : List String :=
  ["initialize", "initialized", "shutdown", "ping", "tools/list", "tools/call", "codemode/help",
    "codemode/call"]

/-- Whether what a line holds has no effect: it is no request, or it is one for a ping, the list of
the tools, help or an unknown method. -/
def Incoming.IsIdle (i : Incoming) : Prop :=
  ∀ method ∈ i.method?,
    method ∈ ["ping", "tools/list", "codemode/help"] ∨ method ∉ Handler.methods

instance (i : Incoming) : Decidable i.IsIdle :=
  inferInstanceAs (Decidable (∀ method ∈ i.method?, _))

/-- A request without effect has none of the methods that have one. -/
lemma Incoming.IsIdle.notMem {r : Request} (hidle : (Incoming.request r).IsIdle) :
    r.method ∉ ["initialize", "initialized", "shutdown", "tools/call", "codemode/call"] := by
  intro hmem
  rcases hidle r.method rfl with hasks | hunknown
  · simp only [List.mem_cons, List.not_mem_nil, or_false] at hasks hmem
    rcases hasks with h | h | h <;> simp [h] at hmem
  · refine hunknown ?_
    simp only [Handler.methods, List.mem_cons, List.not_mem_nil, or_false] at hmem ⊢
    tauto

/-- A request without effect does not take a session further. -/
lemma Incoming.IsIdle.advance_eq {r : Request} (hidle : (Incoming.request r).IsIdle)
    (l : Lifecycle) : l.advance r.method = l := by
  have hnone := hidle.notMem
  simp only [List.mem_cons, List.not_mem_nil, or_false, not_or] at hnone
  cases l <;> simp [Lifecycle.advance, hnone]

end Rpc

namespace Server

open Rpc

variable {σ : Type} (server : Server σ)

/-- A request without effect does nothing to the state of the server. -/
lemma state_dispatch_of_isIdle {r : Request} (hidle : (Incoming.request r).IsIdle)
    (t : State σ) : (server.handler.dispatch r t).2 = t := by
  have hnone := hidle.notMem
  simp only [List.mem_cons, List.not_mem_nil, or_false, not_or] at hnone
  obtain ⟨hgreeting, -, -, htool, hcode⟩ := hnone
  exact server.state_outcome_of_ne hgreeting htool hcode r.params t

/-- **Lines without effect.** A line without effect does nothing to a session, however far it is,
and nothing happens on it. -/
theorem step_of_isIdle {line : String} (hidle : (Incoming.ofLine line).IsIdle)
    (s : Session (State σ)) :
    (s.step server.handler line).2 = s ∧ server.eventsOn s line = [] := by
  rw [Session.step, eventsOn, jobOn?]
  cases hline : Incoming.ofLine line with
  | blank | response | malformed => exact ⟨rfl, rfl⟩
  | request r =>
    rw [hline] at hidle
    have hnone := hidle.notMem
    simp only [List.mem_cons, List.not_mem_nil, or_false, not_or] at hnone
    have hjob : server.job? r = none := by simp [job?, hnone]
    refine ⟨?_, by simp [hjob]⟩
    simp only [Session.react, Session.serve]
    split
    · change Session.mk (s.lifecycle.advance r.method) (server.handler.dispatch r s.state).2 = s
      rw [hidle.advance_eq, server.state_dispatch_of_isIdle hidle]
    · rfl

/-- After a line without effect a session takes the others as if it were not there. -/
lemma reached_cons_of_isIdle {line : String} (hidle : (Incoming.ofLine line).IsIdle)
    (s : Session (State σ)) (rest : List String) :
    s.reached server.handler (line :: rest) = s.reached server.handler rest := by
  by_cases hover : s.isOver = true
  · rw [Session.reached_of_isOver _ hover, Session.reached_of_isOver _ hover]
  · rw [Session.reached, if_neg hover, (server.step_of_isIdle hidle s).1]

/-- A line without effect adds nothing to what happens. -/
lemma trace_cons_of_isIdle {line : String} (hidle : (Incoming.ofLine line).IsIdle)
    (s : Session (State σ)) (rest : List String) :
    server.trace s (line :: rest) = server.trace s rest := by
  obtain ⟨hstep, hevents⟩ := server.step_of_isIdle hidle s
  by_cases hover : s.isOver = true
  · rw [server.trace_of_isOver hover, server.trace_of_isOver hover]
  · rw [trace, if_neg hover, hevents, hstep, List.nil_append]

/-- A line without effect adds at most its own answer to the output. -/
lemma run_cons_of_isIdle {line : String} (hidle : (Incoming.ofLine line).IsIdle)
    (s : Session (State σ)) (rest : List String) :
    ∃ answer : Option Response, (s.run server.handler (line :: rest)).1 =
      answer.toList ++ (s.run server.handler rest).1 := by
  by_cases hover : s.isOver = true
  · refine ⟨none, ?_⟩
    rw [Session.run_eq, Session.run_eq, Session.history_of_isOver _ hover,
      Session.history_of_isOver _ hover]
    rfl
  · refine ⟨(s.step server.handler line).1, ?_⟩
    rw [Session.run, if_neg hover]
    simp only [(server.step_of_isIdle hidle s).1]

/-- **Lines without effect do not interfere.** Take a line that is blank, cannot be read, holds a
response, or a request for a ping, the list of the tools, help or an unknown method. Left out of the
input of a session, wherever it stands and however far the session is, it only takes its own answer
from the output. The other answers are the same, and so are the contexts that are handed out, the
tools that are executed and the calls to the executor, in order, and the session and the state of
the server in the end.

**Proof sketch.** The line does nothing to the session (`step_of_isIdle`), so the session takes the
lines after it as if it were not there, or is over already and takes neither it nor those. -/
theorem run_of_isIdle {line : String} (hidle : (Incoming.ofLine line).IsIdle)
    (s : Session (State σ)) (before after : List String) :
    (∃ answer : Option Response,
      (s.run server.handler (before ++ line :: after)).1 = (s.run server.handler before).1 ++
          answer.toList ++ ((s.reached server.handler before).run server.handler after).1 ∧
        (s.run server.handler (before ++ after)).1 = (s.run server.handler before).1 ++
          ((s.reached server.handler before).run server.handler after).1) ∧
      server.trace s (before ++ line :: after) = server.trace s (before ++ after) ∧
      (s.run server.handler (before ++ line :: after)).2 =
        (s.run server.handler (before ++ after)).2 := by
  refine ⟨?_, ?_, ?_⟩
  · obtain ⟨answer, hanswer⟩ :=
      server.run_cons_of_isIdle hidle (s.reached server.handler before) after
    refine ⟨answer, ?_, Session.run_append _ s before after⟩
    rw [Session.run_append, hanswer, List.append_assoc]
  · rw [trace_append, trace_append, server.trace_cons_of_isIdle hidle]
  · rw [Session.run_eq, Session.run_eq, Session.reached_append, Session.reached_append,
      server.reached_cons_of_isIdle hidle]

/-- Asking for the list of the tools after a greeting makes no difference to the lines that
follow. -/
theorem run_of_listingRequest :
    (Incoming.ofLine listingRequest).IsIdle ∧
    ∃ answer : Option Response,
      ((Session.start (State.fresh ())).run idle.handler
          ([greetingOf ⟨"client", "1"⟩] ++ listingRequest :: [bareGreeting])).1 =
        ((Session.start (State.fresh ())).run idle.handler [greetingOf ⟨"client", "1"⟩]).1 ++
          answer.toList ++
          (((Session.start (State.fresh ())).reached idle.handler
            [greetingOf ⟨"client", "1"⟩]).run idle.handler [bareGreeting]).1 := by
  have hidle : (Incoming.ofLine listingRequest).IsIdle := by decide +kernel
  obtain ⟨⟨answer, hwith, -⟩, -, -⟩ := run_of_isIdle idle hidle (Session.start (State.fresh ()))
    [greetingOf ⟨"client", "1"⟩] [bareGreeting]
  exact ⟨hidle, answer, hwith⟩

end Server

end PgGateway
