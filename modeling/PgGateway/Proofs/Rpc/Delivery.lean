import PgGateway.Proofs.Rpc.AnswerLaw
import PgGateway.Proofs.Rpc.Envelope
import PgGateway.Proofs.Server.Handshake

set_option autoImplicit false

/-!
# Requests that are answered

A line that makes a request with an id is answered by one line with this id. A line that is neither
a request nor a response, such as one without the version, is answered by one line without an id,
which reports that it could not be read.

## Main definitions

* `PgGateway.Rpc.Session.Writes` — whether a session writes one line for a line that it takes.

## Main results

* `PgGateway.Rpc.Session.writes_answer` — what is written for a line with an id.
-/

namespace PgGateway.Rpc

open Json (Document)

namespace Session

variable {τ : Type} (h : Handler τ)

/-- Whether a session writes one line for a line that it comes to, with the given response: after
what it writes for the lines before, and before what it writes for the lines after. -/
def Writes (s : Session τ) (before : List String) (line : String) (after : List String)
    (r : Response) : Prop :=
  '\n' ∉ r.line.toList ∧
    (s.run h (before ++ line :: after)).1 =
      (s.run h before).1 ++ r :: ((s.reached h (before ++ [line])).run h after).1

/-- A session writes the answer to a line. -/
lemma writes_of_step {s : Session τ} {before : List String}
    (hserving : (s.reached h before).isOver = false) {line : String} {r : Response}
    (hanswer : ((s.reached h before).step h line).1 = some r) (after : List String) :
    s.Writes h before line after r := by
  refine ⟨r.newline_not_mem_line, ?_⟩
  rw [run_append_cons h hserving, hanswer, List.append_assoc]
  rfl

/-- **Requests that are answered.** Take a line that a session comes to before it is over, and that
holds an object with an id, a string or an integer of 64 bits. If the object makes a request, one
line is written for it that answers the request of this id. If the object makes no request and
cannot be read as a response either, one line is written that reports this, without an id; and so it
is whenever the version is not given once, as a string, the id is given twice or a key has no value.

**Proof sketch.** Members that make a request are read as a request with the id
(`exists_request?`), and serving it answers it (`serve_answers`). Whatever is read as a request
makes one (`isRequest_of_request?`), so otherwise the line is malformed unless it is a response. -/
theorem writes_answer (t : τ) {before : List String}
    (hserving : ((start t).reached h before).isOver = false) {line : String}
    {ms : List (Option String × Document)}
    (hline : Document.read? (Text.trim line.toList) = some (.obj ms)) {d : Document}
    (hd : d ∈ partsOf "id" ms) {id : RequestId} (hid : idOf? d = some id) (after : List String) :
    (IsRequest ms → ∃ r : Response, r.Answers id ∧ (start t).Writes h before line after r) ∧
      (¬ IsRequest ms → response? (.obj ms) = none →
        (start t).Writes h before line after (.failure none .parseError)) ∧
      (¬ HasEnvelope ms → (start t).Writes h before line after (.failure none .parseError)) := by
  have hunread : ¬ IsRequest ms → response? (.obj ms) = none →
      (start t).Writes h before line after (.failure none .parseError) := by
    intro hnot hresponse
    have hrequest : request? (.obj ms) = none :=
      Option.eq_none_iff_forall_ne_some.mpr fun r hr => hnot (isRequest_of_request? hr)
    refine writes_of_step h hserving ?_ after
    rw [step, Incoming.ofLine_eq hline, Incoming.ofDocument_eq_malformed hrequest hresponse]
    rfl
  refine ⟨fun hrequest => ?_, hunread, fun hnot => ?_⟩
  · obtain ⟨r, hr, hrid⟩ := exists_request? hrequest hd hid
    refine ⟨_, serve_answers h ((start t).reached h before) hrid,
      writes_of_step h hserving ?_ after⟩
    rw [step, Incoming.ofLine_eq hline, Incoming.ofDocument, hr]
    simp [react, Request.isNotification, hrid]
  · refine hunread (fun hrequest => hnot hrequest.toHasEnvelope) ?_
    exact Option.eq_none_iff_forall_ne_some.mpr fun r hr => hnot (hasEnvelope_of_response? hr)

/-- A ping with an id. -/
def ping : String :=
  r#"{"id":7,"jsonrpc":"2.0","method":"ping"}"#

/-- A ping with an id, but without the version. -/
def pingWithoutVersion : String :=
  r#"{"id":7,"method":"ping"}"#

/-- A new session writes one line with the id of a ping for it. -/
theorem writes_answer_of_ping :
    ((start (Server.State.fresh ())).reached Server.idle.handler []).isOver = false ∧
    ∃ r : Response, r.Answers (.number 7) ∧
      (start (Server.State.fresh ())).Writes Server.idle.handler [] ping [] r := by
  have hserving : ((start (Server.State.fresh ())).reached Server.idle.handler []).isOver = false :=
    rfl
  have hline : Document.read? (Text.trim ping.toList) =
      some (.obj [(some "id", .number ⟨false, [7], none, none⟩),
        (some "jsonrpc", .string (some "2.0")), (some "method", .string (some "ping"))]) := by
    cbv
  have hid : idOf? (.number ⟨false, [7], none, none⟩) = some (.number 7) := by
    decide +kernel
  refine ⟨hserving,
    (writes_answer Server.idle.handler _ hserving hline (by simp [partsOf]) hid []).1 ?_⟩
  exact ⟨⟨by simp, ⟨"2.0", by simp [partsOf]⟩, by simp [partsOf]⟩,
    ⟨"ping", by simp [partsOf]⟩, by simp [partsOf], by simp [partsOf]⟩

/-- For a ping without the version a new session writes one line, and no line with its id. -/
theorem not_answered_of_pingWithoutVersion :
    (∃ ms : List (Option String × Document),
      Document.read? (Text.trim pingWithoutVersion.toList) = some (.obj ms) ∧
      (∃ d, (some "method", d) ∈ ms) ∧
      ∃ d, (some "id", d) ∈ ms ∧ idOf? d = some (.number 7)) ∧
    ((start (Server.State.fresh ())).reached Server.idle.handler []).isOver = false ∧
    ((start (Server.State.fresh ())).run Server.idle.handler [pingWithoutVersion]).1.map
      Response.id = [none] := by
  refine ⟨⟨[(some "id", .number ⟨false, [7], none, none⟩),
    (some "method", .string (some "ping"))], by cbv, ?_, ?_⟩, rfl, by decide +kernel⟩
  · exact ⟨_, List.mem_cons_of_mem _ List.mem_cons_self⟩
  · exact ⟨_, List.mem_cons_self, by decide +kernel⟩

end Session

end PgGateway.Rpc
