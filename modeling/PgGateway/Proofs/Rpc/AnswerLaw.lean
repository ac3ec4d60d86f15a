import PgGateway.Proofs.Json.OneLine
import PgGateway.Proofs.Rpc.Envelope
import PgGateway.Proofs.Rpc.Run
import PgGateway.Proofs.Text.Cut

set_option autoImplicit false

/-!
# What a session answers

A session takes lines up to the first shutdown after the handshake has begun, and answers each
request that has an id and each line that it cannot read, in order and one line each. Which lines
it takes and which answers it owes can be read off the lines, whatever the handler does.

## Main definitions

* `PgGateway.Rpc.Holds` — what a line holds, told by the document between its blank ends.
* `PgGateway.Rpc.takenLines` — the lines up to the first shutdown after a greeting.
* `PgGateway.Rpc.Owes` — what is owed to a line.

## Main results

* `PgGateway.Rpc.ofLine_eq_iff_holds` — a line holds one thing, and that is what is read.
* `PgGateway.Rpc.Session.map_fst_history` — a new session takes exactly these lines.
* `PgGateway.Rpc.Session.run_answer_law` — a run answers each of them as it is owed.
-/

namespace PgGateway.Rpc

open Json (Document)

/-- What a line holds. It is blank, or there is a document between its blank ends that is a request,
or that is a response but no request; and otherwise it is malformed. -/
inductive Holds (line : String) : Incoming → Prop where
  /-- There is nothing but blanks. -/
  | blank : (∀ c ∈ line.toList, Text.isBlank c = true) → Holds line .blank
  /-- The document is a request. -/
  | request {d : Document} {r : Request} : Document.read? (Text.trim line.toList) = some d →
      request? d = some r → Holds line (.request r)
  /-- The document is a response and no request. -/
  | response {d : Document} {r : Response} : Document.read? (Text.trim line.toList) = some d →
      request? d = none → response? d = some r → Holds line (.response r)
  /-- There is something else than blanks, but no document that is a request or a response. -/
  | malformed : (∃ c ∈ line.toList, Text.isBlank c = false) →
      (∀ d, Document.read? (Text.trim line.toList) = some d →
        request? d = none ∧ response? d = none) → Holds line .malformed

/-- The lines up to and including the first request for a shutdown that comes after a greeting. A
notification is a request here, and a greeting counts whether or not it is understood. -/
def takenLines (greeted : Bool) : List String → List String
  | [] => []
  | line :: rest =>
    if greeted && (Incoming.ofLine line).method? == some "shutdown" then [line]
    else
      line :: takenLines (greeted || (Incoming.ofLine line).method? == some "initialize") rest

/-- Whether a response answers the request of an id: it carries the id, and either a result or an
error, but not both. -/
structure Response.Answers (r : Response) (id : RequestId) : Prop where
  /-- It carries the id. -/
  id_eq : r.id = some id
  /-- It has a result or an error, and only one of them. -/
  xor_eq : (r.result.isSome ^^ r.error.isSome) = true
  /-- It is written with the id and one of the two. -/
  keys_eq : r.members.map Prod.fst = ["jsonrpc", "id", "result"] ∨
    r.members.map Prod.fst = ["jsonrpc", "id", "error"]

/-- What is owed to a line, by what it holds: a response to a request with an id, the response that
reports a line that cannot be read, and nothing to any other line. -/
def Owes : Incoming → Option Response → Prop
  | .blank, answer | .response _, answer => answer = none
  | .malformed, answer => answer = some (.failure none .parseError)
  | .request r, answer =>
    match r.id with
    | none => answer = none
    | some id => ∃ response, answer = some response ∧ response.Answers id

/-! ## What a line holds -/

section Holds

variable {line : String}

/-- A line of blanks holds nothing. -/
lemma ofLine_of_blank (hblank : ∀ c ∈ line.toList, Text.isBlank c = true) :
    Incoming.ofLine line = .blank := by
  rw [Incoming.ofLine, Text.trim_eq_nil_iff.mpr hblank]
  rfl

/-- A line without a document is malformed if it is not blank. -/
lemma ofLine_of_read?_eq_none (hblank : ∃ c ∈ line.toList, Text.isBlank c = false)
    (hread : Document.read? (Text.trim line.toList) = none) :
    Incoming.ofLine line = .malformed := by
  have htext : (Text.trim line.toList).isEmpty = false := by
    obtain ⟨c, hc, hshown⟩ := hblank
    exact List.isEmpty_eq_false_iff_exists_mem.mpr ⟨c, (Text.mem_trim hshown _).mpr hc⟩
  simp only [Incoming.ofLine, htext, hread]
  rfl

/-- A line is read as something that it holds. -/
lemma holds_ofLine (line : String) : Holds line (Incoming.ofLine line) := by
  by_cases hblank : ∀ c ∈ line.toList, Text.isBlank c = true
  · rw [ofLine_of_blank hblank]
    exact .blank hblank
  push Not at hblank
  simp only [ne_eq, Bool.not_eq_true] at hblank
  cases hread : Document.read? (Text.trim line.toList) with
  | none =>
    rw [ofLine_of_read?_eq_none hblank hread]
    exact .malformed hblank (by simp [hread])
  | some d =>
    rw [Incoming.ofLine_eq hread, Incoming.ofDocument]
    cases hrequest : request? d with
    | some r => exact .request hread hrequest
    | none =>
      cases hresponse : response? d with
      | some r => exact .response hread hrequest hresponse
      | none =>
        refine .malformed hblank fun e he => ?_
        obtain rfl : d = e := Option.some.inj (hread.symm.trans he)
        exact ⟨hrequest, hresponse⟩

/-- **What a line is read as.** A line holds one thing, and that is what is read. -/
theorem ofLine_eq_iff_holds {i : Incoming} : Incoming.ofLine line = i ↔ Holds line i := by
  refine ⟨fun h => h ▸ holds_ofLine line, fun h => ?_⟩
  cases h with
  | blank hblank => exact ofLine_of_blank hblank
  | request hread hrequest => rw [Incoming.ofLine_eq hread, Incoming.ofDocument, hrequest]
  | response hread hrequest hresponse =>
    rw [Incoming.ofLine_eq hread, Incoming.ofDocument, hrequest, hresponse]
  | malformed hblank hnone =>
    cases hread : Document.read? (Text.trim line.toList) with
    | none => exact ofLine_of_read?_eq_none hblank hread
    | some d =>
      obtain ⟨hrequest, hresponse⟩ := hnone d hread
      rw [Incoming.ofLine_eq hread, Incoming.ofDocument_eq_malformed hrequest hresponse]

end Holds

namespace Response

/-- A response that reports an outcome answers the request. -/
lemma answers_ofOutcome (id : RequestId) (outcome : Except ProtocolError Json) :
    (ofOutcome (some id) outcome).Answers id := by
  cases outcome with
  | ok result => exact ⟨rfl, rfl, .inl rfl⟩
  | error e => exact ⟨rfl, rfl, .inr rfl⟩

/-- A refusal answers the request. -/
lemma answers_failure (id : RequestId) (error : RpcError) :
    (failure (some id) error).Answers id :=
  ⟨rfl, rfl, .inr rfl⟩

/-- A response is written on one line. -/
theorem newline_not_mem_line (r : Response) : '\n' ∉ r.line.toList := by
  rw [line, Json.compact, String.toList_ofList]
  exact (Json.isPlain_chars _).newline_not_mem

end Response

namespace Session

variable {τ : Type} (h : Handler τ)

/-! ## One line -/

/-- Serving a request with an id gives a response that answers it. -/
lemma serve_answers (s : Session τ) {r : Request} {id : RequestId} (hid : r.id = some id) :
    (s.serve h r).1.Answers id := by
  rw [serve]
  split
  · simpa [Handler.dispatch, hid] using
      Response.answers_ofOutcome id (h.outcome r.method r.params s.state).1
  · rw [hid]
    exact Response.answers_failure id _

/-- A session gives each line what it is owed. -/
theorem owes_step (s : Session τ) (line : String) :
    Owes (Incoming.ofLine line) (s.step h line).1 := by
  rw [step]
  cases Incoming.ofLine line with
  | blank => rfl
  | response r => rfl
  | malformed => rfl
  | request r =>
    cases hid : r.id with
    | none => simp [Owes, react, Request.isNotification, hid]
    | some id =>
      have hanswers := serve_answers h s hid
      simpa [Owes, react, Request.isNotification, hid] using hanswers

/-! ## All lines -/

/-- **Which lines a session takes.** A session that is going takes the lines up to the first
shutdown after a greeting.

**Proof sketch.** Induction on the lines, for every session that is going. After a shutdown the
session is over and takes nothing more; after any other line it is going, and has begun the
handshake if it had or if the line is a greeting (`Lifecycle.IsGoing.next_of_not_shutdown`). -/
theorem map_fst_history {s : Session τ} (hgoing : s.lifecycle.IsGoing) (lines : List String) :
    (s.history h lines).map Prod.fst = takenLines (s.lifecycle != .created) lines := by
  induction lines generalizing s with
  | nil => rfl
  | cons line rest ih =>
    rw [history, isOver_of_isGoing hgoing, if_neg Bool.false_ne_true, List.map_cons, takenLines]
    split
    · next hshut =>
      have hlast : (s.step h line).2.isOver = true := by
        rw [isOver, step_lifecycle, hgoing.next_of_shutdown hshut]
        rfl
      rw [history_of_isOver h hlast, List.map_nil]
    · next hshut =>
      obtain ⟨hnext, hcreated⟩ := hgoing.next_of_not_shutdown hshut
      rw [← step_lifecycle h] at hnext hcreated
      rw [ih hnext, hcreated]

/-- A session gives each line that it takes what it is owed. -/
lemma forall₂_owes_history (s : Session τ) (lines : List String) :
    List.Forall₂ (fun line answer => Owes (Incoming.ofLine line) answer)
      ((s.history h lines).map Prod.fst) ((s.history h lines).map Prod.snd) := by
  induction lines generalizing s with
  | nil => exact .nil
  | cons line rest ih =>
    rw [history]
    split
    · exact .nil
    · exact .cons (owes_step h s line) (ih _)

/-! ## The output -/

/-- The lines of the output are those of the responses. -/
lemma pieces_outputOf (responses : List Response) :
    Text.pieces '\n' (outputOf responses).toList =
      responses.map (fun r => r.line.toList) ++ [[]] := by
  rw [outputOf, String.toList_join]
  induction responses with
  | nil => rfl
  | cons r rest ih =>
    rw [List.map_cons, List.flatMap_cons, String.toList_append,
      show "\n".toList = ['\n'] by rfl, List.append_assoc, List.singleton_append,
      Text.pieces_append_sep r.newline_not_mem_line, ih, List.map_cons, List.cons_append]

/-- **The answer law.** A run of a new session takes the lines up to and including the first
shutdown after a greeting, and gives each of them, in order, what it is owed for what it holds: one
response with its id to a request that has one, one report to a line that cannot be read, and
nothing to any other line. It gives nothing else, writes each response on a line of its own, and
ends stopped. -/
theorem run_answer_law (t : τ) (lines : List String) :
    (∀ line i, Incoming.ofLine line = i ↔ Holds line i) ∧
    ∃ answers : List (Option Response),
      List.Forall₂ (fun line answer => Owes (Incoming.ofLine line) answer)
        (takenLines false lines) answers ∧
      ((start t).run h lines).1 = answers.reduceOption ∧
      (∀ r ∈ ((start t).run h lines).1, '\n' ∉ r.line.toList) ∧
      Text.pieces '\n' (outputOf ((start t).run h lines).1).toList =
        ((start t).run h lines).1.map (fun r => r.line.toList) ++ [[]] ∧
      ((start t).run h lines).2.lifecycle = .stopped := by
  have htaken := map_fst_history h (s := start t) ⟨nofun, nofun⟩ lines
  have howes := forall₂_owes_history h (start t) lines
  rw [htaken] at howes
  refine ⟨fun line i => ofLine_eq_iff_holds, _, howes, ?_, fun r _ => r.newline_not_mem_line,
    pieces_outputOf _, by rw [run_eq]⟩
  have hanswered : ((start t).history h lines).filterMap Prod.snd =
      (((start t).history h lines).map Prod.snd).filterMap id := by
    rw [List.filterMap_map, Function.id_comp]
  rw [run_eq]
  exact hanswered

/-- A handler that greets everybody and has no tools. -/
def toolless : Handler Unit where
  greet _ := Service.constant ⟨protocolVersion, ⟨none, none⟩, ⟨"server", "1"⟩, none⟩
  confirm := Service.constant ()
  shutdown := Service.constant ()
  listTools := Service.constant ⟨[], none⟩
  callTool call := Service.missing call.name

/-- A greeting, a blank line, a line that is broken off, a ping, a shutdown and a ping after it. -/
def brokenLines : List String :=
  [r#"{"jsonrpc":"2.0","id":1,"method":"initialize"}"#, "  ", r#"{"jsonrpc":"2.0","id":1"#,
    r#"{"jsonrpc":"2.0","id":2,"method":"ping"}"#,
    r#"{"jsonrpc":"2.0","id":3,"method":"shutdown"}"#,
    r#"{"jsonrpc":"2.0","id":4,"method":"ping"}"#]

/-- What is written for them. -/
def brokenAnswers : List String :=
  [r#"{"jsonrpc":"2.0","id":1,"error":{"code":-32602,"message":"Invalid params: Missing params"}}"#,
    r#"{"jsonrpc":"2.0","id":null,"error":{"code":-32700,"message":"Parse error"}}"#,
    r#"{"jsonrpc":"2.0","id":2,"result":{}}"#, r#"{"jsonrpc":"2.0","id":3,"result":null}"#]

/-- The lines up to the shutdown are answered, the greeting without parameters by an error, the
blank line by nothing and the broken line by the report of a parse error. -/
theorem run_answer_law_of_brokenLines :
    takenLines false brokenLines = brokenLines.take 5 ∧
    (∃ answers : List (Option Response),
      List.Forall₂ (fun line answer => Owes (Incoming.ofLine line) answer)
        (brokenLines.take 5) answers ∧
      ((start ()).run toolless brokenLines).1 = answers.reduceOption) ∧
    ((start ()).run toolless brokenLines).1.map Response.line = brokenAnswers := by
  have htaken : takenLines false brokenLines = brokenLines.take 5 := by decide +kernel
  obtain ⟨-, answers, howes, hrun, -⟩ := run_answer_law toolless () brokenLines
  rw [htaken] at howes
  exact ⟨htaken, ⟨answers, howes, hrun⟩, by decide +kernel⟩

end Session

end PgGateway.Rpc
