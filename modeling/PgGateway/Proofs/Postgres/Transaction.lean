import PgGateway.Postgres.Pool
import Mathlib.Tactic.Common

set_option autoImplicit false

/-!
# Transactions

A server can be watched while it serves: the watched server replies as the one under it does and
keeps, beside its state, the requests that it got and the replies that it gave. So what a
transaction asks of a server can be said whatever the server replies. Statements are sent as they
are. One that ends the transaction by its own text is for the server to tell from the others, which
is why what a server keeps is said of the statements that are sent.

## Main definitions

* `PgGateway.Exchange` — a request and its reply.
* `PgGateway.Backend.watched` — the server that is watched.
* `PgGateway.Pool.Course` — the exchanges of a transaction, and its outcome.
* `PgGateway.Pool.Keeps` — a server that keeps what is committed while a transaction is unfinished.

## Main results

* `PgGateway.Pool.transaction_all_or_nothing` — what a transaction exchanges with any server, and
  that nothing changes for good unless all statements succeed.
-/

namespace PgGateway

variable {β : Type}

/-- A request that a server got, and its reply. -/
inductive Exchange where
  /-- A request that encloses a transaction. -/
  | control (c : Control) (reply : Except Fault Unit)
  /-- A statement. -/
  | statement (sql : String) (reply : Except Fault Answer)

/-- The server that replies as another does and keeps its exchanges. -/
def Backend.watched (b : Backend β) : Backend (β × List Exchange) where
  connect s := ((b.connect s.1).1, (b.connect s.1).2, s.2)
  run sql s :=
    let (reply, server) := b.run sql s.1
    (reply, server, s.2 ++ [.statement sql reply])
  control c s :=
    let (reply, server) := b.control c s.1
    (reply, server, s.2 ++ [.control c reply])

/-- A statement has the reply that it has if the server is not watched. -/
lemma Backend.run_watched {b : Backend β} {sql : String} {server server' : β}
    {reply : Except Fault Answer} (h : b.run sql server = (reply, server'))
    (before : List Exchange) :
    b.watched.run sql (server, before) = (reply, server', before ++ [.statement sql reply]) := by
  simp only [watched, h]

/-- A request that encloses a transaction has the reply that it has if the server is not watched. -/
lemma Backend.control_watched {b : Backend β} {c : Control} {server server' : β}
    {reply : Except Fault Unit} (h : b.control c server = (reply, server'))
    (before : List Exchange) :
    b.watched.control c (server, before) = (reply, server', before ++ [.control c reply]) := by
  simp only [watched, h]

namespace Pool

/-- The pool whose server is watched and had the given exchanges. -/
def seen (p : Pool β) (exchanges : List Exchange) : Pool (β × List Exchange) :=
  ⟨(p.server, exchanges), p.isOpen⟩

/-- What becomes of a call whose server is watched and had the given exchanges. -/
def seenBy {α : Type} (called : α × Pool β) (exchanges : List Exchange) :
    α × Pool (β × List Exchange) :=
  (called.1, called.2.seen exchanges)

/-- A connection is made as if the server were not watched. -/
lemma checkout_watched {b : Backend β} {p q : Pool β} (h : checkout b p = (.ok (), q))
    (before : List Exchange) : checkout b.watched (p.seen before) = (.ok (), q.seen before) := by
  obtain ⟨server, isOpen⟩ := p
  cases isOpen with
  | true =>
    cases h
    rfl
  | false =>
    simp only [checkout, seen, Backend.watched, Bool.false_eq_true, if_false] at h ⊢
    rcases hconnect : b.connect server with ⟨accepted, server'⟩
    rw [hconnect] at h
    cases accepted with
    | true =>
      cases h
      rfl
    | false => cases h

/-! ## The course of a transaction -/

/-- How a transaction is taken back after a fault: the server is asked to, whether it reported an
error or does not answer, and a connection that is closed is left. -/
inductive TakenBack : Fault → List Exchange → Prop
  /-- The server is asked. -/
  | asked {f : Fault} (hf : f ≠ .closed) (reply : Except Fault Unit) :
    TakenBack f [.control .rollback reply]
  /-- The connection is left. -/
  | left : TakenBack .closed []

/-- The exchanges of a transaction that starts and whose statements are answered so far. -/
def answered (done : List (String × Answer)) : List Exchange :=
  .control .start (.ok ()) :: done.map fun s => .statement s.1 (.ok s.2)

/-- The numbers of affected rows of the statements that are answered. -/
def counts (done : List (String × Answer)) : List Nat :=
  done.map fun s => s.2.affected

/-- The error of the statement in the given place. -/
def statementFailed (index : Nat) (detail : String) : DatabaseError :=
  .transaction ("statement " ++ toString index ++ " failed: " ++ detail)

/-- What a transaction may exchange with a server, in order, and its outcome then. Only the
transaction in which all statements are answered is asked to be committed, and only if it is, there
are counts: one for each statement, in order. -/
inductive Course (timeout : Span) (statements : List String) :
    List Exchange → Except DatabaseError (List Nat) → Prop
  /-- It does not start, and no statement is sent. -/
  | notStarted {f : Fault} {back : List Exchange} (hback : TakenBack f back) :
    Course timeout statements (.control .start (.error f) :: back)
      (.error (errorOf timeout .transaction f))
  /-- The statements `done` are answered, and the next one fails: it is the last one that is sent,
  and the error names its place. -/
  | failed {done : List (String × Answer)} {sql : String} {rest : List String} {f : Fault}
    {back : List Exchange} (hall : statements = done.map Prod.fst ++ sql :: rest)
    (hback : TakenBack f back) :
    Course timeout statements (answered done ++ .statement sql (.error f) :: back)
      (.error (errorOf timeout (statementFailed done.length) f))
  /-- All statements are answered, and it is not committed. -/
  | notCommitted {done : List (String × Answer)} {f : Fault}
    (hall : statements = done.map Prod.fst) :
    Course timeout statements (answered done ++ [.control .commit (.error f)])
      (.error (errorOf timeout .transaction f))
  /-- All statements are answered, and it is committed. -/
  | committed {done : List (String × Answer)} (hall : statements = done.map Prod.fst) :
    Course timeout statements (answered done ++ [.control .commit (.ok ())]) (.ok (counts done))

/-- Whether a server keeps what `view` shows of it while a transaction with the statements is
unfinished: by starting a transaction, by each of the statements once it is started, and by taking
it back. A statement that is answered leaves the transaction started. -/
structure Keeps {γ : Type} (b : Backend β) (statements : List String) (view : β → γ)
    (IsStarted : β → Prop) : Prop where
  /-- Starting keeps it. -/
  start (s : β) : view (b.control .start s).2 = view s
  /-- A transaction that starts is started. -/
  isStarted (s : β) : (b.control .start s).1 = .ok () → IsStarted (b.control .start s).2
  /-- A statement keeps it. -/
  run (sql : String) (s : β) : sql ∈ statements → IsStarted s → view (b.run sql s).2 = view s
  /-- The transaction goes on after a statement that is answered. -/
  isStarted_run (sql : String) (s : β) (answer : Answer) : sql ∈ statements → IsStarted s →
    (b.run sql s).1 = .ok answer → IsStarted (b.run sql s).2
  /-- Taking back keeps it. -/
  rollback (s : β) : view (b.control .rollback s).2 = view s

/-- Taking back asks for nothing to be committed. -/
lemma TakenBack.commit_not_mem {f : Fault} {back : List Exchange} (h : TakenBack f back)
    (reply : Except Fault Unit) : .control .commit reply ∉ back := by
  cases h with
  | asked => simp
  | left => exact List.not_mem_nil

/-- Statements that are answered ask for nothing to be committed. -/
lemma commit_not_mem_answered (done : List (String × Answer)) (reply : Except Fault Unit) :
    .control .commit reply ∉ answered done := by
  simp [answered]

/-- A transaction is asked to be committed only at its end, when all statements are answered. -/
lemma Course.eq_of_commit_mem {timeout : Span} {statements : List String} {log : List Exchange}
    {outcome : Except DatabaseError (List Nat)} (h : Course timeout statements log outcome)
    {reply : Except Fault Unit} (hmem : .control .commit reply ∈ log) :
    ∃ done reply, statements = done.map Prod.fst ∧
      log = answered done ++ [.control .commit reply] := by
  cases h with
  | notStarted hback =>
    rcases List.mem_cons.mp hmem with hstart | hmem
    · cases hstart
    · exact absurd hmem (hback.commit_not_mem reply)
  | @failed done sql rest f back hall hback =>
    rcases List.mem_append.mp hmem with hmem | hmem
    · exact absurd hmem (commit_not_mem_answered done reply)
    · rcases List.mem_cons.mp hmem with hstatement | hmem
      · cases hstatement
      · exact absurd hmem (hback.commit_not_mem reply)
  | notCommitted hall => exact ⟨_, _, hall, rfl⟩
  | committed hall => exact ⟨_, _, hall, rfl⟩

/-- An unfinished transaction is taken back as if the server were not watched. -/
lemma abandon_watched (b : Backend β) (server : β) (f : Fault) :
    ∃ back, TakenBack f back ∧ ∀ before,
      abandon b.watched (server, before) f = (abandon b server f).seen (before ++ back) := by
  cases f with
  | rejected | stalled =>
    exact ⟨_, .asked (by decide) (b.control .rollback server).1, fun before => rfl⟩
  | closed =>
    refine ⟨[], .left, fun before => ?_⟩
    rw [List.append_nil]
    rfl

/-- Taking back an unfinished transaction keeps what is committed. -/
lemma Keeps.view_abandon {γ : Type} {b : Backend β} {statements : List String} {view : β → γ}
    {IsStarted : β → Prop} (h : Keeps b statements view IsStarted) (server : β) (f : Fault) :
    view (abandon b server f).server = view server := by
  cases f with
  | rejected | stalled => exact h.rollback server
  | closed => rfl

/-- What the statements that are left of a started transaction exchange with a server that has
answered those in `done`.

**Proof sketch.** By induction on the statements that are left. If there are none, the transaction
is to be committed. A statement that is answered is added to `done`, and the transaction goes on.
One that fails ends it, and it is taken back. -/
lemma runAll_course (b : Backend β) (timeout : Span) {statements : List String} :
    ∀ (rest : List String) (done : List (String × Answer)) (server : β),
      statements = done.map Prod.fst ++ rest →
      ∃ log,
        (∀ before, runAll b.watched timeout done.length (counts done) (server, before) rest =
          seenBy (runAll b timeout done.length (counts done) server rest) (before ++ log)) ∧
        Course timeout statements (answered done ++ log)
          (runAll b timeout done.length (counts done) server rest).1 := by
  intro rest
  induction rest with
  | nil =>
    intro done server hall
    rw [List.append_nil] at hall
    rcases hcommit : b.control .commit server with ⟨reply, server'⟩
    refine ⟨[.control .commit reply], ?_⟩
    cases reply with
    | ok _ =>
      simp only [runAll, Backend.control_watched hcommit, hcommit]
      exact ⟨fun before => rfl, .committed hall⟩
    | error f =>
      simp only [runAll, Backend.control_watched hcommit, hcommit]
      exact ⟨fun before => rfl, .notCommitted hall⟩
  | cons sql rest ih =>
    intro done server hall
    rcases hrun : b.run sql server with ⟨reply, server'⟩
    cases reply with
    | ok answer =>
      have hall' : statements = (done ++ [(sql, answer)]).map Prod.fst ++ rest := by
        rw [hall, List.map_append, List.append_assoc]
        rfl
      have hcounts : counts (done ++ [(sql, answer)]) = counts done ++ [answer.affected] :=
        List.map_append
      have hanswered : answered (done ++ [(sql, answer)]) =
          answered done ++ [.statement sql (.ok answer)] :=
        congrArg (_ :: ·) List.map_append
      obtain ⟨log, hwatched, hcourse⟩ := ih (done ++ [(sql, answer)]) server' hall'
      rw [hcounts, List.length_append, List.length_singleton] at hwatched hcourse
      rw [hanswered] at hcourse
      refine ⟨.statement sql (.ok answer) :: log, fun before => ?_, ?_⟩
      · simp only [runAll, Backend.run_watched hrun, hrun]
        rw [List.append_cons before _ log]
        exact hwatched _
      · simp only [runAll, hrun]
        rw [List.append_cons (answered done)]
        exact hcourse
    | error f =>
      obtain ⟨back, hback, hwatched⟩ := abandon_watched b server' f
      refine ⟨.statement sql (.error f) :: back, fun before => ?_, ?_⟩
      · simp only [runAll, Backend.run_watched hrun, hrun]
        rw [List.append_cons before _ back]
        exact congrArg (Prod.mk _) (hwatched _)
      · simp only [runAll, hrun]
        exact .failed hall hback

/-- The statements of a started transaction keep what is committed, unless the transaction is asked
to be committed.

**Proof sketch.** By induction on the statements that are left: as long as they are answered, the
transaction stays started. -/
lemma Keeps.view_runAll {γ : Type} {b : Backend β} {statements : List String} {view : β → γ}
    {IsStarted : β → Prop} (h : Keeps b statements view IsStarted) (timeout : Span) :
    ∀ (rest : List String) (index : Nat) (counts : List Nat) (server : β)
      (before : List Exchange), (∀ sql ∈ rest, sql ∈ statements) → IsStarted server →
      (∃ reply, .control .commit reply ∈
        (runAll b.watched timeout index counts (server, before) rest).2.server.2) ∨
      view (runAll b timeout index counts server rest).2.server = view server := by
  intro rest
  induction rest with
  | nil =>
    intro index counts server before _ _
    left
    rcases hcommit : b.control .commit server with ⟨reply, server'⟩
    refine ⟨reply, ?_⟩
    cases reply with
    | ok _ =>
      simp only [runAll, Backend.control_watched hcommit]
      exact List.mem_append_right _ (List.mem_singleton.mpr rfl)
    | error f =>
      simp only [runAll, Backend.control_watched hcommit, afterFault]
      exact List.mem_append_right _ (List.mem_singleton.mpr rfl)
  | cons sql rest ih =>
    intro index counts server before hrest hstarted
    have hmem := hrest sql List.mem_cons_self
    have hview := h.run sql server hmem hstarted
    rcases hrun : b.run sql server with ⟨reply, server'⟩
    rw [hrun] at hview
    cases reply with
    | ok answer =>
      have hstarted' : IsStarted server' := by
        have := h.isStarted_run sql server answer hmem hstarted
        rw [hrun] at this
        exact this rfl
      simp only [runAll, Backend.run_watched hrun, hrun]
      have hrest' := fun sql' h' => hrest sql' (List.mem_cons_of_mem sql h')
      exact (ih (index + 1) _ server' _ hrest' hstarted').imp_right fun heq => heq.trans hview
    | error f =>
      right
      simp only [runAll, hrun]
      exact (h.view_abandon server' f).trans hview

/-- A transaction that starts runs its statements. -/
lemma transaction_of_start {b : Backend β} {p q : Pool β} {server : β} (statements : List String)
    (timeout : Span) (hconnected : checkout b p = (.ok (), q))
    (hstart : b.control .start q.server = (.ok (), server)) :
    transaction b statements timeout p = runAll b timeout 0 [] server statements := by
  rw [transaction, hconnected]
  simp only [hstart]

/-- A transaction that does not start runs nothing. -/
lemma transaction_of_start_error {b : Backend β} {p q : Pool β} {server : β} {f : Fault}
    (statements : List String) (timeout : Span) (hconnected : checkout b p = (.ok (), q))
    (hstart : b.control .start q.server = (.error f, server)) :
    transaction b statements timeout p =
      (.error (errorOf timeout .transaction f), abandon b server f) := by
  rw [transaction, hconnected]
  simp only [hstart]

/-- **All or nothing.** Whatever a server replies, a transaction on a connection exchanges with it
what `Course` says, and nothing else: it is started, its statements are sent in order up to the
first one that fails, and it is asked to be committed only if all of them are answered. It has
counts only if it is committed, one for each statement in order, and the error of a statement that
fails names its place. A server that keeps what is committed while a transaction is unfinished has
the same committed at the end, unless all statements are answered and it is asked to commit them.

**Proof sketch.** The request that starts the transaction fails, so that no statement is sent
(`transaction_of_start_error`), or leads to the statements (`transaction_of_start`). Of those
`runAll_course` tells the exchanges, and `Keeps.view_runAll` what is kept. -/
theorem transaction_all_or_nothing {b : Backend β} {p q : Pool β} (statements : List String)
    (timeout : Span) (hconnected : checkout b p = (.ok (), q)) :
    ∃ log,
      (∀ before, transaction b.watched statements timeout (p.seen before) =
        seenBy (transaction b statements timeout p) (before ++ log)) ∧
      Course timeout statements log (transaction b statements timeout p).1 ∧
      ∀ {γ : Type} {view : β → γ} {IsStarted : β → Prop},
        Keeps b statements view IsStarted →
        view (transaction b statements timeout p).2.server = view q.server ∨
          ∃ done reply, statements = done.map Prod.fst ∧
            log = answered done ++ [.control .commit reply] := by
  rcases hstart : b.control .start q.server with ⟨reply, server⟩
  have hview {γ : Type} {view : β → γ} {IsStarted : β → Prop}
      (keeps : Keeps b statements view IsStarted) : view server = view q.server := by
    rw [← keeps.start q.server, hstart]
  cases reply with
  | error f =>
    obtain ⟨back, hback, hwatched⟩ := abandon_watched b server f
    have hcall := transaction_of_start_error statements timeout hconnected hstart
    refine ⟨.control .start (.error f) :: back, fun before => ?_, ?_, fun keeps => .inl ?_⟩
    · rw [hcall, transaction_of_start_error statements timeout
        (checkout_watched hconnected before) (Backend.control_watched hstart before),
        List.append_cons before _ back]
      exact congrArg (Prod.mk _) (hwatched _)
    · rw [hcall]
      exact .notStarted hback
    · rw [hcall]
      exact (keeps.view_abandon server f).trans (hview keeps)
  | ok _ =>
    obtain ⟨log, hwatched, hcourse⟩ := runAll_course b timeout statements [] server rfl
    have hcall := transaction_of_start statements timeout hconnected hstart
    refine ⟨.control .start (.ok ()) :: log, fun before => ?_, ?_, fun keeps => ?_⟩
    · rw [hcall, transaction_of_start statements timeout
        (checkout_watched hconnected before) (Backend.control_watched hstart before),
        List.append_cons before _ log]
      exact hwatched _
    · rw [hcall]
      exact hcourse
    · have hstarted := keeps.isStarted q.server
      rw [hstart] at hstarted
      rw [hcall]
      rcases keeps.view_runAll timeout statements 0 [] server [] (fun _ h => h) (hstarted rfl) with
        ⟨reply, hreply⟩ | hsame
      · have hseen : (runAll b.watched timeout 0 [] (server, []) statements).2.server.2 = log :=
          congrArg (fun called => called.2.server.2) (hwatched [])
        rw [hseen] at hreply
        exact .inr (hcourse.eq_of_commit_mem (List.mem_cons_of_mem _ hreply))
      · exact .inl (hsame.trans (hview keeps))

/-- A server that keeps a journal of the statements that it has run. -/
structure Journal where
  /-- The statements that are committed. -/
  committed : List String
  /-- The statements of the transaction that is started, if there is one. -/
  started : Option (List String)

/-- The server with a journal, which reports an error for some statements. -/
def Journal.backend (rejects : String → Bool) : Backend Journal where
  connect s := (true, s)
  run sql s :=
    if rejects sql then (.error .rejected, s)
    else
      match s.started with
      | some pending => (.ok ⟨[], [], 1⟩, ⟨s.committed, some (pending ++ [sql])⟩)
      | none => (.ok ⟨[], [], 1⟩, ⟨s.committed ++ [sql], none⟩)
  control c s :=
    match c with
    | .start => (.ok (), ⟨s.committed, some []⟩)
    | .commit => (.ok (), ⟨s.committed ++ s.started.getD [], none⟩)
    | .rollback => (.ok (), ⟨s.committed, none⟩)

/-- A server with a journal keeps what is committed while a transaction is unfinished. -/
lemma Journal.keeps (rejects : String → Bool) (statements : List String) :
    Keeps (Journal.backend rejects) statements Journal.committed fun s => s.started.isSome where
  start _ := rfl
  isStarted _ _ := rfl
  run sql s _ hstarted := by
    obtain ⟨pending, hpending⟩ := Option.isSome_iff_exists.mp hstarted
    cases hrejects : rejects sql with
    | true => simp only [backend, hrejects, if_true]
    | false => simp only [backend, hrejects, hpending, Bool.false_eq_true, if_false]
  isStarted_run sql s answer _ hstarted hanswer := by
    obtain ⟨pending, hpending⟩ := Option.isSome_iff_exists.mp hstarted
    cases hrejects : rejects sql with
    | true => simp only [backend, hrejects, if_true, reduceCtorEq] at hanswer
    | false => simp only [backend, hrejects, hpending, Bool.false_eq_true, if_false, Option.isSome]
  rollback _ := rfl

/-- The second of three statements fails: the third one is not sent, the transaction is taken back,
and the error names the second one. -/
theorem transaction_all_or_nothing_of_second_failed :
    let b := Journal.backend fun sql => sql == "INSERT INTO u VALUES (1)"
    let statements := ["INSERT INTO t VALUES (1)", "INSERT INTO u VALUES (1)", "DELETE FROM t"]
    let p : Pool Journal := ⟨⟨["CREATE TABLE t (a int)"], none⟩, true⟩
    checkout b p = (.ok (), p) ∧
      (transaction b statements ⟨1, 0⟩ p).1 =
        .error (.transaction "statement 1 failed: db error") ∧
      (transaction b.watched statements ⟨1, 0⟩ (p.seen [])).2.server.2 =
        [.control .start (.ok ()), .statement "INSERT INTO t VALUES (1)" (.ok ⟨[], [], 1⟩),
          .statement "INSERT INTO u VALUES (1)" (.error .rejected), .control .rollback (.ok ())] ∧
      (transaction b statements ⟨1, 0⟩ p).2.server.committed = ["CREATE TABLE t (a int)"] := by
  intro b statements p
  have hconnected : checkout b p = (.ok (), p) := rfl
  obtain ⟨log, hwatched, -, hkept⟩ := transaction_all_or_nothing statements ⟨1, 0⟩ hconnected
  have hlog : [.control .start (.ok ()), .statement "INSERT INTO t VALUES (1)" (.ok ⟨[], [], 1⟩),
      .statement "INSERT INTO u VALUES (1)" (.error .rejected),
      .control .rollback (.ok ())] = log :=
    congrArg (fun called => called.2.server.2) (hwatched [])
  refine ⟨hconnected, rfl, rfl, (hkept (Journal.keeps _ statements)).resolve_right ?_⟩
  rintro ⟨done, reply, -, heq⟩
  have hlast := congrArg List.getLast? (hlog.trans heq)
  rw [List.getLast?_concat] at hlast
  simp at hlast

end Pool

end PgGateway
