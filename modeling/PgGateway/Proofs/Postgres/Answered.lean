import PgGateway.Proofs.Postgres.Transaction
import PgGateway.Proofs.Text.Digits

set_option autoImplicit false

/-!
# Statements that are answered

A server takes the statements of a transaction one after the other, and each in the state that the
one before has left. A list of statements may have entries that are passed over. Then the statement
that fails has one place among all entries and another one among those that are sent, and the error
names the latter.

## Main definitions

* `PgGateway.Pool.Answers` — a server that answers statements in order.
* `PgGateway.Pool.Begins`, `PgGateway.Pool.Commits` — a transaction that is started, and one that is
  committed.
* `PgGateway.Pool.FailsFirst` — the place of the first statement that fails.

## Main results

* `PgGateway.Pool.transaction_eq_ok_iff` — a transaction succeeds exactly if it is committed.
* `PgGateway.Pool.FailsFirst.transaction_eq` — the error of the first statement that fails.
* `PgGateway.Pool.names_statementFailed_iff` — which place an error names.
-/

namespace PgGateway.Pool

variable {β : Type} {b : Backend β}

/-! ## Success -/

/-- A server answers the statements, one after the other, and gets from one state to another. -/
inductive Answers (b : Backend β) : β → List (String × Answer) → β → Prop
  /-- There are none. -/
  | nil (server : β) : Answers b server [] server
  /-- The first one is answered, and then the others are. -/
  | cons {server next last : β} {sql : String} {answer : Answer} {done : List (String × Answer)}
    (hrun : b.run sql server = (.ok answer, next)) (hrest : Answers b next done last) :
    Answers b server ((sql, answer) :: done) last

/-- A transaction is started on a pool, and leaves the server in the given state. -/
def Begins (b : Backend β) (p : Pool β) (server : β) : Prop :=
  ∃ q, checkout b p = (.ok (), q) ∧ b.control .start q.server = (.ok (), server)

/-- A transaction on a pool is started, the statements are answered in order, it is committed, and
nothing else is asked of the server. -/
inductive Commits (b : Backend β) (p : Pool β) (done : List (String × Answer)) : Pool β → Prop
  /-- The connection stays open. -/
  | intro {server last final : β} (hbegins : Begins b p server)
    (hanswers : Answers b server done last) (hcommit : b.control .commit last = (.ok (), final)) :
    Commits b p done ⟨final, true⟩

/-- A started transaction that has no statements left succeeds exactly if it is committed. -/
lemma runAll_nil_eq_ok_iff {timeout : Span} {index : Nat} {before affected : List Nat} {server : β}
    {p : Pool β} :
    runAll b timeout index before server [] = (.ok affected, p) ↔
      ∃ final, b.control .commit server = (.ok (), final) ∧ affected = before ∧
        p = ⟨final, true⟩ := by
  rw [runAll]
  rcases b.control .commit server with ⟨reply, final⟩
  cases reply with
  | ok _ => simp [eq_comm]
  | error f => simp

/-- A started transaction succeeds exactly if all its statements are answered and it is committed.

**Proof sketch.** Induction on the statements. Each is answered, and the others are run in the state
that the server has then, or it fails and there is no success. -/
theorem runAll_eq_ok_iff {timeout : Span} {index : Nat} {before affected : List Nat} {server : β}
    {statements : List String} {p : Pool β} :
    runAll b timeout index before server statements = (.ok affected, p) ↔
      ∃ done last final, Answers b server done last ∧ done.map Prod.fst = statements ∧
        b.control .commit last = (.ok (), final) ∧ affected = before ++ counts done ∧
        p = ⟨final, true⟩ := by
  induction statements generalizing index before server with
  | nil =>
    rw [runAll_nil_eq_ok_iff]
    constructor
    · rintro ⟨final, hcommit, rfl, hp⟩
      exact ⟨[], server, final, .nil server, rfl, hcommit, (List.append_nil _).symm, hp⟩
    · rintro ⟨done, last, final, hanswers, hall, hcommit, haffected, hp⟩
      obtain rfl := List.map_eq_nil_iff.mp hall
      cases hanswers
      exact ⟨final, hcommit, haffected.trans (List.append_nil _), hp⟩
  | cons sql rest ih =>
    rw [runAll]
    rcases hrun : b.run sql server with ⟨reply, next⟩
    cases reply with
    | ok answer =>
      dsimp only
      rw [ih]
      constructor
      · rintro ⟨done, last, final, hanswers, rfl, hcommit, rfl, hp⟩
        exact ⟨(sql, answer) :: done, last, final, .cons hrun hanswers, rfl, hcommit,
          (List.append_cons ..).symm, hp⟩
      · rintro ⟨done, last, final, hanswers, hall, hcommit, rfl, hp⟩
        cases hanswers with
        | nil => cases hall
        | cons hrun' hrest =>
          obtain ⟨rfl, rfl⟩ := List.cons.inj hall
          rw [hrun] at hrun'
          cases hrun'
          exact ⟨_, last, final, hrest, rfl, hcommit, List.append_cons .., hp⟩
    | error f =>
      refine iff_of_false (by simp) ?_
      rintro ⟨done, last, final, hanswers, hall, -⟩
      cases hanswers with
      | nil => cases hall
      | cons hrun' hrest =>
        obtain ⟨rfl, -⟩ := List.cons.inj hall
        rw [hrun] at hrun'
        cases hrun'

/-- A transaction that is started runs its statements. -/
lemma Begins.transaction_eq {p : Pool β} {server : β} (h : Begins b p server)
    (statements : List String) (timeout : Span) :
    transaction b statements timeout p = runAll b timeout 0 [] server statements := by
  obtain ⟨q, hconnected, hstart⟩ := h
  exact transaction_of_start statements timeout hconnected hstart

/-- **Success of a transaction.** A transaction succeeds exactly if its statements are answered in
order between its start and its end, with the counts of the answers. -/
theorem transaction_eq_ok_iff {statements : List String} {timeout : Span} {affected : List Nat}
    {p p' : Pool β} :
    transaction b statements timeout p = (.ok affected, p') ↔
      ∃ done, done.map Prod.fst = statements ∧ Commits b p done p' ∧ affected = counts done := by
  constructor
  · intro h
    have hbegins : ∃ server, Begins b p server := by
      rw [transaction] at h
      rcases hconnected : checkout b p with ⟨connected, q⟩
      rw [hconnected] at h
      cases connected with
      | error e => cases h
      | ok _ =>
        dsimp only at h
        rcases hstart : b.control .start q.server with ⟨reply, server⟩
        rw [hstart] at h
        cases reply with
        | error f => cases h
        | ok _ => exact ⟨server, q, hconnected, hstart⟩
    obtain ⟨server, hbegins⟩ := hbegins
    rw [hbegins.transaction_eq, runAll_eq_ok_iff] at h
    obtain ⟨done, last, final, hanswers, hall, hcommit, haffected, rfl⟩ := h
    exact ⟨done, hall, .intro hbegins hanswers hcommit, haffected⟩
  · rintro ⟨done, hall, ⟨hbegins, hanswers, hcommit⟩, haffected⟩
    rw [hbegins.transaction_eq, runAll_eq_ok_iff]
    exact ⟨done, _, _, hanswers, hall, hcommit, haffected, rfl⟩

/-! ## Failure -/

/-- The entry in the given place of a list is the first of its statements that fails, where entries
that are blank are passed over. -/
inductive FailsFirst (b : Backend β) (blank : String → Bool) :
    β → List String → Nat → Fault → Prop
  /-- The first entry is a statement, and it fails. -/
  | here {server next : β} {sql : String} {rest : List String} {f : Fault}
    (hsql : blank sql = false) (hrun : b.run sql server = (.error f, next)) :
    FailsFirst b blank server (sql :: rest) 0 f
  /-- The first entry is passed over. -/
  | passed {server : β} {sql : String} {rest : List String} {place : Nat} {f : Fault}
    (hsql : blank sql = true) (hrest : FailsFirst b blank server rest place f) :
    FailsFirst b blank server (sql :: rest) (place + 1) f
  /-- The first entry is a statement, and it is answered. -/
  | answered {server next : β} {sql : String} {rest : List String} {answer : Answer} {place : Nat}
    {f : Fault} (hsql : blank sql = false) (hrun : b.run sql server = (.ok answer, next))
    (hrest : FailsFirst b blank next rest place f) :
    FailsFirst b blank server (sql :: rest) (place + 1) f

/-- How many entries of a list stand before a place and are not passed over. -/
def placeAmong (blank : String → Bool) (statements : List String) (place : Nat) : Nat :=
  (statements.take place).countP fun sql => !blank sql

/-- The first statement that fails is an entry of the list. -/
lemma FailsFirst.place_lt {blank : String → Bool} {server : β} {statements : List String}
    {place : Nat} {f : Fault} (h : FailsFirst b blank server statements place f) :
    place < statements.length := by
  induction h with
  | here => simp
  | passed _ _ ih => simpa using ih
  | answered _ _ _ ih => simpa using ih

/-- There is a statement that is not passed over. -/
lemma FailsFirst.filter_ne_nil {blank : String → Bool} {server : β} {statements : List String}
    {place : Nat} {f : Fault} (h : FailsFirst b blank server statements place f) :
    (statements.filter fun sql => !blank sql) ≠ [] := by
  induction h with
  | here hsql => simp [List.filter_cons_of_pos, hsql]
  | passed hsql _ ih => rwa [List.filter_cons_of_neg (by simp [hsql])]
  | answered hsql => simp [List.filter_cons_of_pos, hsql]

/-- A place in a list is that among the entries that are not passed over exactly if no entry before
it is. -/
lemma placeAmong_eq_iff {blank : String → Bool} {statements : List String} {place : Nat}
    (h : place < statements.length) :
    placeAmong blank statements place = place ↔
      ∀ sql ∈ statements.take place, blank sql = false := by
  have hlength : (statements.take place).length = place := List.length_take_of_le h.le
  conv_lhs => rhs; rw [← hlength]
  rw [placeAmong, List.countP_eq_length]
  simp

/-- The error of the first statement that fails names its place among those that are sent.

**Proof sketch.** Induction on the failure: an entry that is passed over counts in neither run nor
place, and a statement that is answered in both. -/
lemma FailsFirst.runAll_eq {blank : String → Bool} {server : β} {statements : List String}
    {place : Nat} {f : Fault} (h : FailsFirst b blank server statements place f) (timeout : Span)
    (index : Nat) (before : List Nat) :
    (runAll b timeout index before server (statements.filter fun sql => !blank sql)).1 =
      .error (errorOf timeout (statementFailed (index + placeAmong blank statements place)) f) := by
  induction h generalizing index before with
  | here hsql hrun =>
    rw [List.filter_cons_of_pos (by simp [hsql]), runAll, hrun]
    rfl
  | passed hsql hrest ih =>
    rw [List.filter_cons_of_neg (by simp [hsql]), ih, placeAmong, placeAmong, List.take_succ_cons,
      List.countP_cons_of_neg (by simp [hsql])]
  | answered hsql hrun hrest ih =>
    rw [List.filter_cons_of_pos (by simp [hsql]), runAll, hrun]
    dsimp only
    rw [ih, placeAmong, placeAmong, List.take_succ_cons, List.countP_cons_of_pos (by simp [hsql]),
      Nat.add_right_comm, Nat.add_assoc]

/-- **The first statement that fails.** If a transaction is started, its error names the place of
the first statement that fails among those that are sent. -/
theorem FailsFirst.transaction_eq {blank : String → Bool} {p : Pool β} {server : β}
    {statements : List String} {place : Nat} {f : Fault} (hbegins : Begins b p server)
    (h : FailsFirst b blank server statements place f) (timeout : Span) :
    (transaction b (statements.filter fun sql => !blank sql) timeout p).1 =
      .error (errorOf timeout (statementFailed (placeAmong blank statements place)) f) := by
  rw [hbegins.transaction_eq, h.runAll_eq, Nat.zero_add]

/-- An error that names a place names no other one.

**Proof sketch.** The number of the place ends at the first blank behind the word before it, and a
number is the value of its decimal text. -/
lemma eq_of_statementFailed_eq {i k : Nat} {detail detail' : String}
    (h : statementFailed i detail = statementFailed k detail') : i = k := by
  have hcut : ∀ (n : Nat) (s : String),
      Text.cutFirst [' '] (Nat.toDigits 10 n ++ ' ' :: ("failed: ".toList ++ s.toList)) =
        some (Nat.toDigits 10 n, "failed: ".toList ++ s.toList) := fun n s =>
    Text.cutFirst_eq_some.mpr
      ⟨rfl, fun hmem => absurd (Text.isDigits_toDigits n ' ' hmem) (by decide)⟩
  have htext : Nat.toDigits 10 i ++ ' ' :: ("failed: ".toList ++ detail.toList) =
      Nat.toDigits 10 k ++ ' ' :: ("failed: ".toList ++ detail'.toList) := by
    simpa [statementFailed] using congrArg String.toList (DatabaseError.transaction.inj h)
  have hsame : Nat.toDigits 10 i = Nat.toDigits 10 k :=
    congrArg Prod.fst (Option.some.inj ((hcut i detail).symm.trans (htext ▸ hcut k detail')))
  exact Option.some.inj (by rw [← Text.digitsValue?_toDigits i, hsame, Text.digitsValue?_toDigits])

/-- The error of a statement that the server refuses, or whose connection closes, names its place
and no other one. -/
theorem names_statementFailed_iff {timeout : Span} {i k : Nat} {f : Fault} (hf : f ≠ .stalled) :
    (∃ detail, errorOf timeout (statementFailed i) f = statementFailed k detail) ↔ k = i := by
  have herror : errorOf timeout (statementFailed i) f = statementFailed i f.message := by
    cases f with
    | rejected => rfl
    | closed => rfl
    | stalled => exact absurd rfl hf
  rw [herror]
  constructor
  · rintro ⟨detail, h⟩
    exact (eq_of_statementFailed_eq h).symm
  · rintro rfl
    exact ⟨_, rfl⟩

end PgGateway.Pool
