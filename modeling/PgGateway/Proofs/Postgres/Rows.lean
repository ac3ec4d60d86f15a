import PgGateway.Postgres.Pool
import Mathlib.Tactic.Common

set_option autoImplicit false

/-!
# Rows within a limit

A limit is kept in two ways: the server is asked for one row more than the limit, or it sends all
rows and the executor leaves out those beyond the limit. The result is the same.

## Main definitions

* `PgGateway.Pool.Fetched` — the rows that a server returns for a limited statement.
* `PgGateway.Pool.IsExact` — a result has the rows within the limit, and tells of the others.

## Main results

* `PgGateway.Pool.exists_fetched` — a statement is limited in one of the two ways.
* `PgGateway.Pool.query_of_fetched` — the rows of a result, and whether it tells that there are
  more.
-/

namespace PgGateway.Pool

variable {α β : Type}

/-- What a server returns for the limited form of a statement of which `all` are the rows: of a
statement that is wrapped as many as the wrapping asks for, and all of one that is sent as it is. -/
inductive Fetched (sql : String) (all : List α) : Option Nat → List α → Prop
  /-- The first rows, one more than the limit. -/
  | wrapped {n : Nat}
    (hsent : Sql.limited sql (some n) = Sql.wrapped (Sql.withoutTerminator sql) (n + 1)) :
    Fetched sql all (some n) (all.take (n + 1))
  /-- All rows. -/
  | whole {limit : Option Nat} (hsent : Sql.limited sql limit = Sql.withoutTerminator sql) :
    Fetched sql all limit all

/-- Whether a result has the right rows of a statement whose rows are `all`, and tells rightly
whether there are more: within a limit it has the first ones up to the limit, and it tells that
there are more if there are more than the limit. -/
def IsExact (columns : List Column) (all : List (List (Option Wire.Bytes))) :
    Option UInt32 → ResultSet → Prop
  | none, r => r.rows = all.map (rowOf columns) ∧ r.truncated = none
  | some n, r =>
    r.rows = (all.map (rowOf columns)).take n.toNat ∧ r.rows.length = min n.toNat all.length ∧
      r.truncated = some (decide (n.toNat < all.length))

/-- Every statement is sent in one of the two forms. -/
theorem exists_fetched (sql : String) (all : List α) (limit : Option Nat) :
    ∃ rows, Fetched sql all limit rows := by
  cases limit with
  | none => exact ⟨all, .whole rfl⟩
  | some n =>
    cases hform : Sql.isReadOnly (Sql.withoutTerminator sql) &&
        Sql.isNestable (Sql.withoutTerminator sql) with
    | true =>
      refine ⟨all.take (n + 1), .wrapped ?_⟩
      rw [Sql.limited]
      simp only [hform, if_true]
    | false =>
      refine ⟨all, .whole ?_⟩
      rw [Sql.limited]
      simp only [hform, Bool.false_eq_true, if_false]

/-- Of the rows that are returned within a limit, those within the limit are the first of all rows,
and there are more of them exactly if there are more of all. -/
lemma Fetched.take_eq {sql : String} {all rows : List α} {n : Nat}
    (h : Fetched sql all (some n) rows) :
    rows.take n = all.take n ∧ (n < rows.length ↔ n < all.length) := by
  cases h with
  | wrapped hsent =>
    constructor
    · rw [List.take_take, Nat.min_eq_left (Nat.le_succ n)]
    · rw [List.length_take]
      omega
  | whole hsent => exact ⟨rfl, Iff.rfl⟩

/-- Without a limit all rows are returned. -/
lemma Fetched.eq_all {sql : String} {all rows : List α} (h : Fetched sql all none rows) :
    rows = all := by
  cases h
  rfl

/-- A statement that is answered on a connection has the result of the answer. -/
lemma query_of_answer {b : Backend β} {sql : String} {limit : Option Nat} {p q : Pool β}
    {server : β} {answer : Answer} (timeout : Span) (hconnected : checkout b p = (.ok (), q))
    (hrun : b.run (Sql.limited sql limit) q.server = (.ok answer, server)) :
    query b sql limit timeout p = (.ok (resultOf answer limit), ⟨server, true⟩) := by
  rw [query, hconnected]
  simp only [run, hrun]

/-- The result of what is returned is exact. -/
lemma isExact_resultOf {sql : String} {limit : Option UInt32} {answer : Answer}
    {all : List (List (Option Wire.Bytes))}
    (h : Fetched sql all (limit.map UInt32.toNat) answer.rows) :
    IsExact answer.columns all limit (resultOf answer (limit.map UInt32.toNat)) := by
  cases limit with
  | none =>
    refine ⟨?_, rfl⟩
    rw [← h.eq_all]
    rfl
  | some n =>
    obtain ⟨htake, hmore⟩ := h.take_eq
    have hrows : (resultOf answer (some n.toNat)).rows =
        (all.map (rowOf answer.columns)).take n.toNat := by
      change (answer.rows.map (rowOf answer.columns)).take n.toNat = _
      rw [← List.map_take, ← List.map_take, htake]
    refine ⟨hrows, ?_, ?_⟩
    · change (resultOf answer (some n.toNat)).rows.length = _
      rw [hrows, List.length_take, List.length_map]
    · change some (decide (n.toNat < (answer.rows.map (rowOf answer.columns)).length)) = _
      rw [List.length_map, decide_eq_decide.mpr hmore]

/-- One more than a limit is a number of 64 bits. -/
lemma toNat_toUInt64_add_one (n : UInt32) : (n.toUInt64 + 1).toNat = n.toNat + 1 := by
  have hlt := n.toNat_lt
  rw [UInt64.toNat_add, UInt32.toNat_toUInt64, UInt64.toNat_one]
  exact Nat.mod_eq_of_lt (by omega)

/-- A wrapped statement asks for as many rows as a limit and one are in 64 bits. -/
lemma limited_toNat (sql : String) (n : UInt32) :
    Sql.limited sql (some n.toNat) =
      if Sql.isReadOnly (Sql.withoutTerminator sql) && Sql.isNestable (Sql.withoutTerminator sql)
      then Sql.wrapped (Sql.withoutTerminator sql) (n.toUInt64 + 1).toNat
      else Sql.withoutTerminator sql := by
  rw [toNat_toUInt64_add_one, Sql.limited]

/-- A result within a limit has as many rows as the limit is as a size. -/
lemma rows_resultOf_toNat (answer : Answer) (n : UInt32) :
    (resultOf answer (some n.toNat)).rows =
      (answer.rows.map (rowOf answer.columns)).take n.toUSize.toNat := by
  rw [UInt32.toNat_toUSize]
  rfl

/-- **Limits are exact.** Of a statement whose rows are `all`, a result within a limit has the first
rows up to the limit in order, as many as it tells, and tells that there are more exactly if there
are more than the limit; a result without a limit has all of them and tells nothing. It does not
matter whether the server left rows out or the executor did. One more than a limit is a number of
64 bits, and a limit is a size: the statement that is sent asks for the one, and the executor leaves
out the rows beyond the other.

**Proof sketch.** The result is made of the rows that are returned (`query_of_answer`). Their first
ones are the first ones of all rows, and there are more of them than the limit exactly if there are
more of all rows (`isExact_resultOf`). -/
theorem query_of_fetched {b : Backend β} {sql : String} {limit : Option UInt32} {p q : Pool β}
    {server : β} {answer : Answer} {all : List (List (Option Wire.Bytes))} (timeout : Span)
    (hconnected : checkout b p = (.ok (), q))
    (hrun : b.run (Sql.limited sql (limit.map UInt32.toNat)) q.server = (.ok answer, server))
    (hfetched : Fetched sql all (limit.map UInt32.toNat) answer.rows) :
    (∃ r, query b sql (limit.map UInt32.toNat) timeout p = (.ok r, ⟨server, true⟩) ∧
      r.columns = answer.columns ∧ r.rowCount = r.rows.length ∧
      IsExact answer.columns all limit r) ∧
    ∀ n : UInt32, (n.toUInt64 + 1).toNat = n.toNat + 1 ∧ n.toUSize.toNat = n.toNat ∧
      Sql.limited sql (some n.toNat) =
        (if Sql.isReadOnly (Sql.withoutTerminator sql) &&
            Sql.isNestable (Sql.withoutTerminator sql)
          then Sql.wrapped (Sql.withoutTerminator sql) (n.toUInt64 + 1).toNat
          else Sql.withoutTerminator sql) ∧
      (resultOf answer (some n.toNat)).rows =
        (answer.rows.map (rowOf answer.columns)).take n.toUSize.toNat := by
  refine ⟨⟨_, query_of_answer timeout hconnected hrun, ?_, ?_, isExact_resultOf hfetched⟩,
    fun n => ⟨toNat_toUInt64_add_one n, UInt32.toNat_toUSize n, limited_toNat sql n,
      rows_resultOf_toNat answer n⟩⟩
  · cases limit <;> rfl
  · cases limit <;> rfl

/-- A statement that is wrapped, of which there are more rows than the limit: the server returns
one row more than the limit, and the executor leaves it out and tells so. -/
theorem query_of_fetched_of_wrapped :
    let columns : List Column := [⟨"a", "bool"⟩]
    let all : List (List (Option Wire.Bytes)) := [[some [1]], [none], [some [0]], [some [1]]]
    let answer : Answer := ⟨columns, all.take 3, 0⟩
    let p : Pool Script := ⟨{ replies := [.answer answer] }, true⟩
    let sent := "SELECT * FROM (\nSELECT a FROM t\n) AS limited_result LIMIT 3"
    let q : Pool Script := ⟨{ received := [sent] }, true⟩
    checkout Script.backend p = (.ok (), p) ∧
      Fetched "SELECT a FROM t;" all (some 2) answer.rows ∧
      ∃ r, query Script.backend "SELECT a FROM t;" (some 2) ⟨1, 0⟩ p = (.ok r, q) ∧
        IsExact columns all (some 2) r ∧ r.rows = [[("a", .bool true)], [("a", .null)]] ∧
        r.rowCount = 2 ∧ r.truncated = some true := by
  intro columns all answer p sent q
  have hsent : Sql.limited "SELECT a FROM t;" (some 2) = sent := by decide
  have hfetched : Fetched "SELECT a FROM t;" all (some 2) answer.rows :=
    .wrapped (n := 2) (by decide)
  have hrun : Script.backend.run (Sql.limited "SELECT a FROM t;" (some 2)) p.server =
      (.ok answer, q.server) := by
    rw [hsent]
    rfl
  have hlimit : Fetched "SELECT a FROM t;" all ((some (2 : UInt32)).map UInt32.toNat)
      answer.rows := hfetched
  have hconnected : checkout Script.backend p = (.ok (), p) := rfl
  obtain ⟨⟨r, hquery, -, hcount, hexact⟩, -⟩ := query_of_fetched ⟨1, 0⟩ hconnected hrun hlimit
  have hcells : r.rows = [[("a", .bool true)], [("a", .null)]] := hexact.1
  rw [hcells] at hcount
  exact ⟨hconnected, hfetched, r, hquery, hexact, hcells, hcount, hexact.2.2⟩

end PgGateway.Pool
