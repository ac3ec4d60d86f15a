import PgGateway.Proofs.Keyed
import PgGateway.Proofs.Postgres.Rows

set_option autoImplicit false

/-!
# The columns of a row

A result has its columns by position, but a row holds its cells by the names of their columns. So a
row has one entry for each name, and of the columns with one name it holds the value that was read
at the last. Nothing is lost exactly if the names are distinct.

## Main definitions

* `PgGateway.Pool.IsRowOf` — whether a row holds what was read at its columns.
* `PgGateway.Pool.rowsWithin` — the rows of an answer that a result is made of.

## Main results

* `PgGateway.Pool.isRowOf_rowOf` — the row that is made of what a server sends is such.
* `PgGateway.Pool.IsRowOf.length_eq_iff` — it has an entry for each column exactly if their names
  are distinct.
* `PgGateway.Pool.query_isRowOf` — so it is with every row of a result.
-/

namespace PgGateway

/-- Of entries, the last one with a key is found from the end. -/
lemma Keyed.lookup_reverse_of_last {α : Type} {entries : List (String × α)} {i : Nat}
    {key : String} {value : α} (hi : entries[i]? = some (key, value))
    (hlast : ∀ j entry, i < j → entries[j]? = some entry → entry.1 ≠ key) :
    entries.reverse.lookup key = some value := by
  induction entries generalizing i with
  | nil => cases hi
  | cons first rest ih =>
    rw [List.reverse_cons, List.lookup_append]
    cases i with
    | zero =>
      obtain rfl : first = (key, value) := Option.some.inj hi
      have hnone : rest.reverse.lookup key = none := by
        rw [List.lookup_eq_none_iff]
        intro entry hentry
        obtain ⟨j, hj⟩ := List.getElem?_of_mem (List.mem_reverse.mp hentry)
        exact bne_iff_ne.mpr (hlast (j + 1) entry (Nat.succ_pos j) hj).symm
      simp [hnone]
    | succ i =>
      rw [ih hi fun j entry hj hentry => hlast (j + 1) entry (Nat.succ_lt_succ hj) hentry]
      rfl

namespace Pool

/-- Whether a row holds what was read at its columns: it has an entry for each name, with the value
that was read at the last column of the name. -/
structure IsRowOf (columns : List Column) (bytes : List (Option Wire.Bytes)) (row : Row) :
    Prop where
  /-- There are as many entries as names. -/
  length_eq : row.length = (columns.map Column.name).dedup.length
  /-- Each column after which none has its name can be recovered. -/
  get?_eq : ∀ (i : Nat) (c : Column) (cell : Option Wire.Bytes), columns[i]? = some c →
    bytes[i]? = some cell → (∀ (j : Nat) (d : Column), i < j → columns[j]? = some d →
      d.name ≠ c.name) →
      Keyed.get? c.name row = some (Wire.decode c.dataType cell)

section

variable {columns : List Column} {bytes : List (Option Wire.Bytes)} {row : Row}

/-- A row has an entry for each column exactly if the names of the columns are distinct. -/
theorem IsRowOf.length_eq_iff (h : IsRowOf columns bytes row) :
    row.length = columns.length ↔ (columns.map Column.name).Nodup := by
  rw [h.length_eq, ← List.length_map Column.name]
  refine ⟨fun hlength => ?_, fun hdistinct => by rw [hdistinct.dedup]⟩
  rw [← List.dedup_eq_self]
  exact (List.dedup_sublist _).eq_of_length hlength

/-- If the names of the columns are distinct, the row gives the value of each column. -/
theorem IsRowOf.get?_of_nodup (h : IsRowOf columns bytes row)
    (hdistinct : (columns.map Column.name).Nodup) {i : Nat} {c : Column}
    {cell : Option Wire.Bytes} (hc : columns[i]? = some c) (hcell : bytes[i]? = some cell) :
    Keyed.get? c.name row = some (Wire.decode c.dataType cell) := by
  refine h.get?_eq i c cell hc hcell fun j d hj hd hname => ?_
  have hci : (columns.map Column.name)[i]? = some c.name := by rw [List.getElem?_map, hc]; rfl
  have hdj : (columns.map Column.name)[j]? = some c.name := by
    rw [List.getElem?_map, hd, ← hname]
    rfl
  have hbound := (List.getElem?_eq_some_iff.mp hci).1
  have hij : i = j := (List.getElem?_inj hbound hdistinct).mp (hci.trans hdj.symm)
  omega

/-- The row that is made of what a server sends for the columns holds what is read at them. -/
theorem isRowOf_rowOf (hwidth : bytes.length = columns.length) :
    IsRowOf columns bytes (rowOf columns bytes) := by
  constructor
  · rw [rowOf, Row.ofCells, Keyed.length_ofList, List.map_fst_zip]
    simp [hwidth]
  · intro i c cell hc hcell hlast
    rw [rowOf, Row.ofCells, Keyed.get?_ofList]
    refine Keyed.lookup_reverse_of_last (i := i) ?_ fun j entry hj hentry => ?_
    · rw [List.getElem?_zip_eq_some, List.getElem?_map, List.getElem?_map, hc]
      have hpair : (columns.zip bytes)[i]? = some (c, cell) :=
        List.getElem?_zip_eq_some.mpr ⟨hc, hcell⟩
      rw [hpair]
      exact ⟨rfl, rfl⟩
    · obtain ⟨hname, -⟩ := List.getElem?_zip_eq_some.mp hentry
      rw [List.getElem?_map] at hname
      obtain ⟨d, hd, hd'⟩ := Option.map_eq_some_iff.mp hname
      exact hd' ▸ hlast j d hj hd

end

variable {β : Type}

/-- The rows of an answer that a result within a limit is made of: the first ones up to it. -/
def rowsWithin (answer : Answer) : Option Nat → List (List (Option Wire.Bytes))
  | some n => answer.rows.take n
  | none => answer.rows

/-- The rows of a result are made of the rows of the answer within the limit, one of each. -/
lemma rows_resultOf (answer : Answer) (limit : Option Nat) :
    (resultOf answer limit).rows = (rowsWithin answer limit).map (rowOf answer.columns) := by
  cases limit with
  | none => rfl
  | some n => exact List.map_take.symm

/-- **The columns of a row.** Of a statement that a server answers, with any columns and with a
value for each of them in every row, the result has these columns, and of each row of the answer
within the limit a row. That row has as many entries as the columns have names, and under the name
of a column that no later column shares it has the value that was read there. It has an entry for
each column exactly if the names are distinct, and then it has the value of every column under its
name.

**Proof sketch.** The row is a list that is made by putting in the cells under their names from the
first column on, so that it has the names as keys (`Keyed.length_ofList`) and the last value of each
(`Keyed.get?_ofList`). Names are as many as columns only if none of them is repeated. -/
theorem query_isRowOf {b : Backend β} {sql : String} {limit : Option Nat} {p q : Pool β}
    {server : β} {answer : Answer} (timeout : Span) (hconnected : checkout b p = (.ok (), q))
    (hrun : b.run (Sql.limited sql limit) q.server = (.ok answer, server))
    (hwidth : ∀ bytes ∈ answer.rows, bytes.length = answer.columns.length) :
    ∃ r, query b sql limit timeout p = (.ok r, ⟨server, true⟩) ∧ r.columns = answer.columns ∧
      List.Forall₂ (fun bytes row => IsRowOf r.columns bytes row ∧
        (row.length = r.columns.length ↔ (r.columns.map Column.name).Nodup) ∧
        ((r.columns.map Column.name).Nodup → ∀ (i : Nat) (c : Column)
          (cell : Option Wire.Bytes), r.columns[i]? = some c → bytes[i]? = some cell →
            Keyed.get? c.name row = some (Wire.decode c.dataType cell)))
        (rowsWithin answer limit) r.rows := by
  have hcolumns : (resultOf answer limit).columns = answer.columns := by cases limit <;> rfl
  refine ⟨_, query_of_answer timeout hconnected hrun, hcolumns, ?_⟩
  rw [hcolumns, rows_resultOf, List.forall₂_map_right_iff, List.forall₂_same]
  intro bytes hbytes
  have hmem : bytes ∈ answer.rows := by
    cases limit with
    | none => exact hbytes
    | some n => exact List.mem_of_mem_take hbytes
  have hrowOf := isRowOf_rowOf (hwidth bytes hmem)
  exact ⟨hrowOf, hrowOf.length_eq_iff, fun hdistinct _ _ _ hc hcell =>
    hrowOf.get?_of_nodup hdistinct hc hcell⟩

/-- What is read from the bytes of a small number. -/
lemma decode_int4 {b : UInt8} (hb : b.toNat < 128) :
    Wire.decode "int4" (some [0, 0, 0, b]) = .int b.toNat := by
  have hsigned : Wire.signed? 4 [0, 0, 0, b] = some (b.toNat : Int) := by
    simp [Wire.signed?, Wire.exactly?, Wire.natural]
    omega
  change ((Wire.signed? 4 [0, 0, 0, b]).map Cell.int).getD .null = _
  rw [hsigned]
  rfl

/-- A scripted server answers its only reply. -/
lemma run_answering (answer : Answer) :
    Script.backend.run (Sql.limited "SELECT v" none) { replies := [.answer answer] } =
      (.ok answer, { received := ["SELECT v"] }) := by
  have hsent : Sql.limited "SELECT v" none = "SELECT v" := by decide
  rw [hsent]
  rfl

/-- A join of two tables that have a column of the same name: the row has an entry for each of the
two names, and of the columns with one name it has the value of the last. -/
theorem query_isRowOf_of_joined :
    let columns : List Column := [⟨"id", "int4"⟩, ⟨"id", "int4"⟩, ⟨"a", "bool"⟩]
    let answer : Answer := ⟨columns, [[some [0, 0, 0, 1], some [0, 0, 0, 2], some [1]]], 0⟩
    let p : Pool Script := ⟨{ replies := [.answer answer] }, true⟩
    let q : Pool Script := ⟨{ received := ["SELECT v"] }, true⟩
    checkout Script.backend p = (.ok (), p) ∧
      Script.backend.run (Sql.limited "SELECT v" none) p.server = (.ok answer, q.server) ∧
      (∀ bytes ∈ answer.rows, bytes.length = answer.columns.length) ∧
      ∃ r row, query Script.backend "SELECT v" none ⟨1, 0⟩ p = (.ok r, q) ∧ r.rows = [row] ∧
        row.length = 2 ∧ Keyed.get? "id" row = some (.int 2) ∧
        Keyed.get? "a" row = some (.bool true) := by
  intro columns answer p q
  have hconnected : checkout Script.backend p = (.ok (), p) := rfl
  have hrun := run_answering answer
  have hwidth : ∀ bytes ∈ answer.rows, bytes.length = answer.columns.length := by
    intro bytes hbytes
    obtain rfl := List.mem_singleton.mp hbytes
    rfl
  obtain ⟨r, hquery, hcolumns, hrows⟩ := query_isRowOf ⟨1, 0⟩ hconnected hrun hwidth
  obtain ⟨row, rest, ⟨hrowOf, -, -⟩, hrest, hr⟩ := List.forall₂_cons_left_iff.mp hrows
  obtain rfl := List.forall₂_nil_left_iff.mp hrest
  refine ⟨hconnected, hrun, hwidth, r, row, hquery, hr, ?_, ?_, ?_⟩
  · rw [hrowOf.length_eq, hcolumns]
    decide +kernel
  · have hvalue : Wire.decode "int4" (some [0, 0, 0, 2]) = .int 2 := decode_int4 (by decide)
    rw [← hvalue]
    refine hrowOf.get?_eq 1 ⟨"id", "int4"⟩ (some [0, 0, 0, 2]) (by rw [hcolumns]; rfl) rfl ?_
    intro j d hj hd hname
    rw [hcolumns] at hd
    obtain rfl : j = 2 := by
      have := (List.getElem?_eq_some_iff.mp hd).1
      change j < 3 at this
      omega
    obtain rfl : _ = d := Option.some.inj hd
    revert hname
    decide
  · refine hrowOf.get?_eq 2 ⟨"a", "bool"⟩ (some [1]) (by rw [hcolumns]; rfl) rfl ?_
    intro j d hj hd
    rw [hcolumns] at hd
    have := (List.getElem?_eq_some_iff.mp hd).1
    change j < 3 at this
    omega

/-- Of two columns with one name the row has one entry, and the value that was read at the first
column cannot be recovered under any name. -/
theorem query_loses_first_of_twoColumns :
    let columns : List Column := [⟨"id", "int4"⟩, ⟨"id", "int4"⟩]
    let answer : Answer := ⟨columns, [[some [0, 0, 0, 1], some [0, 0, 0, 2]]], 0⟩
    let p : Pool Script := ⟨{ replies := [.answer answer] }, true⟩
    let q : Pool Script := ⟨{ received := ["SELECT v"] }, true⟩
    ∃ r row, query Script.backend "SELECT v" none ⟨1, 0⟩ p = (.ok r, q) ∧ r.columns = columns ∧
      r.rows = [row] ∧ row.length = 1 ∧ Wire.decode "int4" (some [0, 0, 0, 1]) = .int 1 ∧
      ∀ name, Keyed.get? name row ≠ some (.int 1) := by
  intro columns answer p q
  have hquery := query_of_answer (p := p) ⟨1, 0⟩ rfl (run_answering answer)
  have hfirst : Wire.decode "int4" (some [0, 0, 0, 1]) = .int 1 := decode_int4 (by decide)
  have hsecond : Wire.decode "int4" (some [0, 0, 0, 2]) = .int 2 := decode_int4 (by decide)
  have hrow : rowOf columns [some [0, 0, 0, 1], some [0, 0, 0, 2]] = [("id", .int 2)] := by
    rw [← hsecond]
    rfl
  refine ⟨_, _, hquery, rfl, congrArg (fun row => [row]) hrow, rfl, hfirst, fun name hname => ?_⟩
  rw [Keyed.get?, Keyed.get?] at hname
  split at hname
  · have := Cell.int.inj (Option.some.inj hname)
    omega
  · cases hname

end Pool

end PgGateway
