import PgGateway.Catalog.Listing
import PgGateway.Catalog.Statistics
import PgGateway.Proofs.Catalog.Quoting

set_option autoImplicit false

/-!
# Quoting in listings and statistics

The tools that list and describe tables and report on their use put the names they are given into
literals, so it does not even matter whether the names are accepted.

## Main results

* `PgGateway.Catalog.ListTables.quotes`, `DescribeTable.quotes`, `Statistics.indexQuotes`,
  `Statistics.tableQuotes` — the tools quote what they are given.
-/

namespace PgGateway.Catalog

open Sql

/-! ## Listing tables -/

namespace ListTables

/-- The pieces of the condition on the schema. -/
def conditionPieces (a : ListTables) : List Piece :=
  match a.schema with
  | some schema => [.fixed "table_schema = ", .literal schema.toList]
  | none =>
    [.fixed "table_schema NOT IN (", .literal "pg_catalog".toList, .fixed ", ",
      .literal "information_schema".toList, .fixed ")"]

/-- The pieces of the statement. -/
def pieces (a : ListTables) : List Piece :=
  [.fixed "SELECT table_schema AS schema, table_name AS name, table_type AS type ",
    .fixed "FROM information_schema.tables WHERE "] ++ a.conditionPieces ++
    [.fixed " ORDER BY table_schema, table_name"]

/-- The sketch of the arguments. -/
def sketch (a : ListTables) : Sketch :=
  ⟨{ flags := [a.schema.isSome] }, [a.pieces]⟩

/-- The condition is the text of its pieces. -/
lemma condition_toList (a : ListTables) :
    a.condition.toList = a.conditionPieces.flatMap Piece.chars := by
  obtain ⟨schema⟩ := a
  cases schema with
  | some schema => simp [condition, conditionPieces, Piece.chars, quoteLiteral]
  | none => decide +kernel

/-- The statement is made of its pieces. -/
lemma writes (a : ListTables) : Writes a.sql a.pieces where
  chars := by
    unfold sql pieces
    simp [condition_toList, Piece.chars, -String.reduceAppend, -String.reduceToList]
  sound := by
    obtain ⟨schema⟩ := a
    cases schema with
    | some schema => exact ⟨by simp [pieces, conditionPieces], rfl⟩
    | none => exact ⟨by simp [pieces, conditionPieces], rfl⟩

/-- The tool that lists tables quotes the schema. -/
theorem quotes : Quotes plan unconditional sketch where
  writes h _ := by
    cases h
    exact .cons (writes _) .nil
  uniform {a a' _ _} _ _ _ _ hform := by
    obtain ⟨schema⟩ := a
    obtain ⟨schema'⟩ := a'
    cases schema <;> cases schema' <;>
      simp_all [Sketch.outlines, sketch, pieces, conditionPieces, Piece.outline]

end ListTables

/-! ## Describing a table -/

namespace DescribeTable

/-- The pieces of the statement. -/
def pieces (a : DescribeTable) : List Piece :=
  [.fixed "SELECT column_name AS name, data_type AS type, is_nullable = ",
    .literal "YES".toList, .fixed " AS nullable, ",
    .fixed "column_default AS default_value FROM information_schema.columns ",
    .fixed "WHERE table_schema = ", .literal a.target.1.toList, .fixed " AND table_name = ",
    .literal a.target.2.toList, .fixed " ORDER BY ordinal_position"]

/-- The sketch of the arguments. Whether the table is given with a schema makes no difference. -/
def sketch (a : DescribeTable) : Sketch :=
  ⟨{}, [a.pieces]⟩

/-- The beginning of the statement is the text of its pieces. -/
lemma select_toList :
    "SELECT column_name AS name, data_type AS type, is_nullable = 'YES' AS nullable, ".toList =
      "SELECT column_name AS name, data_type AS type, is_nullable = ".toList ++
        literalChars "YES".toList ++ " AS nullable, ".toList := by
  decide +kernel

/-- The statement is made of its pieces. -/
lemma writes (a : DescribeTable) : Writes a.sql a.pieces where
  chars := by
    unfold sql pieces
    simp [select_toList, quoteLiteral, Piece.chars, -String.reduceAppend, -String.reduceToList]
  sound := ⟨by simp [pieces], rfl⟩

/-- The tool that describes a table quotes its schema and its name. -/
theorem quotes : Quotes plan unconditional sketch where
  writes h _ := by
    cases h
    exact .cons (writes _) .nil
  uniform _ _ _ _ _ := by
    simp [Sketch.outlines, sketch, pieces, Piece.outline]

end DescribeTable

/-! ## Statistics -/

namespace Statistics

/-- The pieces of the clause that chooses the table. -/
def clausePieces (a : Statistics) : List Piece :=
  match a.table with
  | some table =>
    [.fixed " WHERE schemaname = ", .literal (splitName table).1.toList,
      .fixed " AND relname = ", .literal (splitName table).2.toList]
  | none => []

/-- The pieces of the statement about indexes. -/
def indexPieces (a : Statistics) : List Piece :=
  [.fixed "SELECT schemaname AS schema, relname AS table, indexrelname AS index, ",
    .fixed "idx_scan AS scans, idx_tup_read AS tuples_read, idx_tup_fetch AS tuples_fetched, ",
    .fixed "pg_size_pretty(pg_relation_size(indexrelid)) AS size ",
    .fixed "FROM pg_stat_user_indexes"] ++ a.clausePieces ++
    [.fixed " ORDER BY idx_scan ASC, schemaname, relname"]

/-- The pieces of the statement about tables. -/
def tablePieces (a : Statistics) : List Piece :=
  [.fixed "SELECT schemaname AS schema, relname AS table, seq_scan, idx_scan, ",
    .fixed "n_live_tup AS live_rows, n_dead_tup AS dead_rows, ",
    .fixed "last_vacuum, last_autovacuum, last_analyze, last_autoanalyze, ",
    .fixed "pg_size_pretty(pg_total_relation_size(relid)) AS total_size ",
    .fixed "FROM pg_stat_user_tables"] ++ a.clausePieces ++ [.fixed " ORDER BY n_live_tup DESC"]

/-- The form of the arguments: whether a table is given. -/
def form (a : Statistics) : Form :=
  { flags := [a.table.isSome] }

/-- The sketch of the arguments about indexes. -/
def indexSketch (a : Statistics) : Sketch :=
  ⟨a.form, [a.indexPieces]⟩

/-- The sketch of the arguments about tables. -/
def tableSketch (a : Statistics) : Sketch :=
  ⟨a.form, [a.tablePieces]⟩

/-- The clause is the text of its pieces. -/
lemma clause_toList (a : Statistics) : a.clause.toList = a.clausePieces.flatMap Piece.chars := by
  obtain ⟨table, limit⟩ := a
  cases table <;> simp [clause, clausePieces, Piece.chars, quoteLiteral]

/-- No name stands in the clause. -/
lemma isAccepted_clausePieces (a : Statistics) : ∀ p ∈ a.clausePieces, p.isAccepted = true := by
  obtain ⟨table, limit⟩ := a
  cases table <;> simp [clausePieces]

/-- Clauses of one form have the same outline. -/
lemma outline_clausePieces {a a' : Statistics} (h : a.form = a'.form) :
    a.clausePieces.map Piece.outline = a'.clausePieces.map Piece.outline := by
  obtain ⟨table, limit⟩ := a
  obtain ⟨table', limit'⟩ := a'
  cases table <;> cases table' <;> simp_all [form, clausePieces, Piece.outline]

/-- The statement about indexes is made of its pieces. -/
lemma indexWrites (a : Statistics) : Writes a.indexSql a.indexPieces where
  chars := by
    unfold indexSql indexPieces
    simp [clause_toList, Piece.chars, -String.reduceAppend, -String.reduceToList]
  sound := by
    refine ⟨?_, ?_⟩
    · simpa [indexPieces, or_imp, forall_and] using a.isAccepted_clausePieces
    · obtain ⟨table, limit⟩ := a
      cases table <;> rfl

/-- The statement about tables is made of its pieces. -/
lemma tableWrites (a : Statistics) : Writes a.tableSql a.tablePieces where
  chars := by
    unfold tableSql tablePieces
    simp [clause_toList, Piece.chars, -String.reduceAppend, -String.reduceToList]
  sound := by
    refine ⟨?_, ?_⟩
    · simpa [tablePieces, or_imp, forall_and] using a.isAccepted_clausePieces
    · obtain ⟨table, limit⟩ := a
      cases table <;> rfl

/-- The tool that reports on indexes quotes the schema and the name of the table. -/
theorem indexQuotes : Quotes indexPlan unconditional indexSketch where
  writes h _ := by
    cases h
    exact .cons (indexWrites _) .nil
  uniform _ _ _ _ hform := by
    simp [Sketch.outlines, indexSketch, indexPieces, outline_clausePieces hform]

/-- The tool that reports on tables quotes the schema and the name of the table. -/
theorem tableQuotes : Quotes tablePlan unconditional tableSketch where
  writes h _ := by
    cases h
    exact .cons (tableWrites _) .nil
  uniform _ _ _ _ hform := by
    simp [Sketch.outlines, tableSketch, tablePieces, outline_clausePieces hform]

end Statistics

end PgGateway.Catalog
