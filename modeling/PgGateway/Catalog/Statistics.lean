import PgGateway.Catalog.Argument
import PgGateway.Sql.Literal

set_option autoImplicit false

/-!
# Tools for statistics

The tools that report how indexes and tables are used and how often blocks are found in the cache.

## Main definitions

* `PgGateway.Catalog.Statistics` — the arguments of the tools about indexes and tables.
* `PgGateway.Catalog.CacheHitRatio.tool` — the tool about the cache, which takes no arguments.
-/

namespace PgGateway.Catalog

open Shape
open Schema (must may)

/-- The statistics of one table or of all. -/
structure Statistics where
  /-- The table, perhaps with its schema. -/
  table : Option String
  /-- The greatest number of rows. -/
  limit : Option Nat

namespace Statistics

/-- The reader of the arguments. -/
def read : Reader Statistics :=
  let table := Field.omissible "table" text
  let limit := Field.omissible "limit" natural32
  Record.read ⟨"struct TableStatsArgs", [table.slot, limit.slot], fun given => do
    return ⟨← table.of given, ← limit.of given⟩⟩

/-- The clause that chooses the table. -/
def clause (a : Statistics) : String :=
  match a.table with
  | some table =>
    let (schema, name) := Sql.splitName table
    " WHERE schemaname = " ++ Sql.quoteLiteral schema ++
      " AND relname = " ++ Sql.quoteLiteral name
  | none => ""

/-- The statement about indexes, with those that are used least first. -/
def indexSql (a : Statistics) : String :=
  "SELECT schemaname AS schema, relname AS table, indexrelname AS index, " ++
    "idx_scan AS scans, idx_tup_read AS tuples_read, idx_tup_fetch AS tuples_fetched, " ++
    "pg_size_pretty(pg_relation_size(indexrelid)) AS size " ++
    "FROM pg_stat_user_indexes" ++ a.clause ++ " ORDER BY idx_scan ASC, schemaname, relname"

/-- The statement about tables, with the largest first. -/
def tableSql (a : Statistics) : String :=
  "SELECT schemaname AS schema, relname AS table, seq_scan, idx_scan, " ++
    "n_live_tup AS live_rows, n_dead_tup AS dead_rows, " ++
    "last_vacuum, last_autovacuum, last_analyze, last_autoanalyze, " ++
    "pg_size_pretty(pg_total_relation_size(relid)) AS total_size " ++
    "FROM pg_stat_user_tables" ++ a.clause ++ " ORDER BY n_live_tup DESC"

/-- The answer that holds the rows under a name, and their number. -/
def listed (name : String) (r : ResultSet) : Except Failure Json :=
  .ok (.object [(name, r.rowsJson), ("count", .nat r.rowCount)])

/-- Reports on indexes. -/
def indexPlan (a : Statistics) : Except ToolError Action :=
  .ok (.query a.indexSql a.limit (listed "indexes"))

/-- Reports on tables. -/
def tablePlan (a : Statistics) : Except ToolError Action :=
  .ok (.query a.tableSql a.limit (listed "tables"))

/-- The schema of the arguments. -/
def schema : Schema :=
  .record
    [may "table" (.described "Restrict to one table" .text),
      may "limit" (.integer (some 1) none)]

/-- The tool that reports on indexes. -/
def indexTool : Tool :=
  .reading "performance" "pg_index_stats"
    "Index usage statistics; rarely scanned indexes are listed first."
    schema read indexPlan

/-- The tool that reports on tables. -/
def tableTool : Tool :=
  .reading "performance" "pg_table_stats"
    "Table statistics: scans, live and dead rows, vacuum and analyze times, size."
    schema read tablePlan

end Statistics

namespace CacheHitRatio

/-- The statement that computes the ratios. -/
def sql : String :=
  "SELECT " ++
    "sum(heap_blks_hit) AS heap_hit, sum(heap_blks_read) AS heap_read, " ++
    "round(sum(heap_blks_hit)::numeric / " ++
    "nullif(sum(heap_blks_hit) + sum(heap_blks_read), 0), 4)::float8 AS table_ratio, " ++
    "round(sum(idx_blks_hit)::numeric / " ++
    "nullif(sum(idx_blks_hit) + sum(idx_blks_read), 0), 4)::float8 AS index_ratio " ++
    "FROM pg_statio_user_tables"

/-- Reports the ratios, whatever the arguments. -/
def plan (_ : Json) : Except ToolError Action :=
  .ok (.query sql none fun r => .ok (Row.toJson (r.rows.headD [])))

/-- The tool that reports the ratios. -/
def tool : Tool :=
  .reading "performance" "pg_cache_hit_ratio"
    "Buffer cache hit ratio for tables and indexes (healthy is above 0.99)." (.record [])
    any plan

end CacheHitRatio

end PgGateway.Catalog
