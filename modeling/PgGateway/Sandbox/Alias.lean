import PgGateway.Text.Cut
import PgGateway.Text.Lower

set_option autoImplicit false

/-!
# Aliases

Further names for the methods of a group.

## Main definitions

* `PgGateway.Sandbox.Alias` — the aliases; `Alias.standard` is the table of those in use.
* `PgGateway.Sandbox.Alias.isUseful` — whether an alias says more than the name of its group.
-/

namespace PgGateway.Sandbox

/-- A further name for a method of a group. -/
structure Alias where
  /-- The group. -/
  group : String
  /-- The further name. -/
  name : String
  /-- The name of the method. -/
  method : String
  deriving DecidableEq, Inhabited

namespace Alias

/-- The aliases in use. No alias stands for another alias. -/
def standard : List Alias :=
  [⟨"core", "query", "readQuery"⟩, ⟨"core", "read", "readQuery"⟩,
    ⟨"core", "select", "readQuery"⟩, ⟨"core", "exec", "writeQuery"⟩,
    ⟨"core", "write", "writeQuery"⟩, ⟨"core", "execute", "writeQuery"⟩,
    ⟨"core", "tables", "listTables"⟩, ⟨"core", "schemas", "listSchemas"⟩,
    ⟨"core", "describe", "describeTable"⟩, ⟨"core", "index", "createIndex"⟩,
    ⟨"core", "drop", "dropTable"⟩,
    ⟨"transactions", "run", "execute"⟩, ⟨"transactions", "batch", "execute"⟩,
    ⟨"transactions", "transaction", "execute"⟩,
    ⟨"json", "jsonExtract", "extract"⟩, ⟨"json", "jsonSet", "set"⟩,
    ⟨"json", "jsonKeys", "keys"⟩, ⟨"json", "get", "extract"⟩,
    ⟨"fulltext", "search", "fulltextSearch"⟩, ⟨"fulltext", "createIndex", "fulltextCreateIndex"⟩,
    ⟨"performance", "plan", "explain"⟩, ⟨"performance", "explainQuery", "explain"⟩,
    ⟨"performance", "indexUsage", "indexStats"⟩, ⟨"performance", "cacheHit", "cacheHitRatio"⟩,
    ⟨"admin", "vacuumTable", "vacuum"⟩, ⟨"admin", "analyzeTable", "analyze"⟩,
    ⟨"admin", "reindexTable", "reindex"⟩,
    ⟨"docstore", "newCollection", "createCollection"⟩, ⟨"docstore", "insertDocuments", "insert"⟩,
    ⟨"docstore", "query", "find"⟩, ⟨"docstore", "findDocuments", "find"⟩,
    ⟨"docstore", "drop", "dropCollection"⟩]

/-- The aliases of one group, in the order of the table. -/
def ofGroup (group : String) (aliases : List Alias) : List Alias :=
  aliases.filter fun a => a.group = group

/-- Whether a name is worth showing: it does not start with the name of its group, in any case. -/
def isUseful (group name : String) : Bool :=
  !Text.beginsWith (Text.lowered group).toList (Text.lowered name).toList

end Alias

end PgGateway.Sandbox
