import PgGateway.Catalog.Collection
import PgGateway.Catalog.Filter
import PgGateway.Catalog.Fulltext
import PgGateway.Catalog.Index
import PgGateway.Catalog.JsonColumn
import PgGateway.Catalog.Listing
import PgGateway.Catalog.Maintenance
import PgGateway.Catalog.Statement
import PgGateway.Catalog.Statistics
import PgGateway.Catalog.Table
import PgGateway.Tool.Registry

set_option autoImplicit false

/-!
# The standard catalog

All tools of the server, group by group.

## Main definitions

* `PgGateway.Catalog.tools` — the tools in order.
* `PgGateway.Catalog.standard` — the registry that holds them.
-/

namespace PgGateway.Catalog

/-- The tools in order. -/
def tools : List Tool :=
  [ReadQuery.tool, WriteQuery.tool, ListTables.tool, ListSchemas.tool, DescribeTable.tool,
    CreateTable.tool, DropTable.tool, CreateIndex.tool, Filter.countTool, Filter.existsTool,
    Transaction.tool,
    JsonExtract.tool, JsonSet.tool, JsonKeys.tool, JsonContains.tool,
    FulltextSearch.tool, FulltextIndex.tool,
    Explain.tool, Statistics.indexTool, Statistics.tableTool, CacheHitRatio.tool,
    Vacuum.tool, Analyze.tool, Reindex.tool,
    Collection.createTool, Collection.dropTool, InsertDocuments.tool, FindDocuments.tool]

/-- The registry of the standard tools. -/
def standard : Registry :=
  .ofList tools

end PgGateway.Catalog
