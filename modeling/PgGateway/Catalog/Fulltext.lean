import PgGateway.Catalog.Argument
import PgGateway.Sql.Literal

set_option autoImplicit false

/-!
# Tools for full-text search

The tools that search text columns and create the index for such a search. Both take the columns
together as one document.

## Main definitions

* `PgGateway.Catalog.searchVector` — the document made of columns, as the search sees it.
* `PgGateway.Catalog.FulltextSearch`, `FulltextIndex` — the arguments of the tools.
-/

namespace PgGateway.Catalog

open Shape
open Schema (must may)

/-- The language of a search if the caller does not say. -/
def defaultLanguage : String := "english"

/-- The search vector of columns that are taken together, where NULL counts as no text. -/
def searchVector (language : String) (columns : List String) : Except ToolError String :=
  if columns.isEmpty then .error Sql.noColumns
  else do
    let parts ← columns.mapM fun c => do
      let name ← Sql.quoteName c
      return "coalesce(" ++ name ++ ", '')"
    return "to_tsvector(" ++ Sql.quoteLiteral language ++ ", " ++
      Text.join " || ' ' || " parts ++ ")"

/-- A search in columns of a table. -/
structure FulltextSearch where
  /-- The table. -/
  table : String
  /-- The columns. -/
  columns : List String
  /-- The terms to search for. -/
  terms : String
  /-- The language of the texts. -/
  language : Option String
  /-- The greatest number of rows. -/
  limit : Option Nat

namespace FulltextSearch

/-- The reader of the arguments. -/
def read : Reader FulltextSearch :=
  let table := Field.required "table" text
  let columns := Field.required "columns" oneOrMany
  let terms := Field.required "query" text
  let language := Field.omissible "language" text
  let limit := Field.omissible "limit" natural32
  Record.read ⟨"struct SearchArgs",
    [table.slot, columns.slot, terms.slot, language.slot, limit.slot], fun given => do
      return ⟨← table.of given, ← columns.of given, ← terms.of given, ← language.of given,
        ← limit.of given⟩⟩

/-- The number of rows that are returned if the caller does not say. -/
def defaultLimit : Nat := 50

/-- The statement that searches, with the best matches first. -/
def sql? (a : FulltextSearch) : Except ToolError String := do
  let language := a.language.getD defaultLanguage
  let vector ← searchVector language a.columns
  let terms := "plainto_tsquery(" ++ Sql.quoteLiteral language ++ ", " ++
    Sql.quoteLiteral a.terms ++ ")"
  let table ← Sql.quoteName a.table
  return "SELECT *, ts_rank(" ++ vector ++ ", " ++ terms ++ ") AS rank FROM " ++ table ++
    " WHERE " ++ vector ++ " @@ " ++ terms ++ " ORDER BY rank DESC"

/-- Searches and returns the rows. -/
def plan (a : FulltextSearch) : Except ToolError Action := do
  let sql ← a.sql?
  return .query sql (some (a.limit.getD defaultLimit)) fun r => .ok r.toJson

/-- The tool that searches. -/
def tool : Tool :=
  .reading "fulltext" "pg_fulltext_search"
    "Search text columns with PostgreSQL full-text search, ranked by relevance."
    (.record
      [must "table" .text, must "columns" Schema.textOrTexts,
        must "query" (.described "Plain-text search terms" .text),
        may "language" (.described "Text search configuration (default: english)" .text),
        may "limit" (.integer (some 1) none)])
    read plan

end FulltextSearch

/-- An index for searches in columns of a table. -/
structure FulltextIndex where
  /-- The table. -/
  table : String
  /-- The columns. -/
  columns : List String
  /-- The name of the index. -/
  name : Option String
  /-- The language of the texts. -/
  language : Option String

namespace FulltextIndex

/-- The reader of the arguments. -/
def read : Reader FulltextIndex :=
  let table := Field.required "table" text
  let columns := Field.required "columns" oneOrMany
  let name := Field.omissible "name" text
  let language := Field.omissible "language" text
  Record.read ⟨"struct CreateIndexArgs", [table.slot, columns.slot, name.slot, language.slot],
    fun given => do
      return ⟨← table.of given, ← columns.of given, ← name.of given, ← language.of given⟩⟩

/-- The name of the index: the one given, or one made of the table. -/
def indexName (a : FulltextIndex) : String :=
  a.name.getD ("idx_" ++ (Sql.splitName a.table).2 ++ "_fts")

/-- The statement that creates the index. -/
def sql? (a : FulltextIndex) : Except ToolError String := do
  let name ← Sql.quoteName a.indexName
  let table ← Sql.quoteName a.table
  let vector ← searchVector (a.language.getD defaultLanguage) a.columns
  return "CREATE INDEX IF NOT EXISTS " ++ name ++ " ON " ++ table ++ " USING gin (" ++ vector ++ ")"

/-- Creates the index and returns its name and the statement. -/
def plan (a : FulltextIndex) : Except ToolError Action := do
  let sql ← a.sql?
  return .execute sql fun _ => success [("index", .str a.indexName), ("sql", .str sql)]

/-- The tool that creates an index for searches. -/
def tool : Tool :=
  .reading "fulltext" "pg_fulltext_create_index"
    "Create a GIN index over the tsvector of one or more text columns."
    (.record
      [must "table" .text, must "columns" Schema.textOrTexts,
        may "name" (.described "Index name (default: idx_<table>_fts)" .text),
        may "language" .text])
    read plan

end FulltextIndex

end PgGateway.Catalog
