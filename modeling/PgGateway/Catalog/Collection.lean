import PgGateway.Catalog.Argument
import PgGateway.Sql.Literal

set_option autoImplicit false

/-!
# Tools for collections of documents

A collection is a table with a number, a JSON document and the time of its creation in each row.
The tools create and drop collections, insert documents and find those that contain an object.

## Main definitions

* `PgGateway.Catalog.Collection` — the arguments of the tools that create and drop.
* `PgGateway.Catalog.InsertDocuments`, `FindDocuments` — the arguments of the other tools.
-/

namespace PgGateway.Catalog

open Shape
open Schema (must may)

/-- A collection. -/
structure Collection where
  /-- The name of the collection, perhaps with its schema. -/
  collection : String

namespace Collection

/-- The reader of the arguments. -/
def read : Reader Collection :=
  let collection := Field.required "collection" text
  Record.read ⟨"struct CollectionArgs", [collection.slot], fun given => do
    return ⟨← collection.of given⟩⟩

/-- The schema of the arguments. -/
def schema : Schema :=
  .record [must "collection" .text]

/-- The statements that create the collection: its table and the index of its documents. -/
def creation? (a : Collection) : Except ToolError (List String) := do
  let table ← Sql.quoteName a.collection
  let index ← Sql.quoteName ("idx_" ++ (Sql.splitName a.collection).2 ++ "_doc")
  return ["CREATE TABLE IF NOT EXISTS " ++ table ++
      " (id bigserial PRIMARY KEY, doc jsonb NOT NULL, " ++
      "created_at timestamptz NOT NULL DEFAULT now())",
    "CREATE INDEX IF NOT EXISTS " ++ index ++ " ON " ++ table ++ " USING gin (doc)"]

/-- The statement that drops the collection. -/
def removal? (a : Collection) : Except ToolError String := do
  let table ← Sql.quoteName a.collection
  return "DROP TABLE IF EXISTS " ++ table

/-- Creates the collection. -/
def createPlan (a : Collection) : Except ToolError Action := do
  let statements ← a.creation?
  return .transaction statements fun _ => success [("collection", .str a.collection)]

/-- Drops the collection. -/
def dropPlan (a : Collection) : Except ToolError Action := do
  let sql ← a.removal?
  return .execute sql fun _ => success [("collection", .str a.collection)]

/-- The tool that creates a collection. -/
def createTool : Tool :=
  .reading "docstore" "pg_doc_create_collection"
    "Create a document collection (a table with a GIN-indexed jsonb column)."
    schema read createPlan

/-- The tool that drops a collection. -/
def dropTool : Tool :=
  .reading "docstore" "pg_doc_drop_collection"
    "Drop a document collection and all of its documents."
    schema read dropPlan

end Collection

/-- Documents to insert into a collection. -/
structure InsertDocuments where
  /-- The collection. -/
  collection : String
  /-- A document or a list of documents. -/
  documents : Json

namespace InsertDocuments

/-- The reader of the arguments. -/
def read : Reader InsertDocuments :=
  let collection := Field.required "collection" text
  let documents := (Field.required "documents" any).orNamed "document"
  Record.read ⟨"struct InsertArgs", [collection.slot, documents.slot], fun given => do
    return ⟨← collection.of given, ← documents.of given⟩⟩

/-- The error of a value that is no document. -/
def notADocument (value : Json) : ToolError :=
  refused ("Documents must be objects, got: " ++ value.compact)

/-- The documents, at least one. -/
def items? (a : InsertDocuments) : Except ToolError (List Json) :=
  match a.documents with
  | .obj ms => .ok [.obj ms]
  | .arr [] => .error (refused "At least one document is required")
  | .arr items =>
    match items.find? fun j => !j.isObject with
    | some bad => .error (notADocument bad)
    | none => .ok items
  | other => .error (notADocument other)

/-- The statement that inserts the documents. -/
def sql? (a : InsertDocuments) : Except ToolError String := do
  let items ← a.items?
  let values := items.map fun j => "(" ++ Sql.jsonbLiteral j ++ ")"
  let table ← Sql.quoteName a.collection
  return "INSERT INTO " ++ table ++ " (doc) VALUES " ++ Text.join ", " values ++ " RETURNING id"

/-- Inserts the documents and returns their numbers. -/
def plan (a : InsertDocuments) : Except ToolError Action := do
  let sql ← a.sql?
  return .query sql none fun r =>
    let ids := r.cellsUnder "id"
    .ok (.object [("inserted", .nat ids.length), ("ids", .arr (ids.map Cell.toJson))])

/-- The tool that inserts documents. -/
def tool : Tool :=
  .reading "docstore" "pg_doc_insert"
    "Insert one document or an array of documents into a collection; returns the new ids."
    (.record
      [must "collection" .text, must "documents" (.oneOf [.map, .listOf .map])])
    read plan

end InsertDocuments

/-- Documents to find in a collection. -/
structure FindDocuments where
  /-- The collection. -/
  collection : String
  /-- The object that they contain. -/
  filter : Option Json
  /-- The greatest number of documents. -/
  limit : Option Nat

namespace FindDocuments

/-- The reader of the arguments. -/
def read : Reader FindDocuments :=
  let collection := Field.required "collection" text
  let filter := Field.omissible "filter" any
  let limit := Field.omissible "limit" natural32
  Record.read ⟨"struct FindArgs", [collection.slot, filter.slot, limit.slot], fun given => do
    return ⟨← collection.of given, ← filter.of given, ← limit.of given⟩⟩

/-- The number of documents that are returned if the caller does not say. -/
def defaultLimit : Nat := 100

/-- The clause that chooses the documents; every document contains the empty object. -/
def clause? (a : FindDocuments) : Except ToolError String :=
  match a.filter with
  | none | some .null | some (.obj []) => .ok ""
  | some (.obj ms) => .ok (" WHERE doc @> " ++ Sql.jsonbLiteral (.obj ms))
  | some other => .error (refused ("Filter must be an object, got: " ++ other.compact))

/-- The statement that finds the documents. -/
def sql? (a : FindDocuments) : Except ToolError String := do
  let clause ← a.clause?
  let table ← Sql.quoteName a.collection
  return "SELECT id, doc, created_at FROM " ++ table ++ clause ++ " ORDER BY id"

/-- Finds the documents. -/
def plan (a : FindDocuments) : Except ToolError Action := do
  let sql ← a.sql?
  return .query sql (some (a.limit.getD defaultLimit)) fun r =>
    .ok (.object [("documents", r.rowsJson), ("count", .nat r.rowCount),
      ("truncated", .bool (r.truncated.getD false))])

/-- The tool that finds documents. -/
def tool : Tool :=
  .reading "docstore" "pg_doc_find"
    "Find documents in a collection matching a containment filter."
    (.record
      [must "collection" .text,
        may "filter" (.described "Documents must contain this object" .map),
        may "limit" (.integer (some 1) none)])
    read plan

end FindDocuments

end PgGateway.Catalog
