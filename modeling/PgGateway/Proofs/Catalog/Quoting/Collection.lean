import PgGateway.Catalog.Collection
import PgGateway.Proofs.Catalog.Quoting

set_option autoImplicit false

/-!
# Quoting in statements about collections

The tools for collections put the name of the collection into double quotes, and documents and
filters as JSON text into literals. A list of documents becomes a list of as many literals.

## Main results

* `PgGateway.Catalog.Collection.createQuotes`, `Collection.dropQuotes`, `InsertDocuments.quotes`,
  `FindDocuments.quotes` — the tools quote what they are given.
-/

namespace PgGateway.Catalog

open Sql

/-! ## Creating and dropping -/

namespace Collection

/-- The name of the index of a collection. -/
def indexName (a : Collection) : String :=
  "idx_" ++ (splitName a.collection).2 ++ "_doc"

/-- The pieces of the statement that creates the table. -/
def tablePieces (a : Collection) : List Piece :=
  [.fixed "CREATE TABLE IF NOT EXISTS ", .name a.collection,
    .fixed " (id bigserial PRIMARY KEY, doc jsonb NOT NULL, ",
    .fixed "created_at timestamptz NOT NULL DEFAULT now())"]

/-- The pieces of the statement that creates the index. -/
def indexPieces (a : Collection) : List Piece :=
  [.fixed "CREATE INDEX IF NOT EXISTS ", .name a.indexName, .fixed " ON ", .name a.collection,
    .fixed " USING gin (doc)"]

/-- The pieces of the statement that drops the collection. -/
def removalPieces (a : Collection) : List Piece :=
  [.fixed "DROP TABLE IF EXISTS ", .name a.collection]

/-- The form of the arguments. -/
def form (a : Collection) : Form :=
  { names := [some (isQualified a.collection)] }

/-- The sketch of the arguments of a creation. -/
def createSketch (a : Collection) : Sketch :=
  ⟨a.form, [a.tablePieces, a.indexPieces]⟩

/-- The sketch of the arguments of a removal. -/
def dropSketch (a : Collection) : Sketch :=
  ⟨a.form, [a.removalPieces]⟩

/-- The name of the index is not qualified. -/
lemma isQualified_indexName {a : Collection} (h : isName a.collection = true) :
    isQualified a.indexName = false := by
  have hidx : isQualified "idx_" = false := by decide
  have hdoc : isQualified "_doc" = false := by decide
  simp only [indexName, isQualified_append, isQualified_splitName h, hidx, hdoc, Bool.false_or]

/-- The statements of a creation are made of their pieces. -/
lemma createWrites {a : Collection} {statements : List String} (h : a.creation? = .ok statements) :
    isName a.collection = true ∧
      List.Forall₂ Writes statements [a.tablePieces, a.indexPieces] := by
  obtain ⟨table, htable, h⟩ := exists_of_bind_eq_ok h
  obtain ⟨index, hindex, hstatements⟩ := exists_of_bind_eq_ok h
  obtain ⟨hname, hchars⟩ := quoteName_eq_ok.mp htable
  obtain ⟨hindexName, hindexChars⟩ := quoteName_eq_ok.mp hindex
  cases hstatements
  refine ⟨hname, .cons ⟨?_, by simp [tablePieces, hname], rfl⟩
    (.cons ⟨?_, by simp [indexPieces, indexName, hname, hindexName], rfl⟩ .nil)⟩
  · unfold tablePieces
    simp [hchars, Piece.chars, -String.reduceToList]
  · unfold indexPieces indexName
    simp [hchars, hindexChars, Piece.chars, -String.reduceToList]

/-- The statement of a removal is made of its pieces. -/
lemma dropWrites {a : Collection} {sql : String} (h : a.removal? = .ok sql) :
    Writes sql a.removalPieces := by
  obtain ⟨table, htable, hsql⟩ := exists_of_bind_eq_ok h
  obtain ⟨hname, hchars⟩ := quoteName_eq_ok.mp htable
  cases hsql
  refine ⟨?_, by simp [removalPieces, hname], rfl⟩
  unfold removalPieces
  simp [hchars, Piece.chars, -String.reduceToList]

/-- The tool that creates a collection quotes its name and that of its index. -/
theorem createQuotes : Quotes createPlan unconditional createSketch where
  writes h _ := by
    obtain ⟨statements, hstatements, hact⟩ := exists_of_bind_eq_ok h
    cases hact
    simpa [Action.calls, Call.statements, createSketch] using (createWrites hstatements).2
  uniform h h' _ _ hform := by
    obtain ⟨statements, hstatements, -⟩ := exists_of_bind_eq_ok h
    obtain ⟨statements', hstatements', -⟩ := exists_of_bind_eq_ok h'
    simp_all [Sketch.outlines, createSketch, form, tablePieces, indexPieces, Piece.outline,
      isQualified_indexName (createWrites hstatements).1,
      isQualified_indexName (createWrites hstatements').1]

/-- The tool that drops a collection quotes its name. -/
theorem dropQuotes : Quotes dropPlan unconditional dropSketch where
  writes h _ := forall₂_writes (fun _ => rfl) dropWrites h
  uniform _ _ _ _ hform := by
    simp_all [Sketch.outlines, dropSketch, form, removalPieces, Piece.outline]

end Collection

/-! ## Inserting -/

namespace InsertDocuments

/-- The documents as a list; one document by itself is a list of one. -/
def given (a : InsertDocuments) : List Json :=
  match a.documents with
  | .arr items => items
  | document => [document]

/-- The pieces of a document. -/
def documentPieces (document : Json) : List Piece :=
  [.fixed "(", .literal document.chars, .fixed "::jsonb", .fixed ")"]

/-- The pieces of the statement. -/
def pieces (a : InsertDocuments) : List Piece :=
  [.fixed "INSERT INTO ", .name a.collection, .fixed " (doc) VALUES "] ++
    [Piece.fixed ", "].intercalate (a.given.map documentPieces) ++ [.fixed " RETURNING id"]

/-- The sketch of the arguments. -/
def sketch (a : InsertDocuments) : Sketch :=
  ⟨{ names := [some (isQualified a.collection)], documents := a.given.length }, [a.pieces]⟩

/-- The documents that are inserted are those that are given, at least one. -/
lemma items?_eq_ok {a : InsertDocuments} {items : List Json} (h : a.items? = .ok items) :
    items = a.given ∧ items ≠ [] := by
  obtain ⟨collection, documents⟩ := a
  unfold items? at h
  split at h
  · next hobj => cases h; simp only at hobj; simp [given, hobj]
  · cases h
  · next hnil harr =>
    simp only at harr
    split at h
    · cases h
    · cases h
      refine ⟨by simp [given, harr], ?_⟩
      rintro rfl
      exact hnil rfl
  · cases h

/-- The outline of the documents is known from their number. -/
lemma outline_documents (documents : List Json) :
    ([Piece.fixed ", "].intercalate (documents.map documentPieces)).map Piece.outline =
      [Outline.fixed ", "].intercalate (List.replicate documents.length
        [.fixed "(", .literal, .fixed "::jsonb", .fixed ")"]) := by
  rw [outline_intercalate, ← List.map_const']
  rfl

/-- Documents make a row. -/
lemma foldlM_follow_documents {documents : List Json} (hne : documents ≠ []) :
    (([Piece.fixed ", "].intercalate (documents.map documentPieces)).map
      Piece.outline).foldlM Outline.follow false = some false := by
  rw [outline_documents]
  refine foldlM_follow_intercalate (by simpa using hne) ?_ rfl
  intro part hpart
  rw [List.eq_of_mem_replicate hpart]
  rfl

/-- The statement is made of its pieces. -/
lemma writes {a : InsertDocuments} {sql : String} (h : a.sql? = .ok sql) :
    Writes sql a.pieces := by
  obtain ⟨items, hitems, h⟩ := exists_of_bind_eq_ok h
  obtain ⟨table, htable, hsql⟩ := exists_of_bind_eq_ok h
  obtain ⟨rfl, hne⟩ := items?_eq_ok hitems
  obtain ⟨hname, hchars⟩ := quoteName_eq_ok.mp htable
  cases hsql
  have hdocument : List.Forall₂ (fun document part =>
      (∀ p ∈ documentPieces document, p.isAccepted = true) ∧
        part.toList = (documentPieces document).flatMap Piece.chars)
      a.given (a.given.map fun j => "(" ++ jsonbLiteral j ++ ")") := by
    refine List.forall₂_map_right_iff.mpr (List.forall₂_same.mpr fun document _ => ⟨?_, ?_⟩)
    · simp [documentPieces]
    · simp [documentPieces, jsonbLiteral, Piece.chars, -String.reduceToList]
  obtain ⟨haccepted, htext⟩ := written_join
    (show ", ".toList = [.fixed ", "].flatMap Piece.chars by simp [Piece.chars]) (by simp)
    hdocument
  refine ⟨?_, ?_, ?_⟩
  · unfold pieces
    simp [hchars, htext, Piece.chars, -String.reduceToList]
  · simpa [pieces, or_imp, forall_and, hname] using haccepted
  · rw [pieces, List.map_append, List.map_append]
    exact areApart_of_foldlM (b := false) (foldlM_follow_append (foldlM_follow_append
      (b := false) rfl (foldlM_follow_documents hne)) rfl)

/-- The tool that inserts documents quotes their JSON text. -/
theorem quotes : Quotes plan unconditional sketch where
  writes h _ := forall₂_writes (fun _ => rfl) writes h
  uniform _ _ _ _ hform := by
    simp only [sketch, Form.mk.injEq, List.cons.injEq, Option.some.injEq, and_true,
      true_and] at hform
    simp only [Sketch.outlines, sketch, pieces, List.map_append, outline_documents, List.map_cons,
      List.map_nil, Piece.outline, hform.1, hform.2]

end InsertDocuments

/-! ## Finding -/

namespace FindDocuments

/-- Whether documents are chosen by a filter. The empty object, which every document contains,
counts as none. -/
def isFiltered (a : FindDocuments) : Bool :=
  match a.filter with
  | none | some .null | some (.obj []) => false
  | _ => true

/-- The pieces of the clause that chooses the documents. -/
def clausePieces (a : FindDocuments) : List Piece :=
  match a.filter with
  | none | some .null | some (.obj []) => []
  | some filter => [.fixed " WHERE doc @> ", .literal filter.chars, .fixed "::jsonb"]

/-- The pieces of the statement. -/
def pieces (a : FindDocuments) : List Piece :=
  [.fixed "SELECT id, doc, created_at FROM ", .name a.collection] ++ a.clausePieces ++
    [.fixed " ORDER BY id"]

/-- The sketch of the arguments. -/
def sketch (a : FindDocuments) : Sketch :=
  ⟨{ flags := [a.isFiltered], names := [some (isQualified a.collection)] }, [a.pieces]⟩

/-- The clause is the text of its pieces. -/
lemma clause?_eq_ok {a : FindDocuments} {text : String} (h : a.clause? = .ok text) :
    text.toList = a.clausePieces.flatMap Piece.chars := by
  obtain ⟨collection, filter, limit⟩ := a
  unfold clause? at h
  split at h
  · next hnone => cases h; simp only at hnone; simp [clausePieces, hnone]
  · next hnull => cases h; simp only at hnull; simp [clausePieces, hnull]
  · next hempty => cases h; simp only at hempty; simp [clausePieces, hempty]
  · next ms hne hobj =>
    cases h
    simp only at hobj
    cases ms with
    | nil => exact absurd rfl hne
    | cons m ms =>
      simp [clausePieces, hobj, jsonbLiteral, Piece.chars, -String.reduceToList]
  · cases h

/-- The outline of the clause is known from whether there is a filter. -/
lemma outline_clausePieces (a : FindDocuments) :
    a.clausePieces.map Piece.outline =
      if a.isFiltered then [.fixed " WHERE doc @> ", .literal, .fixed "::jsonb"] else [] := by
  obtain ⟨collection, filter, limit⟩ := a
  unfold clausePieces isFiltered
  split <;> simp_all [Piece.outline]

/-- The statement is made of its pieces. -/
lemma writes {a : FindDocuments} {sql : String} (h : a.sql? = .ok sql) : Writes sql a.pieces := by
  obtain ⟨clause, hclause, h⟩ := exists_of_bind_eq_ok h
  obtain ⟨table, htable, hsql⟩ := exists_of_bind_eq_ok h
  obtain ⟨hname, hchars⟩ := quoteName_eq_ok.mp htable
  have hclauseChars := clause?_eq_ok hclause
  cases hsql
  refine ⟨?_, ?_, ?_⟩
  · unfold pieces
    simp [hchars, hclauseChars, Piece.chars, -String.reduceToList]
  · have haccepted : ∀ p ∈ a.clausePieces, p.isAccepted = true := by
      unfold clausePieces
      split <;> simp
    simpa [pieces, or_imp, forall_and, hname] using haccepted
  · rw [pieces, List.map_append, List.map_append, outline_clausePieces]
    cases a.isFiltered <;> rfl

/-- The tool that finds documents quotes the name of the collection and the JSON text of the
filter. -/
theorem quotes : Quotes plan unconditional sketch where
  writes h _ := forall₂_writes (fun _ => rfl) writes h
  uniform _ _ _ _ hform := by
    simp only [sketch, Form.mk.injEq, List.cons.injEq, Option.some.injEq, and_true] at hform
    simp only [Sketch.outlines, sketch, pieces, List.map_append, outline_clausePieces,
      List.map_cons, List.map_nil, Piece.outline, hform.1, hform.2]

end FindDocuments

end PgGateway.Catalog
