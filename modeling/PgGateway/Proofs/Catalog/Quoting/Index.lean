import PgGateway.Catalog.Index
import PgGateway.Catalog.Table
import PgGateway.Proofs.Catalog.Quoting

set_option autoImplicit false

/-!
# Quoting in statements about tables and indexes

The tools that drop tables and create and rebuild indexes take names, and put each into double
quotes once it is accepted. An index that is not named by the caller gets a name made of the table
and the columns; it is qualified only if a column is.

## Main results

* `PgGateway.Catalog.DropTable.quotes`, `Reindex.quotes`, `CreateIndex.quotes` — the tools quote
  what they are given.
-/

namespace PgGateway.Catalog

open Sql

/-! ## Dropping a table -/

namespace DropTable

/-- The pieces of the statement. -/
def pieces (a : DropTable) : List Piece :=
  [.fixed "DROP TABLE ", .fixed (when a.ifExists "IF EXISTS "), .name a.table,
    .fixed (when a.cascade " CASCADE")]

/-- The sketch of the arguments. -/
def sketch (a : DropTable) : Sketch :=
  ⟨{ flags := [a.ifExists, a.cascade], names := [some (isQualified a.table)] }, [a.pieces]⟩

/-- The statement is made of its pieces. -/
lemma writes {a : DropTable} {sql : String} (h : a.sql? = .ok sql) : Writes sql a.pieces := by
  obtain ⟨table, htable, hsql⟩ := exists_of_bind_eq_ok h
  obtain ⟨hname, hchars⟩ := quoteName_eq_ok.mp htable
  cases hsql
  have hapart : ∀ ifExists cascade qualified : Bool,
      areApart [.fixed "DROP TABLE ", .fixed (when ifExists "IF EXISTS "), .name qualified,
        .fixed (when cascade " CASCADE")] = true := by decide
  refine ⟨?_, by simp [pieces, hname], hapart ..⟩
  unfold pieces
  simp [hchars, Piece.chars, -String.reduceToList]

/-- The tool that drops a table quotes its name. -/
theorem quotes : Quotes plan unconditional sketch where
  writes h _ := forall₂_writes (fun _ => rfl) writes h
  uniform _ _ _ _ hform := by
    simp_all [Sketch.outlines, sketch, pieces, Piece.outline]

end DropTable

/-! ## Rebuilding the indexes of a table -/

namespace Reindex

/-- The pieces of the statement. -/
def pieces (a : Reindex) : List Piece :=
  [.fixed "REINDEX TABLE ", .fixed (when a.concurrently "CONCURRENTLY "), .name a.table]

/-- The sketch of the arguments. -/
def sketch (a : Reindex) : Sketch :=
  ⟨{ flags := [a.concurrently], names := [some (isQualified a.table)] }, [a.pieces]⟩

/-- The statement is made of its pieces. -/
lemma writes {a : Reindex} {sql : String} (h : a.sql? = .ok sql) : Writes sql a.pieces := by
  obtain ⟨table, htable, hsql⟩ := exists_of_bind_eq_ok h
  obtain ⟨hname, hchars⟩ := quoteName_eq_ok.mp htable
  cases hsql
  have hapart : ∀ concurrently qualified : Bool,
      areApart [.fixed "REINDEX TABLE ", .fixed (when concurrently "CONCURRENTLY "),
        .name qualified] = true := by decide
  refine ⟨?_, by simp [pieces, hname], hapart ..⟩
  unfold pieces
  simp [hchars, Piece.chars, -String.reduceToList]

/-- The tool that rebuilds indexes quotes the name of the table. -/
theorem quotes : Quotes plan unconditional sketch where
  writes h _ := forall₂_writes (fun _ => rfl) writes h
  uniform _ _ _ _ hform := by
    simp_all [Sketch.outlines, sketch, pieces, Piece.outline]

end Reindex

/-! ## Lists of columns -/

/-- The pieces of columns with commas between them. -/
def columnPieces (columns : List String) : List Piece :=
  [Piece.fixed ", "].intercalate (columns.map fun c => [.name c])

/-- Names in double quotes with commas between them are the text of their pieces. -/
lemma quoteNames_eq_ok {columns : List String} {text : String}
    (h : quoteNames columns = .ok text) :
    columns ≠ [] ∧ (∀ p ∈ columnPieces columns, p.isAccepted = true) ∧
      text.toList = (columnPieces columns).flatMap Piece.chars := by
  rw [quoteNames] at h
  split at h
  · cases h
  · next hne =>
    cases hmap : columns.mapM quoteName with
    | error e => rw [hmap] at h; cases h
    | ok quoted =>
      rw [hmap] at h
      cases h
      refine ⟨by simpa using hne, written_join (by simp [Piece.chars]) (by simp)
        ((forall₂_of_mapM_eq_ok hmap).imp fun c part hc => ?_)⟩
      simpa [Piece.chars] using quoteName_eq_ok.mp hc

/-- The outline of columns is known from which of them are qualified. -/
lemma outline_columnPieces (columns : List String) :
    (columnPieces columns).map Piece.outline =
      [Outline.fixed ", "].intercalate
        ((columns.map isQualified).map fun qualified => [.name qualified]) := by
  rw [columnPieces, outline_intercalate, List.map_map]
  rfl

/-- Columns make a row. -/
lemma foldlM_follow_columnPieces {columns : List String} (hne : columns ≠ []) :
    ((columnPieces columns).map Piece.outline).foldlM Outline.follow false = some true := by
  rw [outline_columnPieces]
  refine foldlM_follow_intercalate (by simpa using hne) ?_ rfl
  intro part hpart
  obtain ⟨qualified, -, rfl⟩ := List.mem_map.mp hpart
  rfl

/-! ## Creating an index -/

namespace CreateIndex

/-- The pieces of the statement. -/
def pieces (a : CreateIndex) : List Piece :=
  [.fixed "CREATE ", .fixed (when a.unique "UNIQUE "), .fixed "INDEX ",
    .fixed (when a.ifNotExists "IF NOT EXISTS "), .name a.indexName, .fixed " ON ", .name a.table,
    .fixed ((a.method.map fun m => " USING " ++ Text.lowered m).getD ""), .fixed " ("] ++
    columnPieces a.columns ++ [.fixed ")"]

/-- The form of the arguments. -/
def form (a : CreateIndex) : Form where
  flags := [a.unique, a.ifNotExists]
  names := a.name.map isQualified :: some (isQualified a.table) ::
    a.columns.map fun c => some (isQualified c)
  method := a.method.map Text.lowered

/-- The sketch of the arguments. -/
def sketch (a : CreateIndex) : Sketch :=
  ⟨a.form, [a.pieces]⟩

/-- The part that names the access method is inert, since the method is one of the known ones. -/
lemma usingPart?_eq_ok {a : CreateIndex} {text : String} (h : a.usingPart? = .ok text) :
    text = (a.method.map fun m => " USING " ++ Text.lowered m).getD "" ∧
      text.toList.all Lexeme.isInert = true := by
  obtain ⟨table, columns, name, unique, ifNotExists, method⟩ := a
  cases method with
  | none => cases h; exact ⟨rfl, rfl⟩
  | some m =>
    simp only [usingPart?, Option.map_some] at h
    split at h
    · next hm =>
      cases h
      refine ⟨rfl, ?_⟩
      have hall : ∀ m ∈ methods, (" USING " ++ m).toList.all Lexeme.isInert = true := by decide
      exact hall _ (List.contains_iff_mem.mp hm)
    · cases h

/-- A name that is made for an index is qualified if one of the columns is. -/
lemma isQualified_indexName {a : CreateIndex} (h : isName a.table = true) :
    isQualified a.indexName = (a.name.map isQualified).getD (a.columns.any isQualified) := by
  obtain ⟨table, columns, name, unique, ifNotExists, method⟩ := a
  cases name with
  | some name => rfl
  | none =>
    have hunderscore : isQualified "_" = false := by decide
    have hidx : isQualified "idx_" = false := by decide
    simp only [indexName, Option.getD_none, Option.map_none, isQualified_append,
      isQualified_splitName h, isQualified_join hunderscore, hunderscore, hidx, Bool.false_or]

/-- The pieces before the columns make a row that ends outside quotes. -/
lemma foldlM_follow_front (unique ifNotExists indexQualified qualified : Bool) {usingPart : String}
    (h : usingPart.toList.all Lexeme.isInert = true) :
    [Outline.fixed "CREATE ", .fixed (when unique "UNIQUE "), .fixed "INDEX ",
      .fixed (when ifNotExists "IF NOT EXISTS "), .name indexQualified, .fixed " ON ",
      .name qualified, .fixed usingPart, .fixed " ("].foldlM Outline.follow false =
      some false := by
  have hnames : ∀ unique ifNotExists indexQualified qualified : Bool,
      [Outline.fixed "CREATE ", .fixed (when unique "UNIQUE "), .fixed "INDEX ",
        .fixed (when ifNotExists "IF NOT EXISTS "), .name indexQualified, .fixed " ON ",
        .name qualified].foldlM Outline.follow false = some true := by decide
  have husing : [Outline.fixed usingPart, .fixed " ("].foldlM Outline.follow true =
      some false := by
    simp [Outline.follow, h]
    decide
  exact foldlM_follow_append (hnames unique ifNotExists indexQualified qualified) husing

/-- The statement is made of its pieces. -/
lemma writes {a : CreateIndex} {sql : String} (h : a.sql? = .ok sql) :
    isName a.table = true ∧ Writes sql a.pieces := by
  obtain ⟨usingPart, husing, h⟩ := exists_of_bind_eq_ok h
  obtain ⟨index, hindex, h⟩ := exists_of_bind_eq_ok h
  obtain ⟨table, htable, h⟩ := exists_of_bind_eq_ok h
  obtain ⟨columns, hcolumns, hsql⟩ := exists_of_bind_eq_ok h
  obtain ⟨rfl, hinert⟩ := usingPart?_eq_ok husing
  obtain ⟨hindexName, hindexChars⟩ := quoteName_eq_ok.mp hindex
  obtain ⟨htableName, htableChars⟩ := quoteName_eq_ok.mp htable
  obtain ⟨hne, hcolumnNames, hcolumnChars⟩ := quoteNames_eq_ok hcolumns
  cases hsql
  refine ⟨htableName, ?_, ?_, ?_⟩
  · unfold pieces
    simp [hindexChars, htableChars, hcolumnChars, Piece.chars, -String.reduceToList]
  · simpa [pieces, or_imp, forall_and, hindexName, htableName] using hcolumnNames
  · rw [pieces, List.map_append, List.map_append]
    exact areApart_of_foldlM (foldlM_follow_append
      (foldlM_follow_append (foldlM_follow_front _ _ _ _ hinert) (foldlM_follow_columnPieces hne))
      (c := false) rfl)

/-- The tool that creates an index quotes the names of the index, the table and the columns. -/
theorem quotes : Quotes plan unconditional sketch where
  writes h _ := forall₂_writes (fun _ => rfl) (fun hsql => (writes hsql).2) h
  uniform {a a' _ _} h h' _ _ hform := by
    obtain ⟨sql, hsql, -⟩ := exists_of_bind_eq_ok h
    obtain ⟨sql', hsql', -⟩ := exists_of_bind_eq_ok h'
    simp only [sketch, form, Form.mk.injEq, List.cons.injEq, Option.some.injEq, and_true] at hform
    obtain ⟨⟨hunique, hifNotExists⟩, ⟨hname, htable, hcolumns⟩, -, hmethod⟩ := hform
    have hqualified := map_isQualified_eq hcolumns
    have hany : a.columns.any isQualified = a'.columns.any isQualified := by
      have := congrArg (List.any · id) hqualified
      simpa [List.any_map] using this
    have husing : a.method.map (fun m => " USING " ++ Text.lowered m) =
        a'.method.map fun m => " USING " ++ Text.lowered m := by
      have := congrArg (Option.map fun m => " USING " ++ m) hmethod
      simpa [Function.comp_def] using this
    simp only [Sketch.outlines, sketch, pieces, List.map_append, outline_columnPieces, hqualified,
      List.map_cons, List.map_nil, Piece.outline, isQualified_indexName (writes hsql).1,
      isQualified_indexName (writes hsql').1, hname, hany, htable, hunique, hifNotExists, husing]

end CreateIndex

end PgGateway.Catalog
