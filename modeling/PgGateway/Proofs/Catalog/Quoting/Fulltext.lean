import PgGateway.Catalog.Fulltext
import PgGateway.Proofs.Catalog.Quoting

set_option autoImplicit false

/-!
# Quoting in full-text search

The tools for searches put the language and the terms into literals, and the names of the table,
the index and the columns into double quotes.

## Main results

* `PgGateway.Catalog.FulltextSearch.quotes`, `FulltextIndex.quotes` — the tools quote what they are
  given.
-/

namespace PgGateway.Catalog

open Sql

/-! ## Search vectors -/

/-- The pieces of a column whose NULL counts as no text. -/
def textPieces (column : String) : List Piece :=
  [.fixed "coalesce(", .name column, .fixed ", ", .literal [], .fixed ")"]

/-- The pieces of a search vector. -/
def vectorPieces (language : String) (columns : List String) : List Piece :=
  [.fixed "to_tsvector(", .literal language.toList, .fixed ", "] ++
    [Piece.fixed " || ", .literal " ".toList, .fixed " || "].intercalate (columns.map textPieces) ++
    [.fixed ")"]

/-- A search vector is the text of its pieces. -/
lemma searchVector_eq_ok {language text : String} {columns : List String}
    (h : searchVector language columns = .ok text) :
    columns ≠ [] ∧ (∀ p ∈ vectorPieces language columns, p.isAccepted = true) ∧
      text.toList = (vectorPieces language columns).flatMap Piece.chars := by
  rw [searchVector] at h
  split at h
  · cases h
  · next hne =>
    obtain ⟨parts, hparts, h⟩ := exists_of_bind_eq_ok h
    cases h
    have hcolumn : List.Forall₂ (fun column part =>
        (∀ p ∈ textPieces column, p.isAccepted = true) ∧
          part.toList = (textPieces column).flatMap Piece.chars) columns parts := by
      refine (forall₂_of_mapM_eq_ok hparts).imp fun column part hpart => ?_
      obtain ⟨name, hname, hpart⟩ := exists_of_bind_eq_ok hpart
      cases hpart
      obtain ⟨haccepted, hchars⟩ := quoteName_eq_ok.mp hname
      have hempty : ", '')".toList = ", ".toList ++ (literalChars [] ++ ")".toList) := by decide
      simp [textPieces, Piece.chars, haccepted, hchars, hempty,
        -String.reduceToList]
    obtain ⟨hjoined, htext⟩ := written_join
      (show " || ' ' || ".toList =
        [.fixed " || ", .literal " ".toList, .fixed " || "].flatMap Piece.chars by decide)
      (by simp) hcolumn
    refine ⟨by simpa using hne, ?_, ?_⟩
    · simpa [vectorPieces, or_imp, forall_and] using hjoined
    · unfold vectorPieces
      simp [htext, quoteLiteral, Piece.chars, -String.reduceToList]

/-- The outline of a search vector is known from which columns are qualified. -/
lemma outline_vectorPieces (language : String) (columns : List String) :
    (vectorPieces language columns).map Piece.outline =
      [.fixed "to_tsvector(", .literal, .fixed ", "] ++
        [Outline.fixed " || ", .literal, .fixed " || "].intercalate
          ((columns.map isQualified).map fun qualified =>
            [.fixed "coalesce(", .name qualified, .fixed ", ", .literal, .fixed ")"]) ++
        [.fixed ")"] := by
  rw [vectorPieces, List.map_append, List.map_append, outline_intercalate, List.map_map]
  rfl

/-- A search vector is a row that ends outside quotes. -/
lemma foldlM_follow_vectorPieces {language : String} {columns : List String}
    (hne : columns ≠ []) :
    ((vectorPieces language columns).map Piece.outline).foldlM Outline.follow false =
      some false := by
  rw [outline_vectorPieces]
  refine foldlM_follow_append (b := false) (foldlM_follow_append (b := false) rfl
    (foldlM_follow_intercalate (by simpa using hne) ?_ rfl)) rfl
  intro part hpart
  obtain ⟨qualified, -, rfl⟩ := List.mem_map.mp hpart
  rfl

/-! ## Searching -/

namespace FulltextSearch

/-- The pieces of the terms. -/
def termPieces (a : FulltextSearch) : List Piece :=
  [.fixed "plainto_tsquery(", .literal (a.language.getD defaultLanguage).toList, .fixed ", ",
    .literal a.terms.toList, .fixed ")"]

/-- The pieces of the statement. -/
def pieces (a : FulltextSearch) : List Piece :=
  [.fixed "SELECT *, ts_rank("] ++ vectorPieces (a.language.getD defaultLanguage) a.columns ++
    ([.fixed ", "] ++ a.termPieces ++ [.fixed ") AS rank FROM ", .name a.table,
      .fixed " WHERE "]) ++ vectorPieces (a.language.getD defaultLanguage) a.columns ++
    ([.fixed " @@ "] ++ a.termPieces ++ [.fixed " ORDER BY rank DESC"])

/-- The sketch of the arguments. Whether a language is given makes no difference. -/
def sketch (a : FulltextSearch) : Sketch :=
  ⟨{ names := some (isQualified a.table) :: a.columns.map fun c => some (isQualified c) },
    [a.pieces]⟩

/-- The statement is made of its pieces. -/
lemma writes {a : FulltextSearch} {sql : String} (h : a.sql? = .ok sql) :
    Writes sql a.pieces := by
  obtain ⟨vector, hvector, h⟩ := exists_of_bind_eq_ok h
  obtain ⟨table, htable, hsql⟩ := exists_of_bind_eq_ok h
  obtain ⟨hne, hcolumns, hvectorChars⟩ := searchVector_eq_ok hvector
  obtain ⟨hname, htableChars⟩ := quoteName_eq_ok.mp htable
  cases hsql
  have hrow := @foldlM_follow_vectorPieces (a.language.getD defaultLanguage) _ hne
  refine ⟨?_, ?_, ?_⟩
  · unfold pieces termPieces
    simp [htableChars, hvectorChars, quoteLiteral, Piece.chars, -String.reduceToList]
  · simpa [pieces, termPieces, or_imp, forall_and, hname] using hcolumns
  · simp only [pieces, List.map_append]
    refine areApart_of_foldlM (b := false) (foldlM_follow_append (foldlM_follow_append
      (foldlM_follow_append (foldlM_follow_append (b := false) rfl hrow) ?_) hrow) ?_)
    · rfl
    · rfl

/-- The tool that searches quotes the language, the terms and the names. -/
theorem quotes : Quotes plan unconditional sketch where
  writes h _ := forall₂_writes (fun _ => rfl) writes h
  uniform {a a' _ _} _ _ _ _ hform := by
    simp only [sketch, Form.mk.injEq, List.cons.injEq, Option.some.injEq, and_true,
      true_and] at hform
    obtain ⟨htable, hcolumns⟩ := hform
    simp only [Sketch.outlines, sketch, pieces, termPieces, List.map_append, outline_vectorPieces,
      map_isQualified_eq hcolumns, List.map_cons, List.map_nil, Piece.outline, htable]

end FulltextSearch

/-! ## Creating the index -/

namespace FulltextIndex

/-- The pieces of the statement. -/
def pieces (a : FulltextIndex) : List Piece :=
  [.fixed "CREATE INDEX IF NOT EXISTS ", .name a.indexName, .fixed " ON ", .name a.table,
    .fixed " USING gin ("] ++ vectorPieces (a.language.getD defaultLanguage) a.columns ++
    [.fixed ")"]

/-- The sketch of the arguments. -/
def sketch (a : FulltextIndex) : Sketch :=
  ⟨{ names := a.name.map isQualified :: some (isQualified a.table) ::
    a.columns.map fun c => some (isQualified c) }, [a.pieces]⟩

/-- A name that is made for an index is not qualified. -/
lemma isQualified_indexName {a : FulltextIndex} (h : isName a.table = true) :
    isQualified a.indexName = (a.name.map isQualified).getD false := by
  obtain ⟨table, columns, name, language⟩ := a
  cases name with
  | some name => rfl
  | none =>
    have hidx : isQualified "idx_" = false := by decide
    have hfts : isQualified "_fts" = false := by decide
    simp only [indexName, Option.getD_none, Option.map_none, isQualified_append,
      isQualified_splitName h, hidx, hfts, Bool.false_or]

/-- The statement is made of its pieces. -/
lemma writes {a : FulltextIndex} {sql : String} (h : a.sql? = .ok sql) :
    isName a.table = true ∧ Writes sql a.pieces := by
  obtain ⟨index, hindex, h⟩ := exists_of_bind_eq_ok h
  obtain ⟨table, htable, h⟩ := exists_of_bind_eq_ok h
  obtain ⟨vector, hvector, hsql⟩ := exists_of_bind_eq_ok h
  obtain ⟨hindexName, hindexChars⟩ := quoteName_eq_ok.mp hindex
  obtain ⟨htableName, htableChars⟩ := quoteName_eq_ok.mp htable
  obtain ⟨hne, hcolumns, hvectorChars⟩ := searchVector_eq_ok hvector
  cases hsql
  refine ⟨htableName, ?_, ?_, ?_⟩
  · unfold pieces
    simp [hindexChars, htableChars, hvectorChars, Piece.chars, -String.reduceToList]
  · simpa [pieces, or_imp, forall_and, hindexName, htableName] using hcolumns
  · simp only [pieces, List.map_append]
    exact areApart_of_foldlM (b := false) (foldlM_follow_append (foldlM_follow_append
      (b := false) rfl (foldlM_follow_vectorPieces hne)) rfl)

/-- The tool that creates an index for searches quotes the language and the names. -/
theorem quotes : Quotes plan unconditional sketch where
  writes h _ := forall₂_writes (fun _ => rfl) (fun hsql => (writes hsql).2) h
  uniform {a a' _ _} h h' _ _ hform := by
    obtain ⟨sql, hsql, -⟩ := exists_of_bind_eq_ok h
    obtain ⟨sql', hsql', -⟩ := exists_of_bind_eq_ok h'
    simp only [sketch, Form.mk.injEq, List.cons.injEq, Option.some.injEq, and_true,
      true_and] at hform
    obtain ⟨hname, htable, hcolumns⟩ := hform
    simp only [Sketch.outlines, sketch, pieces, List.map_append, outline_vectorPieces,
      map_isQualified_eq hcolumns, List.map_cons, List.map_nil, Piece.outline,
      isQualified_indexName (writes hsql).1, isQualified_indexName (writes hsql').1, hname, htable]

end FulltextIndex

end PgGateway.Catalog
