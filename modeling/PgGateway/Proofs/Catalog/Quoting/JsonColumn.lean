import PgGateway.Catalog.Filter
import PgGateway.Catalog.JsonColumn
import PgGateway.Proofs.Catalog.Quoting

set_option autoImplicit false

/-!
# Quoting in statements about JSON columns

The tools for JSON columns and the tools that count rows take a condition of the caller's own,
which stands in the statement as it is. Without one, all that they are given is quoted: names in
double quotes, values as JSON text in literals, and a path as the text of an array in a literal.

## Main results

* `PgGateway.Catalog.Filter.countQuotes`, `Filter.existsQuotes`, `JsonExtract.quotes`,
  `JsonSet.quotes`, `JsonKeys.quotes`, `JsonContains.quotes` — the tools quote what they are given.
-/

namespace PgGateway.Catalog

open Sql

/-- The segments of a path; a path that is refused has none. -/
def segments (path : Json) : List String :=
  (parsePath path).toOption.getD []

/-- The segments of a path that is not refused. -/
lemma segments_of_eq_ok {path : Json} {parts : List String} (h : parsePath path = .ok parts) :
    segments path = parts := by
  rw [segments, h]
  rfl

/-! ## Counting rows -/

namespace Filter

/-- The pieces of the statement that counts. -/
def countPieces (a : Filter) : List Piece :=
  [.fixed "SELECT count(*) AS count FROM ", .name a.table]

/-- The pieces of the statement that asks whether there are rows. -/
def existsPieces (a : Filter) : List Piece :=
  [.fixed "SELECT EXISTS (SELECT 1 FROM ", .name a.table, .fixed ") AS exists"]

/-- The form of the arguments. -/
def form (a : Filter) : Form :=
  { names := [some (isQualified a.table)] }

/-- The sketch of the arguments of a count. -/
def countSketch (a : Filter) : Sketch :=
  ⟨a.form, [a.countPieces]⟩

/-- The sketch of the arguments of a question for rows. -/
def existsSketch (a : Filter) : Sketch :=
  ⟨a.form, [a.existsPieces]⟩

/-- The statement that counts is made of its pieces. -/
lemma countWrites {a : Filter} {sql : String} (hnone : condition? a.condition = none)
    (h : a.countSql? = .ok sql) : Writes sql a.countPieces := by
  obtain ⟨table, htable, hsql⟩ := exists_of_bind_eq_ok h
  obtain ⟨hname, hchars⟩ := quoteName_eq_ok.mp htable
  cases hsql
  refine ⟨?_, by simp [countPieces, hname], rfl⟩
  unfold countPieces whereClause
  simp [hnone, hchars, Piece.chars, -String.reduceToList]

/-- The statement that asks for rows is made of its pieces. -/
lemma existsWrites {a : Filter} {sql : String} (hnone : condition? a.condition = none)
    (h : a.existsSql? = .ok sql) : Writes sql a.existsPieces := by
  obtain ⟨table, htable, hsql⟩ := exists_of_bind_eq_ok h
  obtain ⟨hname, hchars⟩ := quoteName_eq_ok.mp htable
  cases hsql
  refine ⟨?_, by simp [existsPieces, hname], rfl⟩
  unfold existsPieces whereClause
  simp [hnone, hchars, Piece.chars, -String.reduceToList]

/-- The tool that counts rows quotes the name of the table. -/
theorem countQuotes : Quotes countPlan condition countSketch where
  writes h hnone := forall₂_writes (fun _ => rfl) (countWrites hnone) h
  uniform _ _ _ _ hform := by
    simp_all [Sketch.outlines, countSketch, form, countPieces, Piece.outline]

/-- The tool that asks whether there are rows quotes the name of the table. -/
theorem existsQuotes : Quotes existsPlan condition existsSketch where
  writes h hnone := forall₂_writes (fun _ => rfl) (existsWrites hnone) h
  uniform _ _ _ _ hform := by
    simp_all [Sketch.outlines, existsSketch, form, existsPieces, Piece.outline]

end Filter

/-! ## Taking values out -/

namespace JsonExtract

/-- The pieces of the statement. -/
def pieces (a : JsonExtract) : List Piece :=
  [.fixed "SELECT ", .name a.column, .fixed " #> ", .literal (arrayChars (segments a.path)),
    .fixed " AS value FROM ", .name a.table]

/-- The sketch of the arguments. -/
def sketch (a : JsonExtract) : Sketch :=
  ⟨{ names := [some (isQualified a.column), some (isQualified a.table)] }, [a.pieces]⟩

/-- The statement is made of its pieces. -/
lemma writes {a : JsonExtract} {sql : String} (hnone : condition? a.condition = none)
    (h : a.sql? = .ok sql) : Writes sql a.pieces := by
  obtain ⟨path, hpath, h⟩ := exists_of_bind_eq_ok h
  obtain ⟨column, hcolumn, h⟩ := exists_of_bind_eq_ok h
  obtain ⟨table, htable, hsql⟩ := exists_of_bind_eq_ok h
  obtain ⟨hcolumnName, hcolumnChars⟩ := quoteName_eq_ok.mp hcolumn
  obtain ⟨htableName, htableChars⟩ := quoteName_eq_ok.mp htable
  cases hsql
  refine ⟨?_, by simp [pieces, hcolumnName, htableName], rfl⟩
  unfold pieces whereAll
  simp [hnone, hcolumnChars, htableChars, segments_of_eq_ok hpath, arrayLiteral, Piece.chars,
    -String.reduceToList]

/-- The tool that extracts values quotes the names and the path. -/
theorem quotes : Quotes plan condition sketch where
  writes h hnone := forall₂_writes (fun _ => rfl) (writes hnone) h
  uniform _ _ _ _ hform := by
    simp_all [Sketch.outlines, sketch, pieces, Piece.outline]

end JsonExtract

/-! ## Putting values in -/

namespace JsonSet

/-- The pieces of the statement. -/
def pieces (a : JsonSet) : List Piece :=
  [.fixed "UPDATE ", .name a.table, .fixed " SET ", .name a.column,
    .fixed " = jsonb_set(COALESCE(", .name a.column, .fixed ", ",
    .literal "{}".toList, .fixed "::jsonb), ", .literal (arrayChars (segments a.path)),
    .fixed ", ", .literal a.value.chars, .fixed "::jsonb", .fixed ", ",
    .fixed (if a.createMissing then "true" else "false"), .fixed ")"]

/-- The sketch of the arguments. -/
def sketch (a : JsonSet) : Sketch :=
  ⟨{ flags := [a.createMissing],
      names := [some (isQualified a.column), some (isQualified a.table)] },
    [a.pieces]⟩

/-- The statement is made of its pieces. -/
lemma writes {a : JsonSet} {sql : String} (hnone : condition? a.condition = none)
    (h : a.sql? = .ok sql) : Writes sql a.pieces := by
  obtain ⟨column, hcolumn, h⟩ := exists_of_bind_eq_ok h
  obtain ⟨path, hpath, h⟩ := exists_of_bind_eq_ok h
  obtain ⟨table, htable, hsql⟩ := exists_of_bind_eq_ok h
  obtain ⟨hcolumnName, hcolumnChars⟩ := quoteName_eq_ok.mp hcolumn
  obtain ⟨htableName, htableChars⟩ := quoteName_eq_ok.mp htable
  cases hsql
  have hempty : ", '{}'::jsonb), ".toList =
      ", ".toList ++ (literalChars "{}".toList ++ "::jsonb), ".toList) := by
    decide +kernel
  have hapart : ∀ createMissing qualified qualified' : Bool,
      areApart [.fixed "UPDATE ", .name qualified', .fixed " SET ", .name qualified,
        .fixed " = jsonb_set(COALESCE(", .name qualified, .fixed ", ", .literal,
        .fixed "::jsonb), ", .literal, .fixed ", ", .literal, .fixed "::jsonb", .fixed ", ",
        .fixed (if createMissing then "true" else "false"), .fixed ")"] = true := by decide
  refine ⟨?_, by simp [pieces, hcolumnName, htableName], hapart ..⟩
  unfold pieces whereAll
  simp [hnone, hempty, hcolumnChars, htableChars, segments_of_eq_ok hpath, arrayLiteral,
    jsonbLiteral, Piece.chars, -String.reduceToList]

/-- The tool that sets values quotes the names, the path and the value. -/
theorem quotes : Quotes plan condition sketch where
  writes h hnone := forall₂_writes (fun _ => rfl) (writes hnone) h
  uniform _ _ _ _ hform := by
    simp_all [Sketch.outlines, sketch, pieces, Piece.outline]

end JsonSet

/-! ## Listing keys -/

namespace JsonKeys

/-- The pieces of the expression for the objects. -/
def targetPieces (a : JsonKeys) : List Piece :=
  match a.path with
  | some path => [.name a.column, .fixed " #> ", .literal (arrayChars (segments path))]
  | none => [.name a.column]

/-- The pieces of the statement. -/
def pieces (a : JsonKeys) : List Piece :=
  [.fixed "SELECT DISTINCT jsonb_object_keys("] ++ a.targetPieces ++
    [.fixed ") AS key FROM ", .name a.table, .fixed " WHERE ", .fixed "jsonb_typeof("] ++
    a.targetPieces ++ [.fixed ") = ", .literal "object".toList, .fixed " ORDER BY key"]

/-- The sketch of the arguments. -/
def sketch (a : JsonKeys) : Sketch :=
  ⟨{ flags := [a.path.isSome], names := [some (isQualified a.column), some (isQualified a.table)] },
      [a.pieces]⟩

/-- The expression for the objects is the text of its pieces. -/
lemma target?_eq_ok {a : JsonKeys} {text : String} (h : a.target? = .ok text) :
    isName a.column = true ∧ text.toList = a.targetPieces.flatMap Piece.chars := by
  obtain ⟨table, column, path, condition⟩ := a
  obtain ⟨quoted, hquoted, h⟩ := exists_of_bind_eq_ok h
  obtain ⟨hname, hchars⟩ := quoteName_eq_ok.mp hquoted
  refine ⟨hname, ?_⟩
  cases path with
  | none =>
    cases h
    simp [targetPieces, Piece.chars, hchars]
  | some path =>
    obtain ⟨parts, hparts, h⟩ := exists_of_bind_eq_ok h
    cases h
    simp [targetPieces, Piece.chars, hchars, segments_of_eq_ok hparts, arrayLiteral,
      -String.reduceToList]

/-- The outline of the expression is known from whether there is a path. -/
lemma outline_targetPieces (a : JsonKeys) :
    a.targetPieces.map Piece.outline =
      .name (isQualified a.column) ::
        if a.path.isSome then [.fixed " #> ", .literal] else [] := by
  obtain ⟨table, column, path, condition⟩ := a
  cases path <;> rfl

/-- The statement is made of its pieces. -/
lemma writes {a : JsonKeys} {sql : String} (hnone : condition? a.condition = none)
    (h : a.sql? = .ok sql) : Writes sql a.pieces := by
  obtain ⟨target, htarget, h⟩ := exists_of_bind_eq_ok h
  obtain ⟨table, htable, hsql⟩ := exists_of_bind_eq_ok h
  obtain ⟨hcolumnName, htargetChars⟩ := target?_eq_ok htarget
  obtain ⟨htableName, htableChars⟩ := quoteName_eq_ok.mp htable
  cases hsql
  have hobject : ") = 'object'".toList = ") = ".toList ++ literalChars "object".toList := by
    decide +kernel
  refine ⟨?_, ?_, ?_⟩
  · unfold pieces whereAll
    simp [hnone, hobject, htargetChars, htableChars, Text.join, Text.joined, Piece.chars,
      -String.reduceToList]
  · have haccepted : ∀ p ∈ a.targetPieces, p.isAccepted = true := by
      unfold targetPieces
      split <;> simp [hcolumnName]
    simpa [pieces, or_imp, forall_and, htableName] using haccepted
  · simp only [pieces, List.map_append, outline_targetPieces]
    cases a.path.isSome <;> rfl

/-- The tool that lists keys quotes the names and the path. -/
theorem quotes : Quotes plan condition sketch where
  writes h hnone := forall₂_writes (fun _ => rfl) (writes hnone) h
  uniform _ _ _ _ hform := by
    simp only [sketch, Form.mk.injEq, List.cons.injEq, Option.some.injEq, and_true] at hform
    simp only [Sketch.outlines, sketch, pieces, List.map_append, outline_targetPieces,
      List.map_cons, List.map_nil, Piece.outline, hform.1, hform.2.1, hform.2.2]

end JsonKeys

/-! ## Finding documents -/

namespace JsonContains

/-- The pieces of the statement. -/
def pieces (a : JsonContains) : List Piece :=
  [.fixed "SELECT * FROM ", .name a.table, .fixed " WHERE ", .name a.column, .fixed " @> ",
    .literal a.value.chars, .fixed "::jsonb"]

/-- The sketch of the arguments. -/
def sketch (a : JsonContains) : Sketch :=
  ⟨{ names := [some (isQualified a.column), some (isQualified a.table)] }, [a.pieces]⟩

/-- The statement is made of its pieces. -/
lemma writes {a : JsonContains} {sql : String} (hnone : condition? a.condition = none)
    (h : a.sql? = .ok sql) : Writes sql a.pieces := by
  obtain ⟨column, hcolumn, h⟩ := exists_of_bind_eq_ok h
  obtain ⟨table, htable, hsql⟩ := exists_of_bind_eq_ok h
  obtain ⟨hcolumnName, hcolumnChars⟩ := quoteName_eq_ok.mp hcolumn
  obtain ⟨htableName, htableChars⟩ := quoteName_eq_ok.mp htable
  cases hsql
  refine ⟨?_, by simp [pieces, hcolumnName, htableName], rfl⟩
  unfold pieces whereAll
  simp [hnone, hcolumnChars, htableChars, jsonbLiteral, Text.join, Text.joined, Piece.chars,
    -String.reduceToList]

/-- The tool that finds documents quotes the names and the value. -/
theorem quotes : Quotes plan condition sketch where
  writes h hnone := forall₂_writes (fun _ => rfl) (writes hnone) h
  uniform _ _ _ _ hform := by
    simp_all [Sketch.outlines, sketch, pieces, Piece.outline]

end JsonContains

end PgGateway.Catalog
