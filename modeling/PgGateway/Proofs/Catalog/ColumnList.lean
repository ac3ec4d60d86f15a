import PgGateway.Catalog.Table
import PgGateway.Proofs.Outcome
import PgGateway.Proofs.Sql.ColumnType
import PgGateway.Proofs.Sql.Identifier
import PgGateway.Proofs.Text.Nesting

set_option autoImplicit false

/-!
# The list of columns of a new table

The types of the columns go into the statement as they are. So a type could begin a literal or a
comment, end the list or the statement, or add a column, if it were not for the language of types:
of what matters to the list it has only commas, which stand in parentheses. The list therefore reads
as the columns in order, as long as no column has a default, which is an expression of the caller's.

## Main definitions

* `PgGateway.Catalog.IsListItem` — whether a text leaves the list it stands in as it is.
* `PgGateway.Catalog.ColumnPlan.WrittenAs` — the item of a column.
* `PgGateway.Catalog.CreateTable.ListsColumns` — how a statement reads as its columns.

## Main results

* `PgGateway.Catalog.isListItem_of_mem_columnTypes` — every type leaves its list as it is.
* `PgGateway.Catalog.CreateTable.sql?_eq_ok_iff` — how the statement is put together.
* `PgGateway.Catalog.CreateTable.sql?_grammar` — what every statement reads as, and which tables
  have one.
-/

namespace PgGateway.Sql

/-- Whether a name, without the blanks around it, is that of an identifier. -/
def IsIdentifier (name : String) : Prop :=
  ∃ i : Identifier, i.IsValid ∧ Text.strip name = i.text

/-- The names of identifiers are put in quotes. -/
lemma exists_quoteName_iff_isIdentifier {name : String} :
    (∃ text, quoteName name = .ok text) ↔ IsIdentifier name :=
  exists_quoteName_iff.trans Identifier.isName_iff_exists

end PgGateway.Sql

namespace PgGateway.Catalog

open Sql Text

/-! ## Items of a list -/

/-- The characters that begin a literal or a comment, or end a statement. -/
def harmfulMarks : List Char :=
  ['\'', ';', '-']

/-- The characters by which a text can do something to the list or the statement it stands in. -/
def listMarks : List Char :=
  harmfulMarks ++ ['(', ')', ',']

/-- Whether a text leaves the list and the statement that it stands in as they are. -/
structure IsListItem (s : List Char) : Prop where
  /-- No literal or comment begins in it, and no statement ends. -/
  harmless : ∀ c ∈ harmfulMarks, c ∉ s
  /-- Its parentheses are nested. -/
  nested : IsWellNested s
  /-- Its commas do not divide the list. -/
  undivided : IsUndivided s

/-- None of some characters is in a text of characters of another kind. -/
lemma notMem_of_any {p : Char → Bool} {marks s : List Char} (hp : marks.any p = false)
    (hs : s ∈ many p) : ∀ c ∈ marks, c ∉ s :=
  fun c hc => notMem_of_mem_many hs (Bool.eq_false_iff.mpr (List.any_eq_false.mp hp c hc))

namespace IsListItem

variable {a b s : List Char} {p : Char → Bool}

/-- Two items in a row are one. -/
lemma append (ha : IsListItem a) (hb : IsListItem b) : IsListItem (a ++ b) where
  harmless c hc hmem := (List.mem_append.mp hmem).elim (ha.harmless c hc) (hb.harmless c hc)
  nested := ha.nested.append hb.nested
  undivided := ha.undivided.append hb.undivided

/-- A text without marks is an item. -/
lemma of_mem_many (hp : listMarks.any p = false) (hs : s ∈ many p) : IsListItem s := by
  have hnone : ∀ c ∈ listMarks, c ∉ s := notMem_of_any hp hs
  refine ⟨fun c hc => hnone c (List.mem_append_left _ hc),
    .of_not_mem (hnone _ (by decide)) (hnone _ (by decide)), .of_forall fun c hc => ⟨?_, ?_, ?_⟩⟩
  all_goals
    rintro rfl
    exact hnone _ (by decide) hc

/-- A text in parentheses is an item if it has no marks but commas. -/
lemma parenthesized (hp : (harmfulMarks ++ ['(', ')']).any p = false) (hs : s ∈ many p) :
    IsListItem ('(' :: (s ++ [')'])) := by
  have hnone : ∀ c ∈ harmfulMarks ++ ['(', ')'], c ∉ s := notMem_of_any hp hs
  have hnested : IsWellNested s :=
    .of_not_mem (hnone _ (by decide)) (hnone _ (by decide))
  have hharmful : ∀ c ∈ harmfulMarks, c ≠ '(' ∧ c ≠ ')' := by simp [harmfulMarks]
  refine ⟨fun c hc => ?_, hnested.parenthesized, hnested.isUndivided_parenthesized⟩
  simp [hharmful c hc, hnone c (List.mem_append_left _ hc)]

end IsListItem

section Lists

variable {front : List Char} {texts : List (List Char)}

/-- No literal or comment begins in a list of items, and no statement ends. -/
lemma notMem_of_items (hfront : ∀ c ∈ listMarks, c ∉ front)
    (htexts : ∀ text ∈ texts, IsListItem text) :
    ∀ c ∈ harmfulMarks, c ∉ front ++ '(' :: (joined [',', ' '] texts ++ [')']) := by
  intro c hc hmem
  have hglue : ∀ c ∈ harmfulMarks, c ∉ ['(', ',', ' ', ')'] := by simp [harmfulMarks]
  have hnot := hglue c hc
  simp only [List.mem_append, List.mem_cons, List.not_mem_nil, or_false, not_or] at hmem hnot
  obtain ⟨hopen, hcomma, hspace, hclose⟩ := hnot
  rcases hmem with hmem | hmem | hmem | hmem
  · exact hfront c (List.mem_append_left _ hc) hmem
  · exact hopen hmem
  · rw [joined_eq_intercalate] at hmem
    rcases mem_of_mem_intercalate hmem with hmem | ⟨text, htext, hmem⟩
    · simp [hcomma, hspace] at hmem
    · exact (htexts text htext).harmless c hc hmem
  · exact hclose hmem

/-- The outermost parentheses of a list of items are those around it. -/
lemma hasInside_of_items (hfront : ∀ c ∈ listMarks, c ∉ front)
    (htexts : ∀ text ∈ texts, IsListItem text) :
    HasInside (front ++ '(' :: (joined [',', ' '] texts ++ [')'])) (joined [',', ' '] texts) := by
  have hglue : IsWellNested [',', ' '] := .of_not_mem (by decide) (by decide)
  exact ⟨front, rfl, hfront _ (by decide), hfront _ (by decide),
    hglue.joined fun text htext => (htexts text htext).nested⟩

end Lists

/-- **Types.** Every type is an item. -/
theorem isListItem_of_mem_columnTypes {s : List Char} (h : s ∈ columnTypes) : IsListItem s := by
  obtain ⟨word, hword, size, back, hback, rfl, hsize⟩ := exists_of_mem_columnTypes h
  have hsizeItem : IsListItem size := by
    rcases hsize with rfl | ⟨inner, hinner, rfl⟩
    · exact .of_mem_many (p := isTypeChar) (by decide) (Language.nil_mem_kstar _)
    · exact .parenthesized (by decide) hinner
  exact ((IsListItem.of_mem_many (by decide) hword).append hsizeItem).append
    (.of_mem_many (by decide) hback)

/-- A character of a name in quotes. -/
def isQuotedChar (c : Char) : Bool :=
  isNameChar c || c = '"' || c = '.'

/-- A name in quotes has such characters only. -/
lemma mem_many_of_quoteName {name text : String} (h : quoteName name = .ok text) :
    text.toList ∈ many isQuotedChar := by
  obtain ⟨hname, hchars⟩ := quoteName_eq_ok.mp h
  refine mem_many_iff.mpr fun c hc => ?_
  rw [hchars, quotedChars, joined_eq_intercalate] at hc
  rcases mem_of_mem_intercalate hc with hpoint | ⟨quoted, hquoted, hmem⟩
  · rw [List.mem_singleton.mp hpoint]
    rfl
  · obtain ⟨part, hpart, rfl⟩ := List.mem_map.mp hquoted
    have hpart := (isName_iff.mp hname).2 part hpart
    simp only [quotePart, List.cons_append, List.mem_cons, List.mem_append, List.not_mem_nil,
      or_false] at hmem
    rcases hmem with rfl | hmem | rfl
    · rfl
    · simp [isQuotedChar, isNameChar_of_mem hpart hmem]
    · rfl

namespace ColumnPlan

variable {c : ColumnPlan} {text : String}

/-- A column has its name in quotes, its type and its constraints. -/
lemma sql?_eq_ok_iff : c.sql? = .ok text ↔ trim c.dataType.toList ∈ columnTypes ∧
    ∃ name, quoteName c.name = .ok name ∧
      text = name ++ " " ++ strip c.dataType ++ c.constraints := by
  rw [← isColumnType_iff, sql?]
  split
  · next htype =>
    rw [bind_eq_ok_iff]
    simp only [htype, true_and, pure, Except.pure, Except.ok.injEq, eq_comm (a := text)]
  · next htype => exact iff_of_false (by simp) fun h => htype h.1

/-- Whether a text is the item of a column: the name in quotes, the type and the constraints. -/
def WrittenAs (c : ColumnPlan) (item : List Char) : Prop :=
  ∃ name, quoteName c.name = .ok name ∧
    item = (name ++ " " ++ strip c.dataType ++ c.constraints).toList

/-- A column can be written if its name is that of an identifier and its type is in the language. -/
lemma exists_sql?_iff (c : ColumnPlan) :
    (∃ text, c.sql? = .ok text) ↔ IsIdentifier c.name ∧ trim c.dataType.toList ∈ columnTypes := by
  simp only [sql?_eq_ok_iff, ← exists_quoteName_iff_isIdentifier]
  constructor
  · rintro ⟨_, htype, name, hname, -⟩
    exact ⟨⟨name, hname⟩, htype⟩
  · rintro ⟨⟨name, hname⟩, htype⟩
    exact ⟨_, htype, name, hname, rfl⟩

/-- The constraints of a column without a default are an item. -/
lemma isListItem_constraints (h : c.default = none) : IsListItem c.constraints.toList := by
  have hletters : c.constraints.toList ∈ many (fun d => isAsciiLetter d || d = ' ') := by
    rw [constraints, h]
    rcases c.primaryKey with _ | _ <;> rcases c.nullable with _ | _ <;>
      rcases c.unique with _ | _ <;> exact mem_many_of_all (by decide +kernel)
  exact .of_mem_many (by decide) hletters

/-- A column without a default is an item. -/
lemma isListItem_of_sql? (h : c.default = none) (hsql : c.sql? = .ok text) :
    IsListItem text.toList := by
  obtain ⟨htype, name, hname, rfl⟩ := sql?_eq_ok_iff.mp hsql
  have hnameItem : IsListItem name.toList :=
    .of_mem_many (by decide) (mem_many_of_quoteName hname)
  have hspace : IsListItem " ".toList :=
    .of_mem_many (p := isTypeChar) (by decide) (mem_many_of_all (by decide))
  have htypeItem : IsListItem (strip c.dataType).toList := by
    rw [strip, String.toList_ofList]
    exact isListItem_of_mem_columnTypes htype
  simp only [String.toList_append]
  exact ((hnameItem.append hspace).append htypeItem).append (isListItem_constraints h)

end ColumnPlan

namespace CreateTable

variable {a : CreateTable} {sql : String}

/-- The statement up to the list of columns. -/
def front (a : CreateTable) (table : String) : String :=
  "CREATE TABLE " ++ when a.ifNotExists "IF NOT EXISTS " ++ table ++ " "

/-- No mark of a list stands before the list. -/
lemma notMem_front {table : String} (h : quoteName a.table = .ok table) :
    ∀ c ∈ listMarks, c ∉ (a.front table).toList := by
  set p : Char → Bool := fun c => isQuotedChar c || c = ' '
  have hlead : ("CREATE TABLE " ++ when a.ifNotExists "IF NOT EXISTS ").toList ∈ many p := by
    rcases a.ifNotExists with _ | _ <;> exact mem_many_of_all (by decide +kernel)
  have htable : table.toList ∈ many p :=
    HasOnly.of_many (fun c hc => by simp [p, hc]) _ (mem_many_of_quoteName h)
  have hspace : [' '] ∈ many p := mem_many_of_all (by decide)
  have hfront : (a.front table).toList ∈ many p := by
    rw [front, String.toList_append, String.toList_append]
    exact append_mem_many (append_mem_many hlead htable) hspace
  exact notMem_of_any (by decide) hfront

/-- The statement is put together from the table and the columns. -/
lemma sql?_eq_ok_iff : a.sql? = .ok sql ↔ a.columns ≠ [] ∧ ∃ items table,
    a.columns.mapM ColumnPlan.sql? = .ok items ∧ quoteName a.table = .ok table ∧
      sql = a.front table ++ "(" ++ join ", " items ++ ")" := by
  rw [sql?]
  split
  · next hempty => exact iff_of_false (by simp) fun h => h.1 (List.isEmpty_iff.mp hempty)
  · next hempty =>
    rw [List.isEmpty_iff] at hempty
    simp only [bind_eq_ok_iff, hempty, ne_eq, not_false_eq_true, true_and]
    constructor
    · rintro ⟨items, hitems, table, htable, hsql⟩
      cases hsql
      exact ⟨items, table, hitems, htable, by simp [front, String.append_assoc]⟩
    · rintro ⟨items, table, hitems, htable, rfl⟩
      exact ⟨items, hitems, table, htable, by simp [front, String.append_assoc, pure, Except.pure]⟩

/-- A table can be created if it has a column, and it and its columns can be written. -/
lemma exists_sql?_iff (a : CreateTable) : (∃ sql, a.sql? = .ok sql) ↔
    a.columns ≠ [] ∧ IsIdentifier a.table ∧
      ∀ c ∈ a.columns, IsIdentifier c.name ∧ trim c.dataType.toList ∈ columnTypes := by
  have hcolumns : (∀ c ∈ a.columns, IsIdentifier c.name ∧ trim c.dataType.toList ∈ columnTypes) ↔
      ∃ items, a.columns.mapM ColumnPlan.sql? = .ok items := by
    simp only [← ColumnPlan.exists_sql?_iff, exists_mapM_eq_ok_iff]
  rw [hcolumns, ← exists_quoteName_iff_isIdentifier]
  simp only [sql?_eq_ok_iff]
  constructor
  · rintro ⟨_, hne, items, table, hitems, htable, -⟩
    exact ⟨hne, ⟨table, htable⟩, items, hitems⟩
  · rintro ⟨hne, ⟨table, htable⟩, items, hitems⟩
    exact ⟨_, hne, items, table, hitems, htable, rfl⟩

/-- How a statement reads as the columns of a table. -/
structure ListsColumns (a : CreateTable) (sql : String) : Prop where
  /-- No literal or comment begins in it, and no statement ends. -/
  harmless : '\'' ∉ sql.toList ∧ ';' ∉ sql.toList ∧ ¬ ['-', '-'] <:+: sql.toList
  /-- Its parentheses are nested. -/
  nested : IsWellNested sql.toList
  /-- What stands in the outermost ones is divided into the columns in order, with a blank before
  each but the first. -/
  divided : ∃ body first rest, HasInside sql.toList body ∧
    topPieces 0 body = first :: rest.map (' ' :: ·) ∧
    List.Forall₂ ColumnPlan.WrittenAs a.columns (first :: rest)

/-- If no column has a default, then the statement is a list of one item for each column. -/
lemma exists_items_of_sql? (hdefault : ∀ c ∈ a.columns, c.default = none)
    (hsql : a.sql? = .ok sql) : ∃ front first rest, (∀ c ∈ listMarks, c ∉ front) ∧
      (∀ text ∈ first :: rest, IsListItem text) ∧
      List.Forall₂ ColumnPlan.WrittenAs a.columns (first :: rest) ∧
      sql.toList = front ++ '(' :: (joined [',', ' '] (first :: rest) ++ [')']) := by
  obtain ⟨hne, items, table, hitems, htable, rfl⟩ := sql?_eq_ok_iff.mp hsql
  have hwritten : List.Forall₂ ColumnPlan.WrittenAs a.columns (items.map String.toList) := by
    rw [List.forall₂_map_right_iff]
    refine (forall₂_of_mapM_eq_ok hitems).imp fun c item hitem => ?_
    obtain ⟨-, name, hname, rfl⟩ := ColumnPlan.sql?_eq_ok_iff.mp hitem
    exact ⟨name, hname, rfl⟩
  obtain ⟨first, rest, rfl⟩ : ∃ first rest, items = first :: rest := by
    refine List.exists_cons_of_ne_nil ?_
    rintro rfl
    exact hne (List.forall₂_nil_right_iff.mp hwritten)
  refine ⟨(a.front table).toList, first.toList, rest.map String.toList, notMem_front htable, ?_,
    hwritten, by simp [join]⟩
  rw [← List.map_cons, List.forall_mem_map]
  intro item hmem
  obtain ⟨c, hc, hitem⟩ := exists_of_mem_mapM hitems hmem
  exact ColumnPlan.isListItem_of_sql? (hdefault c hc) hitem

/-- **Reading the columns.** If no column has a default, then the statement reads as its columns. -/
theorem listsColumns_of_sql? (hdefault : ∀ c ∈ a.columns, c.default = none)
    (hsql : a.sql? = .ok sql) : a.ListsColumns sql := by
  obtain ⟨front, first, rest, hfront, hitems, hwritten, hchars⟩ :=
    exists_items_of_sql? hdefault hsql
  have hharmless := notMem_of_items hfront hitems
  have hinside := hasInside_of_items hfront hitems
  rw [← hchars] at hharmless hinside
  rw [List.forall_mem_cons] at hitems
  exact
    { harmless := ⟨hharmless _ (by decide), hharmless _ (by decide), fun hdashes =>
        hharmless '-' (by decide) (hdashes.subset List.mem_cons_self)⟩
      nested := hinside.isWellNested
      divided := ⟨_, first, rest, hinside,
        topPieces_joined hitems.1.undivided fun text htext => (hitems.2 text htext).undivided,
        hwritten⟩ }

/-- **The grammar of a new table.** If no column has a default then nothing in the statement begins
a literal or a comment or ends the statement, its parentheses are nested, and what stands in the
outermost ones is divided into one item for each column, in order: the name in quotes, the type, and
the constraints. There is no statement exactly if there is no column, or the name of the table or of
a column is none, or the type of a column is not in the language of types. -/
theorem sql?_grammar (a : CreateTable) :
    ((∀ c ∈ a.columns, c.default = none) → ∀ sql, a.sql? = .ok sql → a.ListsColumns sql) ∧
    ((∃ e, a.sql? = .error e) ↔
      a.columns = [] ∨ ¬ IsIdentifier a.table ∨
        ∃ c ∈ a.columns, ¬ IsIdentifier c.name ∨ trim c.dataType.toList ∉ columnTypes) := by
  refine ⟨fun hdefault sql => listsColumns_of_sql? hdefault, ?_⟩
  rw [exists_eq_error_iff, exists_sql?_iff]
  simp only [not_and_or, ne_eq, not_not, not_forall, exists_prop]

/-- The comma of a type does not divide the list. -/
theorem sql?_grammar_of_numeric :
    let a : CreateTable := ⟨"shop.items", [⟨"id", "bigint", true, true, false, none⟩,
      ⟨"price", " numeric(10, 2)", false, false, false, none⟩,
      ⟨"tags", "text[]", true, false, true, none⟩], true⟩
    let sql := "CREATE TABLE IF NOT EXISTS \"shop\".\"items\" (" ++
      "\"id\" bigint PRIMARY KEY, \"price\" numeric(10, 2) NOT NULL, " ++
      "\"tags\" text[] UNIQUE)"
    a.sql? = .ok sql ∧ a.ListsColumns sql := by
  exact ⟨by decide +kernel, (sql?_grammar _).1 (by decide) _ (by decide +kernel)⟩

end CreateTable

end PgGateway.Catalog
