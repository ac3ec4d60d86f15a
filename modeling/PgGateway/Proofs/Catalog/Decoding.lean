import PgGateway.Catalog.Standard
import PgGateway.Proofs.Tool.Announced
import Mathlib.Algebra.Group.Int.Defs

set_option autoImplicit false

/-!
# Announced arguments of the catalog

Each tool of the catalog announces its arguments by a schema and reads them by a reader of its own.
An object that is valid under the schema is read, with one reservation. Some fields have a further
name, which the schema does not know: an object that is valid may give such a field twice, or give
it by a value that does not fit. Limits from 2³² on are left aside.

## Main definitions

* `PgGateway.Catalog.Intake` — a tool with the reader of its arguments and with the condition on
  which a valid object is read.
* `PgGateway.Catalog.intakes` — the tools of the catalog.

## Main results

* `PgGateway.Catalog.exists_read_iff_clear` — a valid object is read exactly on the condition.
-/

namespace PgGateway.Catalog

open Shape
open Schema (must may)

/-- Whether an object has no limit that does not fit into 32 bits. -/
def HasSmallLimit (ms : List (String × Json)) : Prop :=
  ∀ n, ("limit", Json.int n) ∈ ms → n < 2 ^ 32

/-- Whether a value is a truth value. -/
def IsFlag (value : Json) : Prop :=
  ∃ b, value = .bool b

/-- The values that can be read as flags. -/
lemma exists_flag_iff (value : Json) : (∃ b, flag value = .ok b) ↔ IsFlag value := by
  cases value <;> simp [flag, IsFlag]

/-- Whether a value is a string or null. -/
def IsTextOrNull (value : Json) : Prop :=
  value = .null ∨ ∃ s, value = .str s

/-- The values that can be read as texts that may be null. -/
lemma exists_textOrNull_iff (value : Json) :
    (∃ s, optional text value = .ok s) ↔ IsTextOrNull value := by
  cases value <;> simp [Shape.optional, text, IsTextOrNull, Except.map]

/-- Whether of the objects that are valid under a schema a reader takes those on a condition. -/
def Decodes {α : Type} (schema : Json) (read : Reader α) (clear : List (String × Json) → Prop) :
    Prop :=
  ∀ ms, (Json.obj ms).IsDistinct → HasSmallLimit ms → schema.Admits (.obj ms) →
    ((∃ a, read (.obj ms) = .ok a) ↔ clear ms)

section

variable {α : Type} {schema : Json} {read : Reader α} {r : Record α} {members : Announcement}
  {clear clear' : List (String × Json) → Prop}

/-- A reader that is that of an announced record reads a valid object on what the condition that is
announced is for the object. -/
lemma exists_read_iff_of_announced (hread : read = r.read)
    (hschema : schema = (Schema.record members).toJson) (hnames : Record.HasDistinctNames r.slots)
    (h : Announced r.slots r.build members clear) {ms : List (String × Json)}
    (hms : (Json.obj ms).IsDistinct) (hvalid : schema.Admits (.obj ms)) {p : Prop}
    (hclear : clear ms ↔ p) : (∃ a, read (.obj ms) = .ok a) ↔ p := by
  subst hread hschema
  exact (h.exists_read_iff hnames hms hvalid).trans hclear

/-- So it reads objects with a small limit on what the condition is for these. -/
lemma decodes_of_announced (hread : read = r.read)
    (hschema : schema = (Schema.record members).toJson) (hnames : Record.HasDistinctNames r.slots)
    (h : Announced r.slots r.build members clear)
    (hclear : ∀ ms, HasSmallLimit ms → (clear ms ↔ clear' ms)) : Decodes schema read clear' :=
  fun ms hms hlimit hvalid =>
    exists_read_iff_of_announced hread hschema hnames h hms hvalid (hclear ms hlimit)

end

/-- The integers that can be read as numbers of 32 bits. -/
lemma exists_natural32_iff {n : Int} :
    (∃ k, natural32 (.int n) = .ok k) ↔ 0 ≤ n ∧ n < 2 ^ 32 := by
  rw [natural32, natural, exists_map_iff, integer]
  split
  · next h =>
    simp at h
    simp
    omega
  · next h =>
    simp at h
    simp
    omega

/-- A limit can be read if it fits into 32 bits. -/
lemma exists_limit_iff {value : Json}
    (hvalid : (Schema.integer (some 1) none).toJson.Admits value) :
    (∃ limit, optional natural32 value = .ok limit) ↔ ∀ n, value = .int n → n < 2 ^ 32 := by
  obtain ⟨n, rfl, hleast, -⟩ := Schema.admits_integer.mp hvalid
  have hpositive : (1 : Int) ≤ n := hleast 1 rfl
  change (∃ limit, (natural32 (.int n)).map some = .ok limit) ↔ _
  rw [exists_map_iff, exists_natural32_iff]
  constructor
  · rintro ⟨-, hsmall⟩ m hm
    obtain rfl := Json.int.inj hm
    exact hsmall
  · intro hsmall
    exact ⟨by omega, hsmall n rfl⟩

/-- A limit that may be left out. -/
lemma announced_limit {α : Type} {slots : List Slot} {members : Announcement}
    {clear : List (String × Json) → Prop} {build : Option Nat → Given → Except Mismatch α}
    (hrest : ∀ b, Announced slots (build b) members clear) :
    Announced ((Field.omissible "limit" natural32).slot :: slots)
      (fun given => (Field.omissible "limit" natural32).of given >>= fun b => build b given)
      (may "limit" (.integer (some 1) none) :: members)
      fun ms => (∀ value, ("limit", value) ∈ ms → ∀ n, value = .int n → n < 2 ^ 32) ∧ clear ms :=
  .provided nofun rfl (fun _ _ => exists_limit_iff) hrest

/-- Limits that fit into 32 bits are left aside. -/
lemma clear_limit_iff (ms : List (String × Json)) (hlimit : HasSmallLimit ms) :
    ((∀ value, ("limit", value) ∈ ms → ∀ n, value = .int n → n < 2 ^ 32) ∧ True) ↔ True := by
  rw [and_true, iff_true]
  rintro value hvalue n rfl
  exact hlimit n hvalue

/-- A limit within bounds can be read. -/
lemma reads_bounded : Reads (optional natural32) (.integer (some 1) (some 100000)) := by
  intro value _ hvalid
  obtain ⟨n, rfl, hleast, hgreatest⟩ := Schema.admits_integer.mp hvalid
  have hlow : (1 : Int) ≤ n := hleast 1 rfl
  have hhigh : n ≤ (100000 : Int) := hgreatest 100000 rfl
  exact exists_optional_of_exists (exists_natural32_iff.mpr (by omega))

/-- One string or a list of strings can be read. -/
lemma reads_oneOrMany : Reads oneOrMany Schema.textOrTexts := by
  intro value hdistinct hvalid
  rcases Schema.admits_oneOf.mp hvalid with ⟨hone, -⟩ | ⟨hmany, -⟩
  · refine exists_oneOf_of_mem (List.mem_cons_self ..) ?_
    exact exists_map_iff.mpr (reads_text value hdistinct hone)
  · refine exists_oneOf_of_mem (List.mem_cons_of_mem _ (List.mem_cons_self ..)) ?_
    obtain ⟨items, rfl, hitems⟩ := Schema.admits_listOf.mp hmany
    rw [Json.isDistinct_arr] at hdistinct
    exact exists_items_iff.mpr fun j hj => reads_text j (hdistinct j hj) (hitems j hj)

/-- An object that holds a statement can be read. -/
lemma reads_statementObject : Reads Transaction.statementObject (.record [must "sql" .text]) := by
  intro value hdistinct hvalid
  obtain ⟨ms, rfl⟩ := Schema.exists_of_admits_record hvalid
  let sql := Field.required "sql" text
  let r : Record String :=
    ⟨"struct variant Statement::Object", [sql.slot], fun given => sql.of given⟩
  have hbuild : r.build = fun given => sql.of given >>= fun s => pure s := by
    funext given
    exact (bind_pure _).symm
  have h : Announced r.slots r.build [must "sql" .text] fun _ => True := by
    rw [hbuild]
    exact .required reads_text fun _ => .done _
  exact (h.exists_read_iff (by decide) hdistinct hvalid).mpr trivial

/-- Statements can be read, each as a string or as an object that holds it. -/
lemma reads_statements :
    Reads (list Transaction.statement) (.listOf (.oneOf [.text, .record [must "sql" .text]])) := by
  intro value hdistinct hvalid
  obtain ⟨items, rfl, hitems⟩ := Schema.admits_listOf.mp hvalid
  rw [Json.isDistinct_arr] at hdistinct
  refine exists_items_iff.mpr fun j hj => ?_
  rcases Schema.admits_oneOf.mp (hitems j hj) with ⟨htext, -⟩ | ⟨hobject, -⟩
  · exact exists_oneOf_of_mem (List.mem_cons_self ..) (reads_text j (hdistinct j hj) htext)
  · exact exists_oneOf_of_mem (List.mem_cons_of_mem _ (List.mem_cons_self ..))
      (reads_statementObject j (hdistinct j hj) hobject)

/-! ## The tools -/

/-- The limit of a query is announced with bounds, so that every valid one can be read. -/
lemma ReadQuery.decodes : Decodes tool.definition.inputSchema read fun _ => True :=
  decodes_of_announced rfl rfl (by decide)
    (.required (reads_text.described _) fun _ => .field nofun rfl (reads_bounded.described _)
      fun _ => .done _) fun _ _ => Iff.rfl

/-- A write is its statement. -/
lemma WriteQuery.decodes : Decodes tool.definition.inputSchema read fun _ => True :=
  decodes_of_announced rfl rfl (by decide) (.required (reads_text.described _) fun _ => .done _)
    fun _ _ => Iff.rfl

/-- A transaction is read with its statements, in either form. -/
lemma Transaction.decodes : Decodes tool.definition.inputSchema read fun _ => True :=
  decodes_of_announced rfl rfl (by decide) (.required reads_statements fun _ => .done _)
    fun _ _ => Iff.rfl

/-- The flags of a plan can be left out. -/
lemma Explain.decodes : Decodes tool.definition.inputSchema read fun _ => True :=
  decodes_of_announced rfl rfl (by decide)
    (.required reads_text fun _ => .defaulted (reads_flag.described _) fun _ =>
      .defaulted (reads_flag.described _) fun _ => .done _) fun _ _ => Iff.rfl

/-- The schema of which the tables are listed can be left out. -/
lemma ListTables.decodes : Decodes tool.definition.inputSchema read fun _ => True :=
  decodes_of_announced rfl rfl (by decide) (.omissible (reads_text.described _) fun _ => .done _)
    fun _ _ => Iff.rfl

/-- So can the schema of a table that is described. -/
lemma DescribeTable.decodes : Decodes tool.definition.inputSchema read fun _ => True :=
  decodes_of_announced rfl rfl (by decide)
    (.required (reads_text.described _) fun _ => .omissible (reads_text.described _)
      fun _ => .done _) fun _ _ => Iff.rfl

/-- A column is read if it does not give twice whether it is the primary key. -/
lemma ColumnPlan.exists_read_iff {ms : List (String × Json)} (hms : (Json.obj ms).IsDistinct)
    (hvalid : CreateTable.columnSchema.toJson.Admits (.obj ms)) :
    (∃ c, ColumnPlan.read (.obj ms) = .ok c) ↔
      IsUnambiguous "primary_key" "primaryKey" IsFlag ms :=
  exists_read_iff_of_announced rfl rfl (by decide)
    (.required reads_text fun _ => .required reads_text fun _ => .defaulted reads_flag fun _ =>
      .renamed (by nofun) rfl (by decide) reads_flag exists_flag_iff fun _ => .defaulted reads_flag
        fun _ => .omissible (reads_text.described _) fun _ => .done _)
    hms hvalid (and_iff_left trivial)

/-- Whether no column object of a list gives twice whether it is the primary key. -/
def HasUnambiguousColumns (value : Json) : Prop :=
  ∀ items, value = .arr items → ∀ ms, .obj ms ∈ items →
    IsUnambiguous "primary_key" "primaryKey" IsFlag ms

/-- Columns are read if each is. -/
lemma exists_columns_iff {value : Json} (hdistinct : value.IsDistinct)
    (hvalid : (Schema.listOf CreateTable.columnSchema).toJson.Admits value) :
    (∃ columns, list ColumnPlan.read value = .ok columns) ↔ HasUnambiguousColumns value := by
  obtain ⟨items, rfl, hitems⟩ := Schema.admits_listOf.mp hvalid
  rw [Json.isDistinct_arr] at hdistinct
  rw [list, exists_items_iff]
  constructor
  · intro hread items' hsame ms hms
    obtain rfl := Json.arr.inj hsame
    exact (ColumnPlan.exists_read_iff (hdistinct _ hms) (hitems _ hms)).mp (hread _ hms)
  · intro hcolumns j hj
    obtain ⟨ms, rfl⟩ := Schema.exists_of_admits_record (hitems j hj)
    exact (ColumnPlan.exists_read_iff (hdistinct _ hj) (hitems _ hj)).mpr (hcolumns items rfl ms hj)

/-- A table is read unless it, or one of its columns, gives a flag under both names. -/
lemma CreateTable.decodes :
    Decodes tool.definition.inputSchema read fun ms =>
      (∀ value, ("columns", value) ∈ ms → HasUnambiguousColumns value) ∧
        IsUnambiguous "if_not_exists" "ifNotExists" IsFlag ms :=
  decodes_of_announced rfl rfl (by decide)
    (.required (reads_text.described _) fun _ => .provided (fun _ => rfl) rfl
      (fun _ => exists_columns_iff) fun _ => .renamed nofun rfl (by decide) reads_flag
        exists_flag_iff fun _ => .done _) fun _ _ => and_congr_right' (and_iff_left trivial)

/-- A table that is dropped has one flag with two names. -/
lemma DropTable.decodes :
    Decodes tool.definition.inputSchema read (IsUnambiguous "if_exists" "ifExists" IsFlag) :=
  decodes_of_announced rfl rfl (by decide)
    (.required reads_text fun _ => .renamed nofun rfl (by decide) (reads_flag.described _)
      exists_flag_iff fun _ => .defaulted (reads_flag.described _) fun _ => .done _)
    fun _ _ => and_iff_left trivial

/-- So has an index. -/
lemma CreateIndex.decodes :
    Decodes tool.definition.inputSchema read (IsUnambiguous "if_not_exists" "ifNotExists" IsFlag) :=
  decodes_of_announced rfl rfl (by decide)
    (.required reads_text fun _ => .required reads_oneOrMany fun _ =>
      .omissible (reads_text.described _) fun _ => .defaulted reads_flag fun _ =>
        .renamed nofun rfl (by decide) reads_flag exists_flag_iff fun _ =>
          .omissible (reads_choice _) fun _ => .done _) fun _ _ => and_iff_left trivial

/-- A condition has two names, one of which the schema does not know. -/
lemma Filter.decodes :
    Decodes schema.toJson read (IsUnambiguous "where" "filter" IsTextOrNull) :=
  decodes_of_announced rfl rfl (by decide)
    (.required reads_text fun _ => .renamed nofun rfl (by decide) (reads_text.described _).optional
      exists_textOrNull_iff fun _ => .done _) fun _ _ => and_iff_left trivial

/-- A path may be any value, since it is judged later; a limit has to be small. -/
lemma JsonExtract.decodes : Decodes tool.definition.inputSchema read fun _ => True :=
  decodes_of_announced rfl rfl (by decide)
    (.required reads_text fun _ => .required reads_text fun _ => .required (reads_any _) fun _ =>
      .omissible reads_text fun _ => announced_limit fun _ => .done _) clear_limit_iff

/-- A change of a value has one flag with two names. -/
lemma JsonSet.decodes :
    Decodes tool.definition.inputSchema read
      (IsUnambiguous "create_missing" "createMissing" IsFlag) :=
  decodes_of_announced rfl rfl (by decide)
    (.required reads_text fun _ => .required reads_text fun _ => .required (reads_any _) fun _ =>
      .required (reads_any _) fun _ => .omissible (reads_text.described _) fun _ =>
        .renamed nofun rfl (by decide) (reads_flag.described _) exists_flag_iff fun _ => .done _)
    fun _ _ => and_iff_left trivial

/-- A path to the keys can be left out. -/
lemma JsonKeys.decodes : Decodes tool.definition.inputSchema read fun _ => True :=
  decodes_of_announced rfl rfl (by decide)
    (.required reads_text fun _ => .required reads_text fun _ => .omissible (reads_any _) fun _ =>
      .omissible reads_text fun _ => .done _) fun _ _ => Iff.rfl

/-- A value that is looked for may be any; a limit has to be small. -/
lemma JsonContains.decodes : Decodes tool.definition.inputSchema read fun _ => True :=
  decodes_of_announced rfl rfl (by decide)
    (.required reads_text fun _ => .required reads_text fun _ => .required (reads_any _) fun _ =>
      .omissible reads_text fun _ => announced_limit fun _ => .done _) clear_limit_iff

/-- Columns are one or many; a limit has to be small. -/
lemma FulltextSearch.decodes : Decodes tool.definition.inputSchema read fun _ => True :=
  decodes_of_announced rfl rfl (by decide)
    (.required reads_text fun _ => .required reads_oneOrMany fun _ =>
      .required (reads_text.described _) fun _ => .omissible (reads_text.described _) fun _ =>
        announced_limit fun _ => .done _) clear_limit_iff

/-- The name and the language of an index can be left out. -/
lemma FulltextIndex.decodes : Decodes tool.definition.inputSchema read fun _ => True :=
  decodes_of_announced rfl rfl (by decide)
    (.required reads_text fun _ => .required reads_oneOrMany fun _ =>
      .omissible (reads_text.described _) fun _ => .omissible reads_text fun _ => .done _)
    fun _ _ => Iff.rfl

/-- Statistics have no required argument; a limit has to be small. -/
lemma Statistics.decodes : Decodes schema.toJson read fun _ => True :=
  decodes_of_announced rfl rfl (by decide)
    (.omissible (reads_text.described _) fun _ => announced_limit fun _ => .done _) clear_limit_iff

/-- Everything about a vacuum can be left out. -/
lemma Vacuum.decodes : Decodes tool.definition.inputSchema read fun _ => True :=
  decodes_of_announced rfl rfl (by decide)
    (.omissible (reads_text.described _) fun _ => .defaulted reads_flag fun _ =>
      .defaulted (reads_flag.described _) fun _ => .defaulted reads_flag fun _ => .done _)
    fun _ _ => Iff.rfl

/-- So can the table of which statistics are collected. -/
lemma Analyze.decodes : Decodes tool.definition.inputSchema read fun _ => True :=
  decodes_of_announced rfl rfl (by decide) (.omissible reads_text fun _ => .done _)
    fun _ _ => Iff.rfl

/-- A table whose indexes are made anew is required. -/
lemma Reindex.decodes : Decodes tool.definition.inputSchema read fun _ => True :=
  decodes_of_announced rfl rfl (by decide)
    (.required reads_text fun _ => .defaulted (reads_flag.described _) fun _ => .done _)
    fun _ _ => Iff.rfl

/-- A collection is its name. -/
lemma Collection.decodes : Decodes schema.toJson read fun _ => True :=
  decodes_of_announced rfl rfl (by decide) (.required reads_text fun _ => .done _)
    fun _ _ => Iff.rfl

/-- Documents have two names, and may be any value under both. -/
lemma InsertDocuments.decodes :
    Decodes tool.definition.inputSchema read
      (IsUnambiguous "documents" "document" fun _ => True) :=
  decodes_of_announced rfl rfl (by decide)
    (.required reads_text fun _ => .renamed (fun _ => rfl) rfl (by decide) (reads_any _)
      (fun value => iff_true_intro ⟨value, rfl⟩) fun _ => .done _) fun _ _ => and_iff_left trivial

/-- A filter may be any value, since it is judged later; a limit has to be small. -/
lemma FindDocuments.decodes : Decodes tool.definition.inputSchema read fun _ => True :=
  decodes_of_announced rfl rfl (by decide)
    (.required reads_text fun _ => .omissible (reads_any _) fun _ => announced_limit fun _ =>
      .done _) clear_limit_iff

/-- A tool without arguments takes any. -/
lemma decodes_any (schema : Json) : Decodes schema any fun _ => True :=
  fun ms _ _ _ => iff_true_intro ⟨.obj ms, rfl⟩

/-! ## The catalog -/

/-- A tool with the reader of its arguments, what it does with them, and the condition on which an
object that is valid under its schema is read. -/
structure Intake where
  /-- The type of the arguments. -/
  Arguments : Type
  /-- The tool. -/
  tool : Tool
  /-- The reader of the arguments. -/
  read : Reader Arguments
  /-- What is done with them. -/
  plan : Arguments → Except ToolError Action
  /-- The condition on a valid object. -/
  clear : List (String × Json) → Prop
  /-- The tool reads its arguments and does what is done with them. -/
  act_eq : ∀ c given, tool.act c given = Tool.actionOf read plan given

/-- The intake of a tool without fields that have a further name. -/
def Intake.plain {α : Type} (tool : Tool) (read : Reader α) (plan : α → Except ToolError Action)
    (act_eq : ∀ c given, tool.act c given = Tool.actionOf read plan given) : Intake :=
  ⟨α, tool, read, plan, fun _ => True, act_eq⟩

/-- The intakes of the tools in order. -/
def intakes : List Intake :=
  [.plain ReadQuery.tool ReadQuery.read ReadQuery.plan fun _ _ => rfl,
    .plain WriteQuery.tool WriteQuery.read WriteQuery.plan fun _ _ => rfl,
    .plain ListTables.tool ListTables.read ListTables.plan fun _ _ => rfl,
    .plain ListSchemas.tool any ListSchemas.plan fun _ _ => rfl,
    .plain DescribeTable.tool DescribeTable.read DescribeTable.plan fun _ _ => rfl,
    ⟨_, CreateTable.tool, CreateTable.read, CreateTable.plan, fun ms =>
      (∀ value, ("columns", value) ∈ ms → HasUnambiguousColumns value) ∧
        IsUnambiguous "if_not_exists" "ifNotExists" IsFlag ms, fun _ _ => rfl⟩,
    ⟨_, DropTable.tool, DropTable.read, DropTable.plan,
      IsUnambiguous "if_exists" "ifExists" IsFlag, fun _ _ => rfl⟩,
    ⟨_, CreateIndex.tool, CreateIndex.read, CreateIndex.plan,
      IsUnambiguous "if_not_exists" "ifNotExists" IsFlag, fun _ _ => rfl⟩,
    ⟨_, Filter.countTool, Filter.read, Filter.countPlan,
      IsUnambiguous "where" "filter" IsTextOrNull, fun _ _ => rfl⟩,
    ⟨_, Filter.existsTool, Filter.read, Filter.existsPlan,
      IsUnambiguous "where" "filter" IsTextOrNull, fun _ _ => rfl⟩,
    .plain Transaction.tool Transaction.read Transaction.plan fun _ _ => rfl,
    .plain JsonExtract.tool JsonExtract.read JsonExtract.plan fun _ _ => rfl,
    ⟨_, JsonSet.tool, JsonSet.read, JsonSet.plan,
      IsUnambiguous "create_missing" "createMissing" IsFlag, fun _ _ => rfl⟩,
    .plain JsonKeys.tool JsonKeys.read JsonKeys.plan fun _ _ => rfl,
    .plain JsonContains.tool JsonContains.read JsonContains.plan fun _ _ => rfl,
    .plain FulltextSearch.tool FulltextSearch.read FulltextSearch.plan fun _ _ => rfl,
    .plain FulltextIndex.tool FulltextIndex.read FulltextIndex.plan fun _ _ => rfl,
    .plain Explain.tool Explain.read Explain.plan fun _ _ => rfl,
    .plain Statistics.indexTool Statistics.read Statistics.indexPlan fun _ _ => rfl,
    .plain Statistics.tableTool Statistics.read Statistics.tablePlan fun _ _ => rfl,
    .plain CacheHitRatio.tool any CacheHitRatio.plan fun _ _ => rfl,
    .plain Vacuum.tool Vacuum.read Vacuum.plan fun _ _ => rfl,
    .plain Analyze.tool Analyze.read Analyze.plan fun _ _ => rfl,
    .plain Reindex.tool Reindex.read Reindex.plan fun _ _ => rfl,
    .plain Collection.createTool Collection.read Collection.createPlan fun _ _ => rfl,
    .plain Collection.dropTool Collection.read Collection.dropPlan fun _ _ => rfl,
    ⟨_, InsertDocuments.tool, InsertDocuments.read, InsertDocuments.plan,
      IsUnambiguous "documents" "document" fun _ => True, fun _ _ => rfl⟩,
    .plain FindDocuments.tool FindDocuments.read FindDocuments.plan fun _ _ => rfl]

/-- The intakes are those of the tools of the catalog. -/
lemma map_tool_intakes : intakes.map Intake.tool = tools :=
  rfl

/-- Each reader takes the objects that are valid under the schema of its tool, on the condition. -/
lemma decodes_of_mem_intakes {i : Intake} (hi : i ∈ intakes) :
    Decodes i.tool.definition.inputSchema i.read i.clear := by
  have hall : ∀ i ∈ intakes, Decodes i.tool.definition.inputSchema i.read i.clear := by
    simp only [intakes, List.forall_mem_cons]
    exact ⟨ReadQuery.decodes, WriteQuery.decodes, ListTables.decodes, decodes_any _,
      DescribeTable.decodes, CreateTable.decodes, DropTable.decodes, CreateIndex.decodes,
      Filter.decodes, Filter.decodes, Transaction.decodes, JsonExtract.decodes, JsonSet.decodes,
      JsonKeys.decodes, JsonContains.decodes, FulltextSearch.decodes, FulltextIndex.decodes,
      Explain.decodes, Statistics.decodes, Statistics.decodes, decodes_any _, Vacuum.decodes,
      Analyze.decodes, Reindex.decodes, Collection.decodes, Collection.decodes,
      InsertDocuments.decodes, FindDocuments.decodes, List.forall_mem_nil _⟩
  exact hall i hi

/-- **Announced arguments are read.** Every tool of the catalog reads the objects that are valid
under its schema and whose limit, if any, fits into 32 bits, exactly on the condition of its intake:
that no field is given under both of its names, and none by a value that does not fit under the name
that the schema does not know. For most tools this is no condition. If it does not hold, the
arguments are refused.

**Proof sketch.** Each reader is that of a record, whose fields are announced by the members of the
schema, one by one (`Announced`). So it reads a valid object on the condition that comes from its
fields (`Announced.exists_read_iff`). -/
theorem exists_read_iff_clear {t : Tool} (ht : t ∈ tools) {ms : List (String × Json)}
    (hms : (Json.obj ms).IsDistinct) (hvalid : t.definition.inputSchema.Admits (.obj ms))
    (hlimit : HasSmallLimit ms) :
    (∃ i ∈ intakes, i.tool = t) ∧
      ∀ i ∈ intakes, i.tool = t → ((∃ a, i.read (.obj ms) = .ok a) ↔ i.clear ms) ∧
        ∀ c, t.act c (.obj ms) = Tool.actionOf i.read i.plan (.obj ms) := by
  constructor
  · rw [← map_tool_intakes] at ht
    obtain ⟨i, hi, hit⟩ := List.mem_map.mp ht
    exact ⟨i, hi, hit⟩
  · rintro i hi rfl
    exact ⟨decodes_of_mem_intakes hi ms hms hlimit hvalid, fun c => i.act_eq c _⟩

/-- A count whose condition is given under the name that the schema does not know: it is given under
this name only, so the arguments are read. -/
theorem exists_read_of_filterForWhere :
    let ms := [("filter", Json.str "a"), ("table", Json.str "t")]
    Json.read? r#"{"filter": "a", "table": "t"}"# = some (.obj ms) ∧
      Filter.countTool ∈ tools ∧ (Json.obj ms).IsDistinct ∧
      Filter.countTool.definition.inputSchema.Admits (.obj ms) ∧ HasSmallLimit ms ∧
      ∃ a, Filter.read (.obj ms) = .ok a := by
  intro ms
  have hread : Json.read? r#"{"filter": "a", "table": "t"}"# = some (.obj ms) := by cbv
  have ht : Filter.countTool ∈ tools := by simp [tools]
  have hms : (Json.obj ms).IsDistinct := Json.isDistinct_of_read? hread
  have hvalid : Filter.countTool.definition.inputSchema.Admits (.obj ms) :=
    (Schema.admits_record (by decide)).mpr (by simp [must, may, ms])
  have hlimit : HasSmallLimit ms := by simp [HasSmallLimit, ms]
  have hclear : IsUnambiguous "where" "filter" IsTextOrNull ms := by
    simp [IsUnambiguous, IsTextOrNull, ms]
  refine ⟨hread, ht, hms, hvalid, hlimit, ?_⟩
  have hintake := (exists_read_iff_clear ht hms hvalid hlimit).2
    ⟨_, Filter.countTool, Filter.read, Filter.countPlan,
      IsUnambiguous "where" "filter" IsTextOrNull, fun _ _ => rfl⟩ (by simp [intakes]) rfl
  exact hintake.1.mpr hclear

/-- A count whose condition is given under both names is valid under the schema, but it is refused,
since the two are one field. -/
theorem countTool_refuses_bothNames :
    let ms := [("filter", Json.str "b"), ("table", Json.str "t"), ("where", Json.str "a")]
    Filter.countTool ∈ tools ∧ (Json.obj ms).IsDistinct ∧
      Filter.countTool.definition.inputSchema.Admits (.obj ms) ∧
      ∀ c, Filter.countTool.act c (.obj ms) =
        .fail (.tool (.invalidArguments (Mismatch.duplicateField "where").message)) := by
  intro ms
  refine ⟨by simp [tools], by simp [Json.isDistinct_obj, ms],
    (Schema.admits_record (by decide)).mpr (by simp [must, may, ms]), fun c => ?_⟩
  rfl

end PgGateway.Catalog
