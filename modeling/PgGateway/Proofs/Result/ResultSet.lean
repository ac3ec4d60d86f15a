import PgGateway.Proofs.Outcome
import PgGateway.Proofs.Result.Cell
import PgGateway.Proofs.Shape.Reader
import PgGateway.Proofs.Shape.Record
import PgGateway.Result.ResultSet

set_option autoImplicit false

/-!
# Result sets that are read back

A result can always be read from its written form. Its columns and numbers come back as they are,
and of each cell comes back what its own written form is read as. So the result is written in the
same way again exactly if all its cells keep their form.

## Main definitions

* `PgGateway.ResultSet.IsStandard` — whether a result is within the bounds of its parts.
* `PgGateway.ResultSet.reread` — what is read from the written form of a result.

## Main results

* `PgGateway.ResultSet.read_toJson` — what is read from the written form.
* `PgGateway.ResultSet.toJson_reread_iff` — when that is written in the same way.
* `PgGateway.ResultSet.rereads_alike_iff` — both, and when the text of the written form is read
  back.
-/

namespace PgGateway

open Shape

/-- Whether the cells of a row are within their bounds, and stand under keys of their own. -/
structure Row.IsStandard (row : Row) : Prop where
  /-- The keys are in order. -/
  sorted : Keyed.IsSorted row
  /-- The cells are within their bounds. -/
  cells : ∀ entry ∈ row, entry.2.IsStandard

/-- What is read from the written form of a row. -/
def Row.reread (row : Row) : Row :=
  row.mapValues fun c => .ofJson c.toJson

/-- The written form of what is read from that of a row is the same exactly if all cells keep their
form. -/
lemma Row.toJson_reread_iff {row : Row} (h : row.IsStandard) :
    row.reread.toJson = row.toJson ↔ ∀ entry ∈ row, entry.2.KeepsForm := by
  rw [toJson, toJson, reread, Json.obj.injEq, Keyed.mapValues, Keyed.mapValues, Keyed.mapValues,
    List.map_map, List.map_inj_left]
  refine forall₂_congr fun entry hentry => ?_
  rw [Function.comp_apply, Prod.mk.injEq, and_iff_right rfl]
  exact Cell.toJson_ofJson_toJson_iff (h.cells entry hentry)

/-- A row is read from its written form. -/
lemma Row.read_toJson (row : Row) : map Cell.read row.toJson = .ok row.reread := by
  rw [toJson, map]
  induction row with
  | nil => rfl
  | cons entry row ih =>
    rw [Keyed.mapValues, List.map_cons, ← Keyed.mapValues, members]
    simp only [Cell.read, ih]
    rfl

/-- A text can hold the written form of a row within its bounds. -/
lemma Row.IsStandard.toJson {row : Row} (h : row.IsStandard) : row.toJson.IsStandard := by
  have hkeys : Keyed.keys (row.mapValues Cell.toJson) = row.keys := by
    rw [Keyed.keys, Keyed.mapValues, List.map_map]
    rfl
  refine Json.isStandard_obj ?_ fun member hmember => ?_
  · rw [Keyed.IsSorted, hkeys]
    exact h.sorted
  · obtain ⟨entry, hentry, rfl⟩ := List.mem_map.mp hmember
    exact (h.cells entry hentry).toJson

/-- A text can hold the written form of a column. -/
lemma Column.isStandard_toJson (c : Column) : c.toJson.IsStandard := by
  have hsorted := Keyed.isSorted_ofList [("name", Json.str c.name), ("data_type", .str c.dataType)]
  refine Json.isStandard_obj hsorted fun member hmember => ?_
  have hgiven := Keyed.mem_of_mem_ofList hmember
  simp only [List.mem_cons, List.not_mem_nil, or_false] at hgiven
  rcases hgiven with rfl | rfl <;> trivial

/-- A column is read from its written form. -/
lemma Column.read_toJson (c : Column) : Column.record.read c.toJson = .ok c := rfl

/-- What can be read from the written form of each item can be read from the list of these. -/
lemma list_arr_map {α β : Type} {r : Reader α} {f : β → Json} {g : β → α}
    (h : ∀ b, r (f b) = .ok (g b)) (bs : List β) :
    list r (.arr (bs.map f)) = .ok (bs.map g) := by
  refine list_eq_ok_iff.mpr ⟨_, rfl, ?_⟩
  rw [List.forall₂_map_left_iff, List.forall₂_map_right_iff]
  exact List.forall₂_same.mpr fun b _ => h b

namespace ResultSet

/-- Whether a result is within the bounds of its parts: its numbers fit into 64 bits, and its rows
are within their bounds. -/
structure IsStandard (r : ResultSet) : Prop where
  /-- The number of rows fits. -/
  rowCount_lt : r.rowCount < Nat.pow 2 64
  /-- The time fits. -/
  elapsedMillis_lt : r.elapsedMillis < Nat.pow 2 64
  /-- The rows are within their bounds. -/
  rows : ∀ row ∈ r.rows, Row.IsStandard row

/-- What is read from the written form of a result. -/
def reread (r : ResultSet) : ResultSet :=
  { r with rows := r.rows.map Row.reread }

/-- The member that says whether rows were left out, if that is known. -/
def truncatedMember : Option Bool → List (String × Json)
  | some b => [("truncated", .bool b)]
  | none => []

/-- The members of a written result, in the order of their keys. -/
def members (r : ResultSet) : List (String × Json) :=
  [("columns", .arr (r.columns.map Column.toJson)), ("execution_time_ms", .nat r.elapsedMillis),
    ("row_count", .nat r.rowCount), ("rows", r.rowsJson)] ++ truncatedMember r.truncated

/-- A written result is an object with these members. -/
lemma toJson_eq (r : ResultSet) : r.toJson = .obj r.members := by
  obtain ⟨columns, rows, rowCount, elapsedMillis, truncated⟩ := r
  cases truncated <;> rfl

/-- Their keys are in order. -/
lemma isSorted_members (r : ResultSet) : Keyed.IsSorted r.members := by
  rw [← Json.obj.inj r.toJson_eq]
  exact Keyed.isSorted_ofList _

/-- The field of the columns. -/
abbrev columnsField : Shape.Field (List Column) := .required "columns" (list Column.record.read)

/-- The field of the rows. -/
abbrev rowsField : Shape.Field (List Row) := .required "rows" (list (map Cell.read))

/-- The field of the number of rows. -/
abbrev rowCountField : Shape.Field Nat := .required "row_count" size

/-- The field of the time. -/
abbrev elapsedField : Shape.Field Nat := .required "execution_time_ms" natural64

/-- The field of the mark that rows were left out. -/
abbrev truncatedField : Shape.Field (Option Bool) := .optional "truncated" flag

/-- The fields have one name each. -/
lemma isPlain : Record.IsPlain record.slots :=
  ⟨by simp [record, Field.slot, Field.required, Field.optional], by decide⟩

/-- A result is made of the values of its fields. -/
lemma build_eq_ok {given : Given} {r : ResultSet} (hcolumns : columnsField.of given = .ok r.columns)
    (hrows : rowsField.of given = .ok r.rows) (hrowCount : rowCountField.of given = .ok r.rowCount)
    (helapsed : elapsedField.of given = .ok r.elapsedMillis)
    (htruncated : truncatedField.of given = .ok r.truncated) : record.build given = .ok r :=
  bind_eq_ok_iff.mpr ⟨_, hcolumns, bind_eq_ok_iff.mpr ⟨_, hrows, bind_eq_ok_iff.mpr
    ⟨_, hrowCount, bind_eq_ok_iff.mpr ⟨_, helapsed, bind_eq_ok_iff.mpr ⟨_, htruncated, rfl⟩⟩⟩⟩⟩

/-- A result is read from an object that gives its fields their values. -/
lemma read_obj_eq_ok {ms : List (String × Json)} {r : ResultSet}
    (hcolumns : Record.Gives ms columnsField r.columns) (hrows : Record.Gives ms rowsField r.rows)
    (hrowCount : Record.Gives ms rowCountField r.rowCount)
    (helapsed : Record.Gives ms elapsedField r.elapsedMillis)
    (htruncated : Record.Gives ms truncatedField r.truncated) : read (.obj ms) = .ok r := by
  have hfits : ∀ s ∈ record.slots, Record.Fits [] ms s := by
    simp only [record, List.forall_mem_cons]
    exact ⟨hcolumns.fits, hrows.fits, hrowCount.fits, helapsed.fits, htruncated.fits,
      List.forall_mem_nil _⟩
  refine (Record.read_obj_eq_ok_iff (p := True) isPlain (fun _ => hfits)
    fun given hgiven => iff_true_intro ?_).mpr trivial
  have hof : ∀ {α : Type} {f : Shape.Field α} {a : α}, f.slot ∈ record.slots →
      Record.Gives ms f a → f.of given = .ok a :=
    fun hf => (Record.of_eq_ok_iff isPlain hgiven hf).mpr
  exact build_eq_ok (hof (by simp [record]) hcolumns) (hof (by simp [record]) hrows)
    (hof (by simp [record]) hrowCount) (hof (by simp [record]) helapsed)
    (hof (by simp [record]) htruncated)

/-- A number within its bound is read from its written form. -/
lemma natural_nat {type : String} {high n : Nat} (h : n ≤ high) :
    natural type high (.nat n) = .ok n := by
  have hrange : ((0 : Int) ≤ n && (n : Int) ≤ high) = true := by simpa using h
  rw [natural, Json.nat, integer, if_pos hrange]
  rfl

/-- **What is read back.** From the written form of a result the result is read whose cells are what
is read from the written forms of its cells. -/
theorem read_toJson {r : ResultSet} (hr : r.IsStandard) : read r.toJson = .ok r.reread := by
  have hcolumns : columnsField.read (.arr (r.columns.map Column.toJson)) = .ok r.reread.columns :=
    (list_arr_map Column.read_toJson r.columns).trans (by rw [List.map_id']; rfl)
  have hrows : rowsField.read r.rowsJson = .ok r.reread.rows :=
    list_arr_map Row.read_toJson r.rows
  have hrowCount : rowCountField.read (.nat r.rowCount) = .ok r.reread.rowCount :=
    natural_nat (Nat.le_pred_of_lt hr.rowCount_lt)
  have helapsed : elapsedField.read (.nat r.elapsedMillis) = .ok r.reread.elapsedMillis :=
    natural_nat (Nat.le_pred_of_lt hr.elapsedMillis_lt)
  have hvalues : ∀ key value, (key, value) ∈ r.members → valuesOf key r.members = [value] :=
    fun _ _ => valuesOf_eq_singleton r.isSorted_members.nodup
  have htruncated : Record.Gives r.members truncatedField r.reread.truncated := by
    change Record.Gives r.members truncatedField r.truncated
    cases hmark : r.truncated with
    | none =>
      have hnot : "truncated" ∉ r.members.map Prod.fst := by
        simp [members, truncatedMember, hmark]
      exact .inl ⟨valuesOf_eq_nil hnot, rfl⟩
    | some b =>
      have hvalue := hvalues "truncated" (.bool b) (by simp [members, truncatedMember, hmark])
      exact .inr ⟨_, hvalue, rfl⟩
  rw [toJson_eq]
  exact read_obj_eq_ok
    (.inr ⟨_, hvalues "columns" _ (by simp [members]), hcolumns⟩)
    (.inr ⟨_, hvalues "rows" _ (by simp [members]), hrows⟩)
    (.inr ⟨_, hvalues "row_count" _ (by simp [members]), hrowCount⟩)
    (.inr ⟨_, hvalues "execution_time_ms" _ (by simp [members]), helapsed⟩) htruncated

/-- A text can hold the written form of a result within its bounds. -/
lemma IsStandard.toJson {r : ResultSet} (hr : r.IsStandard) : r.toJson.IsStandard := by
  have hnat : ∀ {n : Nat}, n < Nat.pow 2 64 → (Json.nat n).IsStandard := fun {n} hn =>
    ⟨Int.le_trans (by decide) (Int.natCast_nonneg n), Int.ofNat_lt.mpr hn⟩
  have hcolumns : (Json.arr (r.columns.map Column.toJson)).IsStandard :=
    Json.isStandard_arr (List.forall_mem_map.mpr fun c _ => c.isStandard_toJson)
  have hrows : r.rowsJson.IsStandard :=
    Json.isStandard_arr (List.forall_mem_map.mpr fun row hrow => (hr.rows row hrow).toJson)
  have htruncated : ∀ member ∈ truncatedMember r.truncated, member.2.IsStandard := by
    cases r.truncated with
    | none => exact List.forall_mem_nil _
    | some b => exact List.forall_mem_singleton.mpr trivial
  rw [toJson_eq]
  refine Json.isStandard_obj r.isSorted_members (List.forall_mem_append.mpr ⟨?_, htruncated⟩)
  simp only [List.forall_mem_cons]
  exact ⟨hcolumns, hnat hr.elapsedMillis_lt, hnat hr.rowCount_lt, hrows, List.forall_mem_nil _⟩

/-- **Results in the same form.** What is read back is written in the same way exactly if all cells
keep their form. -/
theorem toJson_reread_iff {r : ResultSet} (hr : r.IsStandard) :
    r.reread.toJson = r.toJson ↔ ∀ row ∈ r.rows, ∀ entry ∈ row, entry.2.KeepsForm := by
  have hrows : r.reread.rowsJson = r.rowsJson ↔
      ∀ row ∈ r.rows, ∀ entry ∈ row, entry.2.KeepsForm := by
    rw [rowsJson, rowsJson, reread, Json.arr.injEq, List.map_map, List.map_inj_left]
    exact forall₂_congr fun row hrow => Row.toJson_reread_iff (hr.rows row hrow)
  have hsame : r.reread.truncated = r.truncated := rfl
  rw [← hrows, toJson_eq, toJson_eq, members, members, Json.obj.injEq, hsame,
    List.append_left_inj]
  simp [reread]

/-- **Results that are read back.** From the written form of a result some result can always be
read. It is written in the same way exactly if each text of the result that denotes a decimal is
that of one, no decimal is a zero with a minus sign, and no document is an integer that needs a word
without a sign. And the text of the written form is read as the written form exactly if it does not
nest too deeply and its floating-point numbers are read back. -/
theorem rereads_alike_iff {r : ResultSet} (hr : r.IsStandard) :
    (∃ r', read r.toJson = .ok r' ∧
      (r'.toJson = r.toJson ↔ ∀ row ∈ r.rows, ∀ entry ∈ row, entry.2.KeepsForm)) ∧
    (Json.read? r.toJson.compact = some r.toJson ↔
      r.toJson.depth ≤ Json.maxDepth ∧ r.toJson.IsReadBack) :=
  ⟨⟨r.reread, read_toJson hr, toJson_reread_iff hr⟩, Json.read?_compact_iff hr.toJson⟩

/-- A row with a cell of each kind is read back in the same form, also from its text. -/
theorem rereads_alike_of_allKinds :
    let row : Row := [("bool", .bool true), ("date", .date ⟨-719529⟩),
      ("decimal", .decimal ⟨true, 150, 2⟩), ("float", .float (.infinity true)),
      ("instant", .instant ⟨⟨0⟩, 0, 0⟩), ("int", .int (-3)), ("json", .json (.arr [.str "1e5"])),
      ("null", .null), ("string", .string "0.10")]
    let r := ofRows [⟨"string", "text"⟩] [row] 5
    r.IsStandard ∧ (∃ r', read r.toJson = .ok r' ∧ r'.toJson = r.toJson) ∧
      Json.read? r.toJson.compact = some r.toJson := by
  intro row r
  have htext : Decimal.IsOwnText "0.10".toList :=
    fun _ => ⟨⟨false, 10, 2⟩, by decide, by decide, by decide⟩
  have hcells : ∀ entry ∈ row, entry.2.IsStandard ∧ entry.2.KeepsForm := by
    have hint : (Cell.int (-3)).IsStandard := ⟨by decide, by decide⟩
    have hdecimal : Decimal.IsStandard ⟨true, 150, 2⟩ ∧ ¬ Decimal.IsSignedZero ⟨true, 150, 2⟩ := by
      decide
    simp only [row, List.forall_mem_cons]
    exact ⟨⟨trivial, trivial⟩, ⟨trivial, trivial⟩, hdecimal, ⟨trivial, trivial⟩, ⟨trivial, trivial⟩,
      ⟨hint, trivial⟩, ⟨⟨trivial, trivial, trivial⟩, trivial⟩, ⟨trivial, trivial⟩, ⟨trivial, htext⟩,
      List.forall_mem_nil _⟩
  have hsorted : row.keys.Pairwise (· < ·) := by decide +kernel
  have hr : r.IsStandard := ⟨by decide, by decide,
    List.forall_mem_singleton.mpr ⟨hsorted, fun entry h => (hcells entry h).1⟩⟩
  obtain ⟨⟨r', hread, hsame⟩, hread?⟩ := rereads_alike_iff hr
  refine ⟨hr, ⟨r', hread, hsame.mpr ?_⟩, hread?.mpr ⟨by decide +kernel, ?_⟩⟩
  · exact List.forall_mem_singleton.mpr fun entry h => (hcells entry h).2
  · have hcolumn : Column.toJson ⟨"string", "text"⟩ =
        .obj [("data_type", .str "text"), ("name", .str "string")] := rfl
    have hfloat : (Binary64.infinity true).isFinite = false := rfl
    rw [toJson_eq]
    simp [r, row, members, ofRows, rowsJson, truncatedMember, hcolumn, hfloat, Row.toJson,
      Cell.toJson, Keyed.mapValues, Json.nat, Json.IsReadBack, Json.All, Json.AllMembers,
      Json.AllItems, Json.FloatReadsBack]

/-- **Results in another form.** A text that denotes a decimal comes back as the text of that
decimal, an integer that needs a word without a sign as a floating-point number, and a zero without
its minus sign. -/
theorem not_rereads_alike :
    let row : Row := [("a", .string "1e5"), ("b", .json (.int (2 ^ 63))),
      ("c", .decimal ⟨true, 0, 2⟩)]
    let r := ofRows [⟨"a", "text"⟩, ⟨"b", "json"⟩, ⟨"c", "numeric"⟩] [row] 0
    r.rowsJson = .arr [.obj [("a", .str "1e5"), ("b", .int (2 ^ 63)), ("c", .str "-0.00")]] ∧
      ∃ r', read r.toJson = .ok r' ∧ r'.toJson ≠ r.toJson ∧ r'.rowsJson = .arr [.obj
        [("a", .str "100000"), ("b", .float (.ofInt (2 ^ 63))), ("c", .str "0.00")]] := by
  intro row r
  have hr : r.IsStandard := by
    refine ⟨by decide, by decide, List.forall_mem_singleton.mpr ⟨?_, ?_⟩⟩
    · have hkeys : row.keys.Pairwise (· < ·) := by decide +kernel
      exact hkeys
    · have hint : (Json.int (2 ^ 63)).IsStandard := ⟨by decide, by decide⟩
      have hdecimal : Decimal.IsStandard ⟨true, 0, 2⟩ := by decide
      simp only [row, List.forall_mem_cons]
      exact ⟨trivial, hint, hdecimal, List.forall_mem_nil _⟩
  have hbefore : r.rowsJson =
      .arr [.obj [("a", .str "1e5"), ("b", .int (2 ^ 63)), ("c", .str "-0.00")]] := rfl
  have hafter : r.reread.rowsJson = .arr [.obj [("a", .str "100000"),
      ("b", .float (.ofInt (2 ^ 63))), ("c", .str "0.00")]] := rfl
  refine ⟨hbefore, r.reread, read_toJson hr, fun hsame => ?_, hafter⟩
  have hrows : some r.reread.rowsJson = some r.rowsJson := congrArg (Json.member? "rows") hsame
  rw [hbefore, hafter] at hrows
  simp at hrows

end ResultSet

end PgGateway
