import PgGateway.Proofs.Text.Cut
import PgGateway.Sql.Name

set_option autoImplicit false

/-!
# Accepted names

Which names are put into statements, and what is known of their parts: an accepted name has one
part, or two if there is a point in it, and no part has a character that means anything to a reader
of SQL.

## Main definitions

* `PgGateway.Sql.nameParts` — the parts of a name, accepted or not.
* `PgGateway.Sql.isName` — whether a name is accepted.
* `PgGateway.Sql.isQualified` — whether there is a point in a name.

## Main results

* `PgGateway.Sql.quoteName_eq_ok` — an accepted name is quoted part by part, and no other is.
* `PgGateway.Sql.length_nameParts` — an accepted name has two parts if it is qualified, else one.
* `PgGateway.Sql.isQualified_splitName` — the table of an accepted name is not qualified.
-/

namespace PgGateway.Sql

/-- The texts between the points of a name, without the blanks around it. -/
def nameParts (name : String) : List (List Char) :=
  Text.pieces '.' (Text.trim name.toList)

/-- Whether a name is accepted: it has at most two parts, and each follows the grammar. -/
def isName (name : String) : Bool :=
  (nameParts? name.toList).isSome

/-- Whether a name has a schema before a point. -/
def isQualified (name : String) : Bool :=
  name.toList.contains '.'

/-- The text of a name in double quotes. -/
def quotedChars (name : String) : List Char :=
  Text.joined ['.'] ((nameParts name).map quotePart)

/-! ## Acceptance -/

/-- What is asked of an accepted name. -/
lemma isName_iff {name : String} :
    isName name = true ↔
      (nameParts name).length ≤ 2 ∧ ∀ part ∈ nameParts name, isNamePart part = true := by
  rw [isName, nameParts?, nameParts]
  split <;> simp_all

/-- An accepted name is quoted part by part; any other name is refused. -/
theorem quoteName_eq_ok {name sql : String} :
    quoteName name = .ok sql ↔ isName name = true ∧ sql.toList = quotedChars name := by
  have hparts : ∀ parts, nameParts? name.toList = some parts → parts = nameParts name := by
    intro parts h
    rw [nameParts?] at h
    split at h
    · exact (Option.some.inj h).symm
    · cases h
  rw [quoteName, isName]
  cases h : nameParts? name.toList with
  | none => simp
  | some parts =>
    rw [hparts parts h]
    constructor
    · rintro ⟨rfl⟩
      exact ⟨rfl, String.toList_ofList⟩
    · rintro ⟨-, hsql⟩
      rw [← String.ofList_toList (s := sql), hsql, quotedChars]

/-- Exactly the accepted names are put in quotes. -/
lemma exists_quoteName_iff {name : String} :
    (∃ sql, quoteName name = .ok sql) ↔ isName name = true := by
  constructor
  · rintro ⟨sql, hsql⟩
    exact (quoteName_eq_ok.mp hsql).1
  · exact fun hname => ⟨_, quoteName_eq_ok.mpr ⟨hname, String.toList_ofList⟩⟩

/-! ## Parts -/

/-- A character of a part is a letter, a digit, an underscore or a dollar sign. -/
lemma isNameChar_of_mem {part : List Char} {c : Char} (h : isNamePart part = true)
    (hc : c ∈ part) : isNameChar c = true := by
  cases part with
  | nil => cases hc
  | cons d part =>
    simp only [isNamePart, Bool.and_eq_true, List.all_eq_true] at h
    rcases List.mem_cons.mp hc with rfl | hc
    · have hstart := h.1
      simp only [isNameStart, Bool.or_eq_true] at hstart
      simp only [isNameChar, Bool.or_eq_true]
      rcases hstart with hl | hu
      · exact .inl (.inl (.inl hl))
      · exact .inl (.inr hu)
    · exact h.2 c hc

/-- There is no quote in a part. -/
lemma quote_not_mem_of_isNamePart {part : List Char} (h : isNamePart part = true) :
    '"' ∉ part := by
  intro hc
  have := isNameChar_of_mem h hc
  revert this
  decide

/-! ## Qualified names -/

/-- There is a point in a name if there is one in what is left after trimming. -/
lemma isQualified_iff {name : String} :
    isQualified name = true ↔ '.' ∈ Text.trim name.toList := by
  rw [Text.mem_trim (by decide), isQualified, List.contains_iff_mem]

/-- An accepted name has two parts if it is qualified, and otherwise one. -/
theorem length_nameParts {name : String} (h : isName name = true) :
    (nameParts name).length = if isQualified name then 2 else 1 := by
  have hle := (isName_iff.mp h).1
  rw [nameParts, Text.length_pieces] at hle ⊢
  split
  · next hq =>
    have := List.count_pos_iff.mpr (isQualified_iff.mp hq)
    omega
  · next hq => rw [List.count_eq_zero.mpr fun hmem => hq (isQualified_iff.mpr hmem)]

/-- Text that is put together is qualified if a part of it is. -/
lemma isQualified_append (a b : String) :
    isQualified (a ++ b) = (isQualified a || isQualified b) := by
  simp [isQualified]

/-- Names that are put together without a point are qualified if one of them is. -/
lemma isQualified_join {glue : String} (h : isQualified glue = false) (names : List String) :
    isQualified (Text.join glue names) = names.any isQualified := by
  rw [isQualified, Text.join, String.toList_ofList]
  have hglue : '.' ∉ glue.toList := by simpa [isQualified] using h
  induction names with
  | nil => rfl
  | cons name names ih =>
    cases names with
    | nil => simp [Text.joined, isQualified]
    | cons next rest =>
      rw [List.map_cons, List.map_cons, Text.joined, ← List.map_cons, List.any_cons, ← ih]
      simp [isQualified, hglue]

/-- The table of an accepted name is not qualified. -/
theorem isQualified_splitName {name : String} (h : isName name = true) :
    isQualified (splitName name).2 = false := by
  have hle := (isName_iff.mp h).1
  rw [nameParts, Text.length_pieces] at hle
  rw [← Bool.not_eq_true, splitName]
  cases hcut : Text.cutFirst ['.'] (Text.trim name.toList) with
  | none =>
    simpa [isQualified, Text.strip] using Text.cutFirst_eq_none.mp hcut
  | some sides =>
    obtain ⟨schema, table⟩ := sides
    rw [(Text.cutFirst_eq_some.mp hcut).1, List.count_append, List.count_cons_self] at hle
    have htable : '.' ∉ table := List.count_eq_zero.mp (by omega)
    simpa [isQualified] using htable

end PgGateway.Sql
