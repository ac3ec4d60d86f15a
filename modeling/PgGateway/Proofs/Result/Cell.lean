import PgGateway.Proofs.Json.RoundTrip
import PgGateway.Proofs.Number.DecimalText
import PgGateway.Result.Cell

set_option autoImplicit false

/-!
# Cells that are read back

The written form of a cell does not tell its kind, so what is read from it may be another cell.
Mostly that cell is written in the same way. The exceptions are texts that denote a decimal without
being the text of one, a zero with a minus sign, and integers that only a word without a sign can
hold.

## Main definitions

* `PgGateway.Cell.IsStandard` — whether a cell is within the bounds of its kind.
* `PgGateway.Cell.KeepsForm` — whether its written form is that of what is read from it.

## Main results

* `PgGateway.Date.read?_written_eq_none`, `PgGateway.Instant.read?_written_eq_none` — dates and
  instants are no decimals.
* `PgGateway.Cell.toJson_ofJson_toJson_iff` — which cells are read and written in the same way.
-/

namespace PgGateway

open Text

/-! ## Dates and instants -/

namespace Date

/-- A number filled up with zeros has only digits. -/
lemma isDigits_digitsTo (width n : Nat) : IsDigits (digitsTo width n) :=
  isDigits_append.mpr ⟨isDigits_replicate _, isDigits_toDigits n⟩

/-- There is at least one. -/
lemma digitsTo_ne_nil (width n : Nat) : digitsTo width n ≠ [] :=
  List.append_ne_nil_of_right_ne_nil _ Nat.toDigits_ne_nil

/-- A number filled up with zeros has no mark of an exponent. -/
lemma hasNoExponent_digitsTo (width n : Nat) : Decimal.HasNoExponent (digitsTo width n) :=
  .of_isDigits (isDigits_digitsTo width n)

/-- The text of a year is not empty. -/
lemma yearText_ne_nil (year : Int) : yearText year ≠ [] := by
  rw [yearText]
  split
  · exact digitsTo_ne_nil _ _
  · exact List.cons_ne_nil _ _

/-- The text of a year has no mark of an exponent. -/
lemma hasNoExponent_yearText (year : Int) : Decimal.HasNoExponent (yearText year) := by
  rw [yearText]
  split
  · exact hasNoExponent_digitsTo _ _
  · exact .cons (by split <;> decide) (hasNoExponent_digitsTo _ _)

/-- The text of a date has no mark of an exponent. -/
lemma hasNoExponent_written (d : Date) : Decimal.HasNoExponent d.written :=
  ((hasNoExponent_yearText _).append (.cons (by decide) (hasNoExponent_digitsTo _ _))).append
    (.cons (by decide) (hasNoExponent_digitsTo _ _))

/-- There is a hyphen in the text of a date behind its year, whatever follows the date. -/
lemma hyphen_mem_tail_written_append (d : Date) (s : List Char) : '-' ∈ (d.written ++ s).tail := by
  obtain ⟨c, year, hyear⟩ := List.exists_cons_of_ne_nil (yearText_ne_nil d.civil.1)
  change '-' ∈ (yearText d.civil.1 ++ '-' :: digitsTo 2 d.civil.2.1 ++
    '-' :: digitsTo 2 d.civil.2.2 ++ s).tail
  rw [hyear]
  simp

/-- A date is no decimal. -/
theorem read?_written_eq_none (d : Date) : Decimal.read? d.written = none := by
  have hhyphen := d.hyphen_mem_tail_written_append []
  rw [List.append_nil] at hhyphen
  exact Decimal.read?_eq_none d.hasNoExponent_written hhyphen (by decide)

end Date

namespace Instant

/-- The text of a fraction of a second has no mark of an exponent. -/
lemma hasNoExponent_fractionText (nanosecond : Nat) :
    Decimal.HasNoExponent (fractionText nanosecond) := by
  rw [fractionText]
  split
  · exact List.forall_mem_nil _
  · split
    · exact .cons (by decide) (Date.hasNoExponent_digitsTo _ _)
    · split
      · exact .cons (by decide) (Date.hasNoExponent_digitsTo _ _)
      · exact .cons (by decide) (Date.hasNoExponent_digitsTo _ _)

/-- An instant is no decimal. -/
theorem read?_written_eq_none (t : Instant) : Decimal.read? t.written = none := by
  have hdigits : ∀ {mark : Char} {n : Nat}, mark ≠ 'e' ∧ mark ≠ 'E' →
      Decimal.HasNoExponent (mark :: Date.digitsTo 2 n) :=
    fun hmark => .cons hmark (Date.hasNoExponent_digitsTo _ _)
  obtain ⟨clock, hwritten, hclock⟩ : ∃ clock, t.written = t.date.written ++ clock ∧
      Decimal.HasNoExponent clock := by
    refine ⟨_, by rw [written, List.append_assoc, List.append_assoc, List.append_assoc,
      List.append_assoc], ?_⟩
    exact (hdigits (by decide)).append ((hdigits (by decide)).append ((hdigits (by decide)).append
      ((hasNoExponent_fractionText _).append (.cons (by decide) (List.forall_mem_nil _)))))
  rw [hwritten]
  exact Decimal.read?_eq_none (t.date.hasNoExponent_written.append hclock)
    (t.date.hyphen_mem_tail_written_append clock) (by decide)

end Instant

/-! ## Cells -/

namespace Cell

/-- Whether a cell is within the bounds of its kind: an integer fits into 64 bits, a decimal into 96
bits and 28 places, and a document is one that a text can hold. -/
def IsStandard : Cell → Prop
  | .int n => -Nat.pow 2 63 ≤ n ∧ n < Nat.pow 2 63
  | .decimal d => d.IsStandard
  | .json j => j.IsStandard
  | _ => True

/-- Whether the written form of a cell is that of the cell that is read from it. For a text that
means that it is the text of a decimal, other than a zero with a minus sign, if it denotes one. A
decimal must not be such a zero, and a document that is an integer has to fit into a word with a
sign. -/
def KeepsForm : Cell → Prop
  | .decimal d => ¬ d.IsSignedZero
  | .string s => Decimal.IsOwnText s.toList
  | .json (.str s) => Decimal.IsOwnText s.toList
  | .json (.int n) => n < Nat.pow 2 63
  | _ => True

/-- A text can hold the written form of a cell within its bounds. -/
lemma IsStandard.toJson {c : Cell} (hc : c.IsStandard) : c.toJson.IsStandard := by
  cases c with
  | null | bool | decimal | string | instant | date => trivial
  | int n => exact ⟨hc.1, hc.2.trans (by decide)⟩
  | float x =>
    rw [Cell.toJson]
    split
    · next hx => exact hx
    · trivial
  | json j => exact hc

/-- A text is read and written in the same way exactly if it is that of the decimal it denotes, if
it denotes one. -/
lemma toJson_ofJson_str_iff {s : String} :
    (ofJson (.str s)).toJson = .str s ↔ Decimal.IsOwnText s.toList := by
  rw [ofJson, Decimal.isOwnText_iff]
  cases hread : Decimal.read? s.toList with
  | none => simp [toJson]
  | some d =>
    simp only [toJson, Json.str.injEq, Option.some.injEq, forall_eq']
    constructor
    · rintro rfl
      exact String.toList_ofList.symm
    · intro hwritten
      rw [hwritten, String.ofList_toList]

/-- A text that denotes no decimal is read and written in the same way. -/
lemma toJson_ofJson_str_of_eq_none {s : List Char} (h : Decimal.read? s = none) :
    (ofJson (.str (String.ofList s))).toJson = .str (String.ofList s) := by
  rw [toJson_ofJson_str_iff, String.toList_ofList]
  intro hsome
  rw [h] at hsome
  cases hsome

/-- An integer is read and written in the same way exactly if it fits into a word with a sign. -/
lemma toJson_ofJson_int_iff {n : Int} (hn : -Nat.pow 2 63 ≤ n) :
    (ofJson (.int n)).toJson = .int n ↔ n < Nat.pow 2 63 := by
  have hfits : (decide (-Nat.pow 2 63 ≤ n) && decide (n < Nat.pow 2 63)) = true ↔
      n < Nat.pow 2 63 := by
    rw [Bool.and_eq_true, decide_eq_true_iff, decide_eq_true_iff]
    exact and_iff_right hn
  rw [ofJson]
  by_cases hlt : n < Nat.pow 2 63
  · rw [if_pos (hfits.mpr hlt)]
    exact iff_of_true rfl hlt
  · rw [if_neg (mt hfits.mp hlt)]
    refine iff_of_false ?_ hlt
    rw [toJson]
    split <;> exact nofun

/-- A finite number is read and written in the same way. -/
lemma toJson_ofJson_float {x : Binary64} (hx : x.isFinite = true) :
    (ofJson (.float x)).toJson = .float x := by
  rw [ofJson, toJson, if_pos hx]

/-- **Cells that are read back.** What is read from the written form of a cell is written in the
same way exactly if the cell keeps its form. -/
theorem toJson_ofJson_toJson_iff {c : Cell} (hc : c.IsStandard) :
    (ofJson c.toJson).toJson = c.toJson ↔ c.KeepsForm := by
  cases c with
  | null => exact iff_of_true rfl trivial
  | bool b => exact iff_of_true rfl trivial
  | int n => exact iff_of_true ((toJson_ofJson_int_iff hc.1).mpr hc.2) trivial
  | float x =>
    refine iff_of_true ?_ trivial
    rw [toJson]
    split
    · next hx => exact toJson_ofJson_float hx
    · rfl
  | decimal d =>
    rw [toJson, toJson_ofJson_str_iff, String.toList_ofList, KeepsForm]
    exact Decimal.isOwnText_written_iff hc
  | string s => exact toJson_ofJson_str_iff
  | instant t => exact iff_of_true (toJson_ofJson_str_of_eq_none t.read?_written_eq_none) trivial
  | date d => exact iff_of_true (toJson_ofJson_str_of_eq_none d.read?_written_eq_none) trivial
  | json j =>
    cases j with
    | int n => exact toJson_ofJson_int_iff hc.1
    | float x => exact iff_of_true (toJson_ofJson_float hc) trivial
    | str s => exact toJson_ofJson_str_iff
    | null | bool | arr | obj => exact iff_of_true rfl trivial

end Cell

end PgGateway
