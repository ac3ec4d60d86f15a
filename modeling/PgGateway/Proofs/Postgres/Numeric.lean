import PgGateway.Proofs.Number.Decimal
import PgGateway.Proofs.Postgres.Bytes
import Mathlib.Algebra.Order.Field.Power
import Mathlib.Algebra.Order.Ring.Rat
import Mathlib.Tactic.Linarith
import Mathlib.Tactic.Positivity

set_option autoImplicit false

/-!
# Exact numbers of the database

The database's exact numbers reach far beyond the decimals. They are sent in groups of four digits,
of which the first counts by a power of 10000, the weight. Reading puts the groups before the point
together and adds those behind it one by one. It fails exactly for the numbers whose nearest integer
has more than 96 bits: behind the point only the first group can carry a sum beyond the bound, since
half below the bound is a multiple of what this group counts by.

## Main definitions

* `PgGateway.Wire.groupsValue` — the value of groups of four digits.
* `PgGateway.Wire.groupsNumber` — the number that they make before the point.
* `PgGateway.Wire.Numeric` — the exact numbers as they are sent, with their `magnitude` and `bytes`.
* `PgGateway.Wire.Special` — what is sent in place of a number.

## Main results

* `PgGateway.Wire.ofGroups?_eq_none_iff` — which groups denote no decimal.
* `PgGateway.Wire.Numeric.decimal?_bytes_eq_none_iff` — which exact numbers cannot be read.
-/

namespace PgGateway.Wire

open Decimal (coefficientBound)

/-! ## Groups of digits -/

/-- The value of groups of four digits, the first of which counts by a power of 10000. -/
def groupsValue (weight : Int) : List Nat → ℚ
  | [] => 0
  | g :: rest => g * 10000 ^ weight + groupsValue (weight - 1) rest

/-- The number whose digits to the base 10000 are the groups. -/
def groupsNumber (groups : List Nat) : Nat :=
  groups.foldl (fun n g => n * 10000 + g) 0

/-- A group at the end is one more digit. -/
lemma groupsNumber_append_singleton (groups : List Nat) (g : Nat) :
    groupsNumber (groups ++ [g]) = groupsNumber groups * 10000 + g := by
  rw [groupsNumber, List.foldl_append]
  rfl

/-- The number of groups that start with a digit is positive. -/
lemma groupsNumber_pos {groups : List Nat} (hgroups : groups ≠ [])
    (hhead : groups.head? ≠ some 0) : 0 < groupsNumber groups := by
  induction groups using List.reverseRecOn with
  | nil => exact absurd rfl hgroups
  | append_singleton groups g ih =>
    rw [groupsNumber_append_singleton]
    cases groups with
    | nil =>
      have hg : g ≠ 0 := fun h => hhead (by rw [h]; rfl)
      omega
    | cons first rest =>
      have hfirst := ih (List.cons_ne_nil first rest) hhead
      omega

/-- Groups behind others count by the powers that these have left over. -/
lemma groupsValue_append (weight : Int) (groups further : List Nat) :
    groupsValue weight (groups ++ further) =
      groupsValue weight groups + groupsValue (weight - groups.length) further := by
  induction groups generalizing weight with
  | nil => simp [groupsValue]
  | cons g rest ih =>
    have hweight : weight - 1 - rest.length = weight - ((g :: rest).length : Nat) := by
      rw [List.length_cons]
      omega
    rw [List.cons_append, groupsValue, groupsValue, ih, hweight, add_assoc]

/-- Groups are the digits of a number to the base 10000, up to a power of it. -/
lemma groupsValue_eq_groupsNumber (weight : Int) (groups : List Nat) :
    groupsValue weight groups =
      groupsNumber groups * (10000 : ℚ) ^ (weight + 1 - groups.length) := by
  induction groups using List.reverseRecOn with
  | nil => simp [groupsValue, groupsNumber]
  | append_singleton groups g ih =>
    have hlast : weight + 1 - ((groups ++ [g]).length : Nat) = weight - groups.length := by
      rw [List.length_append, List.length_singleton]
      omega
    have hbefore : weight + 1 - groups.length = weight - groups.length + 1 := by omega
    rw [groupsValue_append, ih, hlast, hbefore, zpow_add_one₀ (by norm_num),
      groupsNumber_append_singleton, groupsValue, groupsValue]
    push_cast
    ring

/-- The value of groups is not negative. -/
lemma groupsValue_nonneg (weight : Int) (groups : List Nat) : 0 ≤ groupsValue weight groups := by
  induction groups generalizing weight with
  | nil => exact le_refl 0
  | cons g rest ih =>
    have hrest := ih (weight - 1)
    rw [groupsValue]
    positivity

/-- The value of groups stays below what a group before them would count by. -/
lemma groupsValue_lt {groups : List Nat} (hgroups : ∀ g ∈ groups, g < 10000) (weight : Int) :
    groupsValue weight groups < 10000 ^ (weight + 1) := by
  induction groups generalizing weight with
  | nil => exact zpow_pos (by norm_num) _
  | cons g rest ih =>
    obtain ⟨hg, hrest⟩ := List.forall_mem_cons.mp hgroups
    have hlt : groupsValue (weight - 1) rest < 10000 ^ weight := by
      simpa using ih hrest (weight - 1)
    have hle : (g : ℚ) + 1 ≤ 10000 := by exact_mod_cast hg
    have hpower : (0 : ℚ) < 10000 ^ weight := zpow_pos (by norm_num) _
    rw [groupsValue, zpow_add_one₀ (by norm_num)]
    calc g * (10000 : ℚ) ^ weight + groupsValue (weight - 1) rest
        < g * 10000 ^ weight + 10000 ^ weight := by linarith
      _ = (g + 1) * 10000 ^ weight := by ring
      _ ≤ 10000 * 10000 ^ weight := mul_le_mul_of_nonneg_right hle hpower.le
      _ = 10000 ^ weight * 10000 := mul_comm _ _

/-! ## Reading groups -/

/-- Groups that start behind the first one after the point can always be added. -/
lemma addPlaces?_ne_none {d : Decimal} (hd : d.coefficient < coefficientBound) {places : Nat}
    (hplaces : 5 ≤ places) {groups : List Nat} (hgroups : ∀ g ∈ groups, g < 10000) :
    addPlaces? d places groups ≠ none := by
  induction groups generalizing d places with
  | nil => exact Option.some_ne_none d
  | cons g rest ih =>
    obtain ⟨hg, hrest⟩ := List.forall_mem_cons.mp hgroups
    rw [addPlaces?]
    split
    · obtain ⟨sum, hsum⟩ := Option.ne_none_iff_exists'.mp
        (Decimal.plus?_ne_none (b := .make false g places) hd hg hplaces)
      rw [hsum, Option.bind_some]
      exact ih (Decimal.coefficient_lt_of_fitted? hsum) (by omega) hrest
    · split
      · exact Decimal.plus?_ne_none hd (by decide) (by decide)
      · exact Option.some_ne_none d

/-- Of the groups behind the point only the first can make adding fail. -/
lemma addPlaces?_cons_eq_none_iff {whole g : Nat} {rest : List Nat}
    (hrest : ∀ g ∈ rest, g < 10000) :
    addPlaces? (.make false whole 0) 4 (g :: rest) = none ↔
      coefficientBound * 10000 ≤ whole * 10000 + g + 5000 := by
  have hstep : addPlaces? (.make false whole 0) 4 (g :: rest) = none ↔
      (Decimal.make false whole 0).plus? (.make false g 4) = none := by
    rw [addPlaces?, if_pos (by decide)]
    cases hsum : (Decimal.make false whole 0).plus? (.make false g 4) with
    | none => simp
    | some sum =>
      have hsmall := Decimal.coefficient_lt_of_fitted? hsum
      simpa using addPlaces?_ne_none hsmall (by omega) hrest
  rw [hstep, Decimal.plus?_eq_none_iff]
  simp only [Decimal.make, Nat.zero_max, Nat.sub_zero, Nat.sub_self, Nat.pow_zero, Nat.mul_one]
  omega

/-- Half below the bound is a multiple of what the first group behind the point counts by, so less
than that does not matter. -/
lemma coefficientBound_sub_half_le_iff {whole g : Nat} {less : ℚ} (hlow : 0 ≤ less)
    (hhigh : less < 1 / 10000) :
    (coefficientBound : ℚ) - 1 / 2 ≤ whole + (g / 10000 + less) ↔
      coefficientBound * 10000 ≤ whole * 10000 + g + 5000 := by
  constructor
  · intro hlarge
    by_contra hsmall
    have hcast : (whole : ℚ) * 10000 + g + 5000 + 1 ≤ coefficientBound * 10000 := by
      exact_mod_cast Nat.not_le.mp hsmall
    linarith
  · intro hlarge
    have hcast : (coefficientBound : ℚ) * 10000 ≤ whole * 10000 + g + 5000 := by
      exact_mod_cast hlarge
    linarith

/-- The groups behind the point cannot be added if they bring an integer to half below the bound. -/
lemma addPlaces?_eq_none_iff {whole : Nat} (hwhole : whole < coefficientBound) {groups : List Nat}
    (hgroups : ∀ g ∈ groups, g < 10000) :
    addPlaces? (.make false whole 0) 4 groups = none ↔
      (coefficientBound : ℚ) - 1 / 2 ≤ whole + groupsValue (-1) groups := by
  cases groups with
  | nil =>
    have hle : (whole : ℚ) + 1 ≤ coefficientBound := by exact_mod_cast hwhole
    refine iff_of_false (Option.some_ne_none _) (not_le.mpr ?_)
    rw [groupsValue]
    linarith
  | cons g rest =>
    have hrest : ∀ g ∈ rest, g < 10000 := (List.forall_mem_cons.mp hgroups).2
    have hhigh : groupsValue (-2) rest < 1 / 10000 := by
      simpa using groupsValue_lt hrest (-2)
    have hvalue : groupsValue (-1) (g :: rest) = g / 10000 + groupsValue (-2) rest := by
      rw [groupsValue, zpow_neg_one, div_eq_mul_inv]
      rfl
    rw [addPlaces?_cons_eq_none_iff hrest, hvalue,
      coefficientBound_sub_half_le_iff (groupsValue_nonneg (-2) rest) hhigh]

/-- The groups before the point denote a decimal if their number lies below the bound, provided that
it does not when too many of them are missing. -/
lemma wholePart?_eq {groups : List Nat} {missing number : Nat}
    (hnumber : groupsNumber groups * 10000 ^ missing = number)
    (hbeyond : 7 < missing → coefficientBound ≤ number) :
    wholePart? groups missing =
      if number < coefficientBound then some (.make false number 0) else none := by
  have hfits : (decide (missing ≤ 7) && decide (number < coefficientBound)) = true ↔
      number < coefficientBound := by
    simp only [Bool.and_eq_true, decide_eq_true_iff]
    omega
  rw [wholePart?, Nat.pow_eq, ← groupsNumber, hnumber]
  by_cases hlt : number < coefficientBound
  · rw [if_pos (hfits.mpr hlt), if_pos hlt]
  · rw [if_neg (mt hfits.mp hlt), if_neg hlt]

/-- Groups that start with a digit reach the bound before too many of them are missing. -/
lemma coefficientBound_le_of_missing {groups : List Nat} (hgroups : groups ≠ [])
    (hhead : groups.head? ≠ some 0) {whole : Nat} (hmissing : 7 < whole - groups.length) :
    coefficientBound ≤ groupsNumber (groups.take whole) * 10000 ^ (whole - groups.length) := by
  rw [List.take_of_length_le (by omega : groups.length ≤ whole)]
  calc coefficientBound ≤ 10000 ^ 8 := by decide
    _ ≤ 10000 ^ (whole - groups.length) := Nat.pow_le_pow_right (by omega) hmissing
    _ ≤ groupsNumber groups * 10000 ^ (whole - groups.length) :=
      Nat.le_mul_of_pos_left _ (groupsNumber_pos hgroups hhead)

/-- The value of groups is the number before the point and what stands behind it. -/
lemma groupsValue_eq_add (whole : Nat) (groups : List Nat) :
    groupsValue ((whole : Int) - 1) groups =
      (groupsNumber (groups.take whole) * 10000 ^ (whole - groups.length) : Nat) +
        groupsValue (-1) (groups.drop whole) := by
  conv_lhs =>
    rw [← List.take_append_drop whole groups, groupsValue_append, groupsValue_eq_groupsNumber]
  have hmissing : (whole : Int) - 1 + 1 - ((groups.take whole).length : Nat) =
      ((whole - groups.length : Nat) : Int) := by
    rw [List.length_take]
    omega
  have hbehind : groupsValue ((whole : Int) - 1 - ((groups.take whole).length : Nat))
      (groups.drop whole) = groupsValue (-1) (groups.drop whole) := by
    rcases Nat.le_total whole groups.length with hle | hle
    · rw [List.length_take_of_le hle]
      congr 1
      omega
    · rw [List.drop_eq_nil_of_le hle]
      rfl
  rw [hmissing, hbehind, zpow_natCast]
  push_cast
  rfl

/-- Groups of which none stands before the point or right behind it denote a decimal. -/
lemma ofGroups?_ne_none {weight : Int} (hweight : weight < -1) (scale : Nat) {groups : List Nat}
    (hgroups : ∀ g ∈ groups, g < 10000) : ofGroups? weight scale groups ≠ none := by
  have hwhole : (weight + 1).toNat = 0 := by omega
  have hzero : wholePart? [] 0 = some (.make false 0 0) := rfl
  have hadd : addPlaces? (.make false 0 0) (4 * max 1 (-weight).toNat) groups ≠ none :=
    addPlaces?_ne_none (by decide) (by omega) hgroups
  rw [ofGroups?, hwhole, List.take_zero, Nat.zero_sub, List.drop_zero, hzero, Option.bind_some]
  exact mt Option.map_eq_none_iff.mp hadd

/-- Groups denote no decimal if the nearest integer lies beyond the bound. -/
theorem ofGroups?_eq_none_iff {weight : Int} {scale : Nat} {groups : List Nat}
    (hgroups : ∀ g ∈ groups, g < 10000) (hhead : groups.head? ≠ some 0)
    (hempty : groups = [] → weight = 0) :
    ofGroups? weight scale groups = none ↔
      (coefficientBound : ℚ) - 1 / 2 ≤ groupsValue weight groups := by
  rcases Int.lt_or_le weight (-1) with hsmall | hlarge
  · have hvalue : groupsValue weight groups < 1 :=
      lt_of_lt_of_le (groupsValue_lt hgroups weight)
        (zpow_le_one_of_nonpos₀ (by norm_num) (by omega))
    have hbound : (1 : ℚ) + 1 / 2 ≤ coefficientBound := by
      norm_num [coefficientBound]
    exact iff_of_false (ofGroups?_ne_none hsmall scale hgroups) (by linarith)
  · obtain ⟨whole, rfl⟩ : ∃ whole : Nat, weight = whole - 1 := ⟨(weight + 1).toNat, by omega⟩
    have hwhole : ((whole : Int) - 1 + 1).toNat = whole := by omega
    have hplaces : 4 * max 1 (-((whole : Int) - 1)).toNat = 4 := by omega
    have hgiven : 7 < whole - groups.length → groups ≠ [] := fun hmissing hnil => by
      have hzero := hempty hnil
      omega
    have hbeyond : 7 < whole - groups.length → coefficientBound ≤ _ := fun hmissing =>
      coefficientBound_le_of_missing (hgiven hmissing) hhead hmissing
    have hrest : ∀ g ∈ groups.drop whole, g < 10000 := fun g hg =>
      hgroups g (List.mem_of_mem_drop hg)
    rw [ofGroups?, hwhole, hplaces, wholePart?_eq rfl hbeyond, groupsValue_eq_add]
    split
    · next hlt => rw [Option.bind_some, Option.map_eq_none_iff, addPlaces?_eq_none_iff hlt hrest]
    · next hlt =>
      have hle : (coefficientBound : ℚ) ≤ _ := Nat.cast_le.mpr (not_lt.mp hlt)
      have hbehind := groupsValue_nonneg (-1) (groups.drop whole)
      exact iff_of_true rfl (by linarith)

/-! ## What is sent -/

/-- An exact number as it is sent: without zeros at its front, and a zero without any groups. -/
structure Numeric where
  /-- Whether the number lies below zero. -/
  negative : Bool
  /-- The power of 10000 by which the first group counts. -/
  weight : Int16
  /-- The number of places that are shown. -/
  scale : UInt16
  /-- The groups of four digits. -/
  groups : List (Fin 10000)
  /-- There are as many groups as a word can say. -/
  length_lt : groups.length < 2 ^ 16
  /-- The first group is not zero. -/
  head?_ne : groups.head? ≠ some 0
  /-- A zero has the weight zero. -/
  weight_eq : groups = [] → weight = 0

namespace Numeric

/-- The groups as numbers. -/
def digits (v : Numeric) : List Nat := v.groups.map Fin.val

/-- The number without its sign. -/
def magnitude (v : Numeric) : ℚ := groupsValue v.weight.toInt v.digits

/-- The bytes by which a number is sent. -/
def bytes (v : Numeric) : Bytes :=
  bytesOf 2 v.digits.length ++ signedBytes 2 v.weight.toInt ++
    bytesOf 2 (if v.negative then negativeSign else 0) ++ bytesOf 2 v.scale.toNat ++
    v.digits.flatMap (bytesOf 2)

/-- Groups have four digits. -/
lemma lt_of_mem_digits (v : Numeric) : ∀ g ∈ v.digits, g < 10000 := by
  intro g hg
  obtain ⟨digit, -, rfl⟩ := List.mem_map.mp hg
  exact digit.isLt

/-- The weight as a word. -/
def weightWord (v : Numeric) : Nat := (v.weight.toInt % (Nat.pow 256 2 : Nat)).toNat

/-- The four words before the groups. -/
def head (v : Numeric) : List Nat :=
  [v.digits.length, v.weightWord, if v.negative then negativeSign else 0, v.scale.toNat]

/-- A number is sent as words. -/
lemma bytes_eq (v : Numeric) :
    v.bytes = v.head.flatMap (bytesOf 2) ++ v.digits.flatMap (bytesOf 2) := by
  simp only [bytes, head, weightWord, signedBytes, List.flatMap_cons, List.flatMap_nil,
    List.append_assoc, List.nil_append]

/-- The weight fits into a word. -/
lemma weightWord_lt (v : Numeric) : v.weightWord < 2 ^ 16 := by
  have hword : Nat.pow 256 2 = 65536 := rfl
  rw [weightWord, hword]
  omega

/-- The weight is read back from its word. -/
lemma weight_eq_ite (v : Numeric) :
    (if v.weightWord < Nat.pow 2 15 then (v.weightWord : Int)
      else (v.weightWord : Int) - Nat.pow 2 16) = v.weight.toInt := by
  have hlow := v.weight.le_toInt
  have hhigh := v.weight.toInt_lt
  have hword : Nat.pow 256 2 = 65536 := rfl
  rw [weightWord, hword]
  split <;> simp only [Nat.pow_eq] at * <;> omega

/-- The words before the groups fit into two bytes. -/
lemma lt_of_mem_head (v : Numeric) : ∀ w ∈ v.head, w < 2 ^ 16 := by
  have hlength : v.digits.length < 2 ^ 16 := by
    rw [digits, List.length_map]
    exact v.length_lt
  have hsign : (if v.negative then negativeSign else 0) < 2 ^ 16 := by
    split <;> decide
  simpa [head] using ⟨hlength, v.weightWord_lt, hsign, v.scale.toNat_lt⟩

/-- The bytes of a number are read as its groups. -/
theorem decimal?_bytes (v : Numeric) :
    decimal? v.bytes =
      (ofGroups? v.weight.toInt v.scale.toNat v.digits).map
        fun d => { d with negative := v.negative } := by
  have hhead : words? 4 v.bytes = some v.head := by
    rw [bytes_eq]
    exact words?_flatMap_bytesOf v.lt_of_mem_head _
  have hdrop : v.bytes.drop 8 = v.digits.flatMap (bytesOf 2) := by
    rw [bytes_eq]
    exact List.drop_left' (by simp [head])
  have hgroups : words? v.digits.length (v.digits.flatMap (bytesOf 2)) = some v.digits := by
    have hlt : ∀ g ∈ v.digits, g < 2 ^ 16 := fun g hg =>
      lt_trans (v.lt_of_mem_digits g hg) (by omega)
    simpa using words?_flatMap_bytesOf hlt []
  have hsign : ¬specialSign ≤ if v.negative then negativeSign else 0 := by
    split <;> decide
  have hnegative :
      decide ((if v.negative then negativeSign else 0) = negativeSign) = v.negative := by
    cases v.negative <;> decide
  rw [decimal?, hhead]
  simp only [head]
  rw [if_neg hsign, hdrop, hgroups, weight_eq_ite, Option.bind_some, hnegative]

/-- **The numbers that cannot be read.** Reading an exact number fails exactly if the nearest
integer has more than 96 bits.

**Proof sketch.** The words of the head and the groups are read back, so only putting the groups
together can fail. Before the point that happens if the integer reaches the bound. Behind it, half
below the bound is a multiple of what the first group counts by, so this group alone decides whether
the sum is rounded to the bound; the groups after it are too small, and so are all groups of a
number that starts later. -/
theorem decimal?_bytes_eq_none_iff (v : Numeric) :
    decimal? v.bytes = none ↔ (coefficientBound : ℚ) - 1 / 2 ≤ v.magnitude := by
  have hhead : v.digits.head? ≠ some 0 := by
    have hne := v.head?_ne
    cases hgroups : v.groups <;> simp_all [digits]
  have hempty : v.digits = [] → v.weight.toInt = 0 := fun hnil => by
    rw [v.weight_eq (List.map_eq_nil_iff.mp hnil)]
    rfl
  rw [decimal?_bytes, Option.map_eq_none_iff,
    ofGroups?_eq_none_iff v.lt_of_mem_digits hhead hempty]
  rfl

end Numeric

/-- What stands in place of a number. -/
inductive Special where
  /-- No number at all. -/
  | notANumber
  /-- An infinity. -/
  | infinity (negative : Bool)

namespace Special

/-- The sign word. -/
def sign : Special → Nat
  | .notANumber => 0xC000
  | .infinity false => 0xD000
  | .infinity true => 0xF000

/-- The bytes by which it is sent, with any scale. -/
def bytes (v : Special) (scale : UInt16) : Bytes :=
  bytesOf 2 0 ++ bytesOf 2 0 ++ bytesOf 2 v.sign ++ bytesOf 2 scale.toNat

/-- What is no number cannot be read as one. -/
theorem decimal?_bytes (v : Special) (scale : UInt16) : decimal? (v.bytes scale) = none := by
  have hsign : specialSign ≤ v.sign ∧ v.sign < 2 ^ 16 := by
    rcases v with _ | _ | _ <;> decide
  have hwords : ∀ w ∈ [0, 0, v.sign, scale.toNat], w < 2 ^ 16 := by
    simpa using ⟨hsign.2, scale.toNat_lt⟩
  have hhead : words? 4 (v.bytes scale) = some [0, 0, v.sign, scale.toNat] := by
    simpa [bytes] using words?_flatMap_bytesOf hwords []
  rw [decimal?, hhead]
  exact if_pos hsign.1

end Special

end PgGateway.Wire
