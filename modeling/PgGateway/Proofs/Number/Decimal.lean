import PgGateway.Number.Decimal
import Mathlib.Tactic.Ring

set_option autoImplicit false

/-!
# Sums without a place

A sum of two decimals is shortened until its coefficient fits. It has no place among the decimals
only if not even the nearest integer does, and that is so from half below the bound on: the bound is
even, so a half is rounded up to it.

## Main results

* `PgGateway.Decimal.coefficientBound_le_roundEven_iff` — which quotients are rounded to the bound
  or beyond.
* `PgGateway.Decimal.plus?_eq_none_iff` — which sums have no place.
* `PgGateway.Decimal.plus?_ne_none` — something small can always be added behind the point.
-/

namespace PgGateway.Decimal

/-- The bound is positive and even. -/
lemma coefficientBound_eq : ∃ half, 0 < half ∧ coefficientBound = 2 * half :=
  ⟨2 ^ 95, by decide, by decide⟩

/-- A quotient is rounded to the bound or beyond if it is at most half below it. -/
theorem coefficientBound_le_roundEven_iff {num den : Nat} (hden : 0 < den) :
    coefficientBound ≤ roundEven num den ↔ (2 * coefficientBound - 1) * den ≤ 2 * num := by
  obtain ⟨half, hpositive, hbound⟩ := coefficientBound_eq
  have hnum : den * (num / den) + num % den = num := Nat.div_add_mod num den
  have hlt : num % den < den := Nat.mod_lt num hden
  have hodd : (2 * (2 * half) - 1) * den = 2 * (2 * half * den) - den := by
    rw [Nat.sub_mul, one_mul, mul_assoc]
  rw [roundEven, hbound, hodd]
  generalize num / den = q, num % den = r at hnum hlt
  -- Only the quotient right below the bound needs its remainder, and that one is odd.
  rcases Nat.lt_trichotomy (q + 1) (2 * half) with hsmall | hlast | hlarge
  · have hnear : (q + 2) * den ≤ 2 * half * den := Nat.mul_le_mul_right den hsmall
    rw [Nat.add_mul, Nat.mul_comm q] at hnear
    exact iff_of_false (by split <;> omega) (by omega)
  · have hnear : (q + 1) * den = 2 * half * den := by rw [hlast]
    rw [Nat.add_mul, Nat.mul_comm q] at hnear
    have hup : (decide (den < 2 * r) || (decide (den = 2 * r) && decide (q % 2 = 1))) = true ↔
        den ≤ 2 * r := by
      have hq : q % 2 = 1 := by omega
      simp [hq, Nat.le_iff_lt_or_eq]
    by_cases hr : den ≤ 2 * r
    · rw [if_pos (hup.mpr hr)]
      omega
    · rw [if_neg (mt hup.mp hr)]
      omega
  · have hnear : 2 * half * den ≤ q * den := Nat.mul_le_mul_right den (by omega)
    rw [Nat.mul_comm q] at hnear
    exact iff_of_true (by split <;> omega) (by omega)

/-- A fitted coefficient lies below the bound. -/
lemma coefficient_lt_of_fitted? {num cut scale : Nat} {d : Decimal}
    (h : fitted? num cut scale = some d) : d.coefficient < coefficientBound := by
  induction scale generalizing cut with
  | zero =>
    rw [fitted?] at h
    split at h
    · next hlt =>
      cases h
      exact hlt
    · cases h
  | succ scale ih =>
    rw [fitted?] at h
    split at h
    · next hlt =>
      cases h
      exact hlt
    · exact ih h

/-- A number cannot be fitted if it is at most half below the bound as an integer. -/
theorem fitted?_eq_none_iff {num cut scale : Nat} :
    fitted? num cut scale = none ↔
      (2 * coefficientBound - 1) * 10 ^ (cut + scale) ≤ 2 * num := by
  induction scale generalizing cut with
  | zero =>
    rw [fitted?, Nat.add_zero, ← coefficientBound_le_roundEven_iff (Nat.pow_pos (by omega))]
    simp [Nat.pow_eq]
  | succ scale ih =>
    rw [fitted?]
    have hshorter : cut + 1 + scale = cut + (scale + 1) := by omega
    split
    · next hlt =>
      rw [← not_le, Nat.pow_eq, coefficientBound_le_roundEven_iff (Nat.pow_pos (by omega))] at hlt
      have hcut : 10 ^ cut ≤ 10 ^ (cut + (scale + 1)) :=
        Nat.pow_le_pow_right (by omega) (Nat.le_add_right _ _)
      exact iff_of_false (Option.some_ne_none _)
        fun hle => hlt (le_trans (Nat.mul_le_mul_left _ hcut) hle)
    · rw [ih, hshorter]

/-- A sum has no place if it is at most half below the bound. -/
theorem plus?_eq_none_iff {a b : Decimal} :
    a.plus? b = none ↔
      (2 * coefficientBound - 1) * 10 ^ max a.scale b.scale ≤
        2 * (a.coefficient * 10 ^ (max a.scale b.scale - a.scale) +
          b.coefficient * 10 ^ (max a.scale b.scale - b.scale)) := by
  rw [plus?]
  rw [fitted?_eq_none_iff, Nat.zero_add, Nat.pow_eq, Nat.pow_eq]

/-- Something small can always be added behind the point. -/
theorem plus?_ne_none {a b : Decimal} (ha : a.coefficient < coefficientBound)
    (hb : b.coefficient < 10000) (hscale : 5 ≤ b.scale) : a.plus? b ≠ none := by
  rw [Ne, plus?_eq_none_iff, not_le]
  generalize hs : max a.scale b.scale = s
  have hpower : 10 ^ s = 10 ^ 5 * 10 ^ (s - 5) := by
    rw [← Nat.pow_add]
    congr 1
    omega
  -- The sum of `coefficientBound - 1` and a tenth is less than what would be rounded up.
  have hfirst : a.coefficient * 10 ^ (s - a.scale) ≤ (coefficientBound - 1) * 10 ^ s :=
    Nat.mul_le_mul (by omega) (Nat.pow_le_pow_right (by omega) (Nat.sub_le _ _))
  have hsecond : b.coefficient * 10 ^ (s - b.scale) ≤ 9999 * 10 ^ (s - 5) :=
    Nat.mul_le_mul (by omega) (Nat.pow_le_pow_right (by omega) (by omega))
  have hbound : (2 * coefficientBound - 1) * 10 ^ s =
      2 * ((coefficientBound - 1) * 10 ^ s) + 10 ^ s := by
    have hsum : 2 * coefficientBound - 1 = 2 * (coefficientBound - 1) + 1 := by omega
    rw [hsum]
    ring
  have hpositive : 0 < 10 ^ (s - 5) := Nat.pow_pos (by omega)
  omega

end PgGateway.Decimal
