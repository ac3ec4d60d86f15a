import PgGateway.Number.Binary64
import Mathlib.Tactic.Ring

set_option autoImplicit false

/-!
# Rounding

A quotient is rounded at the least power of two at which it has few enough bits. There is only one
such power, whatever it is estimated from, so the result does not depend on how the quotient is
written.

## Main definitions

* `PgGateway.IsScale` — whether an exponent is the least at which a quotient has few enough bits.

## Main results

* `PgGateway.IsScale.roundDyadic_eq` — a quotient is rounded at this exponent.
* `PgGateway.Binary64.nearest_congr` — equal quotients have the same nearest number.
-/

namespace PgGateway

variable {precision : Nat} {least : Int} {num den : Nat} {e : Int}

/-- The quotient by a power of two, rounded to an integer. -/
def roundedAt (num den : Nat) (e : Int) : Nat :=
  roundQuotient (num * 2 ^ (-e).toNat) (den * 2 ^ e.toNat)

/-- Whether the quotient by a power of two has at most so many bits. -/
def FitsAt (precision num den : Nat) (e : Int) : Prop :=
  num * 2 ^ (-e).toNat < 2 ^ precision * (den * 2 ^ e.toNat)

/-- Whether an exponent is the least at which a quotient has at most so many bits. -/
structure IsScale (precision : Nat) (least : Int) (num den : Nat) (e : Int) : Prop where
  /-- It does not fall below the bound. -/
  least_le : least ≤ e
  /-- The quotient fits. -/
  fits : FitsAt precision num den e
  /-- It would not fit at a smaller exponent. -/
  minimal : e = least ∨ ¬ FitsAt precision num den (e - 1)

/-- A quotient that fits also does so at a larger exponent. -/
lemma FitsAt.mono {e' : Int} (h : FitsAt precision num den e) (he : e ≤ e') :
    FitsAt precision num den e' := by
  have hnum : num * 2 ^ (-e').toNat ≤ num * 2 ^ (-e).toNat :=
    Nat.mul_le_mul_left num (Nat.pow_le_pow_right (by decide) (by omega))
  have hden : den * 2 ^ e.toNat ≤ den * 2 ^ e'.toNat :=
    Nat.mul_le_mul_left den (Nat.pow_le_pow_right (by decide) (by omega))
  exact Nat.lt_of_le_of_lt hnum (Nat.lt_of_lt_of_le h (Nat.mul_le_mul_left _ hden))

/-- There is only one least exponent. -/
lemma IsScale.unique {e' : Int} (h : IsScale precision least num den e)
    (h' : IsScale precision least num den e') : e = e' := by
  have hle : ∀ {a b : Int}, IsScale precision least num den a → IsScale precision least num den b →
      a ≤ b := by
    intro a b ha hb
    rcases ha.minimal with rfl | hnot
    · exact hb.least_le
    · by_contra hlt
      exact hnot (hb.fits.mono (by omega))
  exact le_antisymm (hle h h') (hle h' h)

/-- The exponent that is estimated from the lengths of numerator and denominator. -/
def estimate (precision num den : Nat) : Int :=
  (Nat.log2 num : Int) - (Nat.log2 den : Int) - precision

/-- Behind the estimate the quotient fits. -/
lemma fitsAt_estimate_add_one (precision num : Nat) (hden : den ≠ 0) :
    FitsAt precision num den (estimate precision num den + 1) := by
  have hnum : num < 2 ^ (Nat.log2 num + 1) := Nat.lt_log2_self
  have hlow : 2 ^ Nat.log2 den ≤ den := Nat.log2_self_le hden
  rw [FitsAt]
  generalize hu : (-(estimate precision num den + 1)).toNat = u
  generalize hv : (estimate precision num den + 1).toNat = v
  have hexponents : Nat.log2 num + 1 + u = precision + (Nat.log2 den + v) := by
    rw [estimate] at hu hv
    omega
  calc num * 2 ^ u < 2 ^ (Nat.log2 num + 1) * 2 ^ u :=
        Nat.mul_lt_mul_of_pos_right hnum (Nat.pow_pos (by decide))
    _ = 2 ^ precision * (2 ^ Nat.log2 den * 2 ^ v) := by
        rw [← Nat.pow_add, ← Nat.pow_add, ← Nat.pow_add, hexponents]
    _ ≤ 2 ^ precision * (den * 2 ^ v) :=
        Nat.mul_le_mul_left _ (Nat.mul_le_mul_right _ hlow)

/-- Before the estimate the quotient does not fit. -/
lemma not_fitsAt_estimate_sub_one (precision den : Nat) (hnum : num ≠ 0) :
    ¬ FitsAt precision num den (estimate precision num den - 1) := by
  have hden : den < 2 ^ (Nat.log2 den + 1) := Nat.lt_log2_self
  have hlow : 2 ^ Nat.log2 num ≤ num := Nat.log2_self_le hnum
  rw [FitsAt, Nat.not_lt]
  generalize hu : (-(estimate precision num den - 1)).toNat = u
  generalize hv : (estimate precision num den - 1).toNat = v
  have hexponents : Nat.log2 num + u = precision + (Nat.log2 den + 1 + v) := by
    rw [estimate] at hu hv
    omega
  calc 2 ^ precision * (den * 2 ^ v) ≤ 2 ^ precision * (2 ^ (Nat.log2 den + 1) * 2 ^ v) :=
        Nat.mul_le_mul_left _ (Nat.mul_le_mul_right _ hden.le)
    _ = 2 ^ Nat.log2 num * 2 ^ u := by
        rw [← Nat.pow_add, ← Nat.pow_add, ← Nat.pow_add, hexponents]
    _ ≤ num * 2 ^ u := Nat.mul_le_mul_right _ hlow

/-- Rounding at the estimate or behind it. -/
lemma roundDyadic_eq_ite (precision : Nat) (least : Int) (num : Nat) {den : Nat} (hden : den ≠ 0)
    [Decidable (FitsAt precision num den (max (estimate precision num den) least))] :
    roundDyadic precision least num den =
      if FitsAt precision num den (max (estimate precision num den) least) then
        ⟨roundedAt num den (max (estimate precision num den) least),
          max (estimate precision num den) least⟩
      else
        ⟨roundedAt num den (max (estimate precision num den) least + 1),
          max (estimate precision num den) least + 1⟩ := by
  have hscaled : ∀ e : Int,
      (if e < 0 then (num * Nat.pow 2 (-e).toNat, den) else (num, den * Nat.pow 2 e.toNat)) =
        (num * 2 ^ (-e).toNat, den * 2 ^ e.toNat) := by
    intro e
    split
    · next hneg =>
      rw [Int.toNat_of_nonpos hneg.le, Nat.pow_zero, Nat.mul_one]
      rfl
    · next hpos =>
      rw [Int.toNat_of_nonpos (by omega : -e ≤ 0), Nat.pow_zero, Nat.mul_one]
      rfl
  have hfits : ∀ e : Int, num * 2 ^ (-e).toNat / (den * 2 ^ e.toNat) < 2 ^ precision ↔
      FitsAt precision num den e := by
    intro e
    exact Nat.div_lt_iff_lt_mul (Nat.mul_pos (Nat.pos_of_ne_zero hden) (Nat.pow_pos (by decide)))
  rw [roundDyadic]
  simp only [hscaled]
  exact if_congr (hfits _) rfl rfl

/-- A quotient is rounded at a least exponent. -/
lemma exists_roundDyadic_eq (precision : Nat) (least : Int) (hnum : num ≠ 0) (hden : den ≠ 0) :
    ∃ e, IsScale precision least num den e ∧
      roundDyadic precision least num den = ⟨roundedAt num den e, e⟩ := by
  classical
  rw [roundDyadic_eq_ite precision least num hden]
  have hafter := fitsAt_estimate_add_one precision num hden
  have hbefore := not_fitsAt_estimate_sub_one precision den hnum
  generalize estimate precision num den = guess at *
  split
  · next hfits =>
    refine ⟨_, ⟨le_max_right _ _, hfits, ?_⟩, rfl⟩
    rcases le_total guess least with hle | hle
    · exact .inl (max_eq_right hle)
    · rw [max_eq_left hle]
      exact .inr hbefore
  · next hfits =>
    refine ⟨_, ⟨by omega, hafter.mono (by omega), .inr ?_⟩, rfl⟩
    rwa [Int.add_sub_cancel]

/-- **Rounding.** A quotient is rounded at the least exponent at which it fits. -/
theorem IsScale.roundDyadic_eq (hnum : num ≠ 0) (hden : den ≠ 0)
    (h : IsScale precision least num den e) :
    roundDyadic precision least num den = ⟨roundedAt num den e, e⟩ := by
  obtain ⟨e', he', hround⟩ := exists_roundDyadic_eq precision least hnum hden
  rw [hround, h.unique he']

/-! ## Equal quotients -/

/-- A common factor does not count in rounding to an integer. -/
lemma roundQuotient_mul (num den : Nat) {k : Nat} (hk : 0 < k) :
    roundQuotient (num * k) (den * k) = roundQuotient num den := by
  have hlt : ∀ a b : Nat, 2 * (a * k) < b * k ↔ 2 * a < b := by
    intro a b
    rw [← Nat.mul_assoc]
    exact Nat.mul_lt_mul_right hk
  have hgt : ∀ a b : Nat, b * k < 2 * (a * k) ↔ b < 2 * a := by
    intro a b
    rw [← Nat.mul_assoc]
    exact Nat.mul_lt_mul_right hk
  simp only [roundQuotient, Nat.mul_div_mul_right _ _ hk, Nat.mul_mod_mul_right, hlt, gt_iff_lt,
    hgt]

/-- A common factor does not count in rounding at an exponent. -/
lemma roundedAt_mul (num den : Nat) (e : Int) {k : Nat} (hk : 0 < k) :
    roundedAt (num * k) (den * k) e = roundedAt num den e := by
  rw [roundedAt, roundedAt, Nat.mul_right_comm, Nat.mul_right_comm den, roundQuotient_mul _ _ hk]

/-- A common factor does not count in whether a quotient fits. -/
lemma fitsAt_mul_iff {k : Nat} (hk : 0 < k) :
    FitsAt precision (num * k) (den * k) e ↔ FitsAt precision num den e := by
  rw [FitsAt, FitsAt, Nat.mul_right_comm, Nat.mul_right_comm den, ← Nat.mul_assoc]
  exact Nat.mul_lt_mul_right hk

/-- A common factor does not count in rounding. -/
lemma roundDyadic_mul (precision : Nat) (least : Int) (hnum : num ≠ 0) (hden : den ≠ 0) {k : Nat}
    (hk : 0 < k) :
    roundDyadic precision least (num * k) (den * k) = roundDyadic precision least num den := by
  obtain ⟨e, he, hround⟩ := exists_roundDyadic_eq precision least hnum hden
  have hscale : IsScale precision least (num * k) (den * k) e :=
    ⟨he.least_le, (fitsAt_mul_iff hk).mpr he.fits,
      he.minimal.imp_right (mt (fitsAt_mul_iff hk).mp)⟩
  rw [hround, hscale.roundDyadic_eq (Nat.mul_ne_zero hnum hk.ne') (Nat.mul_ne_zero hden hk.ne'),
    roundedAt_mul _ _ _ hk]

namespace Binary64

/-- **Equal quotients.** The number nearest to a quotient does not depend on how the quotient is
written. -/
theorem nearest_congr (negative : Bool) {num' den' : Nat} (hden : den ≠ 0) (hden' : den' ≠ 0)
    (h : num * den' = num' * den) : nearest negative num den = nearest negative num' den' := by
  by_cases hnum : num = 0
  · have hnum' : num' = 0 := by
      rw [hnum, Nat.zero_mul, eq_comm] at h
      exact (Nat.mul_eq_zero.mp h).resolve_right hden
    rw [hnum, hnum', nearest, nearest, if_pos rfl, if_pos rfl]
  · have hnum' : num' ≠ 0 := by
      rintro rfl
      rw [Nat.zero_mul] at h
      exact (Nat.mul_ne_zero hnum hden') h
    have hpos := Nat.pos_of_ne_zero hden
    have hpos' := Nat.pos_of_ne_zero hden'
    rw [nearest, nearest, if_neg hnum, if_neg hnum', ← roundDyadic_mul 53 (-1074) hnum hden hpos',
      ← roundDyadic_mul 53 (-1074) hnum' hden' hpos, h, Nat.mul_comm den]

end Binary64

end PgGateway
