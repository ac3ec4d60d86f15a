import PgGateway.Number.Shortest
import PgGateway.Proofs.Number.Exact

set_option autoImplicit false

/-!
# Shortest decimals

The shortest decimal of a finite floating-point number is read back as this number, wherever it was
found. The decimal of a number other than zero is not zero, so its first digit counts.

## Main results

* `PgGateway.Decadic.nearest_mul_pow` — zeros at the end of the digits change nothing.
* `PgGateway.Binary64.nearest_shortest` — the number nearest to the shortest decimal is the number.
* `PgGateway.Binary64.digits_shortest_ne_zero` — the digits of the decimal are not zero.
-/

namespace PgGateway

namespace Decadic

/-- Numerator and denominator without a case for the sign of the exponent. -/
lemma ratio_eq (d : Decadic) :
    d.ratio = (d.digits * 10 ^ d.exponent.toNat, 10 ^ (-d.exponent).toNat) := by
  rw [ratio]
  split
  · next hneg =>
    rw [Int.toNat_of_nonpos hneg.le, Nat.pow_zero, Nat.mul_one]
    rfl
  · next hpos =>
    rw [Int.toNat_of_nonpos (by omega : -d.exponent ≤ 0), Nat.pow_zero]
    rfl

/-- The number nearest to a decimal does not depend on zeros at the end of its digits. -/
lemma nearest_mul_pow (negative : Bool) (digits k l : Nat) {a b : Int} (h : a + k = b + l) :
    nearest negative ⟨digits * 10 ^ k, a⟩ = nearest negative ⟨digits * 10 ^ l, b⟩ := by
  rw [nearest, nearest, ratio_eq, ratio_eq]
  refine Binary64.nearest_congr negative (Nat.pow_pos (by decide)).ne' (Nat.pow_pos (by decide)).ne'
    ?_
  dsimp only
  have hexponents : k + a.toNat + (-b).toNat = l + b.toNat + (-a).toNat := by omega
  rw [Nat.mul_assoc, Nat.mul_assoc, Nat.mul_assoc, Nat.mul_assoc, ← Nat.pow_add, ← Nat.pow_add,
    ← Nat.pow_add, ← Nat.pow_add, ← Nat.add_assoc, ← Nat.add_assoc, hexponents]

/-- The floating-point number nearest to a decimal without digits is zero. -/
lemma nearest_of_digits_eq_zero (negative : Bool) {d : Decadic} (h : d.digits = 0) :
    d.nearest negative = Binary64.zero negative := by
  have hnum : d.ratio.1 = 0 := by
    rw [ratio]
    split <;> simp [h]
  exact if_pos hnum

end Decadic

namespace Binary64

variable {x : Binary64}

/-- A number that is not zero has a significand. -/
lemma significand_magnitude_ne_zero (hx : x.isZero = false) : x.magnitude.significand ≠ 0 := by
  unfold magnitude
  dsimp only
  split
  · next hbiased =>
    have hlow : x.lowBits ≠ 0 := by simpa [isZero] using hx
    have hsize : Nat.pow 2 52 = 4503599627370496 := by decide
    rw [hsize] at hbiased ⊢
    show x.lowBits % 4503599627370496 ≠ 0
    omega
  · exact Nat.ne_of_gt (Nat.lt_of_lt_of_le (by decide) (Nat.le_add_right _ _))

/-- The decimal that is equal to a number that is not zero has digits. -/
lemma digits_exactDecimal_ne_zero (hx : x.isZero = false) : x.exactDecimal.digits ≠ 0 := by
  have hsignificand := significand_magnitude_ne_zero hx
  unfold exactDecimal
  dsimp only
  split
  · exact Nat.mul_ne_zero hsignificand (Nat.ne_of_gt (Nat.pow_pos (by decide : 0 < 5)))
  · exact Nat.mul_ne_zero hsignificand (Nat.ne_of_gt (Nat.pow_pos (by decide : 0 < 2)))

/-- The number nearest to the decimal that is equal to a number is this number. -/
lemma nearest_exactDecimal (hx : x.isFinite = true) (hzero : x.isZero = false) :
    x.exactDecimal.nearest x.isNegative = x := by
  have hnearest := nearest_ratio_magnitude hx (significand_magnitude_ne_zero hzero)
  refine Eq.trans ?_ hnearest
  rw [Decadic.nearest, Decadic.ratio_eq, exactDecimal]
  dsimp only
  refine nearest_congr x.isNegative (Nat.pow_pos (by decide)).ne' x.magnitude.ratio_snd_ne_zero ?_
  rw [Dyadic.ratio]
  obtain ⟨significand, exponent⟩ := x.magnitude
  dsimp only
  split
  · next hneg =>
    have hten : (10 : Nat) ^ (-exponent).toNat =
        5 ^ (-exponent).toNat * 2 ^ (-exponent).toNat := by
      rw [← Nat.mul_pow]
    dsimp only
    rw [Int.toNat_of_nonpos hneg.le, hten]
    simp only [Nat.pow_eq]
    ring
  · next hpos => simp

/-- The shortest decimal reads back, or none was found and it is equal to the number. -/
lemma nearest_shortest_or (x : Binary64) :
    x.shortest.nearest x.isNegative = x ∨ x.shortest = x.exactDecimal := by
  unfold shortest
  dsimp only
  split
  · next d hfound =>
    have hfits := List.find?_some hfound
    exact .inl (of_decide_eq_true hfits)
  · exact .inr rfl

/-- **Reading back.** The number nearest to the shortest decimal of a number is this number. -/
theorem nearest_shortest (hx : x.isFinite = true) (hzero : x.isZero = false) :
    x.shortest.nearest x.isNegative = x := by
  rcases nearest_shortest_or x with hnearest | hexact
  · exact hnearest
  · rw [hexact]
    exact nearest_exactDecimal hx hzero

/-- **Digits.** The shortest decimal of a number that is not zero has digits.

**Proof sketch.** A decimal without digits would be read as zero, and the decimal is one that reads
back as the number, or is equal to it. -/
theorem digits_shortest_ne_zero (hx : x.isZero = false) : x.shortest.digits ≠ 0 := by
  intro hzero
  rcases nearest_shortest_or x with hnearest | hexact
  · have hall : ∀ negative, (zero negative).isZero = true := by decide
    rw [Decadic.nearest_of_digits_eq_zero _ hzero] at hnearest
    rw [← hnearest, hall] at hx
    cases hx
  · rw [hexact] at hzero
    exact digits_exactDecimal_ne_zero hx hzero

end Binary64

end PgGateway
