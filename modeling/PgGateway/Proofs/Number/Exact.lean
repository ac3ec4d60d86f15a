import PgGateway.Proofs.Number.Rounding

set_option autoImplicit false

/-!
# Exact numbers

A quotient that a floating-point number can hold is not changed by rounding: the number nearest to
the value of a number is this number, and an integer of at most 53 bits is the value of the number
nearest to it.

## Main definitions

* `PgGateway.Binary64.magnitudeBits` — the lower bits of a magnitude.

## Main results

* `PgGateway.Binary64.magnitudeBits_magnitude` — the magnitude of a number has its lower bits.
* `PgGateway.Binary64.nearest_ratio_magnitude` — numbers round to themselves.
* `PgGateway.Binary64.exists_ratio_magnitude_ofNat` — the value of the number of an integer.
-/

namespace PgGateway

variable {precision : Nat} {least : Int} {num den : Nat} {e : Int}

/-- A multiple is not changed by rounding to an integer. -/
lemma roundQuotient_mul_self (q : Nat) {d : Nat} (hd : 0 < d) : roundQuotient (q * d) d = q := by
  rw [roundQuotient, Nat.mul_mod_left, Nat.mul_div_cancel q hd]
  exact if_pos hd

section

variable {q : Nat} (hden : den ≠ 0) (hq : num * 2 ^ (-e).toNat = q * (den * 2 ^ e.toNat))
include hden hq

/-- The least exponent of a quotient that is a number of so many bits. -/
lemma isScale_of_eq_mul (hhigh : q < 2 ^ precision) (hle : least ≤ e)
    (hlow : e = least ∨ 2 ^ precision ≤ 2 * q) : IsScale precision least num den e := by
  have hpos : ∀ n : Nat, 0 < den * 2 ^ n := fun n =>
    Nat.mul_pos (Nat.pos_of_ne_zero hden) (Nat.pow_pos (by decide))
  refine ⟨hle, ?_, hlow.imp_right fun hlow => ?_⟩
  · rw [FitsAt, hq]
    exact Nat.mul_lt_mul_of_pos_right hhigh (hpos _)
  · rw [FitsAt, Nat.not_lt]
    rcases lt_or_ge 0 e with he | he
    · have hnum : (-(e - 1)).toNat = (-e).toNat := by omega
      have hexp : e.toNat = (e - 1).toNat + 1 := by omega
      rw [hnum, hq, hexp, Nat.pow_succ]
      calc 2 ^ precision * (den * 2 ^ (e - 1).toNat) ≤ 2 * q * (den * 2 ^ (e - 1).toNat) :=
            Nat.mul_le_mul_right _ hlow
        _ = q * (den * (2 ^ (e - 1).toNat * 2)) := by ring
    · have hnum : (-(e - 1)).toNat = (-e).toNat + 1 := by omega
      have hexp : (e - 1).toNat = e.toNat := by omega
      rw [hnum, hexp, Nat.pow_succ, ← Nat.mul_assoc num, hq]
      calc 2 ^ precision * (den * 2 ^ e.toNat) ≤ 2 * q * (den * 2 ^ e.toNat) :=
            Nat.mul_le_mul_right _ hlow
        _ = q * (den * 2 ^ e.toNat) * 2 := by ring

/-- Numbers of so many bits are not changed by rounding. -/
lemma roundDyadic_of_eq_mul (hpos : q ≠ 0) (hhigh : q < 2 ^ precision) (hle : least ≤ e)
    (hlow : e = least ∨ 2 ^ precision ≤ 2 * q) :
    roundDyadic precision least num den = ⟨q, e⟩ := by
  have hnum : num ≠ 0 := by
    rintro rfl
    rw [Nat.zero_mul, eq_comm] at hq
    exact Nat.mul_ne_zero hpos (Nat.mul_ne_zero hden (Nat.pow_pos (by decide)).ne') hq
  rw [(isScale_of_eq_mul hden hq hhigh hle hlow).roundDyadic_eq hnum hden, roundedAt, hq,
    roundQuotient_mul_self]
  exact Nat.mul_pos (Nat.pos_of_ne_zero hden) (Nat.pow_pos (by decide))

end

namespace Dyadic

/-- The denominator is not zero. -/
lemma ratio_snd_ne_zero (d : Dyadic) : d.ratio.2 ≠ 0 := by
  rw [ratio]
  split
  · exact (Nat.pow_pos (by decide)).ne'
  · exact Nat.one_ne_zero

/-- The quotient of a dyadic number is its factor at its exponent. -/
lemma ratio_eq (d : Dyadic) : d.ratio.1 * 2 ^ (-d.exponent).toNat =
    d.significand * (d.ratio.2 * 2 ^ d.exponent.toNat) := by
  rw [ratio]
  split
  · next hneg =>
    rw [Int.toNat_of_nonpos hneg.le, Nat.pow_zero, Nat.mul_one]
    rfl
  · next hpos =>
    rw [Int.toNat_of_nonpos (by omega : -d.exponent ≤ 0), Nat.pow_zero, Nat.mul_one, Nat.one_mul]
    rfl

end Dyadic

namespace Binary64

/-! ## Bits -/

/-- The bits of a number that is made of a sign and lower bits. -/
lemma toNat_ofSignBits (negative : Bool) {low : Nat} (h : low < 2 ^ 63) :
    (ofSignBits negative low).bits.toNat = (if negative then 2 ^ 63 else 0) + low := by
  rw [ofSignBits, UInt64.toNat_ofNat']
  refine Nat.mod_eq_of_lt ?_
  change (if negative then 2 ^ 63 else 0) + low < 2 ^ 64
  split <;> omega

/-- The lower bits are those that a number is made of. -/
lemma lowBits_ofSignBits (negative : Bool) {low : Nat} (h : low < 2 ^ 63) :
    (ofSignBits negative low).lowBits = low := by
  rw [lowBits, toNat_ofSignBits negative h]
  change ((if negative then 2 ^ 63 else 0) + low) % 2 ^ 63 = low
  split <;> omega

/-- The sign is the one that a number is made of. -/
lemma isNegative_ofSignBits (negative : Bool) {low : Nat} (h : low < 2 ^ 63) :
    (ofSignBits negative low).isNegative = negative := by
  rw [isNegative, toNat_ofSignBits negative h]
  change decide (2 ^ 63 ≤ (if negative then 2 ^ 63 else 0) + low) = negative
  cases negative with
  | true => simp
  | false => simpa using h

/-- A number is made of its sign and its lower bits. -/
lemma ofSignBits_lowBits (x : Binary64) : ofSignBits x.isNegative x.lowBits = x := by
  obtain ⟨bits⟩ := x
  have hbits : bits.toNat < 2 ^ 64 := bits.toNat_lt
  rw [ofSignBits, Binary64.mk.injEq, ← UInt64.toNat_inj, UInt64.toNat_ofNat']
  change ((if decide (2 ^ 63 ≤ bits.toNat) = true then 2 ^ 63 else 0) + bits.toNat % 2 ^ 63) %
    2 ^ 64 = bits.toNat
  simp only [decide_eq_true_eq]
  split <;> omega

/-- The opposite of a number has the opposite sign and the same lower bits. -/
lemma negate_ofSignBits (negative : Bool) {low : Nat} (h : low < 2 ^ 63) :
    (ofSignBits negative low).negate = ofSignBits (!negative) low := by
  rw [negate, isNegative_ofSignBits negative h, lowBits_ofSignBits negative h]

/-! ## Magnitudes -/

/-- The lower bits of a magnitude. -/
def magnitudeBits (d : Dyadic) : Nat :=
  min (if d.significand < Nat.pow 2 52 then d.significand
    else (d.exponent + 1075).toNat * Nat.pow 2 52 + (d.significand - Nat.pow 2 52)) infinityBits

/-- They come before the sign. -/
lemma magnitudeBits_lt (d : Dyadic) : magnitudeBits d < 2 ^ 63 :=
  Nat.lt_of_le_of_lt (Nat.min_le_right _ _) (by decide)

/-- A magnitude of 53 bits is the one of its number. -/
lemma magnitude_ofDyadic (negative : Bool) {d : Dyadic} (hlow : 2 ^ 52 ≤ d.significand)
    (hhigh : d.significand < 2 ^ 53) (hle : -1074 ≤ d.exponent) (hge : d.exponent ≤ 971) :
    (ofDyadic negative d).magnitude = d := by
  obtain ⟨s, e⟩ := d
  dsimp only at *
  have hbits : magnitudeBits ⟨s, e⟩ = (e + 1075).toNat * 2 ^ 52 + (s - 2 ^ 52) := by
    rw [magnitudeBits, infinityBits]
    simp only [Nat.pow_eq]
    rw [if_neg (Nat.not_lt.mpr hlow), min_eq_left (by omega)]
  have hofDyadic : ofDyadic negative ⟨s, e⟩ = ofSignBits negative (magnitudeBits ⟨s, e⟩) := rfl
  have hdiv : ((e + 1075).toNat * 2 ^ 52 + (s - 2 ^ 52)) / 2 ^ 52 = (e + 1075).toNat := by omega
  have hmod : ((e + 1075).toNat * 2 ^ 52 + (s - 2 ^ 52)) % 2 ^ 52 = s - 2 ^ 52 := by omega
  rw [hofDyadic, magnitude, lowBits_ofSignBits negative (magnitudeBits_lt _), hbits]
  simp only [Nat.pow_eq]
  rw [hdiv, hmod, if_neg (by omega)]
  rw [Dyadic.mk.injEq]
  omega

/-- The number of a dyadic number has the bits of its magnitude. -/
lemma ofDyadic_eq (negative : Bool) (d : Dyadic) :
    ofDyadic negative d = ofSignBits negative (magnitudeBits d) :=
  rfl

/-- The magnitude of a finite number has its lower bits. -/
lemma magnitudeBits_magnitude {x : Binary64} (hx : x.isFinite = true) :
    magnitudeBits x.magnitude = x.lowBits := by
  have hfinite : x.lowBits < infinityBits := of_decide_eq_true hx
  rw [infinityBits] at hfinite
  rw [magnitude, magnitudeBits, infinityBits]
  simp only [Nat.pow_eq] at hfinite ⊢
  split
  · next hbiased =>
    dsimp only
    rw [if_pos (Nat.mod_lt _ (by decide)), min_eq_left (by omega)]
    omega
  · next hbiased =>
    dsimp only
    rw [if_neg (by omega), min_eq_left (by omega)]
    omega

/-- The factor of a magnitude has at most 53 bits, and just so many above the least exponent. -/
lemma magnitude_bounds (x : Binary64) : x.magnitude.significand < 2 ^ 53 ∧
    -1074 ≤ x.magnitude.exponent ∧
      (x.magnitude.exponent = -1074 ∨ 2 ^ 53 ≤ 2 * x.magnitude.significand) := by
  rw [magnitude]
  simp only [Nat.pow_eq]
  split <;> dsimp only <;> omega

/-! ## Nearest numbers -/

/-- The lower bits of a nearest number do not depend on the sign. -/
lemma exists_nearest_eq (num den : Nat) :
    ∃ low < 2 ^ 63, ∀ negative, nearest negative num den = ofSignBits negative low := by
  by_cases hnum : num = 0
  · exact ⟨0, by decide, fun negative => if_pos hnum⟩
  · refine ⟨_, magnitudeBits_lt (roundDyadic 53 (-1074) num den), fun negative => ?_⟩
    rw [nearest, if_neg hnum, ofDyadic_eq]

/-- The sign of a nearest number is the one that is asked for. -/
lemma isNegative_nearest (negative : Bool) (num den : Nat) :
    (nearest negative num den).isNegative = negative := by
  obtain ⟨low, hlow, hnearest⟩ := exists_nearest_eq num den
  rw [hnearest, isNegative_ofSignBits negative hlow]

/-- Whether a nearest number is finite does not depend on the sign. -/
lemma isFinite_nearest (negative negative' : Bool) (num den : Nat) :
    (nearest negative num den).isFinite = (nearest negative' num den).isFinite := by
  obtain ⟨low, hlow, hnearest⟩ := exists_nearest_eq num den
  rw [hnearest, hnearest, isFinite, isFinite, lowBits_ofSignBits negative hlow,
    lowBits_ofSignBits negative' hlow]

/-- The opposite of a nearest number is nearest with the opposite sign. -/
lemma negate_nearest (negative : Bool) (num den : Nat) :
    (nearest negative num den).negate = nearest (!negative) num den := by
  obtain ⟨low, hlow, hnearest⟩ := exists_nearest_eq num den
  rw [hnearest, hnearest, negate_ofSignBits negative hlow]

/-- A quotient that is a magnitude of 53 bits is rounded to this magnitude. -/
lemma nearest_of_eq_mul (negative : Bool) {q : Nat} (hden : den ≠ 0)
    (hq : num * 2 ^ (-e).toNat = q * (den * 2 ^ e.toNat)) (hpos : q ≠ 0) (hhigh : q < 2 ^ 53)
    (hle : -1074 ≤ e) (hlow : e = -1074 ∨ 2 ^ 53 ≤ 2 * q) :
    nearest negative num den = ofDyadic negative ⟨q, e⟩ := by
  have hnum : num ≠ 0 := by
    rintro rfl
    rw [Nat.zero_mul, eq_comm] at hq
    exact Nat.mul_ne_zero hpos (Nat.mul_ne_zero hden (Nat.pow_pos (by decide)).ne') hq
  rw [nearest, if_neg hnum, roundDyadic_of_eq_mul hden hq hpos hhigh hle hlow]

/-- **Numbers round to themselves.** The number nearest to the value of a number is this number. -/
theorem nearest_ratio_magnitude {x : Binary64} (hx : x.isFinite = true)
    (hzero : x.magnitude.significand ≠ 0) :
    nearest x.isNegative x.magnitude.ratio.1 x.magnitude.ratio.2 = x := by
  obtain ⟨hhigh, hle, hlow⟩ := x.magnitude_bounds
  rw [nearest_of_eq_mul x.isNegative x.magnitude.ratio_snd_ne_zero x.magnitude.ratio_eq hzero hhigh
    hle hlow, ofDyadic_eq, magnitudeBits_magnitude hx, ofSignBits_lowBits]

/-- **Integers.** An integer of at most 53 bits is the value of its number. -/
theorem exists_ratio_magnitude_ofNat {n : Nat} (hpos : n ≠ 0) (hlt : n < 2 ^ 53) :
    ∃ k, (ofNat n).magnitude.ratio = (n * 2 ^ k, 2 ^ k) := by
  have hlog : Nat.log2 n < 53 := (Nat.log2_lt hpos).mpr hlt
  have hbelow : 2 ^ Nat.log2 n ≤ n := Nat.log2_self_le hpos
  have habove : n < 2 ^ (Nat.log2 n + 1) := Nat.lt_log2_self
  obtain ⟨k, hk⟩ : ∃ k, Nat.log2 n + k = 52 := ⟨52 - Nat.log2 n, by omega⟩
  have hlow : 2 ^ 52 ≤ n * 2 ^ k := by
    calc 2 ^ 52 = 2 ^ Nat.log2 n * 2 ^ k := by rw [← Nat.pow_add, hk]
      _ ≤ n * 2 ^ k := Nat.mul_le_mul_right _ hbelow
  have hhigh : n * 2 ^ k < 2 ^ 53 := by
    calc n * 2 ^ k < 2 ^ (Nat.log2 n + 1) * 2 ^ k :=
          Nat.mul_lt_mul_of_pos_right habove (Nat.pow_pos (by decide))
      _ = 2 ^ 53 := by rw [← Nat.pow_add, Nat.add_right_comm, hk]
  have hnearest : ofNat n = ofDyadic false ⟨n * 2 ^ k, -(k : Int)⟩ := by
    refine nearest_of_eq_mul false Nat.one_ne_zero ?_ (by omega) hhigh (by omega)
      (.inr (by omega))
    simp
  refine ⟨k, ?_⟩
  rw [hnearest, magnitude_ofDyadic false hlow hhigh (by dsimp only; omega) (by dsimp only; omega),
    Dyadic.ratio]
  dsimp only
  split
  · next hneg => simp
  · next hneg =>
    obtain rfl : k = 0 := by omega
    simp

end Binary64

end PgGateway
