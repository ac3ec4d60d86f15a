import PgGateway.Proofs.Json.FloatText

set_option autoImplicit false

/-!
# Short floating-point numbers are read back

The digits of a numeral are scaled by a power of ten in one multiplication or division. Where the
digits have at most 53 bits and the power is one of the first 22, both are numbers themselves, so
the result is rounded once and is the number nearest to the decimal. A number whose text is so short
is read back from it.

## Main definitions

* `PgGateway.Decadic.IsShort` — whether a decimal is short in this sense.

## Main results

* `PgGateway.Json.Numeral.scale_eq` — a short decimal is scaled to the number nearest to it.
* `PgGateway.Json.value?_numeralOf_written` — a short number is the value of its text.
-/

namespace PgGateway

/-- Whether a decimal has digits of at most 53 bits and one of the first 22 powers of ten. -/
structure Decadic.IsShort (d : Decadic) : Prop where
  /-- The digits have at most 53 bits. -/
  digits : d.digits < Nat.pow 2 53
  /-- The power of ten is a number itself. -/
  exponent : d.exponent.natAbs ≤ 22

namespace Json

open Text

namespace Numeral

open Binary64

/-- Powers of ten of at most 53 bits, zeros at the end apart, are values of their numbers. -/
lemma ratio_magnitude_powerOfTen : ∀ k ≤ 22, (powerOfTen k).magnitude.ratio.2 ≠ 0 ∧
    (powerOfTen k).magnitude.ratio.1 = 10 ^ k * (powerOfTen k).magnitude.ratio.2 := by
  decide +kernel

section

variable {d : Decadic} (hpos : d.digits ≠ 0) (hshort : d.IsShort)
include hpos hshort

/-- The digits of a short decimal multiplied by its power of ten are rounded once. -/
lemma times_powerOfTen (hle : 0 ≤ d.exponent) :
    (ofNat d.digits).times (powerOfTen d.exponent.natAbs) = d.nearest false := by
  obtain ⟨k, hk⟩ := exists_ratio_magnitude_ofNat hpos hshort.digits
  obtain ⟨hden, hpower⟩ := ratio_magnitude_powerOfTen d.exponent.natAbs hshort.exponent
  have hsign : (ofNat d.digits).isNegative = false := isNegative_nearest false d.digits 1
  have hsign' : (powerOfTen d.exponent.natAbs).isNegative = false := isNegative_nearest false _ 1
  rw [times, hk, hsign, hsign', Decadic.nearest, Decadic.ratio_eq]
  dsimp only
  refine nearest_congr false (Nat.mul_ne_zero (Nat.pow_pos (by decide)).ne' hden)
    (Nat.pow_pos (by decide)).ne' ?_
  have habs : d.exponent.toNat = d.exponent.natAbs := by omega
  have hneg : (-d.exponent).toNat = 0 := by omega
  rw [hpower, habs, hneg]
  ring

/-- So are the digits divided by the opposite power. -/
lemma dividedBy_powerOfTen (hlt : d.exponent < 0) :
    (ofNat d.digits).dividedBy (powerOfTen d.exponent.natAbs) = d.nearest false := by
  obtain ⟨k, hk⟩ := exists_ratio_magnitude_ofNat hpos hshort.digits
  obtain ⟨hden, hpower⟩ := ratio_magnitude_powerOfTen d.exponent.natAbs hshort.exponent
  have hsign : (ofNat d.digits).isNegative = false := isNegative_nearest false d.digits 1
  have hsign' : (powerOfTen d.exponent.natAbs).isNegative = false := isNegative_nearest false _ 1
  have htwo : (2 : Nat) ^ k ≠ 0 := (Nat.pow_pos (by decide)).ne'
  have hten : (10 : Nat) ^ d.exponent.natAbs ≠ 0 := (Nat.pow_pos (by decide)).ne'
  rw [dividedBy, hk, hsign, hsign', Decadic.nearest, Decadic.ratio_eq]
  dsimp only
  refine nearest_congr false (Nat.mul_ne_zero htwo ?_) (Nat.pow_pos (by decide)).ne' ?_
  · rw [hpower]
    exact Nat.mul_ne_zero hten hden
  · have habs : (-d.exponent).toNat = d.exponent.natAbs := by omega
    have hneg : d.exponent.toNat = 0 := by omega
    rw [hpower, habs, hneg]
    ring

/-- **Scaling.** The digits of a short decimal are scaled to the number nearest to it. -/
theorem scale_eq (hfinite : (d.nearest false).isFinite = true) (steps : Nat) :
    scale steps (ofNat d.digits) d.exponent = some (d.nearest false) := by
  have hstep : d.exponent.natAbs ≤ maxStep := Nat.le_trans hshort.exponent (by decide)
  rw [scale.eq_def, if_pos hstep]
  split
  · next hle =>
    rw [times_powerOfTen hpos hshort hle]
    dsimp only
    rw [if_pos hfinite]
  · next hlt => rw [dividedBy_powerOfTen hpos hshort (Int.not_le.mp hlt)]

/-- A short decimal with a sign is read as the number nearest to it. -/
lemma floatValue?_eq {negative : Bool} (hfinite : (d.nearest negative).isFinite = true) :
    floatValue? negative d.digits d.exponent = some (.float (d.nearest negative)) := by
  have hplain : (d.nearest false).isFinite = true :=
    (isFinite_nearest false negative _ _).trans hfinite
  rw [floatValue?, scale_eq hpos hshort hplain]
  cases negative with
  | true => exact congrArg (some ∘ Json.float) (negate_nearest false _ _)
  | false => rfl

end

/-- The value of some digits that do not start with a zero is at least a power of ten. -/
lemma pow_le_digitsValue {c : Char} {s : List Char} (hs : IsDigits (c :: s)) (hc : c ≠ '0') :
    10 ^ s.length ≤ digitsValue (digitValues (c :: s)) := by
  obtain ⟨hdigit, hrest⟩ := isDigits_cons.mp hs
  obtain ⟨d, hd⟩ := Option.isSome_iff_exists.mp hdigit
  have hpos : 0 < d := by
    rw [Nat.pos_iff_ne_zero]
    rintro rfl
    exact hc (eq_zero_of_digit?_eq_zero hd)
  rw [digitValues_cons hd, digitsValue_cons, length_digitValues hrest]
  exact Nat.le_add_right_of_le (Nat.le_mul_of_pos_left _ hpos)

end Numeral

variable {x : Binary64} {t : NumeralText} {c : Char} {s : List Char} {lead : Int}

/-- A text that writes a short decimal has the value of this decimal.

**Proof sketch.** The digits have few places, so the exponent of the first is small as well, and it
is the one that the text gives. -/
lemma WritesDigits.value?_numeral (ht : WritesDigits t (c :: s) lead) (hs : IsDigits (c :: s))
    (hc : c ≠ '0') {negative : Bool} (hshort : (t.numeral negative).decimal.IsShort) :
    (t.numeral negative).value? = Numeral.floatValue? negative (t.numeral negative).decimal.digits
      (t.numeral negative).decimal.exponent := by
  obtain ⟨l, hdecimal⟩ := ht.decimal
  have hdigits := hshort.digits
  have hexponent := hshort.exponent
  have hplaces : s.length + l < 16 := by
    have hpow := Nat.mul_le_mul_right (10 ^ l) (Numeral.pow_le_digitsValue hs hc)
    rw [hdecimal] at hdigits
    rw [← Nat.pow_add] at hpow
    refine (Nat.pow_lt_pow_iff_right (by decide : 1 < 10)).mp ?_
    exact Nat.lt_of_le_of_lt hpow (Nat.lt_trans hdigits (by decide))
  rw [hdecimal, List.length_cons] at hexponent
  dsimp only at hexponent
  refine Numeral.value?_eq_floatValue? (Nat.lt_trans hdigits (by decide)) ?_ ?_
  · simpa [NumeralText.numeral] using ht.isFloat
  · intro e he
    obtain ⟨⟨below, digits⟩, he', rfl⟩ := Option.map_eq_some_iff.mp he
    have hvalue : digits = Nat.toDigits 10 lead.natAbs := ht.exponent _ he'
    dsimp only
    rw [hvalue, Numeral.digitsValue_toDigits, Numeral.exponentBound]
    exact Nat.lt_of_le_of_lt (by omega : lead.natAbs ≤ 38) (by decide)

/-- Zero is the value of its text. -/
lemma value?_numeralOf_written_of_isZero (hx : x.isZero = true) :
    (numeralOf x.written).value? = some (.float x) := by
  have hlow : x.lowBits = 0 := of_decide_eq_true hx
  have hzero : Binary64.zero x.isNegative = x := by
    have hbits := x.ofSignBits_lowBits
    rwa [hlow] at hbits
  rw [(isNumeralText_written_of_isZero hx).numeralOf_eq]
  nth_rewrite 2 [← hzero]
  cases x.isNegative <;> rfl

/-- **Short numbers.** A number whose text is that of a short decimal is the value of its text.

**Proof sketch.** The text writes the digits of the shortest decimal with other zeros at their end
(`exists_written_eq`), and the numeral is read as the decimal that the text writes. This is short,
so it is scaled to the number nearest to it (`Numeral.floatValue?_eq`), which is the one nearest to
the shortest decimal. -/
theorem value?_numeralOf_written (hx : x.isFinite = true)
    (hshort : (numeralOf x.written).decimal.IsShort) :
    (numeralOf x.written).value? = some (.float x) := by
  cases hzero : x.isZero with
  | true => exact value?_numeralOf_written_of_isZero hzero
  | false =>
    obtain ⟨t, c, s, lead, k, hc, hs, ht, hwritten, hdigits, hlead⟩ := exists_written_eq hzero
    have hnumeral : numeralOf x.written = t.numeral x.isNegative := by
      rw [hwritten]
      exact (ht.isValid.isNumeralText x.isNegative).numeralOf_eq
    rw [hnumeral] at hshort ⊢
    rw [ht.value?_numeral hs hc hshort]
    obtain ⟨l, hdecimal⟩ := ht.decimal
    have hnearest : (t.numeral x.isNegative).decimal.nearest x.isNegative = x := by
      have hexponents : lead + 1 - (c :: s).length - l + l = x.shortest.exponent + k := by omega
      rw [hdecimal, Decadic.nearest_mul_pow x.isNegative _ l k hexponents, ← hdigits]
      exact Binary64.nearest_shortest hx hzero
    have hpos : (t.numeral x.isNegative).decimal.digits ≠ 0 := by
      have hpow := Nat.lt_of_lt_of_le (Nat.pow_pos (by decide)) (Numeral.pow_le_digitsValue hs hc)
      rw [hdecimal]
      exact Nat.mul_ne_zero hpow.ne' (Nat.pow_pos (by decide)).ne'
    rw [Numeral.floatValue?_eq hpos hshort (by rwa [hnearest]), hnearest]

end Json

end PgGateway
