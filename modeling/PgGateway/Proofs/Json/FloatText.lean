import PgGateway.Proofs.Json.Numeral
import PgGateway.Proofs.Number.Shortest

set_option autoImplicit false

/-!
# The text of a floating-point number

The text of a finite floating-point number is that of a numeral with a point or an exponent. The
decimal that the numeral writes is the shortest decimal of the number, with zeros taken from the end
of its digits or put there.

## Main definitions

* `PgGateway.Json.WritesDigits` — whether a text is that of a numeral that writes some digits.

## Main results

* `PgGateway.Json.exists_written_eq` — the text of a number writes its shortest decimal.
* `PgGateway.Json.exists_isNumeralText_written` — the text of a number is read as a numeral.
-/

namespace PgGateway.Json

open Text

/-- The digits of a numeral with its places are the value of its decimal. -/
lemma NumeralText.IsValid.decimal_numeral {t : NumeralText} (ht : t.IsValid) (negative : Bool) :
    (t.numeral negative).decimal =
      ⟨Numeral.digitsValue (digitValues (t.whole ++ t.places.getD [])),
        (t.numeral negative).power - (t.places.getD []).length⟩ := by
  rw [Numeral.decimal, digitValues_append]
  cases hplaces : t.places with
  | none => simp [numeral, hplaces, digitValues]
  | some digits =>
    simp [numeral, hplaces, length_digitValues (ht.places digits hplaces).1]

/-- Whether a text is that of a numeral with a point or an exponent that writes some digits, of
which the first counts a power of ten. -/
structure WritesDigits (t : NumeralText) (digits : List Char) (lead : Int) : Prop where
  /-- The parts make a numeral. -/
  isValid : t.IsValid
  /-- There is a point or an exponent. -/
  isFloat : t.places.isSome ∨ t.exponent.isSome
  /-- The exponent is that of the first digit. -/
  exponent : ∀ e ∈ t.exponent, e.2 = Nat.toDigits 10 lead.natAbs
  /-- Behind the digits there are only zeros. -/
  decimal : ∃ k : Nat, ∀ negative, (t.numeral negative).decimal =
    ⟨Numeral.digitsValue (digitValues digits) * 10 ^ k, lead + 1 - digits.length - k⟩

section

variable {c : Char} {s : List Char} {lead : Int} (hs : IsDigits (c :: s))
include hs

/-- Digits behind a zero, a point and more zeros. -/
lemma writesDigits_of_neg (hneg : lead < 0) :
    WritesDigits ⟨['0'], some (List.replicate (lead.natAbs - 1) '0' ++ c :: s), none⟩ (c :: s)
      lead := by
  have hvalid : NumeralText.IsValid
      ⟨['0'], some (List.replicate (lead.natAbs - 1) '0' ++ c :: s), none⟩ := by
    refine ⟨isDigits_replicate 1, by simp, by simp, ?_, nofun⟩
    rintro digits ⟨⟩
    exact ⟨isDigits_append.mpr ⟨isDigits_replicate _, hs⟩, by simp⟩
  refine ⟨hvalid, .inl rfl, nofun, 0, fun negative => ?_⟩
  have hdigits : ['0'] ++ (List.replicate (lead.natAbs - 1) '0' ++ c :: s) =
      List.replicate (lead.natAbs - 1 + 1) '0' ++ c :: s := rfl
  rw [hvalid.decimal_numeral, Option.getD_some, hdigits, digitValues_append,
    digitValues_replicate, Numeral.digitsValue_append, Numeral.digitsValue_replicate]
  simp [NumeralText.numeral, Numeral.power]
  omega

variable (hc : c ≠ '0')
include hc

/-- Digits before an exponent, with a point behind the first if there is more than one. -/
lemma writesDigits_exponent {places : Option (List Char)} (hplaces : places.getD [] = s)
    (hne : ∀ digits ∈ places, digits ≠ []) :
    WritesDigits ⟨[c], places, some (lead < 0, Nat.toDigits 10 lead.natAbs)⟩ (c :: s) lead := by
  obtain ⟨hdigit, hrest⟩ := isDigits_cons.mp hs
  have hvalid : NumeralText.IsValid
      ⟨[c], places, some (lead < 0, Nat.toDigits 10 lead.natAbs)⟩ := by
    refine ⟨isDigits_cons.mpr ⟨hdigit, nofun⟩, by simp, by simp [hc], fun digits hdigits => ?_, ?_⟩
    · refine ⟨?_, hne digits hdigits⟩
      obtain rfl : places = some digits := hdigits
      exact (show digits = s from hplaces) ▸ hrest
    · rintro e ⟨⟩
      exact ⟨isDigits_toDigits _, Nat.toDigits_ne_nil⟩
  refine ⟨hvalid, .inr rfl, by rintro e ⟨⟩; rfl, 0, fun negative => ?_⟩
  have hpower : (NumeralText.numeral negative
      ⟨[c], places, some (lead < 0, Nat.toDigits 10 lead.natAbs)⟩).power = lead := by
    simp only [NumeralText.numeral, Numeral.power, Option.map_some, Numeral.digitsValue_toDigits,
      decide_eq_true_eq]
    split <;> omega
  rw [hvalid.decimal_numeral, hpower, hplaces]
  simp

/-- Digits before zeros and a point. -/
lemma writesDigits_of_length_le {k : Nat} (hlead : lead + 1 = (c :: s).length + k) :
    WritesDigits ⟨c :: s ++ List.replicate k '0', some ['0'], none⟩ (c :: s) lead := by
  have hvalid : NumeralText.IsValid ⟨c :: s ++ List.replicate k '0', some ['0'], none⟩ := by
    refine ⟨isDigits_append.mpr ⟨hs, isDigits_replicate _⟩, by simp, by simp [hc], ?_, nofun⟩
    rintro digits ⟨⟩
    exact ⟨isDigits_replicate 1, by simp⟩
  refine ⟨hvalid, .inl rfl, nofun, k + 1, fun negative => ?_⟩
  have hdigits : c :: s ++ List.replicate k '0' ++ ['0'] =
      c :: s ++ List.replicate (k + 1) '0' := by
    rw [List.append_assoc, List.replicate_succ']
  rw [hvalid.decimal_numeral, Option.getD_some, hdigits, digitValues_append,
    digitValues_replicate, Numeral.digitsValue_append, Numeral.digitsValue_replicate, hlead]
  simp [NumeralText.numeral, Numeral.power]

/-- Digits with a point between them. -/
lemma writesDigits_of_lt_length {n : Nat} (hlead : lead + 1 = n) (hpos : n ≠ 0)
    (hlong : n < (c :: s).length) :
    WritesDigits ⟨(c :: s).take n, some ((c :: s).drop n), none⟩ (c :: s) lead := by
  have hvalid : NumeralText.IsValid ⟨(c :: s).take n, some ((c :: s).drop n), none⟩ := by
    refine ⟨hs.mono (List.take_subset _ _), by simp [hpos], ?_, ?_, nofun⟩
    · intro hzero
      obtain ⟨n, rfl⟩ := Nat.exists_eq_succ_of_ne_zero hpos
      exact absurd (Option.some.inj hzero) hc
    · rintro digits ⟨⟩
      refine ⟨hs.mono (List.drop_subset _ _), fun hnil => ?_⟩
      exact Nat.not_le.mpr hlong (List.drop_eq_nil_iff.mp hnil)
  refine ⟨hvalid, .inl rfl, nofun, 0, fun negative => ?_⟩
  rw [hvalid.decimal_numeral, Option.getD_some, List.take_append_drop, hlead, List.length_drop]
  simp only [NumeralText.numeral, Numeral.power, Option.map_none, Nat.pow_zero, Nat.mul_one,
    Decadic.mk.injEq, true_and]
  omega

/-- Digits with a point placed into them are the text of a numeral that writes them if they do not
start with a zero. -/
lemma exists_writesDigits (lead : Int) :
    ∃ t : NumeralText, WritesDigits t (c :: s) lead ∧ Binary64.placed (c :: s) lead = t.chars := by
  unfold Binary64.placed
  split
  · cases s with
    | nil =>
      refine ⟨_, writesDigits_exponent hs hc (show Option.getD none [] = [] from rfl) nofun, ?_⟩
      simp [NumeralText.chars, NumeralText.placesChars, NumeralText.exponentChars]
    | cons d s =>
      refine ⟨_, writesDigits_exponent hs hc (show Option.getD (some (d :: s)) [] = d :: s from rfl)
        (by rintro digits ⟨⟩; simp), ?_⟩
      simp [NumeralText.chars, NumeralText.placesChars, NumeralText.exponentChars]
  · split
    · next hneg =>
      refine ⟨_, writesDigits_of_neg hs hneg, ?_⟩
      simp [NumeralText.chars, NumeralText.placesChars, NumeralText.exponentChars]
    · next hneg =>
      dsimp only
      split
      · next hshort =>
        refine ⟨_, writesDigits_of_length_le hs hc
          (show lead + 1 = (c :: s).length + (lead.toNat + 1 - (c :: s).length : Nat) by omega), ?_⟩
        simp [NumeralText.chars, NumeralText.placesChars, NumeralText.exponentChars]
      · next hlong =>
        refine ⟨_, writesDigits_of_lt_length hs hc (show lead + 1 = (lead.toNat + 1 : Nat) by omega)
          (Nat.succ_ne_zero _) (Nat.not_le.mp hlong), ?_⟩
        simp [NumeralText.chars, NumeralText.placesChars, NumeralText.exponentChars]

end

/-- The text of a number that is not zero writes the digits of its shortest decimal, without the
zeros at their end. -/
theorem exists_written_eq {x : Binary64} (hx : x.isZero = false) :
    ∃ (t : NumeralText) (c : Char) (s : List Char) (lead : Int) (k : Nat),
      c ≠ '0' ∧ IsDigits (c :: s) ∧ WritesDigits t (c :: s) lead ∧
      x.written = signChars x.isNegative ++ t.chars ∧
      x.shortest.digits = Numeral.digitsValue (digitValues (c :: s)) * 10 ^ k ∧
      lead + 1 = x.shortest.exponent + (c :: s).length + k := by
  obtain ⟨c, s, k, hdropped, hdigits, hc, hs⟩ := exists_dropEndWhile_zero
    (isDigits_toDigits x.shortest.digits) Nat.toDigits_ne_nil
    (head?_toDigits_ne (Binary64.digits_shortest_ne_zero hx))
  obtain ⟨t, ht, hplaced⟩ := exists_writesDigits hs hc
    (x.shortest.exponent + (Nat.toDigits 10 x.shortest.digits).length - 1)
  refine ⟨t, c, s, _, k, hc, hs, ht, ?_, ?_, ?_⟩
  · rw [Binary64.written]
    dsimp only
    rw [if_neg (by simp [hx]), hdropped, hplaced]
    rfl
  · have hvalue := Numeral.digitsValue_toDigits x.shortest.digits
    rw [hdigits, digitValues_append, digitValues_replicate, Numeral.digitsValue_append,
      Numeral.digitsValue_replicate, List.length_replicate, Nat.add_zero] at hvalue
    exact hvalue.symm
  · rw [hdigits, List.length_append, List.length_replicate]
    omega

/-- The text of zero. -/
lemma isNumeralText_written_of_isZero {x : Binary64} (hx : x.isZero = true) :
    IsNumeralText x.written ⟨x.isNegative, [0], some [0], none⟩ := by
  have hvalid : NumeralText.IsValid ⟨['0'], some ['0'], none⟩ :=
    ⟨isDigits_replicate 1, by simp, by simp,
      by rintro digits ⟨⟩; exact ⟨isDigits_replicate 1, by simp⟩, nofun⟩
  have hwritten : x.written = signChars x.isNegative ++ ['0', '.', '0'] := by
    rw [Binary64.written]
    dsimp only
    rw [if_pos hx]
    rfl
  rw [hwritten]
  exact hvalid.isNumeralText x.isNegative

/-- **Floating-point numbers.** The text of a floating-point number is read as a numeral. -/
theorem exists_isNumeralText_written (x : Binary64) : ∃ n, IsNumeralText x.written n := by
  cases hx : x.isZero with
  | true => exact ⟨_, isNumeralText_written_of_isZero hx⟩
  | false =>
    obtain ⟨t, c, s, lead, k, -, -, ht, hwritten, -⟩ := exists_written_eq hx
    exact ⟨_, hwritten ▸ ht.isValid.isNumeralText x.isNegative⟩

end PgGateway.Json
