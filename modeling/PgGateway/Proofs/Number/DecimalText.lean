import PgGateway.Number.Decimal
import PgGateway.Proofs.Text.Digits
import Mathlib.Tactic.Ring

set_option autoImplicit false

/-!
# Decimals and their texts

A decimal is read back from its text, with all its places, unless it is a zero with a minus sign:
reading drops that sign. What is read from any text is a decimal within the bounds.

## Main definitions

* `PgGateway.Decimal.IsStandard` — whether a decimal is within the bounds.
* `PgGateway.Decimal.IsSignedZero` — whether it is a zero with a minus sign.
* `PgGateway.Decimal.IsOwnText` — whether a text is that of the decimal that it denotes, if it
  denotes one.
* `PgGateway.Decimal.HasNoExponent` — whether a text holds no mark of an exponent.

## Main results

* `PgGateway.Decimal.read?_written` — a decimal is read back from its text.
* `PgGateway.Decimal.isStandard_of_read?` — what is read is within the bounds.
* `PgGateway.Decimal.isOwnText_iff`, `PgGateway.Decimal.isOwnText_written_iff` — which texts are
  those of what they denote.
* `PgGateway.Decimal.read?_eq_none` — a text is no decimal by one of its characters.
-/

namespace PgGateway.Decimal

open Text

/-- Whether a decimal has at most 96 bits and at most 28 places. -/
structure IsStandard (d : Decimal) : Prop where
  /-- The coefficient lies below its bound. -/
  coefficient_lt : d.coefficient < coefficientBound
  /-- There are no more places than there may be. -/
  scale_le : d.scale ≤ maxScale

instance (d : Decimal) : Decidable d.IsStandard :=
  decidable_of_iff (d.coefficient < coefficientBound ∧ d.scale ≤ maxScale)
    ⟨fun h => ⟨h.1, h.2⟩, fun h => ⟨h.coefficient_lt, h.scale_le⟩⟩

/-- Whether a decimal is a zero with a minus sign. -/
def IsSignedZero (d : Decimal) : Prop :=
  d.negative = true ∧ d.coefficient = 0

instance (d : Decimal) : Decidable d.IsSignedZero :=
  inferInstanceAs (Decidable (_ ∧ _))

/-- A decimal whose zero has no sign is made of its parts. -/
lemma make_eq {d : Decimal} (h : ¬ d.IsSignedZero) :
    make d.negative d.coefficient d.scale = d := by
  obtain ⟨negative, coefficient, scale⟩ := d
  cases negative with
  | false => rfl
  | true =>
    have hne : coefficient ≠ 0 := fun hzero => h ⟨rfl, hzero⟩
    simp [make, hne]

/-- What is made of parts is no zero with a minus sign. -/
lemma not_isSignedZero_make (negative : Bool) (coefficient scale : Nat) :
    ¬ (make negative coefficient scale).IsSignedZero := by
  rintro ⟨hnegative, rfl : coefficient = 0⟩
  simp [make] at hnegative

/-! ## Reading digits -/

/-- The digits before the point are read as their value. -/
lemma readDigits_whole {negative started : Bool} {before n : Nat} {digits : List Char}
    (hvalue : digitsValue? before digits = some n) (hlt : n < coefficientBound)
    (rest : List Char) :
    readDigits negative ⟨before, 0, false, started, false⟩ (digits ++ rest) =
      readDigits negative ⟨n, 0, false, started || !digits.isEmpty, false⟩ rest := by
  induction digits generalizing before started with
  | nil =>
    obtain rfl : before = n := Option.some.inj hvalue
    simp
  | cons c digits ih =>
    rw [digitsValue?] at hvalue
    split at hvalue
    · next d hd =>
      have hroom : before * 10 + d < coefficientBound := by
        have hle := le_of_digitsValue? hvalue
        omega
      rw [Nat.mul_comm] at hvalue
      rw [List.cons_append, readDigits]
      simp only [Bool.false_and, Bool.false_eq_true, if_false, hd, if_pos hroom]
      have hpush : Progress.push ⟨before, 0, false, started, false⟩ d =
          ⟨before * 10 + d, 0, false, true, false⟩ := rfl
      rw [hpush, ih hvalue]
      simp
    · cases hvalue

/-- The digits behind the point are read as places, as many as there may be. -/
lemma readDigits_places {negative full : Bool} {before scale n : Nat} {digits : List Char}
    (hvalue : digitsValue? before digits = some n) (hlt : n < coefficientBound)
    (hplaces : scale + digits.length ≤ maxScale) (hfull : digits ≠ [] → full = false) :
    readDigits negative ⟨before, scale, true, true, full⟩ digits =
      some (make negative n (scale + digits.length)) := by
  induction digits generalizing before scale full with
  | nil =>
    obtain rfl : before = n := Option.some.inj hvalue
    have hscale : scale % (maxScale + 1) = scale := Nat.mod_eq_of_lt (Nat.lt_succ_of_le hplaces)
    simp [readDigits, Progress.finish, hscale]
  | cons c digits ih =>
    obtain rfl := hfull (List.cons_ne_nil c digits)
    rw [List.length_cons] at hplaces
    rw [digitsValue?] at hvalue
    split at hvalue
    · next d hd =>
      have hroom : before * 10 + d < coefficientBound := by
        have hle := le_of_digitsValue? hvalue
        omega
      rw [Nat.mul_comm] at hvalue
      rw [readDigits]
      simp only [Bool.false_and, Bool.false_eq_true, if_false, hd, if_pos hroom]
      have hpush : Progress.push ⟨before, scale, true, true, false⟩ d =
          ⟨before * 10 + d, scale + 1, true, true, decide (maxScale ≤ scale + 1)⟩ := rfl
      have hlast : digits ≠ [] → decide (maxScale ≤ scale + 1) = false := by
        intro hne
        have hpos := List.length_pos_of_ne_nil hne
        exact decide_eq_false (by omega)
      rw [hpush, ih hvalue (by omega) hlast, List.length_cons]
      congr 2
      omega
    · cases hvalue

/-! ## Texts of decimals -/

/-- The digits of a decimal, with zeros in front for the places that it has no digits for. -/
def padded (d : Decimal) : List Char :=
  List.replicate (d.scale + 1 - (Nat.toDigits 10 d.coefficient).length) '0' ++
    Nat.toDigits 10 d.coefficient

/-- The digits before the point. -/
def whole (d : Decimal) : List Char :=
  d.padded.take (d.padded.length - d.scale)

/-- The digits behind the point. -/
def places (d : Decimal) : List Char :=
  d.padded.drop (d.padded.length - d.scale)

/-- A decimal is written with its sign, and with a point if it has places. -/
lemma written_eq (d : Decimal) :
    d.written = (if d.negative then ['-'] else []) ++ d.whole ++
      (if d.places.isEmpty then [] else '.' :: d.places) := rfl

/-- There is a digit before the point. -/
lemma scale_lt_length_padded (d : Decimal) : d.scale < d.padded.length := by
  rw [padded, List.length_append, List.length_replicate]
  omega

/-- There are as many digits behind the point as places. -/
lemma length_places (d : Decimal) : d.places.length = d.scale := by
  have hlt := d.scale_lt_length_padded
  rw [places, List.length_drop]
  omega

/-- There is a digit before the point. -/
lemma whole_ne_nil (d : Decimal) : d.whole ≠ [] := by
  have hlt := d.scale_lt_length_padded
  refine List.ne_nil_of_length_pos ?_
  rw [whole, List.length_take]
  omega

/-- The digits before the point have a value, and those behind it, read after them, give the
coefficient. -/
lemma exists_digitsValue?_whole (d : Decimal) :
    ∃ n, digitsValue? 0 d.whole = some n ∧ digitsValue? n d.places = some d.coefficient := by
  have hpadded : digitsValue? 0 d.padded = some d.coefficient := by
    rw [padded, digitsValue?_append, digitsValue?_replicate, Option.bind_some,
      digitsValue?_toDigits]
  rw [← List.take_append_drop (d.padded.length - d.scale) d.padded, digitsValue?_append] at hpadded
  exact Option.bind_eq_some_iff.mp hpadded

/-- Digits before the point and behind it are read as the decimal, a zero without its sign. -/
lemma readDigits_whole_places {d : Decimal} (hd : d.IsStandard) :
    readDigits d.negative .start
        (d.whole ++ (if d.places.isEmpty then [] else '.' :: d.places)) =
      some (make d.negative d.coefficient d.scale) := by
  obtain ⟨n, hwhole, hplaces⟩ := d.exists_digitsValue?_whole
  have hlt : n < coefficientBound := lt_of_le_of_lt (le_of_digitsValue? hplaces) hd.coefficient_lt
  have hstarted : (false || !d.whole.isEmpty) = true := by simp [d.whole_ne_nil]
  rw [Progress.start, readDigits_whole hwhole hlt, hstarted]
  cases hempty : d.places with
  | nil =>
    have hscale : d.scale = 0 := by rw [← d.length_places, hempty, List.length_nil]
    rw [hempty] at hplaces
    obtain rfl : n = d.coefficient := Option.some.inj hplaces
    simp [readDigits, Progress.finish, hscale]
  | cons c rest =>
    rw [← hempty]
    have hpoint : readDigits d.negative ⟨n, 0, false, true, false⟩ ('.' :: d.places) =
        readDigits d.negative ⟨n, 0, true, true, false⟩ d.places := by
      rw [readDigits]
      rfl
    have hlength : 0 + d.places.length = d.scale := by rw [length_places, Nat.zero_add]
    have hscale : 0 + d.places.length ≤ maxScale := hlength ▸ hd.scale_le
    rw [if_neg (by simp [hempty]), hpoint,
      readDigits_places hplaces hd.coefficient_lt hscale fun _ => rfl, hlength]

/-- A text that begins with a digit has no sign. -/
lemma readPlain?_of_isDigits {s t : List Char} (hs : IsDigits s) (hne : s ≠ []) :
    readPlain? (s ++ t) = readDigits false .start (s ++ t) := by
  obtain ⟨c, s, rfl⟩ := List.exists_cons_of_ne_nil hne
  have hc := hs c List.mem_cons_self
  rw [List.cons_append, readPlain?.eq_def]
  split
  · next heq =>
    rw [(List.cons.inj heq).1] at hc
    cases hc
  · next heq =>
    rw [(List.cons.inj heq).1] at hc
    cases hc
  · rfl

/-- **Decimals are read back.** A decimal within the bounds is read back from its text, a zero
without its sign.

**Proof sketch.** The sign is read first, then the digits before the point (`readDigits_whole`), and
then the places (`readDigits_places`). The value of the digits stays below the bound on the way. -/
theorem read?_written {d : Decimal} (hd : d.IsStandard) :
    read? d.written = some (make d.negative d.coefficient d.scale) := by
  have hplain : readPlain? d.written = some (make d.negative d.coefficient d.scale) := by
    have hread := readDigits_whole_places hd
    rw [written_eq, List.append_assoc]
    cases hnegative : d.negative with
    | true =>
      rw [hnegative] at hread
      rw [if_pos rfl, List.singleton_append, readPlain?, hread]
    | false =>
      obtain ⟨n, hwhole, -⟩ := d.exists_digitsValue?_whole
      rw [hnegative] at hread
      rw [if_neg Bool.false_ne_true, List.nil_append,
        readPlain?_of_isDigits (isDigits_of_digitsValue? hwhole) d.whole_ne_nil, hread]
  rw [read?, hplain]

/-! ## What is read -/

/-- What has been read is within the bounds if its coefficient is. -/
lemma Progress.isStandard_finish {negative : Bool} {p : Progress}
    (h : p.coefficient < coefficientBound) : (p.finish negative).IsStandard :=
  ⟨h, Nat.le_of_lt_succ (Nat.mod_lt _ (Nat.succ_pos _))⟩

/-- Rounding at a character keeps within the bounds. -/
lemma Progress.isStandard_of_roundAt {negative : Bool} {p : Progress} {next : Char}
    {rest : List Char} {d : Decimal} (hp : p.coefficient < coefficientBound)
    (h : p.roundAt negative next rest = some d) : d.IsStandard := by
  rw [roundAt] at h
  dsimp only at h
  split at h
  · cases h
  · split at h
    · cases h
    · split at h
      · cases h
        exact isStandard_finish hp
      · split at h
        · next hroom =>
          cases h
          exact isStandard_finish hroom
        · split at h
          · cases h
          · cases h
            have hshorter : (p.coefficient + 5) / 10 < coefficientBound := by
              have hbound : 1 < coefficientBound := by decide
              omega
            exact isStandard_finish hshorter

/-- Reading digits keeps within the bounds. -/
lemma isStandard_of_readDigits {negative : Bool} {p : Progress} {s : List Char} {d : Decimal}
    (hp : p.coefficient < coefficientBound) (h : readDigits negative p s = some d) :
    d.IsStandard := by
  fun_induction readDigits negative p s with
  | case1 p hstarted =>
    cases h
    exact Progress.isStandard_finish hp
  | case2 => cases h
  | case3 p c s hfull => exact Progress.isStandard_of_roundAt hp h
  | case4 p c s hfull digit hdigit hroom ih => exact ih hroom h
  | case5 p c s hfull digit hdigit hroom hpointed => exact Progress.isStandard_of_roundAt hp h
  | case6 => cases h
  | case7 p c s hfull hdigit hpoint ih => exact ih hp h
  | case8 p c s hfull hdigit hpoint hunderscore ih => exact ih hp h
  | case9 => cases h

/-- What a plain decimal denotes is within the bounds. -/
lemma isStandard_of_readPlain? {s : List Char} {d : Decimal} (h : readPlain? s = some d) :
    d.IsStandard := by
  have hstart : Progress.start.coefficient < coefficientBound := by decide
  rw [readPlain?.eq_def] at h
  split at h <;> exact isStandard_of_readDigits hstart h

/-- A decimal multiplied by a power of ten is within the bounds if it was before. -/
lemma isStandard_of_raise {d d' : Decimal} {exponent : Nat} (hd : d.IsStandard)
    (h : d.raise exponent = some d') : d'.IsStandard := by
  rw [raise] at h
  split at h
  · cases h
    exact ⟨hd.coefficient_lt, le_trans (Nat.sub_le _ _) hd.scale_le⟩
  · split at h
    · cases h
    · dsimp only at h
      split at h
      · next hroom =>
        cases h
        exact ⟨hroom, Nat.zero_le _⟩
      · cases h

/-- Dropping places keeps the coefficient below its bound. -/
lemma coefficient_dropPlaces_lt {d : Decimal} (hd : d.coefficient < coefficientBound)
    (steps : Nat) : (d.dropPlaces steps).coefficient < coefficientBound := by
  obtain ⟨k, hk⟩ : ∃ k, 10 ^ steps = k + 1 :=
    Nat.exists_eq_add_one.mpr (Nat.pow_pos (by omega))
  have hroom : k ≤ coefficientBound * k := Nat.le_mul_of_pos_left k (by omega)
  have hproduct : coefficientBound * (2 * (k + 1)) =
      2 * (coefficientBound * k) + 2 * coefficientBound := by ring
  change (2 * d.coefficient + 10 ^ steps) / (2 * 10 ^ steps) < coefficientBound
  rw [Nat.div_lt_iff_lt_mul (by omega), hk, hproduct]
  omega

/-- A decimal rounded to no more places than it has is within the bounds if it was before. -/
lemma coefficient_rescale_lt {d : Decimal} (hd : d.coefficient < coefficientBound) {scale : Nat}
    (hscale : scale ≤ d.scale) :
    (d.rescale scale).coefficient < coefficientBound ∧ (d.rescale scale).scale = scale := by
  rw [rescale]
  split
  · next hlt =>
    refine ⟨coefficient_dropPlaces_lt hd _, ?_⟩
    change d.scale - (d.scale - scale) = scale
    omega
  · next hge =>
    have hsame : scale = d.scale := by omega
    rw [hsame, Nat.sub_self]
    exact ⟨hd, rfl⟩

/-- A decimal divided by a power of ten is within the bounds if it was before. -/
lemma isStandard_of_lower {d d' : Decimal} {exponent : Nat} (hd : d.IsStandard)
    (h : d.lower exponent = some d') : d'.IsStandard := by
  rw [lower] at h
  split at h
  · next hexponent =>
    cases h
    obtain ⟨hcoefficient, hscale⟩ := coefficient_rescale_lt hd.coefficient_lt
      (Nat.min_le_left d.scale (maxScale - exponent))
    refine ⟨hcoefficient, ?_⟩
    change (d.rescale _).scale + exponent ≤ maxScale
    rw [hscale]
    omega
  · cases h

/-- **What is read.** What a text denotes is a decimal within the bounds. -/
theorem isStandard_of_read? {s : List Char} {d : Decimal} (h : read? s = some d) :
    d.IsStandard := by
  rw [read?] at h
  split at h
  · next hplain =>
    cases h
    exact isStandard_of_readPlain? hplain
  · rw [readScientific?] at h
    split at h
    · cases h
    · split at h
      · cases h
      · next base hbase =>
        have hstandard := isStandard_of_readPlain? hbase
        split at h
        · obtain ⟨exponent, -, hlower⟩ := Option.bind_eq_some_iff.mp h
          exact isStandard_of_lower hstandard hlower
        · obtain ⟨exponent, -, hraise⟩ := Option.bind_eq_some_iff.mp h
          exact isStandard_of_raise hstandard hraise

/-! ## Texts of what they denote -/

/-- Whether a text is that of a decimal, other than a zero with a minus sign, if it denotes one. -/
def IsOwnText (s : List Char) : Prop :=
  (read? s).isSome → ∃ d : Decimal, d.IsStandard ∧ ¬ d.IsSignedZero ∧ s = d.written

/-- **Own texts.** A text is the one that the decimal it denotes is written as, if it denotes one,
exactly if it is that of a decimal then. -/
theorem isOwnText_iff {s : List Char} :
    IsOwnText s ↔ ∀ d, read? s = some d → d.written = s := by
  constructor
  · intro h d hd
    obtain ⟨d', hstandard, hsign, rfl⟩ := h (by simp [hd])
    rw [read?_written hstandard, make_eq hsign] at hd
    rw [Option.some.inj hd]
  · intro h hsome
    obtain ⟨d, hd⟩ := Option.isSome_iff_exists.mp hsome
    have hstandard := isStandard_of_read? hd
    have hwritten := h d hd
    refine ⟨d, hstandard, fun hzero => ?_, hwritten.symm⟩
    -- the text of a zero with a minus sign is read without it
    rw [← hwritten, read?_written hstandard, Option.some.injEq] at hd
    exact not_isSignedZero_make _ _ _ (hd.symm ▸ hzero)

/-- The text of a decimal within the bounds is read as that decimal exactly if it is no zero with a
minus sign. -/
theorem isOwnText_written_iff {d : Decimal} (hd : d.IsStandard) :
    IsOwnText d.written ↔ ¬ d.IsSignedZero := by
  refine ⟨fun h hzero => ?_, fun hsign _ => ⟨d, hd, hsign, rfl⟩⟩
  have hsame := isOwnText_iff.mp h _ (read?_written hd)
  obtain ⟨negative, coefficient, scale⟩ := d
  obtain ⟨rfl, rfl⟩ := hzero
  -- without the sign the text is shorter
  have hlength := congrArg List.length hsame
  simp only [written_eq, make, bne_self_eq_false, Bool.and_false, whole, places, padded,
    List.length_append] at hlength
  simp at hlength

/-! ## Texts that denote no decimal -/

/-- Whether a character may stand in a plain decimal behind its sign. -/
def isPlainChar (c : Char) : Bool :=
  c = '_' || c = '.' || (digit? c).isSome

/-- What ends the reading by rounding is of such characters. -/
lemma Progress.isPlainChar_of_roundAt {negative : Bool} {p : Progress} {next : Char}
    {rest : List Char} {d : Decimal} (h : p.roundAt negative next rest = some d) :
    ∀ c ∈ next :: rest, isPlainChar c = true := by
  rw [roundAt] at h
  dsimp only at h
  split at h
  · cases h
  · next digit hdigit =>
    split at h
    · cases h
    · next hrest =>
      rw [Bool.not_eq_true, Bool.not_eq_false', List.all_eq_true] at hrest
      refine List.forall_mem_cons.mpr ⟨?_, fun c hc => ?_⟩
      · split at hdigit
        · next hunderscore => simp [isPlainChar, hunderscore]
        · simp [isPlainChar, hdigit]
      · have hplain := hrest c hc
        rw [Bool.or_eq_true] at hplain
        rcases hplain with hunderscore | hisDigit
        · simp [isPlainChar, of_decide_eq_true hunderscore]
        · simp [isPlainChar, hisDigit]

/-- Digits that can be read hold no other characters. -/
lemma isPlainChar_of_readDigits {negative : Bool} {p : Progress} {s : List Char} {d : Decimal}
    (h : readDigits negative p s = some d) : ∀ c ∈ s, isPlainChar c = true := by
  fun_induction readDigits negative p s with
  | case1 => exact List.forall_mem_nil _
  | case2 => cases h
  | case3 p c s hfull => exact Progress.isPlainChar_of_roundAt h
  | case4 p c s hfull digit hdigit hroom ih =>
    exact List.forall_mem_cons.mpr ⟨by simp [isPlainChar, hdigit], ih h⟩
  | case5 p c s hfull digit hdigit hroom hpointed => exact Progress.isPlainChar_of_roundAt h
  | case6 => cases h
  | case7 p c s hfull hdigit hpoint ih =>
    rw [Bool.and_eq_true] at hpoint
    exact List.forall_mem_cons.mpr ⟨by simp [isPlainChar, of_decide_eq_true hpoint.1], ih h⟩
  | case8 p c s hfull hdigit hpoint hunderscore ih =>
    rw [Bool.and_eq_true] at hunderscore
    exact List.forall_mem_cons.mpr ⟨by simp [isPlainChar, of_decide_eq_true hunderscore.1], ih h⟩
  | case9 => cases h

/-- A plain decimal holds no other characters behind its first. -/
lemma isPlainChar_of_readPlain? {s : List Char} {d : Decimal} (h : readPlain? s = some d) {c : Char}
    (hc : c ∈ s.tail) : isPlainChar c = true := by
  rw [readPlain?.eq_def] at h
  split at h
  · exact isPlainChar_of_readDigits h c hc
  · exact isPlainChar_of_readDigits h c hc
  · exact isPlainChar_of_readDigits h c (List.mem_of_mem_tail hc)

/-- Whether a text has no mark of an exponent. -/
def HasNoExponent (s : List Char) : Prop :=
  ∀ c ∈ s, c ≠ 'e' ∧ c ≠ 'E'

namespace HasNoExponent

/-- A text has none if its parts have none. -/
lemma append {s t : List Char} (hs : HasNoExponent s) (ht : HasNoExponent t) :
    HasNoExponent (s ++ t) :=
  List.forall_mem_append.mpr ⟨hs, ht⟩

/-- A text has none if its first character is none and the others have none. -/
lemma cons {c : Char} {s : List Char} (hc : c ≠ 'e' ∧ c ≠ 'E') (hs : HasNoExponent s) :
    HasNoExponent (c :: s) :=
  List.forall_mem_cons.mpr ⟨hc, hs⟩

/-- Digits have none. -/
lemma of_isDigits {s : List Char} (hs : IsDigits s) : HasNoExponent s := by
  intro c hc
  have hdigit := hs c hc
  constructor <;> rintro rfl <;> cases hdigit

end HasNoExponent

/-- A text denotes no decimal if it has no mark of an exponent and, behind its first character, one
that no plain decimal has there. -/
theorem read?_eq_none {s : List Char} (hexponent : HasNoExponent s) {c : Char}
    (hc : c ∈ s.tail) (hplain : isPlainChar c = false) : read? s = none := by
  have hnot : readPlain? s = none := by
    by_contra hne
    obtain ⟨d, hd⟩ := Option.ne_none_iff_exists'.mp hne
    rw [isPlainChar_of_readPlain? hd hc] at hplain
    cases hplain
  have hbase : (s.takeWhile fun c => c != 'e' && c != 'E') = s :=
    List.takeWhile_eq_self_iff.mpr fun c hc => by simpa using hexponent c hc
  rw [read?, hnot, readScientific?, hbase, List.drop_length]

end PgGateway.Decimal
