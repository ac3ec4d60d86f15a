import PgGateway.Json.Token
import PgGateway.Json.Written
import PgGateway.Proofs.Text.Digits
import Mathlib.Tactic.Ring

set_option autoImplicit false

/-!
# Written numbers are numerals

The text of a numeral is read as its parts, and whoever reads it stops right behind it, unless what
follows goes on like a number. The text of an integer is that of a numeral, and for an integer of 64
bits the numeral has this integer as its value. A numeral with a point or an exponent has the value
of the decimal that it writes, if that has at most 64 bits.

## Main definitions

* `PgGateway.Json.NumeralText` — the parts of the text of a numeral without its sign.
* `PgGateway.Json.EndsNumeral` — whether a text does not go on like a number.
* `PgGateway.Json.IsNumeralText` — whether a text is read as a numeral.
* `PgGateway.Json.numeralOf` — the numeral that a text starts with.
* `PgGateway.Json.Numeral.decimal` — the decimal that a numeral writes.

## Main results

* `PgGateway.Json.NumeralText.numeralPart?_chars` — the text of a numeral is read as its parts.
* `PgGateway.Json.Numeral.value?_eq_floatValue?` — the value of a numeral with a point.
* `PgGateway.Json.isNumeralText_intChars` — the text of an integer is that of a numeral.
* `PgGateway.Json.value?_intText` — the numeral of an integer has the integer as its value.
-/

namespace PgGateway.Json

open Text

/-- Whether a text does not go on like a number. -/
def EndsNumeral (rest : List Char) : Prop :=
  ∀ c ∈ rest.head?, digit? c = none ∧ c ≠ '.' ∧ c ≠ 'e' ∧ c ≠ 'E'

/-- Digits are read up to something that is not a digit. -/
lemma digitRun_append {s rest : List Char} (hs : IsDigits s)
    (hrest : ∀ c ∈ rest.head?, digit? c = none) : digitRun (s ++ rest) = (digitValues s, rest) := by
  induction s with
  | nil =>
    cases rest with
    | nil => rfl
    | cons c rest =>
      have hc : digit? c = none := hrest c rfl
      rw [List.nil_append, digitRun, hc]
      rfl
  | cons c s ih =>
    obtain ⟨hc, hs⟩ := isDigits_cons.mp hs
    obtain ⟨d, hd⟩ := Option.isSome_iff_exists.mp hc
    rw [List.cons_append, digitRun, hd, ih hs, digitValues_cons hd]

/-- The parts of the text of a numeral without its sign. -/
structure NumeralText where
  /-- The digits before the point. -/
  whole : List Char
  /-- The digits after the point, if there is one. -/
  places : Option (List Char)
  /-- Whether the exponent is negative, and its digits, if there is one. -/
  exponent : Option (Bool × List Char)

namespace NumeralText

/-- The text of an exponent with its mark and its sign. -/
def exponentChars : Option (Bool × List Char) → List Char
  | none => []
  | some (below, digits) => 'e' :: (if below then '-' else '+') :: digits

/-- The text of places with their point. -/
def placesChars : Option (List Char) → List Char
  | none => []
  | some digits => '.' :: digits

/-- The text of the numeral. -/
def chars (t : NumeralText) : List Char :=
  t.whole ++ (placesChars t.places ++ exponentChars t.exponent)

/-- The numeral with a sign. -/
def numeral (negative : Bool) (t : NumeralText) : Numeral :=
  ⟨negative, digitValues t.whole, t.places.map digitValues,
    t.exponent.map fun (below, digits) => (below, digitValues digits)⟩

/-- Whether the parts make a numeral: they have only digits, and some, and a zero in front stands
alone. -/
structure IsValid (t : NumeralText) : Prop where
  /-- The digits before the point. -/
  whole : IsDigits t.whole
  /-- There are some. -/
  whole_ne : t.whole ≠ []
  /-- A zero in front stands alone. -/
  zero : t.whole.head? = some '0' → t.whole = ['0']
  /-- The digits after the point. -/
  places : ∀ digits ∈ t.places, IsDigits digits ∧ digits ≠ []
  /-- The digits of the exponent. -/
  exponent : ∀ e ∈ t.exponent, IsDigits e.2 ∧ e.2 ≠ []

/-- Digits have values. -/
lemma digitValues_ne_nil {s : List Char} (hs : IsDigits s) (hne : s ≠ []) :
    digitValues s ≠ [] := by
  intro hnil
  refine hne ?_
  rw [← List.length_eq_zero_iff, ← length_digitValues hs, hnil, List.length_nil]

/-- The text of an exponent is read as the exponent. -/
lemma exponentPart?_exponentChars {e : Option (Bool × List Char)}
    (he : ∀ e' ∈ e, IsDigits e'.2 ∧ e'.2 ≠ []) {rest : List Char} (hrest : EndsNumeral rest) :
    exponentPart? (exponentChars e ++ rest) =
      some (e.map fun (below, digits) => (below, digitValues digits), rest) := by
  cases e with
  | none =>
    cases rest with
    | nil => rfl
    | cons c rest =>
      obtain ⟨-, -, hlower, hupper⟩ := hrest c rfl
      simp [exponentChars, exponentPart?, hlower, hupper]
  | some e =>
    obtain ⟨below, digits⟩ := e
    obtain ⟨hdigits, hne⟩ := he _ rfl
    obtain ⟨d, ds, hvalues⟩ := List.exists_cons_of_ne_nil (digitValues_ne_nil hdigits hne)
    have hrun : digitRun (digits ++ rest) = (d :: ds, rest) := by
      rw [← hvalues]
      exact digitRun_append hdigits fun c hc => (hrest c hc).1
    cases below <;> simp [exponentChars, exponentPart?, hrun, hvalues]

/-- What follows the digits before the point does not go on with a digit. -/
lemma digit?_head?_exponentChars (e : Option (Bool × List Char)) {rest : List Char}
    (hrest : EndsNumeral rest) : ∀ c ∈ (exponentChars e ++ rest).head?, digit? c = none := by
  cases e with
  | none => exact fun c hc => (hrest c hc).1
  | some e =>
    intro c hc
    obtain rfl : 'e' = c := Option.some.inj hc
    rfl

/-- The values of the digits before the point do not start with a zero that more digits follow. -/
lemma IsValid.digitValues_whole_ne {t : NumeralText} (ht : t.IsValid) (d : Nat) (ds : List Nat) :
    digitValues t.whole ≠ 0 :: d :: ds := by
  intro hvalues
  obtain ⟨c, s, hwhole⟩ := List.exists_cons_of_ne_nil ht.whole_ne
  have hdigit : (digit? c).isSome := ht.whole c (by simp [hwhole])
  obtain ⟨d', hd'⟩ := Option.isSome_iff_exists.mp hdigit
  rw [hwhole, digitValues_cons hd'] at hvalues
  obtain ⟨rfl, hrest⟩ := List.cons.inj hvalues
  have hc : c = '0' := eq_zero_of_digit?_eq_zero hd'
  have halone : t.whole = ['0'] := ht.zero (by rw [hwhole, hc]; rfl)
  rw [hwhole] at halone
  rw [(List.cons.inj halone).2] at hrest
  cases hrest

/-- A numeral ends with its exponent where no point follows the digits in front. -/
lemma numeralPart?_of_ne_point {s rest : List Char} {whole : List Nat}
    (hrun : digitRun s = (whole, rest)) (hne : whole ≠ []) (hzero : ∀ d ds, whole ≠ 0 :: d :: ds)
    (hpoint : ∀ s, rest ≠ '.' :: s) (negative : Bool) :
    numeralPart? negative s =
      (exponentPart? rest).map fun (e, rest) => (⟨negative, whole, none, e⟩, rest) := by
  rw [numeralPart?, hrun]
  split
  · next heq => exact absurd (congrArg Prod.fst heq) hne
  · next heq => exact absurd (congrArg Prod.fst heq) (hzero _ _)
  · next heq => exact absurd (congrArg Prod.snd heq) (hpoint _)
  · next heq =>
    cases heq
    rfl

/-- A numeral has the places that follow a point behind the digits in front. -/
lemma numeralPart?_of_point {s rest left : List Char} {whole places : List Nat}
    (hrun : digitRun s = (whole, '.' :: rest)) (hne : whole ≠ [])
    (hzero : ∀ d ds, whole ≠ 0 :: d :: ds) (hplaces : digitRun rest = (places, left))
    (hplaces_ne : places ≠ []) (negative : Bool) :
    numeralPart? negative s =
      (exponentPart? left).map fun (e, rest) => (⟨negative, whole, some places, e⟩, rest) := by
  rw [numeralPart?, hrun]
  split
  · next heq => exact absurd (congrArg Prod.fst heq) hne
  · next heq => exact absurd (congrArg Prod.fst heq) (hzero _ _)
  · next heq =>
    cases heq
    rw [hplaces]
    split
    · next heq => exact absurd (congrArg Prod.fst heq) hplaces_ne
    · next heq =>
      cases heq
      rfl
  · next hnot heq =>
    cases heq
    exact (hnot _ rfl).elim

/-- What follows the digits does not go on with a point. -/
lemma exponentChars_append_ne_point (e : Option (Bool × List Char)) {rest : List Char}
    (hrest : EndsNumeral rest) (s : List Char) : exponentChars e ++ rest ≠ '.' :: s := by
  intro hs
  cases e with
  | none => exact (hrest '.' (by rw [show rest = _ from hs]; rfl)).2.1 rfl
  | some e => exact absurd (List.cons.inj hs).1 (by decide)

/-- **Texts of numerals.** The text of a numeral is read as its parts, if what follows does not go
on like a number.

**Proof sketch.** The digits in front are read up to the point, or up to the exponent if there are
no places (`digitRun_append`), and then the exponent is read (`exponentPart?_exponentChars`). -/
theorem numeralPart?_chars {t : NumeralText} (ht : t.IsValid) (negative : Bool) {rest : List Char}
    (hrest : EndsNumeral rest) :
    numeralPart? negative (t.chars ++ rest) = some (t.numeral negative, rest) := by
  have hne : digitValues t.whole ≠ [] := digitValues_ne_nil ht.whole ht.whole_ne
  have hexponent := exponentPart?_exponentChars ht.exponent hrest
  have hstop := digit?_head?_exponentChars t.exponent hrest
  rw [chars, List.append_assoc, List.append_assoc, numeral]
  cases hplaces : t.places with
  | none =>
    have hrun := digitRun_append ht.whole hstop
    rw [placesChars, List.nil_append, numeralPart?_of_ne_point hrun hne ht.digitValues_whole_ne
      (exponentChars_append_ne_point t.exponent hrest), hexponent]
    rfl
  | some digits =>
    obtain ⟨hdigits, hdigits_ne⟩ := ht.places digits hplaces
    have hrun : digitRun (t.whole ++ '.' :: (digits ++ (exponentChars t.exponent ++ rest))) =
        (digitValues t.whole, '.' :: (digits ++ (exponentChars t.exponent ++ rest))) :=
      digitRun_append ht.whole fun c hc => by cases hc; rfl
    rw [placesChars, List.cons_append, numeralPart?_of_point hrun hne ht.digitValues_whole_ne
      (digitRun_append hdigits hstop) (digitValues_ne_nil hdigits hdigits_ne), hexponent]
    rfl

end NumeralText

/-! ## Tokens -/

/-- A text that starts with a digit starts with a numeral. -/
lemma token?_of_digit {c : Char} (hc : (digit? c).isSome) (s : List Char) :
    token? (c :: s) = (numeralPart? false (c :: s)).map fun (n, rest) => (.number n, rest) := by
  -- No other token starts with a digit.
  unfold token?
  split
  all_goals first
    | rfl
    | next heq =>
      cases heq
      exact absurd hc (by decide)

/-- The text of a sign. -/
def signChars (negative : Bool) : List Char :=
  if negative then ['-'] else []

/-- Whether a text is read as a numeral if what follows does not go on like a number. -/
def IsNumeralText (s : List Char) (n : Numeral) : Prop :=
  ∀ rest, EndsNumeral rest → token? (s ++ rest) = some (.number n, rest)

/-- The text of a numeral with its sign is read as the numeral. -/
lemma NumeralText.IsValid.isNumeralText {t : NumeralText} (ht : t.IsValid) (negative : Bool) :
    IsNumeralText (signChars negative ++ t.chars) (t.numeral negative) := by
  intro rest hrest
  have hpart := numeralPart?_chars ht negative hrest
  cases negative with
  | true =>
    change (numeralPart? true (t.chars ++ rest)).map _ = _
    rw [hpart]
    rfl
  | false =>
    obtain ⟨c, s, hwhole⟩ := List.exists_cons_of_ne_nil ht.whole_ne
    have hc : (digit? c).isSome := ht.whole c (by simp [hwhole])
    have hchars : t.chars = c :: (s ++ (placesChars t.places ++ exponentChars t.exponent)) := by
      rw [chars, hwhole, List.cons_append]
    rw [signChars, if_neg (by decide), List.nil_append]
    rw [hchars, List.cons_append] at hpart ⊢
    rw [token?_of_digit hc, hpart]
    rfl

/-- The numeral that a text starts with. -/
def numeralOf (s : List Char) : Numeral :=
  match token? s with
  | some (.number n, _) => n
  | _ => default

/-- The numeral that a text is read as is the one that it starts with. -/
lemma IsNumeralText.numeralOf_eq {s : List Char} {n : Numeral} (h : IsNumeralText s n) :
    numeralOf s = n := by
  have hread := h [] nofun
  rw [List.append_nil] at hread
  rw [numeralOf, hread]

/-! ## Values of digits -/

namespace Numeral

/-- Digits behind a number make it longer. -/
lemma foldl_eq (digits : List Nat) (start : Nat) :
    digits.foldl (fun n d => 10 * n + d) start =
      start * 10 ^ digits.length + digitsValue digits := by
  induction digits generalizing start with
  | nil => simp [digitsValue]
  | cons d digits ih =>
    rw [digitsValue, List.foldl_cons, List.foldl_cons, ih, ih (10 * 0 + d), List.length_cons,
      Nat.pow_succ]
    ring

/-- The value of some digits and more behind them. -/
lemma digitsValue_append (digits more : List Nat) :
    digitsValue (digits ++ more) = digitsValue digits * 10 ^ more.length + digitsValue more := by
  rw [digitsValue, List.foldl_append, foldl_eq]
  rfl

/-- The value of some digits of which the first is given. -/
lemma digitsValue_cons (d : Nat) (digits : List Nat) :
    digitsValue (d :: digits) = d * 10 ^ digits.length + digitsValue digits := by
  have happend := digitsValue_append [d] digits
  rwa [List.singleton_append, show digitsValue [d] = d from Nat.zero_add d] at happend

/-- Zeros have no value. -/
lemma digitsValue_replicate (k : Nat) : digitsValue (List.replicate k 0) = 0 := by
  induction k with
  | zero => rfl
  | succ k ih => rw [List.replicate_succ, digitsValue_cons, ih, Nat.zero_mul]

/-- The decimal text of a number has the number as its value. -/
lemma digitsValue_toDigits (n : Nat) : digitsValue (digitValues (Nat.toDigits 10 n)) = n := by
  induction n using Nat.strongRecOn with
  | ind n ih =>
    rcases Nat.lt_or_ge n 10 with hlt | hge
    · rw [Nat.toDigits_of_lt_base hlt, digitValues_cons (digit?_digitChar hlt)]
      exact Nat.zero_add n
    · have hlast : digitValues [Nat.digitChar (n % 10)] = [n % 10] :=
        digitValues_cons (digit?_digitChar (Nat.mod_lt n (by decide)))
      have hvalue : digitsValue [n % 10] = n % 10 := Nat.zero_add _
      rw [Nat.toDigits_of_base_le (by decide) hge, digitValues_append, digitsValue_append, hlast,
        ih (n / 10) (Nat.div_lt_self (by omega) (by decide)), hvalue, List.length_singleton]
      omega

/-- All digits are taken into a significand if there is room for them. -/
lemma extend_eq {digits : List Nat} {significand : Nat}
    (h : significand * 10 ^ digits.length + digitsValue digits < wordBound) (taken : Nat) :
    extend significand taken digits =
      (significand * 10 ^ digits.length + digitsValue digits, taken + digits.length) := by
  induction digits generalizing significand taken with
  | nil => simp [extend, digitsValue]
  | cons d digits ih =>
    have hvalue : significand * 10 ^ (d :: digits).length + digitsValue (d :: digits) =
        (significand * 10 + d) * 10 ^ digits.length + digitsValue digits := by
      rw [digitsValue_cons, List.length_cons, Nat.pow_succ]
      ring
    rw [hvalue] at h ⊢
    have hroom : significand * 10 + d < wordBound := by
      have hle : significand * 10 + d ≤ (significand * 10 + d) * 10 ^ digits.length :=
        Nat.le_mul_of_pos_right _ (Nat.pow_pos (by decide))
      omega
    rw [extend, if_pos hroom, ih h, List.length_cons, Nat.add_assoc, Nat.add_comm 1]

/-- The exponent of ten that a numeral gives. -/
def power (n : Numeral) : Int :=
  match n.exponent with
  | none => 0
  | some (below, digits) => if below then -(digitsValue digits : Int) else digitsValue digits

/-- The decimal that a numeral writes, without its sign. -/
def decimal (n : Numeral) : Decadic :=
  ⟨digitsValue (n.whole ++ n.fraction.getD []), n.power - (n.fraction.getD []).length⟩

/-- A numeral with a point or an exponent is read as its decimal if that fits into 64 bits. -/
theorem value?_eq_floatValue? {n : Numeral} (hdigits : n.decimal.digits < wordBound)
    (hfloat : n.fraction.isSome ∨ n.exponent.isSome)
    (hpower : ∀ e ∈ n.exponent, digitsValue e.2 < exponentBound) :
    n.value? = floatValue? n.negative n.decimal.digits n.decimal.exponent := by
  obtain ⟨negative, whole, fraction, exponent⟩ := n
  simp only [decimal, digitsValue_append] at hdigits hfloat hpower ⊢
  have hwhole : extend 0 0 whole = (digitsValue whole, whole.length) := by
    have hroom : 0 * 10 ^ whole.length + digitsValue whole < wordBound := by
      have hle : digitsValue whole ≤ digitsValue whole * 10 ^ (fraction.getD []).length :=
        Nat.le_mul_of_pos_right _ (Nat.pow_pos (by decide))
      omega
    simpa using extend_eq hroom 0
  have hsize : ∀ e ∈ exponent, ¬ exponentBound ≤ digitsValue e.2 :=
    fun e he => Nat.not_le.mpr (hpower e he)
  cases fraction with
  | none =>
    have hnil : digitsValue [] = 0 := rfl
    cases exponent with
    | none => simp at hfloat
    | some e =>
      obtain ⟨below, digits⟩ := e
      have hdigits := hsize (below, digits) rfl
      cases below <;> simp [value?, hwhole, power, hdigits, hnil]
  | some places =>
    have hplaces := extend_eq hdigits 0
    rw [Option.getD_some, Nat.zero_add] at hplaces
    cases exponent with
    | none => simp [value?, hwhole, hplaces, power]
    | some e =>
      obtain ⟨below, digits⟩ := e
      have hdigits := hsize (below, digits) rfl
      cases below <;> simp [value?, hwhole, hplaces, power, hdigits, add_comm, sub_eq_add_neg]

end Numeral

/-! ## Integers -/

/-- The parts of the text of an integer without its sign. -/
def intText (n : Int) : NumeralText :=
  ⟨Nat.toDigits 10 n.natAbs, none, none⟩

/-- They make a numeral. -/
lemma isValid_intText (n : Int) : (intText n).IsValid := by
  refine ⟨isDigits_toDigits _, Nat.toDigits_ne_nil, fun hzero => ?_, nofun, nofun⟩
  by_cases hn : n.natAbs = 0
  · simp [intText, hn]
  · exact absurd hzero (head?_toDigits_ne hn)

/-- The text of an integer is that of its parts. -/
lemma intChars_eq (n : Int) : intChars n = signChars (n < 0) ++ (intText n).chars := by
  have hchars : (intText n).chars = Nat.toDigits 10 n.natAbs :=
    List.append_nil _
  rw [intChars, hchars]
  split
  · next hn => simp [signChars, hn]
  · next hn =>
    have hnat : n.toNat = n.natAbs := by omega
    simp [signChars, hn, hnat]

/-- **Integers.** The text of an integer is read as a numeral. -/
theorem isNumeralText_intChars (n : Int) :
    IsNumeralText (intChars n) ((intText n).numeral (n < 0)) := by
  rw [intChars_eq]
  exact (isValid_intText n).isNumeralText _

/-- The numeral of an integer of 64 bits, signed or unsigned, has the integer as its value. -/
theorem value?_intText {n : Int} (hlow : -Nat.pow 2 63 ≤ n) (hhigh : n < Nat.pow 2 64) :
    ((intText n).numeral (n < 0)).value? = some (.int n) := by
  have hhalf : Nat.pow 2 63 = 9223372036854775808 := by decide
  have hword : Nat.pow 2 64 = 18446744073709551616 := by decide
  have hvalue := Numeral.digitsValue_toDigits n.natAbs
  have hextend : Numeral.extend 0 0 (digitValues (Nat.toDigits 10 n.natAbs)) =
      (n.natAbs, (digitValues (Nat.toDigits 10 n.natAbs)).length) := by
    have hroom : 0 * 10 ^ (digitValues (Nat.toDigits 10 n.natAbs)).length +
        Numeral.digitsValue (digitValues (Nat.toDigits 10 n.natAbs)) < Numeral.wordBound := by
      rw [hvalue, Numeral.wordBound]
      omega
    have hall := Numeral.extend_eq hroom 0
    rwa [hvalue, Nat.zero_mul, Nat.zero_add, Nat.zero_add] at hall
  simp only [Numeral.value?, NumeralText.numeral, intText, hextend]
  generalize hm : n.natAbs = m
  by_cases hn : n < 0
  · have hvalue : -(m : Int) = n := by omega
    have hfits : ¬ (m = 0 ∨ 9223372036854775808 < m) := by omega
    simp [hn, hfits, hvalue]
  · have hvalue : (m : Int) = n := by omega
    simp [hn, hvalue]

end PgGateway.Json
