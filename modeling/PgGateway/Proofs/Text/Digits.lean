import PgGateway.Proofs.Text.Cut
import PgGateway.Text.Digits

set_option autoImplicit false

/-!
# Texts of digits

The decimal text of a number has only digits and, unless it is that of zero, does not start with a
zero. That stays so when the zeros at its end are dropped. The number is read back from its text.

## Main definitions

* `PgGateway.Text.IsDigits` — whether a text has only digits.
* `PgGateway.Text.digitValues` — the values of its digits.

## Main results

* `PgGateway.Text.isDigits_toDigits` — the decimal text of a number has only digits.
* `PgGateway.Text.head?_toDigits_ne` — it starts with a zero only if it is that of zero.
* `PgGateway.Text.unsigned?_toDigits` — the number below a bound is read back from it.
-/

namespace PgGateway.Text

/-- Whether a text has only digits. -/
def IsDigits (s : List Char) : Prop :=
  ∀ c ∈ s, (digit? c).isSome

/-- The values of the digits of a text. -/
def digitValues (s : List Char) : List Nat :=
  s.filterMap digit?

/-- A text has only digits if its first character is one and the others are. -/
lemma isDigits_cons {c : Char} {s : List Char} :
    IsDigits (c :: s) ↔ (digit? c).isSome ∧ IsDigits s := by
  simp [IsDigits]

/-- A text has only digits if its parts have. -/
lemma isDigits_append {s t : List Char} : IsDigits (s ++ t) ↔ IsDigits s ∧ IsDigits t := by
  simp [IsDigits, or_imp, forall_and]

/-- Zeros are digits. -/
lemma isDigits_replicate (n : Nat) : IsDigits (List.replicate n '0') := by
  intro c hc
  rw [List.eq_of_mem_replicate hc]
  rfl

/-- A text whose characters are from one that has only digits has only digits. -/
lemma IsDigits.mono {s t : List Char} (h : IsDigits t) (hst : s ⊆ t) : IsDigits s :=
  fun c hc => h c (hst hc)

/-- The first of some digits comes first among their values. -/
lemma digitValues_cons {c : Char} {s : List Char} {d : Nat} (hd : digit? c = some d) :
    digitValues (c :: s) = d :: digitValues s :=
  List.filterMap_cons_some hd

/-- The values of the digits of two texts follow each other. -/
lemma digitValues_append (s t : List Char) :
    digitValues (s ++ t) = digitValues s ++ digitValues t :=
  List.filterMap_append

/-- The values of zeros are zeros. -/
lemma digitValues_replicate (k : Nat) :
    digitValues (List.replicate k '0') = List.replicate k 0 := by
  induction k with
  | zero => rfl
  | succ k ih => rw [List.replicate_succ, digitValues_cons (show digit? '0' = some 0 from rfl), ih,
      List.replicate_succ]

/-- Every digit has a value. -/
lemma length_digitValues {s : List Char} (h : IsDigits s) : (digitValues s).length = s.length := by
  induction s with
  | nil => rfl
  | cons c s ih =>
    obtain ⟨hc, hs⟩ := isDigits_cons.mp h
    obtain ⟨d, hd⟩ := Option.isSome_iff_exists.mp hc
    rw [digitValues_cons hd, List.length_cons, List.length_cons, ih hs]

/-- The digit of a number below ten has this number as its value. -/
lemma digit?_digitChar {d : Nat} (h : d < 10) : digit? (Nat.digitChar d) = some d := by
  have hall : ∀ d < 10, digit? (Nat.digitChar d) = some d := by decide
  exact hall d h

/-- Only the character of zero has the value zero. -/
lemma eq_zero_of_digit?_eq_zero {c : Char} (h : digit? c = some 0) : c = '0' := by
  rw [digit?] at h
  split at h
  · next hrange =>
    rw [Bool.and_eq_true, decide_eq_true_eq, decide_eq_true_eq] at hrange
    have hvalue : c.toNat - '0'.toNat = 0 := Option.some.inj h
    exact Char.toNat_inj.mp (by omega)
  · cases h

/-- The decimal text of a number has only digits.

**Proof sketch.** Strong induction on the number. Below ten it is one digit; from ten on it is the
text of the quotient and one digit more. -/
theorem isDigits_toDigits (n : Nat) : IsDigits (Nat.toDigits 10 n) := by
  induction n using Nat.strongRecOn with
  | ind n ih =>
    rcases Nat.lt_or_ge n 10 with hlt | hge
    · rw [Nat.toDigits_of_lt_base hlt]
      simp [IsDigits, digit?_digitChar hlt]
    · rw [Nat.toDigits_of_base_le (by decide) hge, isDigits_append]
      refine ⟨ih _ (Nat.div_lt_self (by omega) (by decide)), ?_⟩
      simp [IsDigits, digit?_digitChar (Nat.mod_lt n (by decide : 0 < 10))]

/-- The decimal text of a number starts with a zero only if it is that of zero. -/
theorem head?_toDigits_ne {n : Nat} (h : n ≠ 0) : (Nat.toDigits 10 n).head? ≠ some '0' := by
  induction n using Nat.strongRecOn with
  | ind n ih =>
    rcases Nat.lt_or_ge n 10 with hlt | hge
    · rw [Nat.toDigits_of_lt_base hlt]
      have hall : ∀ d < 10, d ≠ 0 → Nat.digitChar d ≠ '0' := by decide
      simpa using hall n hlt h
    · rw [Nat.toDigits_of_base_le (by decide) hge, List.head?_append]
      have hquotient := ih (n / 10) (Nat.div_lt_self (by omega) (by decide)) (by omega)
      cases hhead : (Nat.toDigits 10 (n / 10)).head? with
      | none => exact absurd (List.head?_eq_none_iff.mp hhead) Nat.toDigits_ne_nil
      | some c =>
        rw [hhead] at hquotient
        simpa using hquotient

/-- The value of two texts of digits is that of the second, read after the first. -/
lemma digitsValue?_append (before : Nat) (s t : List Char) :
    digitsValue? before (s ++ t) = (digitsValue? before s).bind (digitsValue? · t) := by
  induction s generalizing before with
  | nil => rfl
  | cons c s ih =>
    rw [List.cons_append, digitsValue?, digitsValue?]
    cases digit? c with
    | none => rfl
    | some d => exact ih (10 * before + d)

/-- A number is the value of its decimal text.

**Proof sketch.** Strong induction on the number, by its last digit. -/
theorem digitsValue?_toDigits (n : Nat) : digitsValue? 0 (Nat.toDigits 10 n) = some n := by
  induction n using Nat.strongRecOn with
  | ind n ih =>
    rcases Nat.lt_or_ge n 10 with hlt | hge
    · rw [Nat.toDigits_of_lt_base hlt, digitsValue?, digit?_digitChar hlt]
      simp [digitsValue?]
    · have hquotient := ih (n / 10) (Nat.div_lt_self (by omega) (by decide))
      have hlast := digit?_digitChar (Nat.mod_lt n (by decide : 0 < 10))
      rw [Nat.toDigits_of_base_le (by decide) hge, digitsValue?_append, hquotient, Option.bind_some,
        digitsValue?, hlast]
      simp only [digitsValue?, Option.some.injEq]
      omega

/-- Digits read after a number make it no smaller. -/
lemma le_of_digitsValue? {before n : Nat} {s : List Char} (h : digitsValue? before s = some n) :
    before ≤ n := by
  induction s generalizing before with
  | nil => exact le_of_eq (Option.some.inj h)
  | cons c s ih =>
    rw [digitsValue?] at h
    split at h
    · have hle := ih h
      omega
    · cases h

/-- Leading zeros do not matter. -/
lemma digitsValue?_replicate (k : Nat) : digitsValue? 0 (List.replicate k '0') = some 0 := by
  induction k with
  | zero => rfl
  | succ k ih => exact ih

/-- What has a value consists of digits. -/
lemma isDigits_of_digitsValue? {before n : Nat} {s : List Char}
    (h : digitsValue? before s = some n) : IsDigits s := by
  induction s generalizing before with
  | nil => nofun
  | cons c s ih =>
    rw [digitsValue?] at h
    split at h
    · next d hd => exact isDigits_cons.mpr ⟨by simp [hd], ih h⟩
    · cases h

/-- The digits of a text that denotes a number stand behind the plus sign that it may begin with. -/
lemma unsigned?_eq_bind (bound : Nat) {s digits : List Char}
    (h : s = '+' :: digits ∨ s = digits ∧ s.head? ≠ some '+') :
    unsigned? bound s = if digits.isEmpty then none else
      (digitsValue? 0 digits).bind fun n => if n < bound then some n else none := by
  rcases h with rfl | ⟨rfl, hplus⟩
  · rw [unsigned?]
    cases digitsValue? 0 digits <;> rfl
  · unfold unsigned?
    dsimp only
    split
    · exact absurd rfl hplus
    · cases digitsValue? 0 s <;> rfl

/-- A text denotes a number if, behind a plus sign that it may begin with, it has digits whose value
is the number, and the number is below the bound. -/
lemma unsigned?_eq_some {bound n : Nat} {s : List Char} :
    unsigned? bound s = some n ↔ ∃ digits, (s = '+' :: digits ∨ s = digits ∧ s.head? ≠ some '+') ∧
      digits ≠ [] ∧ digitsValue? 0 digits = some n ∧ n < bound := by
  have hvalue : ∀ {digits : List Char}, (s = '+' :: digits ∨ s = digits ∧ s.head? ≠ some '+') →
      (unsigned? bound s = some n ↔
        digits ≠ [] ∧ digitsValue? 0 digits = some n ∧ n < bound) := by
    intro digits hdigits
    rw [unsigned?_eq_bind bound hdigits]
    cases digits with
    | nil => simp
    | cons c digits =>
      simp only [List.isEmpty_cons, Bool.false_eq_true, if_false, Option.bind_eq_some_iff,
        Option.ite_none_right_eq_some, Option.some.injEq, ne_eq, reduceCtorEq, not_false_eq_true,
        true_and]
      constructor
      · rintro ⟨m, hm, hlt, rfl⟩
        exact ⟨hm, hlt⟩
      · rintro ⟨hn, hlt⟩
        exact ⟨n, hn, hlt, rfl⟩
  constructor
  · intro h
    have hdigits : ∃ digits, s = '+' :: digits ∨ s = digits ∧ s.head? ≠ some '+' := by
      by_cases hplus : s.head? = some '+'
      · obtain ⟨rest, hrest⟩ := List.head?_eq_some_iff.mp hplus
        exact ⟨rest, .inl hrest⟩
      · exact ⟨s, .inr ⟨rfl, hplus⟩⟩
    obtain ⟨digits, hdigits⟩ := hdigits
    exact ⟨digits, hdigits, (hvalue hdigits).mp h⟩
  · rintro ⟨digits, hdigits, h⟩
    exact (hvalue hdigits).mpr h

/-- The number below a bound is read back from its decimal text. -/
theorem unsigned?_toDigits {bound n : Nat} (h : n < bound) :
    unsigned? bound (Nat.toDigits 10 n) = some n := by
  refine unsigned?_eq_some.mpr
    ⟨_, .inr ⟨rfl, ?_⟩, Nat.toDigits_ne_nil, digitsValue?_toDigits n, h⟩
  intro hplus
  have hdigit := isDigits_toDigits n '+' (List.mem_of_head? hplus)
  exact absurd hdigit (by decide)

/-- A text that denotes a number has only digits and plus signs. -/
lemma mem_of_unsigned? {bound n : Nat} {s : List Char} (h : unsigned? bound s = some n) {c : Char}
    (hc : c ∈ s) : c = '+' ∨ (digit? c).isSome := by
  obtain ⟨digits, hs, -, hvalue, -⟩ := unsigned?_eq_some.mp h
  have hdigits := isDigits_of_digitsValue? hvalue
  rcases hs with rfl | ⟨rfl, -⟩
  · exact (List.mem_cons.mp hc).imp_right (hdigits c)
  · exact .inr (hdigits c hc)

/-- Some digits that do not start with a zero still do so when the zeros at their end are dropped,
and some of them are left. -/
lemma exists_dropEndWhile_zero {s : List Char} (hs : IsDigits s) (hne : s ≠ [])
    (hhead : s.head? ≠ some '0') :
    ∃ c t k, dropEndWhile (· == '0') s = c :: t ∧ s = c :: t ++ List.replicate k '0' ∧ c ≠ '0' ∧
      IsDigits (c :: t) := by
  obtain ⟨back, hback, hzeros⟩ := exists_dropEndWhile_append (· == '0') s
  have hreplicate : back = List.replicate back.length '0' :=
    List.eq_replicate_of_mem fun c hc => by simpa using hzeros c hc
  cases hkept : dropEndWhile (· == '0') s with
  | nil =>
    rw [hkept, List.nil_append] at hback
    obtain ⟨c, t, hct⟩ := List.exists_cons_of_ne_nil hne
    have hc : c ∈ back := by simp [← hback, hct]
    simp only [hct, List.head?_cons, ne_eq, Option.some.injEq] at hhead
    exact absurd (by simpa using hzeros c hc) hhead
  | cons c t =>
    rw [hkept] at hback
    refine ⟨c, t, back.length, rfl, by rw [← hreplicate]; exact hback, ?_, hs.mono ?_⟩
    · rintro rfl
      exact hhead (by rw [hback]; rfl)
    · rw [hback]
      exact List.subset_append_left _ _

end PgGateway.Text
