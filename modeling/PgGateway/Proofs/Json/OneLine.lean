import PgGateway.Json.Written
import Mathlib.Tactic.Common

set_option autoImplicit false

/-!
# Compact JSON stays on one line

The compact form of a value has no control character below the space: those in strings are written
as escapes, and nothing else has any. In particular it has no line feed.

## Main definitions

* `PgGateway.Text.IsPlain` — a text without control characters below the space.

## Main results

* `PgGateway.Json.isPlain_chars` — the compact form of every value is plain.
* `PgGateway.Text.IsPlain.newline_not_mem` — a plain text stays on one line.
-/

namespace PgGateway

namespace Text

/-- Whether a text has no control character below the space. -/
def IsPlain (s : List Char) : Prop :=
  ∀ c ∈ s, 0x20 ≤ c.toNat

/-- A text without characters is plain. -/
@[simp] lemma isPlain_nil : IsPlain [] := by
  simp [IsPlain]

/-- A text is plain if its first character and the rest are. -/
@[simp] lemma isPlain_cons {c : Char} {s : List Char} :
    IsPlain (c :: s) ↔ 0x20 ≤ c.toNat ∧ IsPlain s := by
  simp [IsPlain]

/-- A text is plain if its parts are. -/
@[simp] lemma isPlain_append {s t : List Char} : IsPlain (s ++ t) ↔ IsPlain s ∧ IsPlain t := by
  simp [IsPlain, or_imp, forall_and]

/-- What is made of each character is plain if each part is. -/
lemma isPlain_flatMap {α : Type} {f : α → List Char} {items : List α}
    (h : ∀ a ∈ items, IsPlain (f a)) : IsPlain (items.flatMap f) := by
  intro c hc
  obtain ⟨a, ha, hca⟩ := List.mem_flatMap.mp hc
  exact h a ha c hca

/-- A text whose characters are from a plain one is plain. -/
lemma IsPlain.mono {s t : List Char} (h : IsPlain t) (hst : ∀ c ∈ s, c ∈ t) : IsPlain s :=
  fun c hc => h c (hst c hc)

/-- A plain text stays on one line. -/
theorem IsPlain.newline_not_mem {s : List Char} (h : IsPlain s) : '\n' ∉ s := by
  intro hn
  have := h '\n' hn
  revert this
  decide

/-! ## Digits -/

/-- A digit is no control character. -/
lemma le_toNat_digitChar (d : Nat) : 0x20 ≤ (Nat.digitChar d).toNat := by
  have hsmall : ∀ d < 16, 0x20 ≤ (Nat.digitChar d).toNat := by decide
  rcases Nat.lt_or_ge d 16 with hlt | hge
  · exact hsmall d hlt
  · have hstar : Nat.digitChar d = '*' := by
      unfold Nat.digitChar
      repeat rw [if_neg (by omega)]
    rw [hstar]
    decide

/-- The digits of a number are plain.

**Proof sketch.** Strong induction on the number. Below the base it is one digit; from the base on
it is the digits of the quotient and one digit more. -/
lemma isPlain_toDigits {b : Nat} (hb : 1 < b) (n : Nat) : IsPlain (Nat.toDigits b n) := by
  induction n using Nat.strongRecOn with
  | ind n ih =>
    rcases Nat.lt_or_ge n b with hlt | hge
    · rw [Nat.toDigits_of_lt_base hlt]
      simp [le_toNat_digitChar]
    · rw [Nat.toDigits_of_base_le hb hge, isPlain_append]
      exact ⟨ih _ (Nat.div_lt_self (by omega) hb), by simp [le_toNat_digitChar]⟩

end Text

namespace Binary64

open Text

/-- Digits with a point placed into them are plain. -/
lemma isPlain_placed {digits : List Char} (h : IsPlain digits) (lead : Int) :
    IsPlain (placed digits lead) := by
  have hzeros : ∀ n, IsPlain (List.replicate n '0') := by
    intro n c hc
    rw [List.eq_of_mem_replicate hc]
    decide
  have hexp := isPlain_toDigits (b := 10) (by decide) lead.natAbs
  unfold placed
  split
  · have hsign : 0x20 ≤ (if lead < 0 then '-' else '+').toNat := by
      split <;> decide
    rcases digits with _ | ⟨d, _ | ⟨e, rest⟩⟩ <;> simp_all
  · split
    · simp [hzeros, h]
    · dsimp only
      split
      · simp [hzeros, h]
      · simp only [isPlain_append, isPlain_cons]
        exact ⟨h.mono fun c hc => List.mem_of_mem_take hc, by decide,
          h.mono fun c hc => List.mem_of_mem_drop hc⟩

/-- The text of a finite number is plain. -/
lemma isPlain_written (x : Binary64) : IsPlain x.written := by
  have hsign : IsPlain (if x.isNegative then ['-'] else []) := by
    split <;> simp
  unfold written
  dsimp only
  split
  · simp [hsign]
  · refine isPlain_append.mpr ⟨hsign, isPlain_placed ?_ _⟩
    refine (isPlain_toDigits (b := 10) (by decide) x.shortest.digits).mono fun c hc => ?_
    rw [dropEndWhile, List.mem_reverse] at hc
    exact List.mem_reverse.mp ((List.dropWhile_suffix _).subset hc)

end Binary64

namespace Json

open Text

/-- An escaped character is plain. -/
lemma isPlain_escapedChar (c : Char) : IsPlain (escapedChar c) := by
  have hhex := isPlain_toDigits (b := 16) (by decide) c.toNat
  have hzeros : ∀ n, IsPlain (List.replicate n '0') := by
    intro n d hd
    rw [List.eq_of_mem_replicate hd]
    decide
  unfold escapedChar
  repeat' split
  all_goals simp_all [hex]

/-- A string with its quotes is plain. -/
lemma isPlain_stringChars (s : String) : IsPlain (stringChars s) := by
  have hbody : IsPlain (s.toList.flatMap escapedChar) :=
    isPlain_flatMap fun c _ => isPlain_escapedChar c
  simp [stringChars, hbody]

/-- An integer is plain. -/
lemma isPlain_intChars (n : Int) : IsPlain (intChars n) := by
  unfold intChars
  split
  · simp [isPlain_toDigits]
  · simp [isPlain_toDigits]

/-- A value that is not a list and not an object is plain. -/
lemma isPlain_scalarChars (j : Json) : IsPlain (scalarChars j) := by
  unfold scalarChars
  split
  · simp
  · simp
  · exact isPlain_intChars _
  · unfold floatChars
    split
    · exact Binary64.isPlain_written _
    · simp
  · exact isPlain_stringChars _
  · simp

mutual

/-- The compact form of a value is plain. -/
theorem isPlain_chars : ∀ j : Json, IsPlain j.chars
  | .null => isPlain_scalarChars .null
  | .bool value => isPlain_scalarChars (.bool value)
  | .int value => isPlain_scalarChars (.int value)
  | .float value => isPlain_scalarChars (.float value)
  | .str value => isPlain_scalarChars (.str value)
  | .arr items => by
    rw [chars, isPlain_cons]
    exact ⟨by decide, isPlain_itemChars items⟩
  | .obj members => by
    rw [chars, isPlain_cons]
    exact ⟨by decide, isPlain_memberChars members⟩

/-- The items of a list are plain. -/
theorem isPlain_itemChars : ∀ items : List Json, IsPlain (itemChars items)
  | [] => by simp [itemChars]
  | [item] => by simp [itemChars, isPlain_chars item]
  | item :: next :: rest => by
    simp [itemChars, isPlain_chars item, isPlain_itemChars (next :: rest)]

/-- The members of an object are plain. -/
theorem isPlain_memberChars : ∀ members : List (String × Json), IsPlain (memberChars members)
  | [] => by simp [memberChars]
  | [(key, value)] => by simp [memberChars, isPlain_stringChars, isPlain_chars value]
  | (key, value) :: next :: rest => by
    simp [memberChars, isPlain_stringChars, isPlain_chars value, isPlain_memberChars (next :: rest)]

end

end Json

end PgGateway
