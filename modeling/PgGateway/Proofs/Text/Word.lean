import PgGateway.Text.Blank
import PgGateway.Text.Word
import Mathlib.Tactic.Common

set_option autoImplicit false

/-!
# Words of a text

The words of a text are found between its other characters, so a character that is no part of a
word divides the text into two whose words are found apart.

## Main results

* `PgGateway.Text.isWordChar_of_isBlank` — blanks are no part of a word.
* `PgGateway.Text.words_append_cons` — the words on the two sides of a character that is none.
-/

namespace PgGateway.Text

/-- The numbers of the blanks. -/
def blankNumbers : List Nat :=
  [9, 10, 11, 12, 13, 0x20, 0x85, 0xA0, 0x1680, 0x2000, 0x2001, 0x2002, 0x2003, 0x2004, 0x2005,
    0x2006, 0x2007, 0x2008, 0x2009, 0x200A, 0x2028, 0x2029, 0x202F, 0x205F, 0x3000]

/-- The number of a blank is one of them. -/
lemma toNat_mem_blankNumbers {c : Char} (h : isBlank c = true) : c.toNat ∈ blankNumbers := by
  simp only [isBlank, Bool.or_eq_true, Bool.and_eq_true, decide_eq_true_eq, beq_iff_eq] at h
  simp only [blankNumbers, List.mem_cons, List.not_mem_nil, or_false]
  omega

/-- Blanks are no part of a word. -/
theorem isWordChar_of_isBlank {c : Char} (h : isBlank c = true) : isWordChar c = false := by
  have hnone : ∀ n ∈ blankNumbers, wordBounds.covers n = false := by decide +kernel
  exact hnone _ (toNat_mem_blankNumbers h)

/-- Blanks are no digits. -/
theorem isDigit_of_isBlank {c : Char} (h : isBlank c = true) : isDigit c = false := by
  have hnone : ∀ n ∈ blankNumbers, digitBounds.covers n = false := by decide +kernel
  exact hnone _ (toNat_mem_blankNumbers h)

/-- A character that is no part of a word does not matter at the beginning. -/
lemma words_cons_of_not {c : Char} (h : isWordChar c = false) (s : List Char) :
    words (c :: s) = words s := by
  rw [words.eq_def]
  simp [h]

/-- The first character of a text that begins with a word is in the first word. -/
lemma words_cons_ne_nil {c : Char} (h : isWordChar c = true) (s : List Char) :
    words (c :: s) ≠ [] := by
  rw [words.eq_def]
  cases s with
  | nil => simp [h]
  | cons d s =>
    simp only [h, if_true]
    split
    · split <;> simp
    · simp

/-- **The words on two sides.** A character that is no part of a word divides the words of a text
into those before it and those behind it. -/
theorem words_append_cons {z : Char} (h : isWordChar z = false) (u s : List Char) :
    words (u ++ z :: s) = words u ++ words s := by
  induction u with
  | nil => exact words_cons_of_not h s
  | cons c u ih =>
    by_cases hc : isWordChar c = true
    · cases u with
      | nil => simp [words, hc, h]
      | cons d u =>
        rw [List.cons_append] at ih
        rw [List.cons_append, List.cons_append, words.eq_def, words.eq_def (c :: d :: u)]
        by_cases hd : isWordChar d = true
        · obtain ⟨first, rest, hwords⟩ := List.exists_cons_of_ne_nil (words_cons_ne_nil hd u)
          simp [hc, hd, ih, hwords]
        · simp [hc, hd, ih]
    · rw [Bool.not_eq_true] at hc
      rw [List.cons_append, words_cons_of_not hc, words_cons_of_not hc, ih]

/-- Characters at the end that are no part of a word do not matter. -/
theorem words_append_of_forall {tail : List Char} (h : ∀ c ∈ tail, isWordChar c = false)
    (s : List Char) : words (s ++ tail) = words s := by
  induction tail generalizing s with
  | nil => rw [List.append_nil]
  | cons z tail ih =>
    rw [List.forall_mem_cons] at h
    have htail : words tail = [] := ih h.2 []
    rw [words_append_cons h.1, htail, List.append_nil]

end PgGateway.Text
