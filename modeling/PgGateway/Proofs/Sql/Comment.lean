import PgGateway.Sql.Comment
import Mathlib.Tactic.Common

set_option autoImplicit false

/-!
# Comments as a database reads them

Blanks and comments by the rules of PostgreSQL: a line comment ends with a line feed or a carriage
return, and a block comment may span lines and hold other block comments. The gateway skips fewer of
them: a line comment has to end with a line feed, and a block comment at the first `*/` of its first
line.

## Main definitions

* `PgGateway.Sql.afterNested?` — the text after a block comment.
* `PgGateway.Sql.Gap` — a blank or a comment.
* `PgGateway.Sql.Gap.isPlain` — whether the gateway sees the end where the database does.

## Main results

* `PgGateway.Sql.skipGaps_eq` — skipping goes on as long as there is a blank or comment.
* `PgGateway.Sql.gaps_induction` — what holds behind each of them holds of the text.
* `PgGateway.Sql.afterGap?_append` — a plain blank or comment is skipped as a whole.
-/

namespace PgGateway.Sql

/-! ## Skipping -/

/-- The text after the first line is no longer than the text. -/
lemma length_afterLine_le (s : List Char) : (afterLine s).length ≤ s.length := by
  fun_induction afterLine s with
  | case1 => exact Nat.le_refl _
  | case2 s => exact Nat.le_succ _
  | case3 c s hc ih => exact Nat.le_succ_of_le ih

/-- The text after a block comment is shorter than the text. -/
lemma length_lt_of_afterBlock? {s t : List Char} (h : afterBlock? s = some t) :
    t.length < s.length := by
  fun_induction afterBlock? s with
  | case1 => cases h
  | case2 s =>
    cases h
    simp only [List.length_cons]
    omega
  | case3 s hclose => cases h
  | case4 c s hclose hc ih => exact Nat.lt_succ_of_lt (ih h)

/-- Where no comment can begin, a blank is skipped. -/
lemma afterGap?_cons {c : Char} (hdash : c ≠ '-') (hslash : c ≠ '/') (s : List Char) :
    afterGap? (c :: s) = if Text.isBlank c then some s else none := by
  unfold afterGap?
  split <;> simp_all

/-- The text after a blank or comment is shorter than the text. -/
lemma length_lt_of_afterGap? {s t : List Char} (h : afterGap? s = some t) :
    t.length < s.length := by
  unfold afterGap? at h
  split at h
  · cases h
  · next s =>
    cases h
    have hle := length_afterLine_le s
    simp only [List.length_cons]
    omega
  · next s =>
    have hlt := length_lt_of_afterBlock? h
    simp only [List.length_cons]
    omega
  · next c s _ _ =>
    split at h
    · cases h
      exact Nat.lt_succ_self _
    · cases h

/-- How many blanks and comments may be skipped does not matter if they are as many as there are
characters. -/
lemma skipUpTo_congr {m n : Nat} {s : List Char} (hm : s.length ≤ m) (hn : s.length ≤ n) :
    skipUpTo m s = skipUpTo n s := by
  induction m generalizing n s with
  | zero =>
    obtain rfl := List.eq_nil_of_length_eq_zero (Nat.eq_zero_of_le_zero hm)
    cases n <;> rfl
  | succ m ih =>
    cases n with
    | zero =>
      obtain rfl := List.eq_nil_of_length_eq_zero (Nat.eq_zero_of_le_zero hn)
      rfl
    | succ n =>
      rw [skipUpTo, skipUpTo]
      cases hgap : afterGap? s with
      | none => rfl
      | some t =>
        have hlt := length_lt_of_afterGap? hgap
        exact ih (by omega) (by omega)

/-- Skipping goes on after a blank or comment, and stops where there is none. -/
theorem skipGaps_eq (s : List Char) :
    skipGaps s = match afterGap? s with
      | some t => skipGaps t
      | none => s := by
  cases s with
  | nil => rfl
  | cons c s =>
    rw [skipGaps, List.length_cons, skipUpTo]
    cases hgap : afterGap? (c :: s) with
    | none => rfl
    | some t =>
      exact skipUpTo_congr (Nat.le_of_lt_succ (length_lt_of_afterGap? hgap)) (Nat.le_refl _)

/-- Induction on the blanks and comments at the start: there is none, or there is one and another
text behind it. -/
@[elab_as_elim] theorem gaps_induction {motive : List Char → Prop}
    (stop : ∀ s, afterGap? s = none → motive s)
    (skip : ∀ s t, afterGap? s = some t → motive t → motive s) (s : List Char) : motive s := by
  induction hlength : s.length using Nat.strongRecOn generalizing s with
  | _ n ih =>
    cases hgap : afterGap? s with
    | none => exact stop s hgap
    | some t =>
      have hlt := length_lt_of_afterGap? hgap
      exact skip s t hgap (ih t.length (by omega) t rfl)

/-! ## Blanks and comments -/

/-- The text after the end of a block comment that holds the given number of open comments. -/
def afterNested? (depth : Nat) : List Char → Option (List Char)
  | [] => none
  | '/' :: '*' :: s => afterNested? (depth + 1) s
  | '*' :: '/' :: s =>
    match depth with
    | 0 => some s
    | depth + 1 => afterNested? depth s
  | _ :: s => afterNested? depth s

/-- A blank or a comment. -/
inductive Gap where
  /-- A blank. -/
  | blank (c : Char) (isBlank : Text.isBlank c = true)
  /-- A line comment, with the character that ends it. -/
  | line (text : List Char) (last : Char) (isText : ∀ c ∈ text, c ≠ '\n' ∧ c ≠ '\r')
    (isLast : last = '\n' ∨ last = '\r')
  /-- A block comment, from what stands after its beginning to its end. -/
  | block (rest : List Char) (isClosed : afterNested? 0 rest = some [])

namespace Gap

/-- The text of a blank or comment. -/
def chars : Gap → List Char
  | .blank c _ => [c]
  | .line text last _ _ => '-' :: '-' :: (text ++ [last])
  | .block rest _ => '/' :: '*' :: rest

/-- Whether it is a blank. -/
def isSpacing : Gap → Bool
  | .blank _ _ => true
  | .line _ _ _ _ | .block _ _ => false

/-- Whether it ends where the gateway takes it to end. -/
def isPlain : Gap → Bool
  | .blank _ _ => true
  | .line _ last _ _ => last == '\n'
  | .block rest _ => afterBlock? rest == some []

end Gap

/-- The text after the line of a line comment does not depend on the comment. -/
lemma afterLine_append {text : List Char} (htext : '\n' ∉ text) (s : List Char) :
    afterLine (text ++ '\n' :: s) = s := by
  induction text with
  | nil => rfl
  | cons c text ih =>
    rw [List.mem_cons, not_or] at htext
    rw [List.cons_append, afterLine, if_neg (Ne.symm htext.1), ih htext.2]

/-- What stands behind a block comment is left as it is. -/
lemma afterBlock?_append {s t : List Char} (h : afterBlock? s = some t) (rest : List Char) :
    afterBlock? (s ++ rest) = some (t ++ rest) := by
  fun_induction afterBlock? s with
  | case1 => cases h
  | case2 s =>
    cases h
    rfl
  | case3 s hclose => cases h
  | case4 c s hclose hc ih =>
    have hopen : ∀ s', c = '*' → s ++ rest = '/' :: s' → False := by
      intro s' hstar hslash
      cases s with
      | nil => cases h
      | cons d s =>
        rw [List.cons_append, List.cons.injEq] at hslash
        exact hclose s hstar (by rw [hslash.1])
    rw [List.cons_append, afterBlock?.eq_3 c _ hopen, if_neg hc, ih h]

/-- A blank or comment that ends where it is taken to end is skipped as a whole. -/
theorem afterGap?_append {g : Gap} (hplain : g.isPlain = true) (s : List Char) :
    afterGap? (g.chars ++ s) = some s := by
  cases g with
  | blank c hblank =>
    have hdash : c ≠ '-' := by
      rintro rfl
      exact absurd hblank (by decide)
    have hslash : c ≠ '/' := by
      rintro rfl
      exact absurd hblank (by decide)
    rw [Gap.chars, List.singleton_append, afterGap?_cons hdash hslash, if_pos hblank]
  | line text last htext hlast =>
    rw [Gap.isPlain, beq_iff_eq] at hplain
    have hfree : '\n' ∉ text := fun hmem => (htext _ hmem).1 rfl
    change some (afterLine (text ++ [last] ++ s)) = some s
    rw [hplain, List.append_assoc, List.singleton_append, afterLine_append hfree]
  | block rest hclosed =>
    rw [Gap.isPlain, beq_iff_eq] at hplain
    exact afterBlock?_append hplain s

end PgGateway.Sql
