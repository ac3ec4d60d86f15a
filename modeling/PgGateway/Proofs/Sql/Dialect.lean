import PgGateway.Proofs.Sql.Comment
import Mathlib.Data.List.TakeWhile

set_option autoImplicit false

/-!
# Dialects of comments

The blanks and comments that a text begins with, by the rules of a dialect: which characters end a
line comment, and where a block comment ends. The longest prefix that is made of them leaves a text
which is found by taking away one of them after the other.

## Main definitions

* `PgGateway.Sql.Dialect` — the rules.
* `PgGateway.Sql.Dialect.IsGap`, `PgGateway.Sql.Dialect.IsGaps` — a blank or comment, and some in a
  row.
* `PgGateway.Sql.Dialect.Leaves` — what is left of a text without some blanks and comments.
* `PgGateway.Sql.Dialect.Removes` — what is left without the longest prefix of them.

## Main results

* `PgGateway.Sql.Dialect.exists_removes` — every text has a longest prefix of blanks and comments.
* `PgGateway.Sql.Dialect.removes_iff` — it is the longest where nothing more can be taken away.
-/

namespace PgGateway.Sql

/-- The rules for comments. A block comment is given from behind its beginning to its end. -/
structure Dialect where
  /-- The characters that end a line comment. -/
  endsLine : Char → Bool
  /-- The block comments. -/
  IsBlock : List Char → Prop
  /-- The text after a block comment. -/
  afterBlock? : List Char → Option (List Char)
  /-- The text after a block comment is what follows one. -/
  afterBlock?_eq_some : ∀ {s t : List Char},
    afterBlock? s = some t ↔ ∃ rest, IsBlock rest ∧ s = rest ++ t

namespace Dialect

variable {d : Dialect}

/-- A blank, a line comment with the character that ends it, or a block comment. -/
inductive IsGap (d : Dialect) : List Char → Prop
  /-- A blank. -/
  | blank {c : Char} (hblank : Text.isBlank c = true) : IsGap d [c]
  /-- A line comment. -/
  | line {text : List Char} {last : Char} (htext : ∀ c ∈ text, d.endsLine c = false)
    (hlast : d.endsLine last = true) : IsGap d ('-' :: '-' :: (text ++ [last]))
  /-- A block comment. -/
  | block {rest : List Char} (hrest : d.IsBlock rest) : IsGap d ('/' :: '*' :: rest)

/-- Some blanks and comments in a row. -/
inductive IsGaps (d : Dialect) : List Char → Prop
  /-- None. -/
  | nil : IsGaps d []
  /-- One and others. -/
  | cons {g gs : List Char} (hgap : d.IsGap g) (hgaps : IsGaps d gs) : IsGaps d (g ++ gs)

/-- What is left of a text when some of the blanks and comments that it begins with are taken away.
A line comment may also end with the text. -/
inductive Leaves (d : Dialect) : List Char → List Char → Prop
  /-- Nothing is taken away. -/
  | refl (s : List Char) : Leaves d s s
  /-- A blank or comment is taken away. -/
  | gap {g s t : List Char} (hgap : d.IsGap g) (hrest : Leaves d s t) : Leaves d (g ++ s) t
  /-- A line comment is taken away that ends with the text. -/
  | unended {text : List Char} (htext : ∀ c ∈ text, d.endsLine c = false) :
    Leaves d ('-' :: '-' :: text) []

/-- What is left of a text when the longest prefix of blanks and comments is taken away. -/
def Removes (d : Dialect) (s t : List Char) : Prop :=
  d.Leaves s t ∧ ∀ u, d.Leaves s u → t.length ≤ u.length

/-- The text after the line of a line comment. -/
def afterLine (d : Dialect) (s : List Char) : List Char :=
  (s.dropWhile fun c => !d.endsLine c).tail

/-- The text after one blank or comment at its start. -/
def after? (d : Dialect) : List Char → Option (List Char)
  | [] => none
  | '-' :: '-' :: s => some (d.afterLine s)
  | '/' :: '*' :: s => d.afterBlock? s
  | c :: s => if Text.isBlank c then some s else none

/-! ## One blank or comment -/

/-- Where no comment can begin, a blank is passed. -/
lemma after?_cons {c : Char} (hdash : c ≠ '-') (hslash : c ≠ '/') (s : List Char) :
    d.after? (c :: s) = if Text.isBlank c then some s else none := by
  unfold after?
  split <;> simp_all

/-- A line goes on over what is no end of it. -/
lemma afterLine_append_of_forall {text : List Char} (htext : ∀ c ∈ text, d.endsLine c = false)
    (s : List Char) : d.afterLine (text ++ s) = d.afterLine s := by
  have hnot : ∀ c ∈ text, (!d.endsLine c) = true := fun c hc => by rw [htext c hc]; rfl
  rw [afterLine, List.dropWhile_append_of_pos hnot, afterLine]

/-- Behind the line of a line comment stands what follows the comment. -/
lemma afterLine_append_cons {text : List Char} {last : Char}
    (htext : ∀ c ∈ text, d.endsLine c = false) (hlast : d.endsLine last = true)
    (s : List Char) : d.afterLine (text ++ last :: s) = s := by
  rw [afterLine_append_of_forall htext, afterLine, List.dropWhile_cons_of_neg (by simp [hlast]),
    List.tail_cons]

/-- Nothing stands behind the last line. -/
lemma afterLine_eq_nil {s : List Char} (h : ∀ c ∈ s, d.endsLine c = false) :
    d.afterLine s = [] := by
  rw [← List.append_nil s, afterLine_append_of_forall h]
  rfl

/-- A text is one line, or it is the first line, the character that ends it, and the text after
it. -/
lemma afterLine_cases (d : Dialect) (s : List Char) :
    (∀ c ∈ s, d.endsLine c = false) ∧ d.afterLine s = [] ∨
      ∃ text last, (∀ c ∈ text, d.endsLine c = false) ∧ d.endsLine last = true ∧
        s = text ++ last :: d.afterLine s := by
  induction s with
  | nil => exact .inl ⟨nofun, rfl⟩
  | cons c s ih =>
    cases hc : d.endsLine c with
    | true =>
      refine .inr ⟨[], c, nofun, hc, ?_⟩
      rw [afterLine, List.dropWhile_cons_of_neg (by simp [hc])]
      rfl
    | false =>
      have hafter : d.afterLine (c :: s) = d.afterLine s := by
        rw [afterLine, List.dropWhile_cons_of_pos (by simp [hc]), afterLine]
      rw [hafter]
      rcases ih with ⟨hline, hend⟩ | ⟨text, last, htext, hlast, hs⟩
      · exact .inl ⟨List.forall_mem_cons.mpr ⟨hc, hline⟩, hend⟩
      · refine .inr ⟨c :: text, last, List.forall_mem_cons.mpr ⟨hc, htext⟩, hlast, ?_⟩
        rw [List.cons_append, ← hs]

/-- A blank or comment is passed as a whole. -/
theorem after?_append {g : List Char} (hgap : d.IsGap g) (s : List Char) :
    d.after? (g ++ s) = some s := by
  cases hgap with
  | @blank c hblank =>
    have hdash : c ≠ '-' := by
      rintro rfl
      exact absurd hblank (by decide)
    have hslash : c ≠ '/' := by
      rintro rfl
      exact absurd hblank (by decide)
    rw [List.singleton_append, after?_cons hdash hslash, if_pos hblank]
  | @line text last htext hlast =>
    change some (d.afterLine (text ++ [last] ++ s)) = some s
    rw [List.append_assoc, List.singleton_append, afterLine_append_cons htext hlast]
  | @block rest hrest => exact d.afterBlock?_eq_some.mpr ⟨rest, hrest, rfl⟩

/-- What is passed is a blank, a comment, or a line comment that ends with the text. -/
theorem after?_eq_some {s t : List Char} (h : d.after? s = some t) :
    (∃ g, d.IsGap g ∧ s = g ++ t) ∨
      t = [] ∧ ∃ text, (∀ c ∈ text, d.endsLine c = false) ∧ s = '-' :: '-' :: text := by
  unfold after? at h
  split at h
  · cases h
  · next s =>
    cases h
    rcases d.afterLine_cases s with ⟨hline, hend⟩ | ⟨text, last, htext, hlast, hs⟩
    · exact .inr ⟨hend, s, hline, rfl⟩
    · refine .inl ⟨'-' :: '-' :: (text ++ [last]), .line htext hlast, ?_⟩
      rw [List.cons_append, List.cons_append, List.append_assoc, List.singleton_append, ← hs]
  · next s =>
    obtain ⟨rest, hrest, rfl⟩ := d.afterBlock?_eq_some.mp h
    exact .inl ⟨_, .block hrest, rfl⟩
  · next c s _ _ =>
    split at h
    · next hblank =>
      cases h
      exact .inl ⟨[c], .blank hblank, rfl⟩
    · cases h

/-- Blanks are blanks in every dialect. -/
lemma isGaps_of_forall_isBlank {s : List Char} (h : ∀ c ∈ s, Text.isBlank c = true) :
    d.IsGaps s := by
  induction s with
  | nil => exact .nil
  | cons c s ih =>
    rw [List.forall_mem_cons] at h
    exact .cons (.blank h.1) (ih h.2)

/-- A blank or comment is not empty. -/
lemma IsGap.length_pos {g : List Char} (hgap : d.IsGap g) : 0 < g.length := by
  cases hgap <;> exact Nat.succ_pos _

/-! ## The longest prefix -/

/-- Something is left that is no longer than the text. -/
lemma Leaves.length_le {s t : List Char} (h : d.Leaves s t) : t.length ≤ s.length := by
  induction h with
  | refl s => exact Nat.le_refl _
  | @gap g s t hgap hrest ih =>
    rw [List.length_append]
    omega
  | unended htext => exact Nat.zero_le _

/-- If nothing can be passed, nothing can be taken away. -/
lemma Leaves.eq_of_after?_eq_none {s t : List Char} (h : d.Leaves s t)
    (hnone : d.after? s = none) : t = s := by
  cases h with
  | refl s => rfl
  | gap hgap hrest =>
    rw [after?_append hgap] at hnone
    cases hnone
  | unended htext => cases hnone

/-- What can be left without the first blank or comment can be left. -/
lemma Leaves.of_after? {s t u : List Char} (hafter : d.after? s = some t) (h : d.Leaves t u) :
    d.Leaves s u := by
  rcases after?_eq_some hafter with ⟨g, hgap, rfl⟩ | ⟨rfl, text, htext, rfl⟩
  · exact .gap hgap h
  · obtain rfl : u = [] := List.eq_nil_of_length_eq_zero (Nat.eq_zero_of_le_zero h.length_le)
    exact .unended htext

/-- What is left of a text is the whole of it or what is left without the first blank or
comment. -/
lemma Leaves.eq_or_of_after? {s t u : List Char} (hafter : d.after? s = some t)
    (h : d.Leaves s u) : u = s ∨ d.Leaves t u := by
  cases h with
  | refl s => exact .inl rfl
  | @gap g s u hgap hrest =>
    rw [after?_append hgap, Option.some.injEq] at hafter
    rw [← hafter]
    exact .inr hrest
  | @unended text htext =>
    have ht : t = [] := (Option.some.inj hafter).symm.trans (afterLine_eq_nil htext)
    rw [ht]
    exact .inr (.refl [])

/-- A text that begins with no blank and no comment is left as it is. -/
lemma removes_of_after?_eq_none {s : List Char} (h : d.after? s = none) : d.Removes s s := by
  refine ⟨.refl s, fun u hu => ?_⟩
  obtain rfl := hu.eq_of_after?_eq_none h
  exact Nat.le_refl _

/-- The first blank or comment belongs to the longest prefix. -/
lemma removes_of_after?_eq_some {s t u : List Char} (hafter : d.after? s = some t)
    (h : d.Removes t u) : d.Removes s u := by
  refine ⟨.of_after? hafter h.1, fun v hv => ?_⟩
  rcases hv.eq_or_of_after? hafter with rfl | hrest
  · exact (Leaves.of_after? hafter h.1).length_le
  · exact h.2 v hrest

/-- What is taken away belongs to the longest prefix. -/
lemma Leaves.removes {s t u : List Char} (h : d.Leaves s t) (hremoves : d.Removes t u) :
    d.Removes s u := by
  induction h with
  | refl s => exact hremoves
  | gap hgap hrest ih => exact removes_of_after?_eq_some (after?_append hgap _) (ih hremoves)
  | @unended text htext =>
    have hafter : d.after? ('-' :: '-' :: text) = some [] :=
      congrArg some (afterLine_eq_nil htext)
    exact removes_of_after?_eq_some hafter hremoves

/-- The text after a blank or comment is shorter than the text. -/
lemma length_lt_of_after? {s t : List Char} (h : d.after? s = some t) : t.length < s.length := by
  rcases after?_eq_some h with ⟨g, hgap, rfl⟩ | ⟨rfl, text, htext, rfl⟩
  · have hpos := hgap.length_pos
    rw [List.length_append]
    omega
  · exact Nat.succ_pos _

/-- **The longest prefix.** Every text has a longest prefix of blanks and comments.

**Proof sketch.** Induction on the length of the text: the first blank or comment belongs to the
longest prefix (`removes_of_after?_eq_some`), and without one the prefix is empty. -/
theorem exists_removes (d : Dialect) (s : List Char) : ∃ t, d.Removes s t := by
  induction hlength : s.length using Nat.strongRecOn generalizing s with
  | _ n ih =>
    cases hafter : d.after? s with
    | none => exact ⟨s, removes_of_after?_eq_none hafter⟩
    | some t =>
      have hlt := length_lt_of_after? hafter
      obtain ⟨u, hu⟩ := ih t.length (by omega) t rfl
      exact ⟨u, removes_of_after?_eq_some hafter hu⟩

/-- What is left is an end of the text. -/
lemma Leaves.isSuffix {s t : List Char} (h : d.Leaves s t) : t <:+ s := by
  induction h with
  | refl s => exact List.suffix_refl s
  | @gap g s t hgap hrest ih => exact ih.trans (List.suffix_append g s)
  | unended htext => exact List.nil_suffix

/-- Only one text is left without the longest prefix. -/
lemma Removes.unique {s t u : List Char} (ht : d.Removes s t) (hu : d.Removes s u) : t = u := by
  have hle := ht.2 u hu.1
  exact (List.suffix_of_suffix_length_le ht.1.isSuffix hu.1.isSuffix hle).eq_of_length_le
    (hu.2 t ht.1)

/-- A text is left without the longest prefix exactly if it can be left and nothing can be taken
from it. -/
theorem removes_iff {s t : List Char} :
    d.Removes s t ↔ d.Leaves s t ∧ ∀ u, d.Leaves t u → u = t := by
  constructor
  · intro h
    obtain ⟨u, hu⟩ := exists_removes d t
    obtain rfl : t = u := h.unique (h.1.removes hu)
    exact ⟨h.1, fun v hv => hv.isSuffix.eq_of_length_le (hu.2 v hv)⟩
  · rintro ⟨hleaves, hstop⟩
    obtain ⟨u, hu⟩ := exists_removes d t
    rw [hstop u hu.1] at hu
    exact hleaves.removes hu

end Dialect

end PgGateway.Sql
