import PgGateway.Text.Blank
import PgGateway.Text.Cut
import Mathlib.Data.List.DropRight
import Mathlib.Tactic.Common

set_option autoImplicit false

/-!
# Cutting and joining

Pieces of a text and the text they are pieces of, beginnings and endings, what becomes of a
character at the blank ends, and pieces that are joined with other text between them.

## Main definitions

* `PgGateway.Text.IsTrimmed` — whether a text has no blank ends.

## Main results

* `PgGateway.Text.after?_eq_some`, `PgGateway.Text.before?_eq_some` — when a text begins or ends
  with another.
* `PgGateway.Text.length_pieces` — a text has one piece more than it has separators.
* `PgGateway.Text.joined_pieces` — the pieces, joined with the separator, are the text.
* `PgGateway.Text.pieces_joined` — parts that are joined with a separator are its pieces.
* `PgGateway.Text.cutFirst_eq_some` — a cut at a character is made at its first occurrence.
* `PgGateway.Text.cutFirst_append` — what is put behind a text does not move its first cut.
* `PgGateway.Text.cutLast_eq_some` — the last cut is made at the last occurrence of a character.
* `PgGateway.Text.mem_trim` — trimming keeps every character that is not blank.
* `PgGateway.Text.trim_eq_self_iff` — a text is trimmed already exactly if it has no blank ends.
-/

namespace PgGateway.Text

/-! ## Beginnings and endings -/

/-- A text begins with another exactly if it is the other followed by the rest. -/
theorem after?_eq_some {start s rest : List Char} :
    after? start s = some rest ↔ s = start ++ rest := by
  induction start generalizing s with
  | nil => simp [after?]
  | cons a start ih =>
    cases s with
    | nil => simp [after?]
    | cons c s =>
      rw [after?, List.cons_append, List.cons.injEq]
      split
      · next heq => simp [heq, ih]
      · next hne => simp [Ne.symm hne]

/-- A text ends with another exactly if it is the part before followed by the other. -/
theorem before?_eq_some {tail s front : List Char} :
    before? tail s = some front ↔ s = front ++ tail := by
  simp only [before?, Option.map_eq_some_iff, after?_eq_some]
  constructor
  · rintro ⟨rest, hs, rfl⟩
    rw [← List.reverse_reverse s, hs, List.reverse_append, List.reverse_reverse]
  · rintro rfl
    exact ⟨front.reverse, List.reverse_append, List.reverse_reverse front⟩

/-- Two beginnings of one text agree as far as both go. -/
lemma eq_of_mem_zip {a b x y : List Char} (h : a ++ x = b ++ y) : ∀ p ∈ a.zip b, p.1 = p.2 := by
  induction a generalizing b with
  | nil => simp
  | cons c a ih =>
    cases b with
    | nil => simp
    | cons d b =>
      rw [List.cons_append, List.cons_append, List.cons.injEq] at h
      rw [List.zip_cons_cons, List.forall_mem_cons]
      exact ⟨h.1, ih h.2⟩

/-- Texts differ if their beginnings do. -/
lemma append_ne_append {a b : String} (h : ∃ p ∈ a.toList.zip b.toList, p.1 ≠ p.2)
    (x y : String) : a ++ x ≠ b ++ y := by
  intro heq
  obtain ⟨p, hp, hne⟩ := h
  have hchars := congrArg String.toList heq
  rw [String.toList_append, String.toList_append] at hchars
  exact hne (eq_of_mem_zip hchars p hp)

/-! ## Pieces -/

/-- A text has at least one piece. -/
lemma pieces_ne_nil (sep : Char) (s : List Char) : pieces sep s ≠ [] := by
  cases s with
  | nil => simp [pieces]
  | cons c s =>
    simp only [pieces]
    split
    · simp
    · split <;> simp

/-- The pieces of a text that begins with the separator. -/
lemma pieces_cons_self (sep : Char) (s : List Char) :
    pieces sep (sep :: s) = [] :: pieces sep s := by
  simp [pieces]

/-- The pieces of a text that begins with another character. -/
lemma pieces_cons_of_ne {sep c : Char} (h : c ≠ sep) (s : List Char) :
    ∃ first rest, pieces sep s = first :: rest ∧ pieces sep (c :: s) = (c :: first) :: rest := by
  obtain ⟨first, rest, hs⟩ := List.exists_cons_of_ne_nil (pieces_ne_nil sep s)
  exact ⟨first, rest, hs, by simp [pieces, h, hs]⟩

/-- A text has one piece more than it has separators. -/
theorem length_pieces (sep : Char) (s : List Char) :
    (pieces sep s).length = s.count sep + 1 := by
  induction s with
  | nil => rfl
  | cons c s ih =>
    by_cases hc : c = sep
    · rw [hc, pieces_cons_self, List.length_cons, ih, List.count_cons_self]
    · obtain ⟨first, rest, hs, hcs⟩ := pieces_cons_of_ne hc s
      rw [hcs, List.length_cons, ← List.length_cons, ← hs, ih, List.count_cons_of_ne hc]

/-- The pieces of a text, joined with the separator, are the text. -/
theorem joined_pieces (sep : Char) (s : List Char) : joined [sep] (pieces sep s) = s := by
  induction s with
  | nil => rfl
  | cons c s ih =>
    by_cases hc : c = sep
    · obtain ⟨first, rest, hs⟩ := List.exists_cons_of_ne_nil (pieces_ne_nil sep s)
      rw [hc, pieces_cons_self, hs, joined, ← hs, ih, List.nil_append, List.singleton_append]
    · obtain ⟨first, rest, hs, hcs⟩ := pieces_cons_of_ne hc s
      rw [hs] at ih
      rw [hcs]
      cases rest with
      | nil => rw [joined] at ih ⊢; rw [ih]
      | cons next rest =>
        rw [joined] at ih ⊢
        rw [List.cons_append, List.cons_append, ih]

/-- A beginning without the separator is the first piece. -/
lemma pieces_append_sep {sep : Char} {first : List Char} (h : sep ∉ first) (rest : List Char) :
    pieces sep (first ++ sep :: rest) = first :: pieces sep rest := by
  induction first with
  | nil => rw [List.nil_append, pieces_cons_self]
  | cons c first ih =>
    rw [List.mem_cons, not_or] at h
    obtain ⟨head, tail, hs, hcs⟩ := pieces_cons_of_ne (Ne.symm h.1) (first ++ sep :: rest)
    rw [ih h.2] at hs
    obtain ⟨rfl, rfl⟩ := List.cons.inj hs
    rw [List.cons_append, hcs]

/-- A text without the separator is its only piece. -/
lemma pieces_eq_singleton {sep : Char} {s : List Char} (h : sep ∉ s) : pieces sep s = [s] := by
  induction s with
  | nil => rfl
  | cons c s ih =>
    rw [List.mem_cons, not_or] at h
    rw [pieces, if_neg (Ne.symm h.1), ih h.2]

/-- The pieces of a text that is joined with the separator are what was joined, if no part has the
separator in it. -/
theorem pieces_joined {sep : Char} {parts : List (List Char)} (hne : parts ≠ [])
    (h : ∀ part ∈ parts, sep ∉ part) : pieces sep (joined [sep] parts) = parts := by
  induction parts with
  | nil => exact absurd rfl hne
  | cons part parts ih =>
    rw [List.forall_mem_cons] at h
    cases parts with
    | nil => exact pieces_eq_singleton h.1
    | cons next rest =>
      rw [joined, List.append_assoc, List.singleton_append, pieces_append_sep h.1,
        ih (List.cons_ne_nil next rest) h.2]

/-! ## The first cut -/

/-- A text begins with a character only if it is the first one. -/
lemma after?_singleton_cons (sep c : Char) (s : List Char) :
    after? [sep] (c :: s) = if sep = c then some s else none := by
  simp [after?]

/-- A cut at a character is made at its first occurrence. -/
theorem cutFirst_eq_some {sep : Char} {s left right : List Char} :
    cutFirst [sep] s = some (left, right) ↔ s = left ++ sep :: right ∧ sep ∉ left := by
  induction s generalizing left with
  | nil => simp [cutFirst, after?]
  | cons c s ih =>
    rw [cutFirst, after?_singleton_cons]
    by_cases hc : sep = c
    · subst hc
      cases left with
      | nil => simp [eq_comm]
      | cons d left =>
        have : sep :: s = d :: left ++ sep :: right → ¬ sep ∉ d :: left := by
          intro h hmem
          rw [List.cons_append, List.cons.injEq] at h
          exact hmem (by simp [h.1])
        simpa using this
    · cases left with
      | nil => simp [hc, Ne.symm hc]
      | cons d left =>
        simp only [if_neg hc, Option.map_eq_some_iff, Prod.mk.injEq, Prod.exists, List.cons.injEq,
          List.cons_append, List.mem_cons, not_or]
        constructor
        · rintro ⟨l, r, hcut, ⟨rfl, rfl⟩, rfl⟩
          obtain ⟨hs, hl⟩ := ih.mp hcut
          exact ⟨⟨rfl, hs⟩, hc, hl⟩
        · rintro ⟨⟨rfl, hs⟩, -, hl⟩
          exact ⟨left, right, ih.mpr ⟨hs, hl⟩, ⟨rfl, rfl⟩, rfl⟩

/-- A text that cannot be cut at a character does not have it. -/
theorem cutFirst_eq_none {sep : Char} {s : List Char} : cutFirst [sep] s = none ↔ sep ∉ s := by
  induction s with
  | nil => simp [cutFirst, after?]
  | cons c s ih =>
    rw [cutFirst, after?_singleton_cons]
    by_cases hc : sep = c
    · simp [hc]
    · simp [hc, ih]

/-- What is put behind a text goes on behind what it begins with, if it is long enough to begin with
that by itself. -/
lemma after?_append_of_length_le {start s : List Char} (h : start.length ≤ s.length)
    (t : List Char) : after? start (s ++ t) = (after? start s).map (· ++ t) := by
  induction start generalizing s with
  | nil => rfl
  | cons a start ih =>
    cases s with
    | nil => simp at h
    | cons c s =>
      rw [List.length_cons, List.length_cons] at h
      rw [List.cons_append, after?, after?]
      split
      · exact ih (by omega)
      · rfl

/-- A text that can be cut consists of what stands before the separator, the separator, and the
rest. -/
theorem eq_append_of_cutFirst {sep s left right : List Char}
    (h : cutFirst sep s = some (left, right)) : s = left ++ (sep ++ right) := by
  induction s generalizing left with
  | nil =>
    obtain ⟨rest, hrest, heq⟩ := Option.map_eq_some_iff.mp h
    cases heq
    rw [List.nil_append]
    exact after?_eq_some.mp hrest
  | cons c s ih =>
    rw [cutFirst] at h
    split at h
    · next rest hrest =>
      cases h
      rw [List.nil_append]
      exact after?_eq_some.mp hrest
    · obtain ⟨⟨l, r⟩, hcut, heq⟩ := Option.map_eq_some_iff.mp h
      cases heq
      rw [ih hcut, List.cons_append]

/-- **The first cut stays.** What is put behind a text that can be cut does not move the cut.

**Proof sketch.** Induction on the text. No separator begins before the cut, since one that is
completed by what is put behind would leave no room for the one at the cut. -/
theorem cutFirst_append {sep s left right : List Char} (h : cutFirst sep s = some (left, right))
    (t : List Char) : cutFirst sep (s ++ t) = some (left, right ++ t) := by
  have hlength : sep.length ≤ s.length := by
    rw [eq_append_of_cutFirst h]
    simp only [List.length_append]
    omega
  induction s generalizing left with
  | nil =>
    obtain rfl : sep = [] := List.length_eq_zero_iff.mp (Nat.le_zero.mp hlength)
    cases h
    cases t <;> rfl
  | cons c s ih =>
    rw [List.cons_append, cutFirst, ← List.cons_append, after?_append_of_length_le hlength]
    rw [cutFirst] at h
    split at h
    · next rest hrest =>
      cases h
      rw [hrest]
      rfl
    · next hnone =>
      obtain ⟨⟨l, r⟩, hcut, heq⟩ := Option.map_eq_some_iff.mp h
      cases heq
      have hshort : sep.length ≤ s.length := by
        rw [eq_append_of_cutFirst hcut]
        simp only [List.length_append]
        omega
      rw [hnone]
      simp only [Option.map_none]
      rw [ih hcut hshort]
      rfl

/-- A text without the first character of a separator is cut behind itself. -/
theorem cutFirst_append_of_not_mem {c : Char} {sep left : List Char} (h : c ∉ left)
    (right : List Char) :
    cutFirst (c :: sep) (left ++ (c :: sep ++ right)) = some (left, right) := by
  induction left with
  | nil =>
    have hsep : after? (c :: sep) (c :: sep ++ right) = some right := after?_eq_some.mpr rfl
    rw [List.nil_append, List.cons_append, cutFirst, ← List.cons_append, hsep]
  | cons d left ih =>
    rw [List.mem_cons, not_or] at h
    rw [List.cons_append, cutFirst, after?, if_neg h.1, ih h.2]
    rfl

/-! ## The last cut -/

/-- A text that has no last cut at a character does not have it. -/
theorem cutLast_eq_none {sep : Char} {s : List Char} : cutLast sep s = none ↔ sep ∉ s := by
  induction s with
  | nil => simp [cutLast]
  | cons c s ih =>
    rw [cutLast, List.mem_cons, not_or, ← ih]
    cases cutLast sep s with
    | some p => simp
    | none => simp [eq_comm]

/-- The last cut at a character is made at its last occurrence. -/
theorem cutLast_eq_some {sep : Char} {s left right : List Char} :
    cutLast sep s = some (left, right) ↔ s = left ++ sep :: right ∧ sep ∉ right := by
  induction s generalizing left right with
  | nil => simp [cutLast]
  | cons c s ih =>
    rw [cutLast]
    cases hcut : cutLast sep s with
    | some p =>
      obtain ⟨l, r⟩ := p
      obtain ⟨hs, hr⟩ := ih.mp hcut
      cases left with
      | nil =>
        have hmem : sep ∈ s := by simp [hs]
        refine iff_of_false (by simp) ?_
        rintro ⟨heq, hright⟩
        exact hright ((List.cons.inj heq).2 ▸ hmem)
      | cons d left =>
        have htail := @ih left right
        rw [hcut, Option.some.injEq, Prod.mk.injEq] at htail
        simp only [Option.some.injEq, Prod.mk.injEq, List.cons.injEq, List.cons_append, and_assoc]
        rw [htail]
    | none =>
      have hmem := cutLast_eq_none.mp hcut
      cases left with
      | nil =>
        by_cases hc : c = sep
        · rw [if_pos hc, hc, List.nil_append]
          simp only [Option.some.injEq, Prod.mk.injEq, List.cons.injEq, true_and]
          exact ⟨fun h => ⟨h, h ▸ hmem⟩, fun h => h.1⟩
        · simp [hc]
      | cons d left =>
        refine iff_of_false ?_ ?_
        · dsimp only
          split <;> simp
        · rintro ⟨heq, -⟩
          rw [(List.cons.inj heq).2] at hmem
          simp at hmem

/-! ## Trimming -/

/-- Dropping blanks keeps every character that is not blank. -/
lemma mem_dropWhile_isBlank {c : Char} (h : isBlank c = false) (s : List Char) :
    c ∈ s.dropWhile isBlank ↔ c ∈ s := by
  induction s with
  | nil => rfl
  | cons d s ih =>
    by_cases hd : isBlank d = true
    · have hne : c ≠ d := by rintro rfl; rw [h] at hd; cases hd
      rw [List.dropWhile_cons_of_pos hd, ih, List.mem_cons, or_iff_right hne]
    · rw [List.dropWhile_cons_of_neg hd]

/-- Trimming keeps every character that is not blank. -/
theorem mem_trim {c : Char} (h : isBlank c = false) (s : List Char) : c ∈ trim s ↔ c ∈ s := by
  rw [trim, trimEnd, dropEndWhile, List.mem_reverse, mem_dropWhile_isBlank h, List.mem_reverse,
    trimStart, mem_dropWhile_isBlank h]

/-- A text is what is left of it without some last characters, and these characters. -/
lemma exists_dropEndWhile_append (p : Char → Bool) (s : List Char) :
    ∃ back, s = dropEndWhile p s ++ back ∧ ∀ c ∈ back, p c = true := by
  refine ⟨(s.reverse.takeWhile p).reverse, ?_, fun c hc => ?_⟩
  · rw [dropEndWhile, ← List.reverse_append, List.takeWhile_append_dropWhile, List.reverse_reverse]
  · exact List.mem_takeWhile_imp (List.mem_reverse.mp hc)

/-- A text is the trimmed text between blanks. -/
lemma exists_append_trim_append (s : List Char) :
    ∃ front back, s = front ++ (trim s ++ back) ∧ (∀ c ∈ front, isBlank c = true) ∧
      ∀ c ∈ back, isBlank c = true := by
  obtain ⟨back, hback, hblank⟩ := exists_dropEndWhile_append isBlank (trimStart s)
  refine ⟨s.takeWhile isBlank, back, ?_, fun c hc => List.mem_takeWhile_imp hc, hblank⟩
  rw [trim, trimEnd, ← hback, trimStart, List.takeWhile_append_dropWhile]

/-- Nothing is left of a text exactly if all of it is blank. -/
lemma trim_eq_nil_iff {s : List Char} : trim s = [] ↔ ∀ c ∈ s, isBlank c = true := by
  constructor
  · intro h c hc
    by_contra hblank
    rw [Bool.not_eq_true] at hblank
    rw [← mem_trim hblank, h] at hc
    cases hc
  · intro h
    rw [trim, trimStart, List.dropWhile_eq_nil_iff.mpr h]
    rfl

/-- Whether a text has no blank ends. -/
def IsTrimmed (s : List Char) : Prop :=
  s.head?.any isBlank = false ∧ s.getLast?.any isBlank = false

instance (s : List Char) : Decidable (IsTrimmed s) :=
  inferInstanceAs (Decidable (_ ∧ _))

/-- A text keeps its beginning exactly if it does not begin with what is dropped. -/
lemma dropWhile_eq_self {p : Char → Bool} {s : List Char} :
    s.dropWhile p = s ↔ s.head?.any p = false := by
  cases s with
  | nil => simp
  | cons c s =>
    rw [List.head?_cons, Option.any_some]
    constructor
    · intro h
      by_contra hdropped
      rw [List.dropWhile_cons_of_pos (by simpa using hdropped)] at h
      have hlength := (List.dropWhile_suffix p (l := s)).length_le
      rw [h, List.length_cons] at hlength
      omega
    · exact fun h => List.dropWhile_cons_of_neg (by simp [h])

/-- A text keeps its end exactly if it does not end with what is dropped. -/
lemma dropEndWhile_eq_self {p : Char → Bool} {s : List Char} :
    dropEndWhile p s = s ↔ s.getLast?.any p = false := by
  rw [← List.head?_reverse, ← dropWhile_eq_self, dropEndWhile, List.reverse_eq_iff]

/-- What is left of a text does not end with what is dropped. -/
lemma getLast?_dropEndWhile_any (p : Char → Bool) (s : List Char) :
    (dropEndWhile p s).getLast?.any p = false := by
  rw [← dropEndWhile_eq_self, dropEndWhile, dropEndWhile, List.reverse_reverse,
    List.dropWhile_idempotent p _]

/-- A text loses what is dropped at its end, however it is followed by the same. -/
lemma dropEndWhile_append_of_forall {p : Char → Bool} {back : List Char}
    (h : ∀ c ∈ back, p c = true) (s : List Char) :
    dropEndWhile p (s ++ back) = dropEndWhile p s := by
  rw [dropEndWhile, List.reverse_append, List.dropWhile_append_of_pos, dropEndWhile]
  exact fun c hc => h c (List.mem_reverse.mp hc)

/-- A text keeps its end exactly if it does not end with a blank. -/
lemma trimEnd_eq_self {s : List Char} : trimEnd s = s ↔ s.getLast?.any isBlank = false :=
  dropEndWhile_eq_self

/-- Blanks are dropped at the beginning of a text only before its first other character. -/
lemma trimStart_append_cons {sep : Char} (hsep : isBlank sep = false) (left right : List Char) :
    trimStart (left ++ sep :: right) = trimStart left ++ sep :: right := by
  rw [trimStart, List.dropWhile_append, List.dropWhile_cons_of_neg (by simp [hsep]), trimStart]
  split
  · next hnil => rw [List.isEmpty_iff.mp hnil, List.nil_append]
  · rfl

/-- Whether a text ends with what is dropped is told behind any character that is not dropped. -/
lemma getLast?_append_cons_any {p : Char → Bool} {sep : Char} (hsep : p sep = false)
    (left right : List Char) : (left ++ sep :: right).getLast?.any p = right.getLast?.any p := by
  cases hright : right.getLast? with
  | none => simpa [List.getLast?_eq_none_iff.mp hright] using hsep
  | some c => simp [List.getLast?_cons, hright]

/-- Blanks at the end of a text stay if it goes on behind them.

**Proof sketch.** The beginning is trimmed as if the text did not go on. What is dropped at its end
are the blanks that stay, and there are none exactly if it does not end with one, because something
is left of it. -/
lemma exists_trim_append_cons {s : List Char} (hs : trim s ≠ []) :
    ∃ back, (∀ c ∈ back, isBlank c = true) ∧ (back = [] ↔ s.getLast?.any isBlank = false) ∧
      ∀ {sep : Char} {right : List Char}, isBlank sep = false →
        right.getLast?.any isBlank = false →
          trim (s ++ sep :: right) = trim s ++ (back ++ sep :: right) := by
  obtain ⟨back, hback, hblank⟩ := exists_dropEndWhile_append isBlank (trimStart s)
  have hstart : trimStart s = trim s ++ back := hback
  have hsplit : s = s.takeWhile isBlank ++ (trim s ++ back) := by
    rw [← hstart, trimStart, List.takeWhile_append_dropWhile]
  refine ⟨back, hblank, ?_, fun hsep hright => ?_⟩
  · rw [hsplit, List.getLast?_append_of_ne_nil _ (by simp [hs])]
    constructor
    · rintro rfl
      rw [List.append_nil]
      exact getLast?_dropEndWhile_any isBlank (trimStart s)
    · intro hend
      by_contra hne
      rw [List.getLast?_append_of_ne_nil _ hne, List.getLast?_eq_some_getLast hne, Option.any_some,
        hblank _ (List.getLast_mem hne)] at hend
      cases hend
  · rw [trim, trimStart_append_cons hsep, hstart, List.append_assoc, trimEnd_eq_self,
      ← List.append_assoc, getLast?_append_cons_any hsep, hright]

/-- **Trimmed texts.** A text is trimmed already exactly if it has no blank ends.

**Proof sketch.** What is left of the text is a part of it. If it is all of the text then nothing
was dropped at the beginning, and so nothing at the end. -/
theorem trim_eq_self_iff {s : List Char} : trim s = s ↔ IsTrimmed s := by
  rw [IsTrimmed, ← dropWhile_eq_self, ← trimEnd_eq_self]
  constructor
  · intro h
    have hsuffix : trimStart s <:+ s := List.dropWhile_suffix isBlank
    obtain ⟨back, hback, -⟩ := exists_dropEndWhile_append isBlank (trimStart s)
    have hlength := congrArg List.length hback
    rw [show dropEndWhile isBlank (trimStart s) = s from h, List.length_append] at hlength
    have hstart : trimStart s = s := hsuffix.eq_of_length_le (by omega)
    exact ⟨hstart, by rwa [trim, hstart] at h⟩
  · rintro ⟨hstart, hend⟩
    rw [trim, show trimStart s = s from hstart, hend]

/-- Blanks around a text are dropped with its own. -/
lemma trim_append_append {front back : List Char} (hfront : ∀ c ∈ front, isBlank c = true)
    (hback : ∀ c ∈ back, isBlank c = true) (s : List Char) :
    trim (front ++ (s ++ back)) = trim s := by
  have hstart : trimStart (front ++ (s ++ back)) = trimStart (s ++ back) :=
    List.dropWhile_append_of_pos hfront
  unfold trim
  rw [hstart]
  unfold trimStart
  rw [List.dropWhile_append]
  split
  · next hempty =>
    -- all of the text is blank, and so is what follows
    rw [List.isEmpty_iff.mp hempty, List.dropWhile_eq_nil_iff.mpr hback]
  · exact dropEndWhile_append_of_forall hback (s.dropWhile isBlank)

/-- A text without blanks keeps both its ends. -/
lemma trim_eq_self_of_forall {s : List Char} (h : ∀ c ∈ s, isBlank c = false) : trim s = s := by
  have hnil : ∀ {t : List Char}, t ⊆ s → (∀ c ∈ t, isBlank c = true) → t = [] := by
    intro t hsub hblank
    refine List.eq_nil_iff_forall_not_mem.mpr fun c hc => ?_
    have := h c (hsub hc)
    rw [hblank c hc] at this
    cases this
  obtain ⟨front, back, hs, hfront, hback⟩ := exists_append_trim_append s
  have hfrontNil : front = [] := hnil (fun c hc => hs ▸ List.mem_append_left _ hc) hfront
  have hbackNil : back = [] :=
    hnil (fun c hc => hs ▸ List.mem_append_right _ (List.mem_append_right _ hc)) hback
  rw [hfrontNil, hbackNil, List.nil_append, List.append_nil] at hs
  exact hs.symm

/-- What is put behind a text without blanks at its end loses its own blanks. -/
lemma trimEnd_append {front : List Char} (h : front.getLast?.any isBlank = false)
    (s : List Char) : trimEnd (front ++ s) = front ++ trimEnd s := by
  obtain ⟨back, hback, hblank⟩ := exists_dropEndWhile_append isBlank s
  have hend : (front ++ trimEnd s).getLast?.any isBlank = false := by
    rcases List.eq_nil_or_concat (trimEnd s) with hnil | ⟨init, last, hlast⟩
    · rwa [hnil, List.append_nil]
    · have := getLast?_dropEndWhile_any isBlank s
      rw [← trimEnd, hlast, List.concat_eq_append] at this
      rw [hlast, List.concat_eq_append, ← List.append_assoc, List.getLast?_concat]
      rwa [List.getLast?_concat] at this
  conv_lhs => rw [hback, ← List.append_assoc]
  rw [trimEnd, dropEndWhile_append_of_forall hblank]
  exact trimEnd_eq_self.mpr hend

/-- What is put behind a text without blank ends loses the blanks at its end only. -/
lemma trim_append {front : List Char} (hne : front ≠ []) (h : IsTrimmed front) (s : List Char) :
    trim (front ++ s) = front ++ trimEnd s := by
  have hstart : trimStart (front ++ s) = front ++ s := by
    rw [trimStart, dropWhile_eq_self, List.head?_append_of_ne_nil front hne]
    exact h.1
  rw [trim, hstart]
  exact trimEnd_append h.2 s

/-- Two texts in a row have no blank ends exactly if the first does not begin with a blank and the
second does not end with one. -/
lemma isTrimmed_append {a b : List Char} (ha : a ≠ []) (hb : b ≠ []) :
    IsTrimmed (a ++ b) ↔ a.head?.any isBlank = false ∧ b.getLast?.any isBlank = false := by
  rw [IsTrimmed, List.head?_append_of_ne_nil a ha, List.getLast?_append_of_ne_nil a hb]

/-- Two texts with a character between them that is not blank have no blank ends exactly if the
first does not begin with a blank and the second does not end with one. -/
lemma isTrimmed_append_cons {left right : List Char} {sep : Char} (hsep : isBlank sep = false) :
    IsTrimmed (left ++ sep :: right) ↔
      left.head?.any isBlank = false ∧ right.getLast?.any isBlank = false := by
  have hhead : (left ++ sep :: right).head?.any isBlank = left.head?.any isBlank := by
    cases left with
    | nil => simpa using hsep
    | cons c left => rfl
  rw [IsTrimmed, hhead, getLast?_append_cons_any hsep]

/-! ## Joining -/

section Joining

variable {α β : Type}

/-- Joining is the intercalation of lists. -/
lemma joined_eq_intercalate (glue : List Char) (parts : List (List Char)) :
    joined glue parts = glue.intercalate parts := by
  fun_induction joined glue parts with
  | case1 => rfl
  | case2 piece => simp [List.intercalate]
  | case3 piece next rest ih => simp [ih, List.intercalate]

/-- Parts that are joined are written one after the other, and so is what lies between them. -/
lemma flatMap_intercalate (f : α → List β) (glue : List α) (parts : List (List α)) :
    (glue.intercalate parts).flatMap f =
      (glue.flatMap f).intercalate (parts.map (·.flatMap f)) := by
  induction parts with
  | nil => rfl
  | cons part parts ih =>
    cases parts with
    | nil => simp [List.intercalate]
    | cons next rest => simp_all [List.intercalate]

/-- Something is joined if the first part is not empty. -/
lemma joined_cons_ne_nil (glue : List Char) {part : List Char} (h : part ≠ [])
    (parts : List (List Char)) : joined glue (part :: parts) ≠ [] := by
  cases parts with
  | nil => exact h
  | cons next rest => simp [joined, h]

/-- Parts that are joined begin as the first of them. -/
lemma head?_joined_cons (glue : List Char) {part : List Char} (h : part ≠ [])
    (parts : List (List Char)) : (joined glue (part :: parts)).head? = part.head? := by
  cases parts with
  | nil => rfl
  | cons next rest => rw [joined, List.append_assoc, List.head?_append_of_ne_nil part h]

/-- Parts without blank ends have none when they are joined. -/
lemma isTrimmed_joined (glue : List Char) {parts : List (List Char)}
    (h : ∀ part ∈ parts, part ≠ [] ∧ IsTrimmed part) : IsTrimmed (joined glue parts) := by
  induction parts with
  | nil => exact ⟨rfl, rfl⟩
  | cons part parts ih =>
    rw [List.forall_mem_cons] at h
    cases parts with
    | nil => exact h.1.2
    | cons next rest =>
      have hnext := joined_cons_ne_nil glue (h.2 next List.mem_cons_self).1 rest
      rw [joined, List.append_assoc, isTrimmed_append h.1.1 (by simp [hnext]),
        List.getLast?_append_of_ne_nil glue hnext]
      exact ⟨h.1.2.1, (ih h.2).2⟩

/-- A separator between parts that do not have it can be replaced. -/
lemma substitute_joined {sep : Char} (image : List Char) {parts : List (List Char)}
    (h : ∀ part ∈ parts, sep ∉ part) :
    substitute sep image (joined [sep] parts) = joined image parts := by
  have hpart : ∀ part ∈ parts, substitute sep image part = part := by
    intro part hmem
    unfold substitute
    rw [List.flatMap_congr (g := fun c => [c]), List.flatMap_singleton']
    intro c hc
    rw [if_neg]
    rintro rfl
    exact h part hmem hc
  unfold substitute at hpart ⊢
  rw [joined_eq_intercalate, joined_eq_intercalate, flatMap_intercalate, List.map_congr_left hpart]
  simp

/-- The image of parts that are joined. -/
lemma map_intercalate (f : α → β) (glue : List α) (parts : List (List α)) :
    (glue.intercalate parts).map f = (glue.map f).intercalate (parts.map (·.map f)) := by
  induction parts with
  | nil => rfl
  | cons part parts ih =>
    cases parts with
    | nil => simp [List.intercalate]
    | cons next rest => simp_all [List.intercalate]

/-- What is in the whole is in a part or in what lies between the parts. -/
lemma mem_of_mem_intercalate {a : α} {glue : List α} {parts : List (List α)}
    (h : a ∈ glue.intercalate parts) : a ∈ glue ∨ ∃ part ∈ parts, a ∈ part := by
  induction parts with
  | nil => simp [List.intercalate] at h
  | cons part parts ih =>
    cases parts with
    | nil => exact .inr ⟨part, by simp, by simpa [List.intercalate] using h⟩
    | cons next rest =>
      have hsplit : a ∈ part ∨ a ∈ glue ∨ a ∈ glue.intercalate (next :: rest) := by
        simpa [List.intercalate] using h
      rcases hsplit with hp | hg | hr
      · exact .inr ⟨part, by simp, hp⟩
      · exact .inl hg
      · rcases ih hr with hg | ⟨p, hp, ha⟩
        · exact .inl hg
        · exact .inr ⟨p, List.mem_cons_of_mem _ hp, ha⟩

end Joining

end PgGateway.Text
