import PgGateway.Text.Cut
import Mathlib.Data.List.Basic
import Mathlib.Tactic.Common

set_option autoImplicit false

/-!
# Parentheses and lists in a text

A list is written with commas between its items, and an item may have parentheses with commas of
their own. A reader of the list therefore counts the parentheses that are open, and only the commas
where none is open divide the list.

## Main definitions

* `PgGateway.Text.IsWellNested` — whether every parenthesis is closed, and none is that is not open.
* `PgGateway.Text.HasInside` — what stands in the outermost parentheses of a text.
* `PgGateway.Text.topPieces` — the pieces of a text between the commas where none is open.
* `PgGateway.Text.IsUndivided` — whether a text is never divided.

## Main results

* `PgGateway.Text.IsWellNested.isUndivided_parenthesized` — a nested text in parentheses is not
  divided.
* `PgGateway.Text.topPieces_joined` — texts that are not divided are the pieces of their list.
-/

namespace PgGateway.Text

/-! ## Nesting -/

/-- Whether the parentheses of a text are nested. -/
structure IsWellNested (s : List Char) : Prop where
  /-- Up to no place more are closed than were opened. -/
  count_le : ∀ front, front <+: s → front.count ')' ≤ front.count '('
  /-- At the end all are closed. -/
  count_eq : s.count ')' = s.count '('

namespace IsWellNested

variable {a b s : List Char}

/-- A text without parentheses is nested. -/
lemma of_not_mem (hopen : '(' ∉ s) (hclose : ')' ∉ s) : IsWellNested s where
  count_le front hfront := by
    rw [List.count_eq_zero.mpr fun hmem => hclose (hfront.subset hmem)]
    exact Nat.zero_le _
  count_eq := by rw [List.count_eq_zero.mpr hclose, List.count_eq_zero.mpr hopen]

/-- Two nested texts in a row are nested. -/
lemma append (ha : IsWellNested a) (hb : IsWellNested b) : IsWellNested (a ++ b) where
  count_le front hfront := by
    rcases List.prefix_or_prefix_of_prefix hfront (List.prefix_append a b) with h | ⟨rest, rfl⟩
    · exact ha.count_le front h
    · have hrest := hb.count_le rest ((List.prefix_append_right_inj a).mp hfront)
      rw [List.count_append, List.count_append, ha.count_eq]
      omega
  count_eq := by rw [List.count_append, List.count_append, ha.count_eq, hb.count_eq]

/-- A nested text in parentheses is nested. -/
lemma parenthesized (h : IsWellNested s) : IsWellNested ('(' :: (s ++ [')'])) where
  count_le front hfront := by
    cases front with
    | nil => exact Nat.le_refl _
    | cons c front =>
      obtain ⟨rfl, hrest⟩ := List.cons_prefix_cons.mp hfront
      rw [List.count_cons_of_ne (by decide), List.count_cons_self]
      rcases List.prefix_concat_iff.mp hrest with rfl | hrest
      · simp [h.count_eq]
      · exact Nat.le_succ_of_le (h.count_le front hrest)
  count_eq := by simp [h.count_eq]

/-- Nested texts are nested when they are joined with one. -/
lemma joined {glue : List Char} (hglue : IsWellNested glue) {parts : List (List Char)}
    (h : ∀ part ∈ parts, IsWellNested part) : IsWellNested (joined glue parts) := by
  induction parts with
  | nil => exact of_not_mem List.not_mem_nil List.not_mem_nil
  | cons part parts ih =>
    rw [List.forall_mem_cons] at h
    cases parts with
    | nil => exact h.1
    | cons next rest => exact (h.1.append hglue).append (ih h.2)

end IsWellNested

/-- Whether a text goes on to its first parenthesis, and this is closed at its end, where `body` is
what stands between the two. -/
def HasInside (s body : List Char) : Prop :=
  ∃ front, s = front ++ '(' :: (body ++ [')']) ∧ '(' ∉ front ∧ ')' ∉ front ∧ IsWellNested body

/-- A text is nested with what stands in its outermost parentheses. -/
lemma HasInside.isWellNested {s body : List Char} (h : HasInside s body) : IsWellNested s := by
  obtain ⟨front, rfl, hopen, hclose, hbody⟩ := h
  exact (IsWellNested.of_not_mem hopen hclose).append hbody.parenthesized

/-! ## Pieces -/

/-- How many parentheses are open behind a character. -/
def openBehind (depth : Nat) (c : Char) : Nat :=
  if c = '(' then depth + 1 else if c = ')' then depth - 1 else depth

/-- The pieces of a text between the commas where no parenthesis is open. -/
def topPieces (depth : Nat) : List Char → List (List Char)
  | [] => [[]]
  | c :: s =>
    if c = ',' ∧ depth = 0 then [] :: topPieces 0 s
    else (topPieces (openBehind depth c) s).modifyHead (c :: ·)

/-- Whether a text is never divided: what follows it is divided as if nothing stood before it, and
the whole text goes with the first piece. -/
def IsUndivided (s : List Char) : Prop :=
  ∀ depth t, topPieces depth (s ++ t) = (topPieces depth t).modifyHead (s ++ ·)

/-- Nothing put before the first piece leaves the pieces as they are. -/
lemma modifyHead_nil_append (parts : List (List Char)) :
    parts.modifyHead ([] ++ ·) = parts := by
  cases parts <;> rfl

/-- What is put before the first piece in two steps is put there at once. -/
lemma modifyHead_append (a b : List Char) (parts : List (List Char)) :
    (parts.modifyHead (b ++ ·)).modifyHead (a ++ ·) = parts.modifyHead ((a ++ b) ++ ·) := by
  cases parts with
  | nil => rfl
  | cons part parts => simp

/-- Where a parenthesis is open, a character that does not close it changes the depth by what it
opens and closes. -/
lemma openBehind_succ {depth : Nat} {c : Char} (h : [c].count ')' ≤ [c].count '(' + depth) :
    openBehind (depth + 1) c = depth + [c].count '(' - [c].count ')' + 1 := by
  rw [List.count_singleton, List.count_singleton] at *
  rw [openBehind]
  by_cases hopen : c = '('
  · subst hopen
    rfl
  · by_cases hclose : c = ')'
    · subst hclose
      simp at h ⊢
      omega
    · simp [hopen, hclose]

/-- Where a parenthesis is open, what closes no more than was opened in it is not divided. -/
lemma topPieces_succ_append {s : List Char} {depth : Nat}
    (h : ∀ front, front <+: s → front.count ')' ≤ front.count '(' + depth) (t : List Char) :
    topPieces (depth + 1) (s ++ t) =
      (topPieces (depth + s.count '(' - s.count ')' + 1) t).modifyHead (s ++ ·) := by
  induction s generalizing depth with
  | nil => exact (modifyHead_nil_append _).symm
  | cons c s ih =>
    have hsplit : ∀ d (u : List Char), (c :: u).count d = [c].count d + u.count d := fun d u => by
      rw [← List.count_append, List.singleton_append]
    have hfirst := h [c] (by simp)
    have hrest : ∀ front, front <+: s → front.count ')' ≤
        front.count '(' + (depth + [c].count '(' - [c].count ')') := by
      intro front hfront
      have hfront := h (c :: front) (List.cons_prefix_cons.mpr ⟨rfl, hfront⟩)
      rw [hsplit ')' front, hsplit '(' front] at hfront
      omega
    have hdepth : depth + (c :: s).count '(' - (c :: s).count ')' =
        depth + [c].count '(' - [c].count ')' + s.count '(' - s.count ')' := by
      rw [hsplit ')' s, hsplit '(' s]
      omega
    rw [List.cons_append, topPieces, if_neg (fun hboth => Nat.succ_ne_zero _ hboth.2),
      openBehind_succ hfirst, ih hrest, hdepth]
    exact modifyHead_append [c] s _

namespace IsUndivided

variable {a b s : List Char}

/-- Two texts in a row are not divided if neither is. -/
lemma append (ha : IsUndivided a) (hb : IsUndivided b) : IsUndivided (a ++ b) := by
  intro depth t
  rw [List.append_assoc, ha, hb, modifyHead_append]

/-- A text without commas and parentheses is not divided. -/
lemma of_forall (h : ∀ c ∈ s, c ≠ ',' ∧ c ≠ '(' ∧ c ≠ ')') : IsUndivided s := by
  intro depth t
  induction s with
  | nil => exact (modifyHead_nil_append _).symm
  | cons c s ih =>
    rw [List.forall_mem_cons] at h
    obtain ⟨⟨hcomma, hopen, hclose⟩, h⟩ := h
    rw [List.cons_append, topPieces, if_neg fun hboth => hcomma hboth.1, openBehind, if_neg hopen,
      if_neg hclose, ih h]
    exact modifyHead_append [c] s _

end IsUndivided

/-- **Parentheses.** A nested text in parentheses is not divided. -/
theorem IsWellNested.isUndivided_parenthesized {s : List Char} (h : IsWellNested s) :
    IsUndivided ('(' :: (s ++ [')'])) := by
  intro depth t
  have hcount : ∀ front, front <+: s → front.count ')' ≤ front.count '(' + depth :=
    fun front hfront => Nat.le_add_right_of_le (h.count_le front hfront)
  have hinside := topPieces_succ_append hcount (')' :: t)
  have hclose : topPieces (depth + 1) (')' :: t) = (topPieces depth t).modifyHead (')' :: ·) := by
    rw [topPieces, if_neg (by simp), openBehind, if_neg (by decide), if_pos rfl,
      Nat.add_sub_cancel]
  rw [h.count_eq, Nat.add_sub_cancel, hclose] at hinside
  rw [List.cons_append, List.append_assoc, List.singleton_append, topPieces, if_neg (by simp),
    openBehind, if_pos rfl, hinside]
  cases topPieces depth t <;> simp

/-- **Lists.** Texts that are not divided are the pieces of the list that they are joined to, and
the blank behind a comma goes with the next one. -/
theorem topPieces_joined {first : List Char} {rest : List (List Char)} (hfirst : IsUndivided first)
    (hrest : ∀ s ∈ rest, IsUndivided s) :
    topPieces 0 (Text.joined [',', ' '] (first :: rest)) = first :: rest.map (' ' :: ·) := by
  induction rest generalizing first with
  | nil => simpa [topPieces, Text.joined] using hfirst 0 []
  | cons next rest ih =>
    rw [List.forall_mem_cons] at hrest
    have hcomma : topPieces 0 (',' :: ' ' :: Text.joined [',', ' '] (next :: rest)) =
        [] :: (topPieces 0 (Text.joined [',', ' '] (next :: rest))).modifyHead (' ' :: ·) := by
      rw [topPieces, if_pos ⟨rfl, rfl⟩, topPieces, if_neg (by simp)]
      rfl
    rw [Text.joined, List.append_assoc, hfirst, List.cons_append, List.singleton_append, hcomma,
      ih hrest.1 hrest.2]
    simp

end PgGateway.Text
