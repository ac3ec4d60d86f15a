import Mathlib.Data.List.Forall2
import Mathlib.Tactic.Common

set_option autoImplicit false

/-!
# Steps that may fail

What is known of the steps of a computation in `Except` once the whole has a result.

## Main results

* `PgGateway.exists_of_bind_eq_ok` — each of two steps has a result.
* `PgGateway.forall₂_of_mapM_eq_ok` — a step has a result on each item of a list.
* `PgGateway.exists_mapM_eq_ok_iff` — when a step has a result on each item of a list.
* `PgGateway.foldlM_keeps`, `PgGateway.exists_foldlM_eq_ok` — what is kept from step to step, and
  when all steps have a result.
-/

namespace PgGateway

variable {ε α β : Type}

/-- Two steps have a result only if the first has one and the second has one on it. -/
lemma exists_of_bind_eq_ok {x : Except ε α} {f : α → Except ε β} {b : β}
    (h : (x >>= f) = .ok b) : ∃ a, x = .ok a ∧ f a = .ok b :=
  match x, h with
  | .ok a, h => ⟨a, rfl, h⟩

/-- Two steps have a result exactly if the first has one and the second has one on it. -/
lemma bind_eq_ok_iff {x : Except ε α} {f : α → Except ε β} {b : β} :
    (x >>= f) = .ok b ↔ ∃ a, x = .ok a ∧ f a = .ok b := by
  refine ⟨exists_of_bind_eq_ok, ?_⟩
  rintro ⟨a, rfl, h⟩
  exact h

/-- A computation fails exactly if it has no result. -/
lemma exists_eq_error_iff {x : Except ε α} : (∃ e, x = .error e) ↔ ¬ ∃ a, x = .ok a := by
  cases x with
  | error e => simp
  | ok a => simp

/-- A step that is made on every item of a list has a result only if it has one on each. -/
lemma forall₂_of_mapM_eq_ok {f : α → Except ε β} {items : List α} : ∀ {results : List β},
    items.mapM f = .ok results → List.Forall₂ (fun a b => f a = .ok b) items results := by
  induction items with
  | nil =>
    intro results h
    cases h
    exact .nil
  | cons item items ih =>
    intro results h
    rw [List.mapM_cons] at h
    obtain ⟨first, hfirst, h⟩ := exists_of_bind_eq_ok h
    obtain ⟨rest, hrest, h⟩ := exists_of_bind_eq_ok h
    cases h
    exact .cons hfirst (ih hrest)

/-- Every result of a step that is made on the items of a list is that of an item. -/
lemma exists_of_mem_mapM {f : α → Except ε β} {items : List α} {results : List β}
    (h : items.mapM f = .ok results) {b : β} (hb : b ∈ results) : ∃ a ∈ items, f a = .ok b := by
  have hall := forall₂_of_mapM_eq_ok h
  clear h
  induction hall with
  | nil => cases hb
  | cons hfirst _ ih =>
    rcases List.mem_cons.mp hb with rfl | hb
    · exact ⟨_, List.mem_cons_self, hfirst⟩
    · obtain ⟨a, ha, hab⟩ := ih hb
      exact ⟨a, List.mem_cons_of_mem _ ha, hab⟩

/-- A step that is made on every item of a list has a result exactly if it has one on each. -/
lemma exists_mapM_eq_ok_iff {f : α → Except ε β} {items : List α} :
    (∃ results, items.mapM f = .ok results) ↔ ∀ a ∈ items, ∃ b, f a = .ok b := by
  induction items with
  | nil => exact iff_of_true ⟨[], rfl⟩ (List.forall_mem_nil _)
  | cons item items ih =>
    rw [List.forall_mem_cons, ← ih]
    constructor
    · rintro ⟨results, h⟩
      rw [List.mapM_cons] at h
      obtain ⟨first, hfirst, h⟩ := exists_of_bind_eq_ok h
      obtain ⟨rest, hrest, -⟩ := exists_of_bind_eq_ok h
      exact ⟨⟨first, hfirst⟩, rest, hrest⟩
    · rintro ⟨⟨first, hfirst⟩, rest, hrest⟩
      exact ⟨first :: rest, by rw [List.mapM_cons, hfirst, hrest]; rfl⟩

/-- What every step keeps is kept by all of them, one after the other. -/
lemma foldlM_keeps {P : β → Prop} {f : β → α → Except ε β}
    (hstep : ∀ {b a b'}, P b → f b a = .ok b' → P b') {items : List α} {b b' : β} (hb : P b)
    (h : items.foldlM f b = .ok b') : P b' := by
  induction items generalizing b with
  | nil =>
    cases h
    exact hb
  | cons item items ih =>
    rw [List.foldlM_cons] at h
    obtain ⟨next, hnext, h⟩ := exists_of_bind_eq_ok h
    exact ih (hstep hb hnext) h

/-- Steps that always have a result have one after each other. -/
lemma exists_foldlM_eq_ok {f : β → α → Except ε β} (hstep : ∀ b a, ∃ b', f b a = .ok b')
    (items : List α) (b : β) : ∃ b', items.foldlM f b = .ok b' := by
  induction items generalizing b with
  | nil => exact ⟨b, rfl⟩
  | cons item items ih =>
    obtain ⟨next, hnext⟩ := hstep b item
    obtain ⟨b', h⟩ := ih next
    exact ⟨b', by rw [List.foldlM_cons]; exact bind_eq_ok_iff.mpr ⟨next, hnext, h⟩⟩

end PgGateway
