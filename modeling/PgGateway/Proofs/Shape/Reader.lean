import PgGateway.Shape.Reader
import Mathlib.Data.List.Forall2
import Mathlib.Tactic.Common

set_option autoImplicit false

/-!
# What readers read

Strings and lists are read only from themselves, and a list exactly if all its items are.

## Main results

* `PgGateway.Shape.text_eq_ok_iff` — a string is read only from itself.
* `PgGateway.Shape.list_eq_ok_iff` — a list is read exactly if all its items are.
-/

namespace PgGateway.Shape

/-- A string is read only from itself. -/
lemma text_eq_ok_iff {j : Json} {s : String} : text j = .ok s ↔ j = .str s := by
  cases j <;> simp [text]

/-- A string that may be null is read only from itself. -/
lemma optional_text_eq_ok_iff {j : Json} {s : Option String} :
    optional text j = .ok s ↔ j = .ofOption .str s := by
  cases j <;> cases s <;> simp [optional, text, Except.map, Json.ofOption]

section Lists

variable {α : Type} {r : Reader α}

/-- Items are read exactly if each of them is. -/
lemma items_eq_ok_iff {js : List Json} {as : List α} :
    items r js = .ok as ↔ List.Forall₂ (fun j a => r j = .ok a) js as := by
  induction js generalizing as with
  | nil => rw [items, List.forall₂_nil_left_iff, Except.ok.injEq, eq_comm]
  | cons j rest ih =>
    rw [items, List.forall₂_cons_left_iff]
    cases r j with
    | error e => simp
    | ok first =>
      simp only [Except.ok.injEq, exists_and_left, exists_eq_left', ← ih]
      cases items r rest <;> simp [Except.map, eq_comm]

/-- A list is read exactly if all its items are. -/
lemma list_eq_ok_iff {j : Json} {as : List α} :
    list r j = .ok as ↔ ∃ js, j = .arr js ∧ List.Forall₂ (fun j a => r j = .ok a) js as := by
  cases j <;> simp [list, items_eq_ok_iff]

/-- A list of any values is read only from itself. -/
lemma list_any_eq_ok_iff {j : Json} {js : List Json} : list any j = .ok js ↔ j = .arr js := by
  have hitems : ∀ js', List.Forall₂ (fun j j' => any j = .ok j') js' js ↔ js' = js := by
    intro js'
    simp only [any, Except.ok.injEq, List.forall₂_eq_eq_eq]
  simp [list_eq_ok_iff, hitems]

end Lists

end PgGateway.Shape
