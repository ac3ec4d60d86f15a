import PgGateway.Json.Document
import Mathlib.Tactic.Common

set_option autoImplicit false

/-!
# Documents with a value

A document is the shape of a text, and not every shape has a value. It lacks one for three reasons:
lists and objects lie too deep within each other, a number is out of range, or a string or a key
stands for no text.

## Main definitions

* `PgGateway.Json.Document.depth` — how many lists and objects lie within each other.
* `PgGateway.Json.Document.IsValued` — whether all numbers, strings and keys have a value.

## Main results

* `PgGateway.Json.Document.isSome_value?_iff` — which documents have a value within a depth.
* `PgGateway.Json.isSome_read?_iff` — which texts have a value.
-/

namespace PgGateway.Json

namespace Document

mutual

/-- How many lists and objects lie within each other. -/
def depth : Document → Nat
  | .arr items => depthOfItems items + 1
  | .obj members => depthOfMembers members + 1
  | _ => 0

/-- The depth of the deepest item. -/
def depthOfItems : List Document → Nat
  | [] => 0
  | item :: rest => max item.depth (depthOfItems rest)

/-- The depth of the deepest member. -/
def depthOfMembers : List (Option String × Document) → Nat
  | [] => 0
  | (_, value) :: rest => max value.depth (depthOfMembers rest)

end

mutual

/-- Whether all numbers, strings and keys of a document have a value. -/
def IsValued : Document → Prop
  | .number n => n.value?.isSome
  | .string s => s.isSome
  | .arr items => ItemsAreValued items
  | .obj members => MembersAreValued members
  | _ => True

/-- Whether all numbers, strings and keys of some items have a value. -/
def ItemsAreValued : List Document → Prop
  | [] => True
  | item :: rest => item.IsValued ∧ ItemsAreValued rest

/-- Whether all numbers, strings and keys of some members have a value. -/
def MembersAreValued : List (Option String × Document) → Prop
  | [] => True
  | (key, value) :: rest => key.isSome ∧ value.IsValued ∧ MembersAreValued rest

end

mutual

/-- **Documents with a value.** A document has a value within a depth exactly if it is no deeper and
all its numbers, strings and keys have one.

**Proof sketch.** Induction on the document: a list or an object takes one off the depth, and the
rest has to be enough for each of its parts. -/
theorem isSome_value?_iff (bound : Nat) :
    ∀ d : Document, (d.value? bound).isSome ↔ d.depth ≤ bound ∧ d.IsValued
  | .null => by simp [value?, depth, IsValued]
  | .bool b => by simp [value?, depth, IsValued]
  | .number n => by simp [value?, depth, IsValued]
  | .string s => by simp [value?, depth, IsValued]
  | .arr items => by
    cases bound with
    | zero => simp [value?, depth]
    | succ bound =>
      have hitems := isSome_itemValues?_iff bound items
      simpa [value?, depth, IsValued] using hitems
  | .obj members => by
    cases bound with
    | zero => simp [value?, depth]
    | succ bound =>
      have hmembers := isSome_memberValues?_iff bound members
      simpa [value?, depth, IsValued] using hmembers

/-- Items have values within a depth exactly if each of them has one. -/
theorem isSome_itemValues?_iff (bound : Nat) : ∀ items : List Document,
    (itemValues? bound items).isSome ↔ depthOfItems items ≤ bound ∧ ItemsAreValued items
  | [] => by simp [itemValues?, depthOfItems, ItemsAreValued]
  | item :: rest => by
    have hitem := isSome_value?_iff bound item
    have hrest := isSome_itemValues?_iff bound rest
    have hboth : (itemValues? bound (item :: rest)).isSome ↔
        (item.value? bound).isSome ∧ (itemValues? bound rest).isSome := by
      rw [itemValues?]
      cases item.value? bound <;> cases itemValues? bound rest <;> simp
    rw [hboth, hitem, hrest, depthOfItems, ItemsAreValued, Nat.max_le]
    tauto

/-- Members have values within a depth exactly if each of them and of their keys has one. -/
theorem isSome_memberValues?_iff (bound : Nat) : ∀ members : List (Option String × Document),
    (memberValues? bound members).isSome ↔
      depthOfMembers members ≤ bound ∧ MembersAreValued members
  | [] => by simp [memberValues?, depthOfMembers, MembersAreValued]
  | (key, value) :: rest => by
    have hvalue := isSome_value?_iff bound value
    have hrest := isSome_memberValues?_iff bound rest
    have hall : (memberValues? bound ((key, value) :: rest)).isSome ↔
        key.isSome ∧ (value.value? bound).isSome ∧ (memberValues? bound rest).isSome := by
      cases key <;> cases hv : value.value? bound <;> cases hr : memberValues? bound rest <;>
        simp [memberValues?, hv, hr]
    rw [hall, hvalue, hrest, depthOfMembers, MembersAreValued, Nat.max_le]
    tauto

end

end Document

/-- Whether a text is a document with a value. -/
def IsReadable (s : String) : Prop :=
  ∃ d, Document.read? s.toList = some d ∧ d.depth ≤ maxDepth ∧ d.IsValued

/-- The texts that can be read are the documents with a value. -/
theorem isSome_read?_iff (s : String) : (read? s).isSome ↔ IsReadable s := by
  rw [read?, readWithin?, IsReadable]
  cases Document.read? s.toList with
  | none => simp
  | some d => simpa using Document.isSome_value?_iff maxDepth d

end PgGateway.Json
