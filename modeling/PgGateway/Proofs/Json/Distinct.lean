import PgGateway.Json.Document
import PgGateway.Proofs.Keyed

set_option autoImplicit false

/-!
# Objects with distinct keys

However often a text repeats a key in an object, the value that is read of it has the key once. So
in all objects of a value that comes from a text the keys are distinct.

## Main definitions

* `PgGateway.Json.IsDistinct` — whether the keys of every object in a value are distinct.

## Main results

* `PgGateway.Json.isDistinct_of_read?` — what is read of a text is such.
-/

namespace PgGateway.Json

/-- A member of an object is smaller than all of them. -/
lemma sizeOf_lt_of_mem {ms : List (String × Json)} {key : String} {value : Json}
    (h : (key, value) ∈ ms) : sizeOf value < sizeOf ms := by
  have hlt := List.sizeOf_lt_of_mem h
  rw [Prod.mk.sizeOf_spec] at hlt
  omega

/-- Whether the keys of every object in a value are distinct. -/
def IsDistinct (j : Json) : Prop :=
  match j with
  | .arr items => ∀ item, (_ : item ∈ items) → item.IsDistinct
  | .obj ms => (ms.map Prod.fst).Nodup ∧ ∀ key value, (_ : (key, value) ∈ ms) → value.IsDistinct
  | _ => True
termination_by sizeOf j
decreasing_by
  · have hlt := List.sizeOf_lt_of_mem ‹item ∈ items›
    simp only [arr.sizeOf_spec]
    omega
  · have hlt := sizeOf_lt_of_mem ‹(key, value) ∈ ms›
    simp only [obj.sizeOf_spec]
    omega

/-- A string has no keys. -/
@[simp] lemma isDistinct_str (s : String) : (str s).IsDistinct := by
  simp [IsDistinct]

/-- A number without point and exponent has no keys. -/
@[simp] lemma isDistinct_int (n : Int) : (int n).IsDistinct := by
  simp [IsDistinct]

/-- A number with point or exponent has no keys. -/
@[simp] lemma isDistinct_float (x : Binary64) : (float x).IsDistinct := by
  simp [IsDistinct]

/-- The keys in a list are those in its items. -/
lemma isDistinct_arr {items : List Json} :
    (arr items).IsDistinct ↔ ∀ item ∈ items, item.IsDistinct := by
  rw [IsDistinct]

/-- The keys in an object are its own and those in its members. -/
lemma isDistinct_obj {ms : List (String × Json)} :
    (obj ms).IsDistinct ↔ (ms.map Prod.fst).Nodup ∧ ∀ m ∈ ms, m.2.IsDistinct := by
  rw [IsDistinct, Prod.forall]

/-- An object that is made of members has distinct keys if the values of these have. -/
lemma isDistinct_object {members : List (String × Json)} (h : ∀ m ∈ members, m.2.IsDistinct) :
    (object members).IsDistinct := by
  rw [object, isDistinct_obj]
  exact ⟨Keyed.nodup_keys_ofList members, fun m hm => h m (Keyed.mem_of_mem_ofList hm)⟩

/-- A floating-point number has no keys. -/
lemma isDistinct_floatValue? {negative : Bool} {significand : Nat} {exponent : Int} {j : Json}
    (h : Numeral.floatValue? negative significand exponent = some j) : j.IsDistinct := by
  rw [Numeral.floatValue?] at h
  split at h
  · obtain rfl := Option.some.inj h
    exact isDistinct_float _
  · cases h

/-- A number has no keys. -/
lemma isDistinct_numeral {n : Numeral} {j : Json} (h : n.value? = some j) : j.IsDistinct := by
  -- Whatever parts a numeral has, its value is an integer or a floating-point number.
  unfold Numeral.value? at h
  dsimp only at h
  cases n.fraction <;> cases n.exponent <;> (repeat' split at h) <;>
    first
    | exact isDistinct_floatValue? h
    | cases h <;> simp

mutual

/-- The value of a document has distinct keys. -/
theorem isDistinct_value? (depth : Nat) :
    ∀ (d : Document) {j : Json}, d.value? depth = some j → j.IsDistinct
  | .null, _, h => by cases h; simp [IsDistinct]
  | .bool b, _, h => by cases h; simp [IsDistinct]
  | .number n, _, h => isDistinct_numeral h
  | .string s, _, h => by
    obtain ⟨s, -, rfl⟩ := Option.map_eq_some_iff.mp h
    exact isDistinct_str s
  | .arr items, _, h => by
    cases depth with
    | zero => cases h
    | succ depth =>
      obtain ⟨js, hjs, rfl⟩ := Option.map_eq_some_iff.mp h
      exact isDistinct_arr.mpr (isDistinct_itemValues? depth items hjs)
  | .obj members, _, h => by
    cases depth with
    | zero => cases h
    | succ depth =>
      obtain ⟨ms, hms, rfl⟩ := Option.map_eq_some_iff.mp h
      exact isDistinct_object (isDistinct_memberValues? depth members hms)

/-- So have the values of items. -/
theorem isDistinct_itemValues? (depth : Nat) : ∀ (items : List Document) {js : List Json},
    Document.itemValues? depth items = some js → ∀ j ∈ js, j.IsDistinct
  | [], _, h => by cases h; nofun
  | item :: rest, _, h => by
    rw [Document.itemValues?] at h
    split at h
    · next first others hfirst hothers =>
      cases h
      exact List.forall_mem_cons.mpr
        ⟨isDistinct_value? depth item hfirst, isDistinct_itemValues? depth rest hothers⟩
    · cases h

/-- So have the values of members. -/
theorem isDistinct_memberValues? (depth : Nat) :
    ∀ (members : List (Option String × Document)) {ms : List (String × Json)},
      Document.memberValues? depth members = some ms → ∀ m ∈ ms, m.2.IsDistinct
  | [], _, h => by cases h; nofun
  | (key, value) :: rest, _, h => by
    unfold Document.memberValues? at h
    split at h
    · next key first others hfirst hothers =>
      cases h
      exact List.forall_mem_cons.mpr
        ⟨isDistinct_value? depth value hfirst, isDistinct_memberValues? depth rest hothers⟩
    · cases h

end

/-- **Keys of what is read.** The keys of every object in the value of a text are distinct.

**Proof sketch.** Induction on the document of the text: each of its objects is made of members, and
of those with one key only the last is kept. -/
theorem isDistinct_of_read? {s : String} {j : Json} (h : read? s = some j) : j.IsDistinct := by
  rw [read?, readWithin?, Option.bind_eq_some_iff] at h
  obtain ⟨d, -, hd⟩ := h
  exact isDistinct_value? maxDepth d hd

end PgGateway.Json
