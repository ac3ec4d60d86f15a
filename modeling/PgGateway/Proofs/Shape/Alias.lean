import PgGateway.Proofs.Shape.Record
import Mathlib.Data.List.Pairwise

set_option autoImplicit false

/-!
# Fields with further names

An object may give a field under any of its names, but only once. If the names of the fields of a
record are all distinct, reading an object is reading the object in which each member has the name
of the field that it is for. So what is known of records whose fields have one name each carries
over.

## Main definitions

* `PgGateway.Shape.Slot.names` — the names of a field.
* `PgGateway.Shape.Slot.valuesIn` — the values that an object gives to a field.

## Main results

* `PgGateway.Shape.Record.gather_canonical` — reading an object is reading it with the names of the
  fields.
* `PgGateway.Shape.Record.exists_gather_iff_valuesIn` — when the members of an object can be
  gathered.
* `PgGateway.Shape.Record.lookup_gather_eq` — what is gathered for a field.
-/

namespace PgGateway.Shape

/-- The names that an object may use for a field. -/
def Slot.names (s : Slot) : List String :=
  s.name :: s.aliases

/-- A field without its further names. -/
def Slot.plain (s : Slot) : Slot :=
  { s with aliases := [] }

/-- It keeps its name. -/
@[simp] lemma Slot.plain_name (s : Slot) : s.plain.name = s.name := rfl

/-- It takes the same values. -/
@[simp] lemma Slot.plain_check (s : Slot) : s.plain.check = s.check := rfl

/-- The values that the members of an object give to a field, in order. -/
def Slot.valuesIn (s : Slot) (ms : List (String × Json)) : List Json :=
  (ms.filter fun m => m.1 ∈ s.names).map Prod.snd

/-- Items with distinct keys are at most one if all have the same key. -/
lemma length_le_one_iff {α κ : Type} {key : α → κ} {items : List α}
    (hdistinct : (items.map key).Nodup) :
    items.length ≤ 1 ↔ ∀ a ∈ items, ∀ b ∈ items, key a = key b := by
  match items, hdistinct with
  | [], _ => simp
  | [a], _ => simp
  | a :: b :: rest, hdistinct =>
    have hne : key a ≠ key b := by
      rw [List.map_cons, List.map_cons, List.nodup_cons, List.mem_cons, not_or] at hdistinct
      exact hdistinct.1.1
    constructor
    · intro hlength
      simp at hlength
    · intro hsame
      exact absurd (hsame a (by simp) b (by simp)) hne

/-- An object with distinct keys gives a field at most one value if it does not use two of its
names. -/
theorem Slot.length_valuesIn_le_one_iff {s : Slot} {ms : List (String × Json)}
    (hkeys : (ms.map Prod.fst).Nodup) :
    (s.valuesIn ms).length ≤ 1 ↔
      ∀ m ∈ ms, m.1 ∈ s.names → ∀ m' ∈ ms, m'.1 ∈ s.names → m.1 = m'.1 := by
  have hsub : ((ms.filter fun m => m.1 ∈ s.names).map Prod.fst).Sublist (ms.map Prod.fst) :=
    List.filter_sublist.map Prod.fst
  rw [valuesIn, List.length_map, length_le_one_iff (hkeys.sublist hsub)]
  simp only [List.mem_filter, decide_eq_true_iff, and_imp]

/-- The values given to a field are those that stand under its names. -/
lemma Slot.mem_valuesIn {s : Slot} {ms : List (String × Json)} {value : Json} :
    value ∈ s.valuesIn ms ↔ ∃ key ∈ s.names, (key, value) ∈ ms := by
  simp [valuesIn, and_comm]

namespace Record

variable {slots : List Slot}

/-- Whether no two fields share a name, and no field has a name twice. -/
def HasDistinctNames (slots : List Slot) : Prop :=
  (slots.flatMap Slot.names).Nodup

instance (slots : List Slot) : Decidable (HasDistinctNames slots) :=
  inferInstanceAs (Decidable (slots.flatMap Slot.names).Nodup)

/-- The name of the field that a key means, or the key itself if it means none. -/
def canonicalKey (slots : List Slot) (key : String) : String :=
  ((slotFor? slots key).map Slot.name).getD key

/-- The members of an object under the names of the fields that they are for. -/
def canonical (slots : List Slot) (ms : List (String × Json)) : List (String × Json) :=
  ms.map fun m => (canonicalKey slots m.1, m.2)

/-- Two fields have no name in common. -/
lemma HasDistinctNames.pairwise (h : HasDistinctNames slots) :
    slots.Pairwise fun s s' => s.names.Disjoint s'.names :=
  (List.nodup_flatMap.mp h).2

/-- Fields with a name in common are the same. -/
lemma HasDistinctNames.eq_of_mem (h : HasDistinctNames slots) {s s' : Slot} (hs : s ∈ slots)
    (hs' : s' ∈ slots) {key : String} (hkey : key ∈ s.names) (hkey' : key ∈ s'.names) : s = s' := by
  by_contra hne
  have : Std.Symm fun s s' : Slot => s.names.Disjoint s'.names := ⟨fun _ _ => List.Disjoint.symm⟩
  exact h.pairwise.forall hs hs' hne hkey hkey'

/-- A key means the field that has the key as a name. -/
lemma HasDistinctNames.slotFor?_eq_some_iff (h : HasDistinctNames slots) {key : String} {s : Slot} :
    slotFor? slots key = some s ↔ s ∈ slots ∧ key ∈ s.names := by
  have hmeans : ∀ s : Slot,
      (decide (s.name = key) || s.aliases.contains key) = true ↔ key ∈ s.names := by
    intro s
    rw [Slot.names, List.mem_cons, Bool.or_eq_true, decide_eq_true_iff, List.contains_iff_mem,
      eq_comm]
  constructor
  · intro hs
    have hmeant := List.find?_some hs
    exact ⟨List.mem_of_find?_eq_some hs, (hmeans s).mp hmeant⟩
  · rintro ⟨hs, hkey⟩
    obtain ⟨s', hs'⟩ : ∃ s', slotFor? slots key = some s' :=
      Option.isSome_iff_exists.mp (List.find?_isSome.mpr ⟨s, hs, (hmeans s).mpr hkey⟩)
    have hmeant := List.find?_some hs'
    have hkey' := (hmeans s').mp hmeant
    rw [hs', h.eq_of_mem (List.mem_of_find?_eq_some hs') hs hkey' hkey]

/-- A key that is a name of a field has the name of the field in its place. -/
lemma HasDistinctNames.canonicalKey_eq_iff (h : HasDistinctNames slots) {key : String} {s : Slot}
    (hs : s ∈ slots) : canonicalKey slots key = s.name ↔ key ∈ s.names := by
  rw [canonicalKey]
  cases hfound : slotFor? slots key with
  | none =>
    constructor
    · rintro rfl
      exact List.mem_cons_self
    · intro hkey
      rw [h.slotFor?_eq_some_iff.mpr ⟨hs, hkey⟩] at hfound
      cases hfound
  | some s' =>
    obtain ⟨hs', hkey'⟩ := h.slotFor?_eq_some_iff.mp hfound
    constructor
    · intro hname
      have hmem : s.name ∈ s'.names := hname ▸ List.mem_cons_self
      rwa [← h.eq_of_mem hs' hs hmem List.mem_cons_self]
    · intro hkey
      rw [h.eq_of_mem hs hs' hkey hkey']
      rfl

/-- The fields have distinct names. -/
lemma HasDistinctNames.nodup (h : HasDistinctNames slots) : (slots.map Slot.name).Nodup := by
  refine List.pairwise_map.mpr (h.pairwise.imp fun {s s'} hdisjoint hname => ?_)
  exact hdisjoint List.mem_cons_self (hname ▸ List.mem_cons_self)

/-- Without their further names the fields have one name each. -/
lemma HasDistinctNames.isPlain (h : HasDistinctNames slots) : IsPlain (slots.map Slot.plain) := by
  constructor
  · intro s hs
    obtain ⟨s, -, rfl⟩ := List.mem_map.mp hs
    rfl
  · rw [List.map_map]
    exact h.nodup

/-- **Reading under further names.** What is gathered from an object is what is gathered if each of
its members has the name of the field that it is for.

**Proof sketch.** Induction on the members. A key that means no field is left as it is and means
none of the fields without their further names, and a key that means a field is replaced by the name
of this field, for which the two have the same check. -/
theorem gather_canonical (h : HasDistinctNames slots) (given : Given) (ms : List (String × Json)) :
    gather (slots.map Slot.plain) given (canonical slots ms) = gather slots given ms := by
  induction ms generalizing given with
  | nil => rfl
  | cons m ms ih =>
    obtain ⟨key, value⟩ := m
    rw [canonical, List.map_cons, gather, gather, ← canonical]
    cases hfound : slotFor? slots key with
    | none =>
      have hcanonical : canonicalKey slots key = key := by rw [canonicalKey, hfound]; rfl
      have hnone : slotFor? (slots.map Slot.plain) key = none := by
        cases hplain : slotFor? (slots.map Slot.plain) key with
        | none => rfl
        | some s =>
          obtain ⟨hmem, rfl⟩ := h.isPlain.of_slotFor? hplain
          obtain ⟨s, hs, rfl⟩ := List.mem_map.mp hmem
          rw [Slot.plain_name, h.slotFor?_eq_some_iff.mpr ⟨hs, List.mem_cons_self⟩] at hfound
          cases hfound
      rw [hcanonical, hnone]
      exact ih given
    | some s =>
      have hs := (h.slotFor?_eq_some_iff.mp hfound).1
      have hcanonical : canonicalKey slots key = s.name := by rw [canonicalKey, hfound]; rfl
      have hsome : slotFor? (slots.map Slot.plain) s.name = some s.plain :=
        h.isPlain.slotFor?_eq (List.mem_map_of_mem hs)
      rw [hcanonical, hsome]
      simp only [Slot.plain_name, Slot.plain_check, ih]

/-- The values given under the name of a field are those given to the field. -/
lemma valuesOf_canonical (h : HasDistinctNames slots) {s : Slot} (hs : s ∈ slots)
    (ms : List (String × Json)) : valuesOf s.name (canonical slots ms) = s.valuesIn ms := by
  rw [valuesOf, canonical, List.filter_map, List.map_map, Slot.valuesIn]
  congr 1
  refine List.filter_congr fun m _ => ?_
  exact decide_eq_decide.mpr (h.canonicalKey_eq_iff hs)

/-- **Objects that can be read.** The members of an object can be gathered for the fields exactly if
each field has at most one value, under whichever of its names, and each value fits. -/
theorem exists_gather_iff_valuesIn (h : HasDistinctNames slots) (ms : List (String × Json)) :
    (∃ given, gather slots [] ms = .ok given) ↔
      ∀ s ∈ slots,
        (s.valuesIn ms).length ≤ 1 ∧ ∀ value ∈ s.valuesIn ms, s.check value = .ok () := by
  simp only [← gather_canonical h]
  rw [exists_gather_iff h.isPlain, List.forall_mem_map]
  refine forall₂_congr fun s hs => ?_
  rw [Fits, ← valuesOf_canonical h hs]
  rfl

/-- What is gathered for a field is the first value that the members give to it. -/
theorem lookup_gather_eq (h : HasDistinctNames slots) {given : Given} {ms : List (String × Json)}
    (hgather : gather slots [] ms = .ok given) {s : Slot} (hs : s ∈ slots) :
    given.lookup s.name = (s.valuesIn ms).head? := by
  rw [← gather_canonical h] at hgather
  rw [← valuesOf_canonical h hs]
  have hplain : s.plain ∈ slots.map Slot.plain := List.mem_map_of_mem hs
  have hlookup := lookup_gather h.isPlain hgather hplain
  exact hlookup

end Record

end PgGateway.Shape
