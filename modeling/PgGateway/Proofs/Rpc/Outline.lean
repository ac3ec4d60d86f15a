import PgGateway.Proofs.Shape.Record
import PgGateway.Rpc.Line

set_option autoImplicit false

/-!
# What is taken from the members of a line

An outline takes values from the members of a document that it has a key for. It takes nothing at
all if one of those has no value, or if any key has none.

## Main definitions

* `PgGateway.Rpc.partsOf` — the documents that the members of a document give to a key.

## Main results

* `PgGateway.Rpc.Outline.map_partsOf` — the values that are taken are those of the documents.
* `PgGateway.Rpc.Outline.exists_ofMembers` — when values are taken.
* `PgGateway.Rpc.inner_eq_str` — only a string has a string as its value.
-/

namespace PgGateway

open Json (Document)

/-- The value of a numeral is a number. -/
lemma Json.Numeral.value?_ne_str (n : Numeral) (s : String) : n.value? ≠ some (.str s) := by
  have hfloat : ∀ significand exponent,
      floatValue? n.negative significand exponent ≠ some (.str s) := by
    intro significand exponent
    rw [floatValue?]
    split <;> simp
  intro h
  unfold value? at h
  dsimp only at h
  repeat' split at h
  all_goals first | exact hfloat _ _ h | simp at h

namespace Rpc

/-- The documents that the members of a document give to a key, in order. -/
def partsOf (key : String) (ms : List (Option String × Document)) : List Document :=
  (ms.filter fun m => m.1 = some key).map Prod.snd

/-- A member with the key gives its document. -/
lemma partsOf_cons_self (key : String) (d : Document) (ms : List (Option String × Document)) :
    partsOf key ((some key, d) :: ms) = d :: partsOf key ms := by
  simp [partsOf]

/-- A member with another key gives none. -/
lemma partsOf_cons_of_ne {key other : String} (h : other ≠ key) (d : Document)
    (ms : List (Option String × Document)) :
    partsOf key ((some other, d) :: ms) = partsOf key ms := by
  simp [partsOf, h]

/-- Only a string has a string as its value. -/
lemma inner_eq_str {d : Document} {s : String} (h : inner d = some (.str s)) :
    d = .string (some s) := by
  cases d with
  | null | bool => cases h
  | number n => exact absurd h (n.value?_ne_str s)
  | string value =>
    obtain ⟨s', rfl, hs⟩ := Option.map_eq_some_iff.mp h
    cases hs
    rfl
  | arr items =>
    obtain ⟨js, -, hjs⟩ := Option.map_eq_some_iff.mp h
    cases hjs
  | obj ms =>
    obtain ⟨js, -, hjs⟩ := Option.map_eq_some_iff.mp h
    cases hjs

namespace Outline

variable {outline : Outline} {ms : List (Option String × Document)}

/-- Values are taken only if every key has a value. -/
lemma fst_ne_none {js : List (String × Json)} (h : ofMembers outline ms = some js) :
    ∀ m ∈ ms, m.1 ≠ none := by
  induction ms generalizing js with
  | nil => exact nofun
  | cons m ms ih =>
    obtain ⟨_ | key, d⟩ := m
    · cases h
    · rw [ofMembers] at h
      rw [List.forall_mem_cons]
      refine ⟨Option.some_ne_none key, ?_⟩
      split at h
      · exact ih h
      · split at h
        · next hrest => exact ih hrest
        · cases h

/-- The values that are taken for a key of the outline are those of its documents. -/
theorem map_partsOf {js : List (String × Json)} (h : ofMembers outline ms = some js) {key : String}
    {value : Document → Option Json} (hkey : outline.lookup key = some value) :
    (partsOf key ms).map value = (Shape.valuesOf key js).map some := by
  induction ms generalizing js with
  | nil =>
    cases h
    rfl
  | cons m ms ih =>
    obtain ⟨_ | other, d⟩ := m
    · cases h
    · rw [ofMembers] at h
      by_cases hother : other = key
      · subst hother
        rw [hkey] at h
        dsimp only at h
        split at h
        · next j rest hj hrest =>
          cases h
          rw [partsOf_cons_self, Shape.valuesOf_cons_self, List.map_cons, List.map_cons, hj,
            ih hrest]
        · cases h
      · rw [partsOf_cons_of_ne hother]
        split at h
        · exact ih h
        · split at h
          · next j rest hj hrest =>
            cases h
            rw [Shape.valuesOf_cons_of_ne hother, ih hrest]
          · cases h

/-- Values are taken if every key has a value and every document for a key of the outline has. -/
theorem exists_ofMembers (hkeys : ∀ m ∈ ms, m.1 ≠ none)
    (hparts : ∀ key value, outline.lookup key = some value →
      ∀ d ∈ partsOf key ms, (value d).isSome) :
    ∃ js, ofMembers outline ms = some js := by
  induction ms with
  | nil => exact ⟨[], rfl⟩
  | cons m ms ih =>
    obtain ⟨_ | key, d⟩ := m
    · exact absurd rfl (hkeys _ List.mem_cons_self)
    · obtain ⟨js, hjs⟩ := ih (fun m hm => hkeys m (List.mem_cons_of_mem _ hm))
        (fun other value hother d' hd' => hparts other value hother d' <| by
          by_cases heq : key = other
          · subst heq
            rw [partsOf_cons_self]
            exact List.mem_cons_of_mem _ hd'
          · rwa [partsOf_cons_of_ne heq])
      rw [ofMembers]
      split
      · exact ⟨js, hjs⟩
      · next value hkey =>
        have hd : (value d).isSome := hparts key value hkey d (by simp [partsOf_cons_self])
        obtain ⟨j, hj⟩ := Option.isSome_iff_exists.mp hd
        rw [hj, hjs]
        exact ⟨_, rfl⟩

end Outline

end Rpc

end PgGateway
