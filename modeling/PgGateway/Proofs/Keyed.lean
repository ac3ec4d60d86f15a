import PgGateway.Keyed
import Mathlib.Data.List.Dedup
import Mathlib.Data.List.Nodup
import Mathlib.Data.String.Basic

set_option autoImplicit false

/-!
# Finding by key

What a keyed list holds under a key after an entry was put into it, and what is found among items
with distinct keys.

## Main definitions

* `PgGateway.Keyed.IsSorted` — whether the keys stand in ascending order, each once.

## Main results

* `PgGateway.find?_eq_some_of_nodup` — an item is found by its key if no other item has the key.
* `PgGateway.lookup_eq_some_of_nodup` — the value of an entry is looked up by its key if no other
  entry has the key.
* `PgGateway.Keyed.get?_put` — a list holds what was put there, and elsewhere what it held.
* `PgGateway.Keyed.IsSorted.put` — the keys stay in ascending order.
* `PgGateway.Keyed.get?_ofList_eq_some` — what is found in a list made of entries with distinct
  keys.
* `PgGateway.Keyed.get?_ofList`, `PgGateway.Keyed.perm_keys_ofList` — what is found in a list made
  of any entries, and its keys.
* `PgGateway.Keyed.overlay_ofList` — a list laid over one that is made of entries.
* `PgGateway.Keyed.ofList_of_isSorted` — entries in ascending order of their keys make themselves.
-/

namespace PgGateway

/-- Of items with distinct keys, an item is found by what holds of its key alone. -/
theorem find?_eq_some_of_nodup {α κ : Type} {key : α → κ} {items : List α}
    (hdistinct : (items.map key).Nodup) {a : α} (ha : a ∈ items) {p : α → Bool}
    (hp : ∀ b ∈ items, p b = true ↔ key b = key a) : items.find? p = some a := by
  induction items with
  | nil => cases ha
  | cons item items ih =>
    rw [List.map_cons, List.nodup_cons] at hdistinct
    have hitem := hp item List.mem_cons_self
    rcases List.mem_cons.mp ha with rfl | hrest
    · rw [List.find?_cons_of_pos (hitem.mpr rfl)]
    · have hne : ¬ p item = true := fun h =>
        hdistinct.1 (hitem.mp h ▸ List.mem_map_of_mem hrest)
      rw [List.find?_cons_of_neg hne]
      exact ih hdistinct.2 hrest fun b hb => hp b (List.mem_cons_of_mem _ hb)

/-- Of entries with distinct keys, an entry is what is looked up by its key. -/
theorem lookup_eq_some_of_nodup {α : Type} {entries : List (String × α)}
    (hdistinct : (entries.map Prod.fst).Nodup) {key : String} {value : α}
    (hentry : (key, value) ∈ entries) : entries.lookup key = some value := by
  obtain ⟨before, after, rfl⟩ := List.append_of_mem hentry
  rw [List.lookup_eq_some_iff]
  refine ⟨before, after, rfl, fun entry hbefore => ?_⟩
  rw [List.map_append, List.map_cons, List.nodup_append] at hdistinct
  have hne := hdistinct.2.2 entry.1 (List.mem_map_of_mem hbefore) key List.mem_cons_self
  simpa using hne.symm

/-- In a list without repetitions one more item is kept exactly if it does not occur before. -/
lemma eraseDups_concat (items : List String) (item : String) :
    (items ++ [item]).eraseDups =
      if item ∈ items then items.eraseDups else items.eraseDups ++ [item] := by
  rw [List.eraseDups_append, List.removeAll, List.filter_singleton]
  split
  · next hmem => simp [hmem]
  · next hnot => simp [hnot, List.eraseDups_cons]

/-- What stands in a place of a list with one more item. -/
lemma getElem?_concat_eq_some_iff {α : Type} {items : List α} {item a : α} {i : Nat} :
    (items ++ [item])[i]? = some a ↔ items[i]? = some a ∨ items.length = i ∧ item = a := by
  rw [List.getElem?_append]
  split
  · next hlt => simp [hlt.ne']
  · next hle =>
    rw [List.getElem?_eq_none (not_lt.mp hle), List.getElem?_singleton,
      Option.ite_none_right_eq_some, Option.some.injEq, or_iff_right (by simp)]
    exact and_congr_left fun _ => by omega

namespace Keyed

variable {α : Type}

/-- A list holds something under a key exactly if it has the key. -/
lemma isSome_get?_iff {m : Keyed α} {key : String} :
    (get? key m).isSome = true ↔ key ∈ m.keys := by
  induction m with
  | nil => simp [get?, keys]
  | cons entry rest ih =>
    obtain ⟨k, v⟩ := entry
    rw [keys] at ih ⊢
    rw [get?, List.map_cons, List.mem_cons, ← ih]
    by_cases hkey : k = key
    · simp [hkey]
    · rw [if_neg hkey, or_iff_right (Ne.symm hkey)]

/-- A list holds under a key what was put there, and under any other key what it held. The entries
need not be in order for that. -/
theorem get?_put (key : String) (value : α) (m : Keyed α) (other : String) :
    get? other (put key value m) = if key = other then some value else get? other m := by
  induction m with
  | nil => rfl
  | cons entry rest ih =>
    obtain ⟨k, v⟩ := entry
    rw [put]
    split
    · rfl
    · split
      · next heq =>
        subst heq
        simp only [get?]
        split <;> rfl
      · next hne =>
        simp only [get?]
        by_cases hk : k = other
        · rw [if_pos hk, if_pos hk, if_neg (hk ▸ hne)]
        · rw [if_neg hk, if_neg hk, ih]

/-- Whether the keys stand in ascending order, each once. -/
def IsSorted (m : Keyed α) : Prop :=
  m.keys.Pairwise (· < ·)

/-- The keys after an entry was put into a list are its key and those before. -/
lemma mem_keys_put {key other : String} {value : α} {m : Keyed α} :
    other ∈ (put key value m).keys ↔ other = key ∨ other ∈ m.keys := by
  induction m with
  | nil => simp [put, keys]
  | cons entry rest ih =>
    obtain ⟨k, v⟩ := entry
    simp only [keys] at ih
    rw [put]
    split
    · simp [keys]
    · split
      · next heq => simp [keys, heq]
      · simp only [keys, List.map_cons, List.mem_cons, ih]
        exact or_left_comm

/-- Putting an entry into a list keeps the keys in ascending order. -/
theorem IsSorted.put {m : Keyed α} (hm : m.IsSorted) (key : String) (value : α) :
    (Keyed.put key value m).IsSorted := by
  induction m with
  | nil => exact List.pairwise_singleton _ _
  | cons entry rest ih =>
    obtain ⟨k, v⟩ := entry
    obtain ⟨hfirst, hrest⟩ := List.pairwise_cons.mp hm
    rw [Keyed.put]
    split
    · next hlt =>
      refine List.pairwise_cons.mpr ⟨fun other hother => ?_, hm⟩
      rcases List.mem_cons.mp hother with rfl | hother
      · exact hlt
      · exact hlt.trans (hfirst other hother)
    · next hnot =>
      split
      · next heq => exact List.pairwise_cons.mpr ⟨heq ▸ hfirst, hrest⟩
      · next hne =>
        refine List.pairwise_cons.mpr ⟨fun other hother => ?_, ih hrest⟩
        rcases mem_keys_put.mp hother with rfl | hother
        · exact lt_of_le_of_ne (not_lt.mp hnot) (Ne.symm hne)
        · exact hfirst other hother

/-- Keys in ascending order are distinct. -/
lemma IsSorted.nodup {m : Keyed α} (hm : m.IsSorted) : m.keys.Nodup :=
  hm.imp ne_of_lt

/-- In a list with distinct keys, a value is found under the key of its entry. -/
theorem get?_eq_some_iff {m : Keyed α} (hm : m.keys.Nodup) {key : String} {value : α} :
    get? key m = some value ↔ (key, value) ∈ m := by
  induction m with
  | nil => simp [get?]
  | cons entry rest ih =>
    obtain ⟨k, v⟩ := entry
    obtain ⟨hfirst, hrest⟩ := List.nodup_cons.mp hm
    rw [get?, List.mem_cons, Prod.mk.injEq]
    split
    · next heq =>
      subst heq
      have hnot : (k, value) ∉ rest := fun hmem =>
        hfirst (List.mem_map.mpr ⟨_, hmem, rfl⟩)
      simp [hnot, eq_comm]
    · next hne => simp [ih hrest, Ne.symm hne]

/-- Putting entries with distinct keys into a list gives these values under their keys, and
elsewhere what the list held. -/
lemma get?_foldl_put {entries : List (String × α)} (hentries : (entries.map Prod.fst).Nodup)
    (m : Keyed α) (key : String) (value : α) :
    get? key (entries.foldl (fun m (k, v) => put k v m) m) = some value ↔
      (key, value) ∈ entries ∨ key ∉ entries.map Prod.fst ∧ get? key m = some value := by
  induction entries generalizing m with
  | nil => simp
  | cons entry entries ih =>
    obtain ⟨k, v⟩ := entry
    obtain ⟨hfirst, hrest⟩ := List.nodup_cons.mp hentries
    rw [List.foldl_cons, ih hrest, get?_put, List.map_cons, List.mem_cons, List.mem_cons, not_or,
      Prod.mk.injEq]
    by_cases hkey : k = key
    · subst hkey
      have hnot : (k, value) ∉ entries := fun hmem =>
        hfirst (List.mem_map.mpr ⟨_, hmem, rfl⟩)
      simp only at hfirst
      simp [hnot, hfirst, eq_comm]
    · simp [hkey, Ne.symm hkey]

/-- In a list made of entries with distinct keys, a value is found under the key of its entry. -/
theorem get?_ofList_eq_some {entries : List (String × α)}
    (hentries : (entries.map Prod.fst).Nodup) {key : String} {value : α} :
    get? key (ofList entries) = some value ↔ (key, value) ∈ entries := by
  rw [ofList, get?_foldl_put hentries]
  simp [get?]

/-- Putting entries into a list gives a key the value of its last entry, and leaves a key without
one what the list held. -/
theorem get?_foldl_put_eq (entries : List (String × α)) (m : Keyed α) (key : String) :
    get? key (entries.foldl (fun m (k, v) => put k v m) m) =
      (entries.reverse.lookup key).or (get? key m) := by
  induction entries generalizing m with
  | nil => rfl
  | cons entry rest ih =>
    obtain ⟨k, v⟩ := entry
    rw [List.foldl_cons, ih, get?_put, List.reverse_cons, List.lookup_append, Option.or_assoc,
      List.lookup_cons, List.lookup_nil]
    by_cases hkey : key = k
    · simp [hkey]
    · simp [Ne.symm hkey, beq_eq_false_iff_ne.mpr hkey]

/-- A list laid over one that is made of entries is put behind these. -/
theorem overlay_ofList (entries top : List (String × α)) :
    overlay (ofList entries) top = ofList (entries ++ top) :=
  List.foldl_append.symm

/-- A list made of entries holds under a key the value of its last entry. -/
theorem get?_ofList (entries : List (String × α)) (key : String) :
    get? key (ofList entries) = entries.reverse.lookup key := by
  rw [ofList, get?_foldl_put_eq]
  exact Option.or_none

/-- Putting entries into a list adds their keys, and keeps the keys in ascending order. -/
lemma keys_foldl_put (entries : List (String × α)) {m : Keyed α} (hm : m.IsSorted) :
    (entries.foldl (fun m (k, v) => put k v m) m).IsSorted ∧
      ∀ key, key ∈ (entries.foldl (fun m (k, v) => put k v m) m).keys ↔
        key ∈ entries.map Prod.fst ∨ key ∈ m.keys := by
  induction entries generalizing m with
  | nil => simpa using hm
  | cons entry rest ih =>
    obtain ⟨k, v⟩ := entry
    obtain ⟨hsorted, hkeys⟩ := ih (hm.put k v)
    refine ⟨hsorted, fun key => ?_⟩
    rw [List.foldl_cons, hkeys, mem_keys_put, List.map_cons, List.mem_cons, or_left_comm, or_assoc]

/-- The keys of a list made of entries stand in ascending order. -/
theorem isSorted_ofList (entries : List (String × α)) : (ofList entries).IsSorted :=
  (keys_foldl_put entries (m := []) List.Pairwise.nil).1

/-- The keys of a list made of entries are the keys of these, each once. -/
theorem perm_keys_ofList (entries : List (String × α)) :
    (ofList entries).keys.Perm (entries.map Prod.fst).dedup := by
  obtain ⟨hsorted, hkeys⟩ := keys_foldl_put entries (m := []) List.Pairwise.nil
  refine (List.perm_ext_iff_of_nodup hsorted.nodup (List.nodup_dedup _)).mpr fun key => ?_
  rw [List.mem_dedup, hkeys]
  exact or_iff_left List.not_mem_nil

/-- The keys of a list made of entries are distinct. -/
lemma nodup_keys_ofList (entries : List (String × α)) : (ofList entries).keys.Nodup :=
  (perm_keys_ofList entries).symm.nodup (List.nodup_dedup _)

/-- The entries of a list made of entries are the last one of each key. -/
theorem mem_ofList {entries : List (String × α)} {key : String} {value : α} :
    (key, value) ∈ ofList entries ↔ entries.reverse.lookup key = some value := by
  rw [← get?_eq_some_iff (nodup_keys_ofList entries), get?_ofList]

/-- A list made of entries has no others. -/
lemma mem_of_mem_ofList {entries : List (String × α)} {entry : String × α}
    (h : entry ∈ ofList entries) : entry ∈ entries := by
  obtain ⟨before, after, heq, -⟩ := List.lookup_eq_some_iff.mp (mem_ofList.mp h)
  rw [← List.mem_reverse, heq]
  exact List.mem_append_right _ List.mem_cons_self

/-- The entries of a list made of entries with distinct keys are these. -/
lemma mem_ofList_of_nodup {entries : List (String × α)} (hentries : (entries.map Prod.fst).Nodup)
    {entry : String × α} : entry ∈ ofList entries ↔ entry ∈ entries := by
  rw [← get?_ofList_eq_some hentries, get?_eq_some_iff (nodup_keys_ofList entries)]

/-- A list made of entries has as many entries as these have keys. -/
theorem length_ofList (entries : List (String × α)) :
    (ofList entries).length = (entries.map Prod.fst).dedup.length := by
  rw [← (perm_keys_ofList entries).length_eq, keys, List.length_map]

/-- An entry whose key comes after all others is put at the end. -/
lemma put_of_forall_lt {key : String} (value : α) {m : Keyed α} (h : ∀ k ∈ m.keys, k < key) :
    put key value m = m ++ [(key, value)] := by
  induction m with
  | nil => rfl
  | cons entry rest ih =>
    obtain ⟨k, v⟩ := entry
    have hk : k < key := h k List.mem_cons_self
    rw [put, if_neg (lt_asymm hk), if_neg (ne_of_gt hk),
      ih fun k' hk' => h k' (List.mem_cons_of_mem _ hk'), List.cons_append]

/-- **Entries in order.** Entries in ascending order of their keys make a list of just these
entries.

**Proof sketch.** Put one after the other, each entry goes to the end. -/
theorem ofList_of_isSorted {m : Keyed α} (hm : m.IsSorted) : ofList m = m := by
  have hfold : ∀ entries base : Keyed α, IsSorted (base ++ entries) →
      entries.foldl (fun m (k, v) => put k v m) base = base ++ entries := by
    intro entries
    induction entries with
    | nil => exact fun base _ => (List.append_nil base).symm
    | cons entry rest ih =>
      intro base hsorted
      obtain ⟨key, value⟩ := entry
      have hlast : ∀ k ∈ base.keys, k < key := by
        intro k hk
        rw [IsSorted, keys, List.map_append] at hsorted
        exact (List.pairwise_append.mp hsorted).2.2 k hk key List.mem_cons_self
      rw [List.foldl_cons]
      dsimp only
      rw [put_of_forall_lt value hlast, ih _ (by rwa [List.append_assoc]), List.append_assoc]
      rfl
  exact hfold m [] hm

end Keyed

end PgGateway
