import PgGateway.Proofs.Keyed
import PgGateway.Shape.Record

set_option autoImplicit false

/-!
# Records read from objects

When the fields of a record each have one name, an object can be read exactly if no field is given
twice and each value fits its field. What the record is made of are then the values that the object
gives.

## Main definitions

* `PgGateway.Shape.valuesOf` — the values that the members of an object give to a key.
* `PgGateway.Shape.Record.IsPlain` — whether fields have one name each.
* `PgGateway.Shape.Record.Gives` — whether the members of an object give a field some data.
* `PgGateway.Shape.Record.FitInOrder` — whether the items of a list fit fields in order.

## Main results

* `PgGateway.Shape.Record.exists_gather_iff` — when the members of an object can be gathered.
* `PgGateway.Shape.Record.of_gather` — the value of a field in an object.
* `PgGateway.Shape.Record.exists_value_of_absent_eq_none` — a field that must be given is given
  once.
* `PgGateway.Shape.Record.of_eq_ok_iff` — the data of a field in an object.
* `PgGateway.Shape.Record.read_arr_eq_ok_iff` — when some data is read from a list.
* `PgGateway.Shape.Record.read_obj_eq_ok_iff_of_one`, `read_arr_eq_ok_iff_of_one` — when data with
  one field is read.
-/

namespace PgGateway.Shape

/-- The values that the members of an object give to a key, in order. -/
def valuesOf (key : String) (ms : List (String × Json)) : List Json :=
  (ms.filter fun m => m.1 = key).map Prod.snd

/-- A member with the key gives its value. -/
@[simp] lemma valuesOf_cons_self (key : String) (value : Json) (ms : List (String × Json)) :
    valuesOf key ((key, value) :: ms) = value :: valuesOf key ms := by
  simp [valuesOf]

/-- A member with another key gives none. -/
lemma valuesOf_cons_of_ne {key other : String} (h : other ≠ key) (value : Json)
    (ms : List (String × Json)) : valuesOf key ((other, value) :: ms) = valuesOf key ms := by
  simp [valuesOf, h]

/-- There is no value for a key that no member has. -/
lemma valuesOf_eq_nil {key : String} {ms : List (String × Json)} (h : key ∉ ms.map Prod.fst) :
    valuesOf key ms = [] := by
  rw [valuesOf, List.map_eq_nil_iff, List.filter_eq_nil_iff]
  intro m hm
  have hne : m.1 ≠ key := fun heq => h (heq ▸ List.mem_map_of_mem hm)
  simpa using hne

/-- Of members with distinct keys, each gives the only value for its key. -/
lemma valuesOf_eq_singleton {ms : List (String × Json)} (hdistinct : (ms.map Prod.fst).Nodup)
    {key : String} {value : Json} (hmember : (key, value) ∈ ms) : valuesOf key ms = [value] := by
  induction ms with
  | nil => cases hmember
  | cons m ms ih =>
    rw [List.map_cons, List.nodup_cons] at hdistinct
    rcases List.mem_cons.mp hmember with rfl | hrest
    · rw [valuesOf_cons_self, valuesOf_eq_nil hdistinct.1]
    · have hne : m.1 ≠ key := fun heq => hdistinct.1 (heq ▸ List.mem_map_of_mem hrest)
      rw [valuesOf_cons_of_ne hne, ih hdistinct.2 hrest]

/-- A value fits a field exactly if the field reads it. -/
lemma check_slot_iff {α : Type} {f : Field α} {value : Json} :
    f.slot.check value = .ok () ↔ ∃ a, f.read value = .ok a := by
  change (f.read value).map (fun _ => ()) = .ok () ↔ _
  cases f.read value <;> simp [Except.map]

namespace Record

/-- Whether fields have one name each, and no two have the same. -/
structure IsPlain (slots : List Slot) : Prop where
  /-- No field has a further name. -/
  aliases_eq : ∀ s ∈ slots, s.aliases = []
  /-- The names are distinct. -/
  nodup : (slots.map Slot.name).Nodup

variable {slots : List Slot}

/-- A key means the field of its name. -/
lemma IsPlain.slotFor?_eq (h : IsPlain slots) {s : Slot} (hs : s ∈ slots) :
    slotFor? slots s.name = some s :=
  find?_eq_some_of_nodup h.nodup hs fun s' hs' => by simp [h.aliases_eq s' hs']

/-- A key means a field only if it is the name of the field. -/
lemma IsPlain.of_slotFor? (h : IsPlain slots) {key : String} {s : Slot}
    (hkey : slotFor? slots key = some s) : s ∈ slots ∧ s.name = key := by
  have hs : s ∈ slots := List.mem_of_find?_eq_some hkey
  refine ⟨hs, ?_⟩
  simpa [h.aliases_eq s hs] using List.find?_some hkey

/-- Fields of the same name are the same. -/
lemma IsPlain.eq_of_name_eq (h : IsPlain slots) {s s' : Slot} (hs : s ∈ slots) (hs' : s' ∈ slots)
    (hname : s.name = s'.name) : s = s' := by
  have hfound := h.slotFor?_eq hs
  rw [hname, h.slotFor?_eq hs'] at hfound
  exact (Option.some.inj hfound).symm

/-- A key that means no field is the name of none. -/
lemma IsPlain.ne_of_slotFor? (h : IsPlain slots) {key : String} (hkey : slotFor? slots key = none)
    {s : Slot} (hs : s ∈ slots) : key ≠ s.name := by
  rintro rfl
  rw [h.slotFor?_eq hs] at hkey
  cases hkey

/-- Whether a field has at most one value, given before or by a member, and each value fits. -/
def Fits (given : Given) (ms : List (String × Json)) (s : Slot) : Prop :=
  ((given.lookup s.name).toList ++ valuesOf s.name ms).length ≤ 1 ∧
    ∀ value ∈ valuesOf s.name ms, s.check value = .ok ()

/-- What is given for a key with a value for one more field. -/
lemma lookup_append_singleton (given : Given) (name key : String) (value : Json) :
    (given ++ [(name, value)]).lookup key =
      (given.lookup key).or (if key = name then some value else none) := by
  rw [List.lookup_append, List.lookup_cons, List.lookup_nil]
  by_cases hkey : key = name
  · simp [hkey]
  · simp [hkey, beq_eq_false_iff_ne.mpr hkey]

/-- A field is given at most one fitting value by a member with its key and others if it has none
yet, the value of the member fits, and the others give it no value. -/
lemma fits_cons_self {given : Given} {ms : List (String × Json)} {s : Slot} {value : Json} :
    Fits given ((s.name, value) :: ms) s ↔
      given.lookup s.name = none ∧ s.check value = .ok () ∧
        Fits (given ++ [(s.name, value)]) ms s := by
  rw [Fits, Fits, valuesOf_cons_self, lookup_append_singleton, if_pos rfl]
  cases hgiven : given.lookup s.name with
  | none => simp only [List.mem_cons, forall_eq_or_imp]; simp; tauto
  | some old => simp

/-- A member with another key does not matter to a field. -/
lemma fits_cons_of_ne {given : Given} {ms : List (String × Json)} {s : Slot} {key : String}
    (h : key ≠ s.name) (value : Json) : Fits given ((key, value) :: ms) s ↔ Fits given ms s := by
  rw [Fits, Fits, valuesOf_cons_of_ne h]

/-- A value for another field does not matter to a field. -/
lemma fits_append_of_ne {given : Given} {ms : List (String × Json)} {s : Slot} {name : String}
    (h : s.name ≠ name) (value : Json) :
    Fits (given ++ [(name, value)]) ms s ↔ Fits given ms s := by
  rw [Fits, Fits, lookup_append_singleton, if_neg h, Option.or_none]

/-- All fields are given at most one fitting value by a member for one of them and others if that
field has none yet, the value of the member fits it, and the others do the same with it given. -/
lemma forall_fits_cons (hplain : IsPlain slots) {given : Given} {ms : List (String × Json)}
    {owner : Slot} (howner : owner ∈ slots) (value : Json) :
    (∀ s ∈ slots, Fits given ((owner.name, value) :: ms) s) ↔
      given.lookup owner.name = none ∧ owner.check value = .ok () ∧
        ∀ s ∈ slots, Fits (given ++ [(owner.name, value)]) ms s := by
  constructor
  · intro hfits
    obtain ⟨hfresh, hcheck, hself⟩ := fits_cons_self.mp (hfits owner howner)
    refine ⟨hfresh, hcheck, fun s hs => ?_⟩
    by_cases hname : s.name = owner.name
    · exact hplain.eq_of_name_eq hs howner hname ▸ hself
    · rw [fits_append_of_ne hname]
      exact (fits_cons_of_ne (Ne.symm hname) value).mp (hfits s hs)
  · rintro ⟨hfresh, hcheck, hfits⟩ s hs
    by_cases hname : s.name = owner.name
    · rw [hplain.eq_of_name_eq hs howner hname]
      exact fits_cons_self.mpr ⟨hfresh, hcheck, hfits owner howner⟩
    · rw [fits_cons_of_ne (Ne.symm hname)]
      exact (fits_append_of_ne hname value).mp (hfits s hs)

/-- A field is given one fitting value if it is given once and the value is read. -/
lemma fits_of_eq {α : Type} {f : Field α} {ms : List (String × Json)} {value : Json} {a : α}
    (hvalue : valuesOf f.name ms = [value]) (hread : f.read value = .ok a) : Fits [] ms f.slot := by
  have hvalues : valuesOf f.slot.name ms = [value] := hvalue
  have hcheck : f.slot.check value = .ok () := by
    change (f.read value).map (fun _ => ()) = .ok ()
    rw [hread]
    rfl
  rw [Fits, hvalues]
  simpa using hcheck

/-- **Objects that can be read.** The members of an object can be gathered for the fields exactly if
each field has at most one value and each value fits.

**Proof sketch.** Induction on the members, for all that is given before. A member without a field
does not matter (`fits_cons_of_ne`), and the value of any other is given to its field from then on
(`forall_fits_cons`). -/
theorem exists_gather_iff (hplain : IsPlain slots) (given : Given) (ms : List (String × Json)) :
    (∃ out, gather slots given ms = .ok out) ↔ ∀ s ∈ slots, Fits given ms s := by
  induction ms generalizing given with
  | nil =>
    refine ⟨fun _ s _ => ⟨?_, nofun⟩, fun _ => ⟨given, rfl⟩⟩
    cases hgiven : given.lookup s.name <;> simp [valuesOf]
  | cons m ms ih =>
    obtain ⟨key, value⟩ := m
    rw [gather]
    cases hkey : slotFor? slots key with
    | none =>
      dsimp only
      rw [ih]
      exact forall₂_congr fun s hs => (fits_cons_of_ne (hplain.ne_of_slotFor? hkey hs) value).symm
    | some owner =>
      obtain ⟨howner, rfl⟩ := hplain.of_slotFor? hkey
      rw [forall_fits_cons hplain howner value]
      dsimp only
      -- A second value for a field ends the reading, and so does one that does not fit.
      split
      · next hused =>
        have hne : given.lookup owner.name ≠ none := Option.isSome_iff_ne_none.mp hused
        simp [hne]
      · next hfresh =>
        rw [Option.not_isSome_iff_eq_none] at hfresh
        cases hcheck : owner.check value with
        | error mismatch => simp
        | ok _ => simpa [hfresh] using ih (given ++ [(owner.name, value)])

/-- What is gathered for a field is what was given for it before, or the first value that the
members give. -/
theorem lookup_gather (hplain : IsPlain slots) {given out : Given} {ms : List (String × Json)}
    (h : gather slots given ms = .ok out) {s : Slot} (hs : s ∈ slots) :
    out.lookup s.name = (given.lookup s.name).or (valuesOf s.name ms).head? := by
  induction ms generalizing given with
  | nil =>
    cases h
    exact (Option.or_none).symm
  | cons m ms ih =>
    obtain ⟨key, value⟩ := m
    rw [gather] at h
    cases hkey : slotFor? slots key with
    | none =>
      rw [hkey] at h
      rw [ih h, valuesOf_cons_of_ne (hplain.ne_of_slotFor? hkey hs)]
    | some owner =>
      rw [hkey] at h
      dsimp only at h
      obtain ⟨-, rfl⟩ := hplain.of_slotFor? hkey
      split at h
      · cases h
      · split at h
        · rw [ih h, lookup_append_singleton, Option.or_assoc]
          by_cases hname : s.name = owner.name
          · rw [if_pos hname, hname, valuesOf_cons_self, List.head?_cons, Option.some_or]
          · rw [if_neg hname, Option.none_or, valuesOf_cons_of_ne (Ne.symm hname)]
        · cases h

/-- The value of a field in an object is what the first value of its key reads as, or what stands
for its absence. -/
theorem of_gather {α : Type} (hplain : IsPlain slots) {given : Given} {ms : List (String × Json)}
    (h : gather slots [] ms = .ok given) {f : Field α} (hf : f.slot ∈ slots) :
    f.of given =
      match (valuesOf f.name ms).head?, f.absent with
      | some value, _ => f.read value
      | none, some a => .ok a
      | none, none => .error (.missingField f.name) := by
  have hlookup : given.lookup f.name = (valuesOf f.name ms).head? := lookup_gather hplain h hf
  rw [Field.of, hlookup]
  cases (valuesOf f.name ms).head? with
  | some value => rfl
  | none => cases f.absent <;> rfl

/-- A field that no member gives has the value that stands for its absence. -/
lemma of_gather_of_not_mem {α : Type} (hplain : IsPlain slots) {given : Given}
    {ms : List (String × Json)} (h : gather slots [] ms = .ok given) {f : Field α}
    (hf : f.slot ∈ slots) (hnot : f.name ∉ ms.map Prod.fst) {a : α} (ha : f.absent = some a) :
    f.of given = .ok a := by
  rw [of_gather hplain h hf, valuesOf_eq_nil hnot, ha]
  rfl

/-- A field is given at most once. -/
lemma length_valuesOf_le (hplain : IsPlain slots) {given : Given} {ms : List (String × Json)}
    (h : gather slots [] ms = .ok given) {s : Slot} (hs : s ∈ slots) :
    (valuesOf s.name ms).length ≤ 1 :=
  ((exists_gather_iff hplain [] ms).mp ⟨given, h⟩ s hs).1

/-- A field that nothing stands for is given once if it has a value. -/
theorem exists_value_of_absent_eq_none {α : Type} (hplain : IsPlain slots) {given : Given}
    {ms : List (String × Json)} (h : gather slots [] ms = .ok given) {f : Field α}
    (hf : f.slot ∈ slots) (habsent : f.absent = none) {a : α} (ha : f.of given = .ok a) :
    ∃ value, valuesOf f.name ms = [value] ∧ f.read value = .ok a := by
  have hlength : (valuesOf f.name ms).length ≤ 1 := length_valuesOf_le hplain h hf
  rw [of_gather hplain h hf, habsent] at ha
  match hvalues : valuesOf f.name ms, hlength with
  | [], _ =>
    rw [hvalues] at ha
    cases ha
  | [value], _ =>
    rw [hvalues] at ha
    exact ⟨value, rfl, ha⟩

/-- Whether the members of an object give a field some data: no value, and the data stands for that,
or one value, which is read as the data. -/
def Gives {α : Type} (ms : List (String × Json)) (f : Field α) (a : α) : Prop :=
  (valuesOf f.name ms = [] ∧ f.absent = some a) ∨
    ∃ value, valuesOf f.name ms = [value] ∧ f.read value = .ok a

/-- Members that give a field some data give it at most one value, which fits. -/
lemma Gives.fits {α : Type} {f : Field α} {ms : List (String × Json)} {a : α} (h : Gives ms f a) :
    Fits [] ms f.slot := by
  rcases h with ⟨hnone, -⟩ | ⟨value, hone, ha⟩
  · have hvalues : valuesOf f.slot.name ms = [] := hnone
    rw [Fits, hvalues]
    simp
  · exact fits_of_eq hone ha

/-- The data of a field in an object is what the members give it. -/
theorem of_eq_ok_iff {α : Type} (hplain : IsPlain slots) {given : Given}
    {ms : List (String × Json)} (h : gather slots [] ms = .ok given) {f : Field α}
    (hf : f.slot ∈ slots) {a : α} : f.of given = .ok a ↔ Gives ms f a := by
  have hlength : (valuesOf f.name ms).length ≤ 1 := length_valuesOf_le hplain h hf
  rw [of_gather hplain h hf, Gives]
  match hvalues : valuesOf f.name ms, hlength with
  | [], _ => cases f.absent <;> simp
  | [value], _ => simp

/-- Some data is read from an object exactly on a condition, if on this condition the values fit the
fields, and when they do, they make up the data exactly on the condition. -/
lemma read_obj_eq_ok_iff {α : Type} {r : Record α} (hplain : IsPlain r.slots)
    {ms : List (String × Json)} {a : α} {p : Prop} (hfits : p → ∀ s ∈ r.slots, Fits [] ms s)
    (hbuild : ∀ given, gather r.slots [] ms = .ok given → (r.build given = .ok a ↔ p)) :
    r.read (.obj ms) = .ok a ↔ p := by
  rw [read, ofMembers]
  cases hgiven : gather r.slots [] ms with
  | ok given => exact hbuild given hgiven
  | error mismatch =>
    refine iff_of_false (by simp) fun hp => ?_
    obtain ⟨given, hok⟩ := (exists_gather_iff hplain [] ms).mpr (hfits hp)
    rw [hgiven] at hok
    cases hok

/-- A record that is read from an object is made of what its members give to the fields. -/
theorem exists_gather_of_read {α : Type} {r : Record α} {ms : List (String × Json)} {a : α}
    (h : r.read (.obj ms) = .ok a) :
    ∃ given, gather r.slots [] ms = .ok given ∧ r.build given = .ok a := by
  rw [read, ofMembers] at h
  split at h
  · next given hgiven => exact ⟨given, hgiven, h⟩
  · cases h

/-! ## Lists -/

/-- Whether the items of a list fit fields in order, as many as there are items, and a list may end
before the others. -/
def FitInOrder : List Slot → List Json → Prop
  | [], js => js = []
  | s :: slots, [] => s.trailing = true ∧ FitInOrder slots []
  | s :: slots, item :: rest => s.check item = .ok () ∧ FitInOrder slots rest

/-- Fields that the items of a list fit in order are given these items. -/
lemma fill_of_fitInOrder (tooShort : Nat → Mismatch) {js : List Json} (h : FitInOrder slots js)
    (given : Given) (position : Nat) :
    fill tooShort given position slots js = .ok (given ++ (slots.map Slot.name).zip js, []) := by
  induction slots generalizing given position js with
  | nil =>
    obtain rfl : js = [] := h
    simp [fill]
  | cons s slots ih =>
    cases js with
    | nil =>
      obtain ⟨htrailing, hrest⟩ := h
      rw [fill, if_pos htrailing, ih hrest]
      simp
    | cons item rest =>
      obtain ⟨hcheck, hrest⟩ := h
      rw [fill, hcheck]
      dsimp only
      rw [ih hrest, List.append_assoc]
      rfl

/-- Fields are only given all items of a list if these fit them in order. -/
lemma fitInOrder_of_fill {tooShort : Nat → Mismatch} {js : List Json} {given out : Given}
    {position : Nat} (h : fill tooShort given position slots js = .ok (out, [])) :
    FitInOrder slots js := by
  induction slots generalizing given position js with
  | nil =>
    rw [fill] at h
    injection h with hpair
    exact (Prod.mk.inj hpair).2
  | cons s slots ih =>
    cases js with
    | nil =>
      rw [fill] at h
      split at h
      · next htrailing => exact ⟨htrailing, ih h⟩
      · cases h
    | cons item rest =>
      rw [fill] at h
      split at h
      · next hcheck => exact ⟨hcheck, ih h⟩
      · cases h

/-- Data is read from a list exactly if the items fit the fields in order and make up the data. -/
theorem read_arr_eq_ok_iff {α : Type} {r : Record α} {js : List Json} {a : α} :
    r.read (.arr js) = .ok a ↔
      FitInOrder r.slots js ∧ r.build ((r.slots.map Slot.name).zip js) = .ok a := by
  rw [read]
  constructor
  · intro ha
    rw [ofItems] at ha
    split at ha
    · next given hgiven =>
      have hfit := fitInOrder_of_fill hgiven
      rw [fill_of_fitInOrder r.tooShort hfit, List.nil_append] at hgiven
      cases hgiven
      exact ⟨hfit, ha⟩
    · cases ha
    · cases ha
  · rintro ⟨hfit, ha⟩
    rw [ofItems, fill_of_fitInOrder r.tooShort hfit]
    exact ha

/-! ## One field -/

section One

variable {α β : Type} {r : Record β} {f : Field α} {a : α} {d : β}

/-- A record with one field that must be given is read from the objects that give it one value. -/
lemma read_obj_eq_ok_iff_of_one (hslots : r.slots = [f.slot]) (haliases : f.aliases = [])
    (habsent : f.absent = none) (hbuild : ∀ given, r.build given = .ok d ↔ f.of given = .ok a)
    {ms : List (String × Json)} :
    r.read (.obj ms) = .ok d ↔ ∃ value, valuesOf f.name ms = [value] ∧ f.read value = .ok a := by
  have hplain : IsPlain r.slots := by
    rw [hslots]
    exact ⟨by simpa [Field.slot] using haliases, by simp⟩
  have hgives : Gives ms f a ↔ ∃ value, valuesOf f.name ms = [value] ∧ f.read value = .ok a := by
    simp [Gives, habsent]
  rw [← hgives]
  refine read_obj_eq_ok_iff hplain (fun h => ?_) fun given hgiven => ?_
  · rw [hslots]
    simpa using h.fits
  · rw [hbuild, of_eq_ok_iff hplain hgiven (by simp [hslots])]

/-- It is read from the lists with its value as the only item. -/
lemma read_arr_eq_ok_iff_of_one (hslots : r.slots = [f.slot]) (htrailing : f.trailing = false)
    (hbuild : ∀ given, r.build given = .ok d ↔ f.of given = .ok a) {js : List Json} :
    r.read (.arr js) = .ok d ↔ ∃ value, js = [value] ∧ f.read value = .ok a := by
  rw [read_arr_eq_ok_iff, hslots, hbuild]
  cases js with
  | nil =>
    have hslot : f.slot.trailing = false := htrailing
    simp [FitInOrder, hslot]
  | cons item rest =>
    have hvalue : f.of (([f.slot].map Slot.name).zip (item :: rest)) = f.read item := by
      simp [Field.of, Field.slot]
    rw [hvalue, FitInOrder, FitInOrder, check_slot_iff]
    constructor
    · rintro ⟨⟨-, rfl⟩, h⟩
      exact ⟨item, rfl, h⟩
    · rintro ⟨value, heq, h⟩
      cases heq
      exact ⟨⟨⟨a, h⟩, rfl⟩, h⟩

end One

end Record

end PgGateway.Shape
