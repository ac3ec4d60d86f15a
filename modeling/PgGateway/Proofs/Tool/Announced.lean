import PgGateway.Proofs.Shape.Alias
import PgGateway.Proofs.Tool.Schema

set_option autoImplicit false

/-!
# Arguments as announced and as read

A tool says twice which arguments it takes: by the schema that it announces and by the reader of its
arguments. A record is announced by a schema with the same members if each value that is valid for a
member can be read as the field of its name, and what must be given as a field must be given as a
member. What remains are objects that say more than the schema asks about: those that use a further
name of a field, of which the schema does not know.

## Main definitions

* `PgGateway.Shape.Reads` — whether a reader takes all values of a shape.
* `PgGateway.Shape.IsUnambiguous` — whether a field is given under one of its two names only, and
  under the other one by a value that fits.
* `PgGateway.Shape.Announced` — whether the fields of a record are announced by the members of a
  schema, and on which condition an object that is valid for these can be read.

## Main results

* `PgGateway.Shape.Announced.exists_read_iff` — a record can be read from a valid object exactly on
  that condition.
-/

namespace PgGateway.Shape

/-- Whether a reader takes all values of a shape. -/
def Reads {α : Type} (read : Reader α) (schema : Schema) : Prop :=
  ∀ value : Json, value.IsDistinct → schema.toJson.Admits value → ∃ a, read value = .ok a

/-- Strings are read as texts. -/
lemma reads_text : Reads text .text := by
  intro value _ hvalid
  obtain ⟨s, rfl⟩ := Schema.admits_text.mp hvalid
  exact ⟨s, rfl⟩

/-- Some strings are read as texts. -/
lemma reads_choice (options : List String) : Reads text (.choice options) := by
  intro value _ hvalid
  obtain ⟨s, -, rfl⟩ := Schema.admits_choice.mp hvalid
  exact ⟨s, rfl⟩

/-- Truth values are read as flags. -/
lemma reads_flag : Reads flag .flag := by
  intro value _ hvalid
  obtain ⟨b, rfl⟩ := Schema.admits_flag.mp hvalid
  exact ⟨b, rfl⟩

/-- Values of any shape can be taken as they are. -/
lemma reads_any (schema : Schema) : Reads any schema :=
  fun value _ _ => ⟨value, rfl⟩

section

variable {α : Type} {read : Reader α} {schema : Schema}

/-- A description does not matter. -/
lemma Reads.described (h : Reads read schema) (description : String) :
    Reads read (.described description schema) :=
  fun value hdistinct hvalid => h value hdistinct (Schema.admits_described.mp hvalid)

/-- What is read can be read where null stands for nothing as well. -/
lemma exists_optional_of_exists {value : Json} (h : ∃ a, read value = .ok a) :
    ∃ a, optional read value = .ok a := by
  obtain ⟨a, ha⟩ := h
  cases value with
  | null => exact ⟨none, rfl⟩
  | _ => exact ⟨some a, congrArg (Except.map some) ha⟩

/-- Values of a shape can be read where null stands for nothing as well. -/
lemma Reads.optional (h : Reads read schema) : Reads (Shape.optional read) schema :=
  fun value hdistinct hvalid => exists_optional_of_exists (h value hdistinct hvalid)

/-- What one of several readers takes can be read by them together. -/
lemma exists_oneOf_of_mem {type : String} {readers : List (Reader α)} (hread : read ∈ readers)
    {value : Json} (h : ∃ a, read value = .ok a) : ∃ a, oneOf type readers value = .ok a := by
  obtain ⟨a, ha⟩ := h
  have hsome : (readers.findSome? fun r => (r value).toOption).isSome := by
    rw [List.findSome?_isSome_iff]
    exact ⟨read, hread, by rw [ha]; rfl⟩
  obtain ⟨b, hb⟩ := Option.isSome_iff_exists.mp hsome
  exact ⟨b, by rw [oneOf, hb]⟩

/-- Data can be read before a function is applied to it. -/
lemma exists_map_iff {β : Type} {f : α → β} {x : Except Mismatch α} :
    (∃ b, x.map f = .ok b) ↔ ∃ a, x = .ok a := by
  cases x <;> simp [Except.map]

/-- The items of a list can be read if each can. -/
lemma exists_items_iff {js : List Json} :
    (∃ as, items read js = .ok as) ↔ ∀ j ∈ js, ∃ a, read j = .ok a := by
  induction js with
  | nil => simp [items]
  | cons j rest ih =>
    rw [List.forall_mem_cons, ← ih, items]
    cases read j with
    | error e => simp
    | ok a => cases items read rest <;> simp [Except.map]

end

/-- Whether an object gives a field that has two names under one of them only, and under the other
one by a value that fits. -/
def IsUnambiguous (name other : String) (fits : Json → Prop) (ms : List (String × Json)) : Prop :=
  ∀ value, (other, value) ∈ ms → name ∉ ms.map Prod.fst ∧ fits value

/-- The members of a schema: for each its name, whether it must be given, and its shape. -/
abbrev Announcement := List (String × Bool × Schema)

/-- Whether fields, and the data made of them, are announced by the members of a schema. The last
argument is the condition on which an object that is valid for these gives the fields. -/
inductive Announced {α : Type} :
    List Slot → (Given → Except Mismatch α) → Announcement → (List (String × Json) → Prop) → Prop
  /-- Data without further fields. -/
  | done (a : α) : Announced [] (fun _ => pure a) [] fun _ => True
  /-- A field that takes all valid values of its member. -/
  | field {β : Type} [Inhabited β] {f : Field β} {must : Bool} {schema : Schema} {slots : List Slot}
    {build : β → Given → Except Mismatch α} {members : Announcement}
    {clear : List (String × Json) → Prop} (hmust : f.absent = none → must = true)
    (haliases : f.aliases = []) (hreads : Reads f.read schema)
    (hrest : ∀ b, Announced slots (build b) members clear) :
    Announced (f.slot :: slots) (fun given => f.of given >>= fun b => build b given)
      ((f.name, must, schema) :: members) clear
  /-- A field that takes a valid value of its member on a condition. -/
  | provided {β : Type} [Inhabited β] {f : Field β} {must : Bool} {schema : Schema}
    {slots : List Slot} {build : β → Given → Except Mismatch α} {members : Announcement}
    {clear : List (String × Json) → Prop} {fits : Json → Prop}
    (hmust : f.absent = none → must = true) (haliases : f.aliases = [])
    (hreads : ∀ value : Json, value.IsDistinct → schema.toJson.Admits value →
      ((∃ b, f.read value = .ok b) ↔ fits value))
    (hrest : ∀ b, Announced slots (build b) members clear) :
    Announced (f.slot :: slots) (fun given => f.of given >>= fun b => build b given)
      ((f.name, must, schema) :: members)
      fun ms => (∀ value, (f.name, value) ∈ ms → fits value) ∧ clear ms
  /-- A field that takes all valid values of its member, and has another name. -/
  | renamed {β : Type} [Inhabited β] {f : Field β} {other : String} {must : Bool} {schema : Schema}
    {slots : List Slot} {build : β → Given → Except Mismatch α} {members : Announcement}
    {clear : List (String × Json) → Prop} {fits : Json → Prop}
    (hmust : f.absent = none → must = true) (haliases : f.aliases = [other])
    (hother : other ≠ f.name) (hreads : Reads f.read schema)
    (hfits : ∀ value, (∃ b, f.read value = .ok b) ↔ fits value)
    (hrest : ∀ b, Announced slots (build b) members clear) :
    Announced (f.slot :: slots) (fun given => f.of given >>= fun b => build b given)
      ((f.name, must, schema) :: members)
      fun ms => IsUnambiguous f.name other fits ms ∧ clear ms

section

variable {α β : Type} [Inhabited β] {name : String} {read : Reader β} {schema : Schema}
  {slots : List Slot} {members : Announcement} {clear : List (String × Json) → Prop}

/-- A field that must be given takes all valid values of its member if its reader does. -/
lemma Announced.required {build : β → Given → Except Mismatch α} (hreads : Reads read schema)
    (hrest : ∀ b, Announced slots (build b) members clear) :
    Announced ((Field.required name read).slot :: slots)
      (fun given => (Field.required name read).of given >>= fun b => build b given)
      (Schema.must name schema :: members) clear :=
  .field (fun _ => rfl) rfl hreads hrest

/-- So does a field for which a value stands if it is left out. -/
lemma Announced.defaulted {value : β} {build : β → Given → Except Mismatch α}
    (hreads : Reads read schema) (hrest : ∀ b, Announced slots (build b) members clear) :
    Announced ((Field.defaulted name read value).slot :: slots)
      (fun given => (Field.defaulted name read value).of given >>= fun b => build b given)
      (Schema.may name schema :: members) clear :=
  .field nofun rfl hreads hrest

omit [Inhabited β] in
/-- So does a field that may be left out or null. -/
lemma Announced.omissible {build : Option β → Given → Except Mismatch α}
    (hreads : Reads read schema) (hrest : ∀ b, Announced slots (build b) members clear) :
    Announced ((Field.omissible name read).slot :: slots)
      (fun given => (Field.omissible name read).of given >>= fun b => build b given)
      (Schema.may name schema :: members) clear :=
  .field nofun rfl hreads.optional hrest

end

/-- A value fits a field if it can be read. -/
lemma check_slot_eq_ok {β : Type} {f : Field β} {value : Json} :
    f.slot.check value = .ok () ↔ ∃ b, f.read value = .ok b := by
  change (f.read value).map (fun _ => ()) = .ok () ↔ _
  cases f.read value <;> simp [Except.map]

section

variable {α : Type} {slots : List Slot} {build : Given → Except Mismatch α}
  {members : Announcement} {clear : List (String × Json) → Prop} {ms : List (String × Json)}

/-- Whether an object gives a field at most once, by a value that fits. -/
def Slot.IsGiven (s : Slot) (ms : List (String × Json)) : Prop :=
  (s.valuesIn ms).length ≤ 1 ∧ ∀ value ∈ s.valuesIn ms, s.check value = .ok ()

/-- A field without further names is given at most once by an object with distinct keys. -/
lemma isGiven_of_aliases_eq_nil {β : Type} {f : Field β} (haliases : f.aliases = [])
    (hkeys : (ms.map Prod.fst).Nodup) :
    f.slot.IsGiven ms ↔ ∀ value, (f.name, value) ∈ ms → ∃ b, f.read value = .ok b := by
  have hnames : ∀ key, key ∈ f.slot.names ↔ key = f.name := by
    intro key
    rw [Slot.names, Field.slot, haliases, List.mem_singleton]
  have honce : ∀ m ∈ ms, m.1 ∈ f.slot.names → ∀ m' ∈ ms, m'.1 ∈ f.slot.names → m.1 = m'.1 :=
    fun m _ hm m' _ hm' => ((hnames m.1).mp hm).trans ((hnames m'.1).mp hm').symm
  rw [Slot.IsGiven, Slot.length_valuesIn_le_one_iff hkeys, and_iff_right honce]
  simp [Slot.mem_valuesIn, hnames, check_slot_eq_ok]

/-- A field with another name is given at most once by an object with distinct keys if this gives it
under that name only in place of its own. -/
lemma isGiven_of_aliases_eq_singleton {β : Type} {f : Field β} {other : String}
    (haliases : f.aliases = [other]) (hother : other ≠ f.name) (hkeys : (ms.map Prod.fst).Nodup) :
    f.slot.IsGiven ms ↔ (∀ value, (f.name, value) ∈ ms → ∃ b, f.read value = .ok b) ∧
      IsUnambiguous f.name other (fun value => ∃ b, f.read value = .ok b) ms := by
  have hnames : ∀ key, key ∈ f.slot.names ↔ key = f.name ∨ key = other := by
    intro key
    rw [Slot.names, Field.slot, haliases, List.mem_cons, List.mem_singleton]
  have honce : (∀ m ∈ ms, m.1 ∈ f.slot.names → ∀ m' ∈ ms, m'.1 ∈ f.slot.names → m.1 = m'.1) ↔
      ∀ value, (other, value) ∈ ms → f.name ∉ ms.map Prod.fst := by
    constructor
    · rintro h value hvalue hname
      obtain ⟨m, hm, hm'⟩ := List.mem_map.mp hname
      exact hother ((h _ hvalue ((hnames other).mpr (.inr rfl)) m hm
        ((hnames m.1).mpr (.inl hm'))).trans hm')
    · rintro h ⟨key, value⟩ hm hkey ⟨key', value'⟩ hm' hkey'
      rcases (hnames key).mp hkey with rfl | rfl
      · rcases (hnames key').mp hkey' with rfl | rfl
        · rfl
        · exact absurd (List.mem_map_of_mem hm) (h value' hm')
      · rcases (hnames key').mp hkey' with rfl | rfl
        · exact absurd (List.mem_map_of_mem hm') (h value hm)
        · rfl
  have hvalues : (∀ value ∈ f.slot.valuesIn ms, f.slot.check value = .ok ()) ↔
      (∀ value, (f.name, value) ∈ ms → ∃ b, f.read value = .ok b) ∧
        ∀ value, (other, value) ∈ ms → ∃ b, f.read value = .ok b := by
    simp [Slot.mem_valuesIn, hnames, check_slot_eq_ok, or_imp, forall_and]
  rw [Slot.IsGiven, Slot.length_valuesIn_le_one_iff hkeys, honce, hvalues]
  simp only [IsUnambiguous, forall_and]
  tauto

/-- The members that announce fields have the names of these. -/
lemma Announced.map_name_eq (h : Announced slots build members clear) :
    slots.map Slot.name = members.map Prod.fst := by
  induction h with
  | done a => rfl
  | field _ _ _ _ ih | provided _ _ _ _ ih | renamed _ _ _ _ _ _ ih =>
    rw [List.map_cons, List.map_cons, ih default]
    rfl

/-- Fields are given at most once and by values that fit, by an object that is valid for their
members, exactly on the condition that is announced. -/
lemma Announced.forall_isGiven_iff (h : Announced slots build members clear)
    (hkeys : (ms.map Prod.fst).Nodup) (hdistinct : ∀ m ∈ ms, m.2.IsDistinct)
    (hvalid : ∀ m ∈ members, ∀ given, (m.1, given) ∈ ms → m.2.2.toJson.Admits given) :
    (∀ s ∈ slots, s.IsGiven ms) ↔ clear ms := by
  induction h with
  | done a => simp
  | field _ haliases hreads _ ih =>
    obtain ⟨hfirst, hrest⟩ := List.forall_mem_cons.mp hvalid
    rw [List.forall_mem_cons, isGiven_of_aliases_eq_nil haliases hkeys, ih default hrest]
    exact and_iff_right fun value hvalue =>
      hreads value (hdistinct _ hvalue) (hfirst value hvalue)
  | provided _ haliases hreads _ ih =>
    obtain ⟨hfirst, hrest⟩ := List.forall_mem_cons.mp hvalid
    rw [List.forall_mem_cons, isGiven_of_aliases_eq_nil haliases hkeys, ih default hrest]
    exact and_congr_left' (forall₂_congr fun value hvalue =>
      hreads value (hdistinct _ hvalue) (hfirst value hvalue))
  | renamed _ haliases hother hreads hfits _ ih =>
    obtain ⟨hfirst, hrest⟩ := List.forall_mem_cons.mp hvalid
    rw [List.forall_mem_cons, isGiven_of_aliases_eq_singleton haliases hother hkeys,
      ih default hrest, funext fun value => propext (hfits value)]
    exact and_congr_left' (and_iff_right fun value hvalue =>
      hreads value (hdistinct _ hvalue) (hfirst value hvalue))

/-- The value of a field can be read from what is given if that fits, and if there is some for a
field that nothing stands for. -/
lemma exists_of_eq_ok {β : Type} {f : Field β} {given : Given}
    (hfits : ∀ value, given.lookup f.name = some value → f.slot.check value = .ok ())
    (hgiven : f.absent = none → (given.lookup f.name).isSome) : ∃ b, f.of given = .ok b := by
  rw [Field.of]
  cases hlookup : given.lookup f.name with
  | some value => exact check_slot_eq_ok.mp (hfits value hlookup)
  | none =>
    cases habsent : f.absent with
    | some b => exact ⟨b, rfl⟩
    | none =>
      have hsome := hgiven habsent
      rw [hlookup] at hsome
      cases hsome

/-- The data can be made of values that fit, if there is one for each member that must be given. -/
lemma Announced.exists_build (h : Announced slots build members clear) {given : Given}
    (hfits : ∀ s ∈ slots, ∀ value, given.lookup s.name = some value → s.check value = .ok ())
    (hgiven : ∀ m ∈ members, m.2.1 = true → (given.lookup m.1).isSome) :
    ∃ a, build given = .ok a := by
  induction h with
  | done a => exact ⟨a, rfl⟩
  | field hmust _ _ _ ih | provided hmust _ _ _ ih | renamed hmust _ _ _ _ _ ih =>
    obtain ⟨hfirst, hrest⟩ := List.forall_mem_cons.mp hfits
    obtain ⟨hfirst', hrest'⟩ := List.forall_mem_cons.mp hgiven
    obtain ⟨b, hb⟩ := exists_of_eq_ok hfirst fun habsent => hfirst' (hmust habsent)
    obtain ⟨a, ha⟩ := ih b hrest hrest'
    refine ⟨a, ?_⟩
    dsimp only
    rw [hb]
    exact ha

/-- **Announced arguments can be read.** A record that is announced by the members of a schema can
be read from an object that is valid under the schema exactly on the condition that is announced.

**Proof sketch.** The object can be gathered exactly if each field is given at most once and by a
value that fits (`Record.exists_gather_iff_valuesIn`), and that is the condition
(`Announced.forall_isGiven_iff`). What is gathered has a fitting value for each field that must be
given, so the record can be made of it (`Announced.exists_build`). -/
theorem Announced.exists_read_iff {r : Record α} (h : Announced r.slots r.build members clear)
    (hnames : Record.HasDistinctNames r.slots) (hms : (Json.obj ms).IsDistinct)
    (hvalid : (Schema.record members).toJson.Admits (.obj ms)) :
    (∃ a, r.read (.obj ms) = .ok a) ↔ clear ms := by
  have hdistinct : (members.map Prod.fst).Nodup := h.map_name_eq ▸ hnames.nodup
  rw [Schema.admits_record hdistinct] at hvalid
  rw [Json.isDistinct_obj] at hms
  rw [← h.forall_isGiven_iff hms.1 hms.2 hvalid.2]
  constructor
  · rintro ⟨a, ha⟩
    obtain ⟨given, hgiven, -⟩ := Record.exists_gather_of_read ha
    exact (Record.exists_gather_iff_valuesIn hnames ms).mp ⟨given, hgiven⟩
  · intro hfits
    obtain ⟨given, hgather⟩ := (Record.exists_gather_iff_valuesIn hnames ms).mpr hfits
    have hlookup : ∀ s ∈ r.slots, given.lookup s.name = (s.valuesIn ms).head? :=
      fun s hs => Record.lookup_gather_eq hnames hgather hs
    have hvalues : ∀ s ∈ r.slots, ∀ value, given.lookup s.name = some value →
        s.check value = .ok () := by
      intro s hs value hvalue
      rw [hlookup s hs] at hvalue
      exact (hfits s hs).2 value (List.mem_of_head? hvalue)
    have hgiven : ∀ m ∈ members, m.2.1 = true → (given.lookup m.1).isSome := by
      intro m hm hmust
      have hname : m.1 ∈ r.slots.map Slot.name := h.map_name_eq ▸ List.mem_map_of_mem hm
      obtain ⟨s, hs, hname⟩ := List.mem_map.mp hname
      obtain ⟨⟨key, value⟩, hvalue, rfl⟩ := List.mem_map.mp (hvalid.1 m hm hmust)
      have hmem : value ∈ s.valuesIn ms :=
        Slot.mem_valuesIn.mpr ⟨m.1, hname ▸ List.mem_cons_self, hvalue⟩
      rw [← hname, hlookup s hs, List.isSome_head?]
      exact List.ne_nil_of_mem hmem
    obtain ⟨a, ha⟩ := h.exists_build hvalues hgiven
    refine ⟨a, ?_⟩
    rw [Record.read, Record.ofMembers, hgather]
    exact ha

end

end PgGateway.Shape
