import PgGateway.Proofs.Keyed
import PgGateway.Sandbox.Convention
import Mathlib.Tactic.Common

set_option autoImplicit false

/-!
# The rules of calling conventions

A convention says by tables what members the arguments of a method stand for. The rules by which the
tables are read are stated here as a relation, one rule at a time, each for the arguments that no
rule before it fits. The parameters that are made of arguments are just those that the rules
prescribe.

## Main definitions

* `PgGateway.Json.IsScalar` — whether a value is neither a list nor an object.
* `PgGateway.Sandbox.Slots.keys` — the members that arguments stand for, in order.
* `PgGateway.Sandbox.Convention.EndsWith` — the members that arguments give by name at their end.
* `PgGateway.Sandbox.Convention.Prescribes` — the rules.

## Main results

* `PgGateway.Sandbox.Convention.bind_of_prescribes` — what the rules prescribe is made.
* `PgGateway.Sandbox.Convention.bind_eq_iff_prescribes` — nothing else is made.
* `PgGateway.Sandbox.Convention.bind_scalars` — scalars stand for the members in order.
-/

namespace PgGateway

/-- Whether a value is neither a list nor an object. -/
def Json.IsScalar (value : Json) : Prop :=
  value.isArray = false ∧ value.isObject = false

namespace Sandbox

/-- The members that arguments stand for, in order. -/
def Slots.keys : Slots → List String
  | .single key => [key]
  | .ordered keys => keys

namespace Convention

/-! ## The rules -/

/-- The members that arguments give by name at their end: those of a last object, and none if the
last argument is no object. -/
inductive EndsWith : List Json → List (String × Json) → Prop where
  /-- The last argument is an object. -/
  | object (front : List Json) (ms : List (String × Json)) : EndsWith (front ++ [.obj ms]) ms
  /-- The last argument is no object. -/
  | value (front : List Json) {last : Json} (hlast : last.isObject = false) :
      EndsWith (front ++ [last]) []

/-- Whether the first of several arguments is a list that stands for a member by itself. -/
def Wraps (c : Convention) (method : String) (first : Json) : Prop :=
  first.isArray = true ∧ ∃ key, Keyed.get? method c.listSlot = some key

/-- Whether the members of an object at the end of a number of arguments are options: one of them is
named like a key, or there are more arguments than keys. -/
def AreOptions (keys : List String) (count : Nat) (ms : List (String × Json)) : Prop :=
  (∃ key ∈ keys, key ∈ ms.map Prod.fst) ∨ keys.length < count

/-- The parameters that the rules prescribe for the arguments of a call. Of members of one key in an
object that a rule makes, the last one counts. -/
inductive Prescribes (c : Convention) (method : String) : List Json → Option Json → Prop where
  /-- No arguments make no parameters. -/
  | nothing : Prescribes c method [] none
  /-- A lone object is the parameters. -/
  | object (ms : List (String × Json)) : Prescribes c method [.obj ms] (some (.obj ms))
  /-- A lone list stands for the member of the list slot. -/
  | list {key : String} (hkey : Keyed.get? method c.listSlot = some key) (items : List Json) :
      Prescribes c method [.arr items] (some (.object [(key, .arr items)]))
  /-- A lone list without a list slot is passed on. -/
  | bareList (hkey : Keyed.get? method c.listSlot = none) (items : List Json) :
      Prescribes c method [.arr items] (some (.arr items))
  /-- A lone scalar stands for the first of the keys. -/
  | scalar {slots : Slots} (hslots : Keyed.get? method c.slots = some slots) {key : String}
      {keys : List String} (hkeys : slots.keys = key :: keys) {value : Json}
      (hvalue : value.IsScalar) : Prescribes c method [value] (some (.object [(key, value)]))
  /-- A lone scalar that has no key to stand for, since the list of keys is empty, fits no rule and
  is passed on. -/
  | bareScalar {slots : Slots} (hslots : Keyed.get? method c.slots = some slots)
      (hkeys : slots.keys = []) {value : Json} (hvalue : value.IsScalar) :
      Prescribes c method [value] (some value)
  /-- A lone scalar for a method without slots stands for each of four members. -/
  | fallback (hslots : Keyed.get? method c.slots = none) {value : Json}
      (hvalue : value.IsScalar) : Prescribes c method [value]
        (some (.object [("sql", value), ("query", value), ("table", value), ("name", value)]))
  /-- A list as the first of several arguments stands for the member of the list slot, over which
  the members by name are laid. -/
  | firstList {key : String} (hkey : Keyed.get? method c.listSlot = some key) (items : List Json)
      {rest : List Json} {ms : List (String × Json)} (hend : EndsWith rest ms) :
      Prescribes c method (.arr items :: rest) (some (.object ((key, .arr items) :: ms)))
  /-- The first of several arguments stands for a single key, over which the members by name are
  laid. -/
  | single {key : String} (hslots : Keyed.get? method c.slots = some (.single key))
      {first : Json} (hfirst : ¬ c.Wraps method first) {rest : List Json}
      {ms : List (String × Json)} (hend : EndsWith rest ms) :
      Prescribes c method (first :: rest) (some (.object ((key, first) :: ms)))
  /-- Several arguments before options stand for the keys in order, over which the options are
  laid. Arguments without a key are left out. -/
  | options {keys : List String} (hslots : Keyed.get? method c.slots = some (.ordered keys))
      {first : Json} (hfirst : ¬ c.Wraps method first) {middle : List Json}
      {ms : List (String × Json)} (hoptions : AreOptions keys (middle.length + 2) ms) :
      Prescribes c method (first :: middle ++ [.obj ms])
        (some (.object (keys.zip (first :: middle) ++ ms)))
  /-- Several arguments without options stand for the keys in order. -/
  | ordered {keys : List String} (hslots : Keyed.get? method c.slots = some (.ordered keys))
      {first : Json} (hfirst : ¬ c.Wraps method first) {middle : List Json} {last : Json}
      (hlast : ∀ ms, last = .obj ms → ¬ AreOptions keys (middle.length + 2) ms) :
      Prescribes c method (first :: middle ++ [last])
        (some (.object (keys.zip (first :: middle ++ [last]))))
  /-- Of several arguments for a method without slots, the first is passed on. -/
  | unmapped (hslots : Keyed.get? method c.slots = none) {first : Json}
      (hfirst : ¬ c.Wraps method first) {rest : List Json} (hrest : rest ≠ []) :
      Prescribes c method (first :: rest) (some first)

variable {c : Convention} {method : String}

/-! ## What the rules prescribe is made -/

/-- An object as the only argument is the parameters. -/
lemma bind_object (c : Convention) (method : String) (ms : List (String × Json)) :
    c.bind method [.obj ms] = some (.obj ms) :=
  rfl

/-- A scalar as the only argument is bound as a scalar. -/
lemma bindOne_scalar {argument : Json} (h : argument.IsScalar) :
    c.bindOne method argument = c.bindScalar method argument := by
  cases argument with
  | arr items => cases h.1
  | obj ms => cases h.2
  | null | bool | int | float | str => rfl

/-- The members of a last object are found. -/
lemma lastMembers?_concat_object (front : List Json) (ms : List (String × Json)) :
    lastMembers? (front ++ [.obj ms]) = some ms := by
  rw [lastMembers?, List.getLast?_concat]

/-- There are none if the last argument is no object. -/
lemma lastMembers?_concat_value (front : List Json) {last : Json} (hlast : last.isObject = false) :
    lastMembers? (front ++ [last]) = none := by
  rw [lastMembers?, List.getLast?_concat]
  cases last with
  | obj ms => cases hlast
  | null | bool | int | float | str | arr => rfl

/-- A first argument under its key, and the members by name laid over it. -/
lemma bindFirst_eq {key : String} {first : Json} {rest : List Json} {ms : List (String × Json)}
    (hend : EndsWith rest ms) : bindFirst key first rest = .object ((key, first) :: ms) := by
  cases hend with
  | object front => rw [bindFirst, lastMembers?_concat_object]; rfl
  | value front hlast => rw [bindFirst, lastMembers?_concat_value front hlast]; rfl

/-- The members of a last object are taken for options exactly if they are. -/
lemma options?_concat_object (keys : List String) (front : List Json)
    (ms : List (String × Json)) :
    AreOptions keys (front.length + 1) ms ∧ options? keys (front ++ [.obj ms]) = some ms ∨
      ¬ AreOptions keys (front.length + 1) ms ∧ options? keys (front ++ [.obj ms]) = none := by
  have htest : (keys.length < (front ++ [Json.obj ms]).length ||
      ms.any fun entry => keys.contains entry.1) = true ↔
        AreOptions keys (front.length + 1) ms := by
    simp [AreOptions, or_comm, and_comm]
  rw [options?, lastMembers?_concat_object]
  dsimp only
  split
  · next h => exact .inl ⟨htest.mp h, rfl⟩
  · next h => exact .inr ⟨mt htest.mpr h, rfl⟩

/-- Arguments before options stand for the keys in order. -/
lemma bindOrdered_of_areOptions {keys : List String} (front : List Json)
    {ms : List (String × Json)} (h : AreOptions keys (front.length + 1) ms) :
    bindOrdered keys (front ++ [.obj ms]) = .object (keys.zip front ++ ms) := by
  rcases options?_concat_object keys front ms with ⟨-, hms⟩ | ⟨hnot, -⟩
  · rw [bindOrdered, hms, List.dropLast_concat]
    exact congrArg Json.obj (Keyed.overlay_ofList _ _)
  · exact absurd h hnot

/-- Arguments that do not end with options stand for the keys in order. -/
lemma bindOrdered_of_not_areOptions {keys : List String} (front : List Json) {last : Json}
    (h : ∀ ms, last = .obj ms → ¬ AreOptions keys (front.length + 1) ms) :
    bindOrdered keys (front ++ [last]) = .object (keys.zip (front ++ [last])) := by
  have hnone : options? keys (front ++ [last]) = none := by
    cases last with
    | obj ms =>
      rcases options?_concat_object keys front ms with ⟨hyes, -⟩ | ⟨-, hnone⟩
      · exact absurd hyes (h ms rfl)
      · exact hnone
    | null | bool | int | float | str | arr =>
      rw [options?, lastMembers?_concat_value front rfl]
  rw [bindOrdered, hnone]

/-- A list as the first of several arguments comes before the slots. -/
lemma bindMany_of_listSlot {key : String} (hkey : Keyed.get? method c.listSlot = some key)
    (items rest : List Json) :
    c.bindMany method (.arr items) rest = bindFirst key (.arr items) rest := by
  rw [bindMany, hkey]
  rfl

/-- Any other first argument leaves several arguments to the slots. -/
lemma bindMany_of_not_wraps {first : Json} (hfirst : ¬ c.Wraps method first) (rest : List Json) :
    c.bindMany method first rest =
      match Keyed.get? method c.slots with
      | some (.single key) => bindFirst key first rest
      | some (.ordered keys) => bindOrdered keys (first :: rest)
      | none => first := by
  rw [bindMany]
  split
  · next key hkey hlist => exact absurd ⟨hlist, key, hkey⟩ hfirst
  · rfl

/-- Two or more arguments are bound as several. -/
lemma bind_of_rest {first : Json} {rest : List Json} (hrest : rest ≠ []) :
    c.bind method (first :: rest) = some (c.bindMany method first rest) := by
  cases rest with
  | nil => exact absurd rfl hrest
  | cons second rest => rfl

/-- Arguments that end with something are not none. -/
lemma EndsWith.ne_nil {arguments : List Json} {ms : List (String × Json)}
    (h : EndsWith arguments ms) : arguments ≠ [] := by
  cases h <;> exact List.append_ne_nil_of_right_ne_nil _ (List.cons_ne_nil _ _)

/-- **The rules are kept.** The parameters that the rules prescribe for some arguments are made of
them. -/
theorem bind_of_prescribes {arguments : List Json} {parameters : Option Json}
    (h : c.Prescribes method arguments parameters) : c.bind method arguments = parameters := by
  cases h with
  | nothing => rfl
  | object ms => rfl
  | list hkey items =>
    rw [bind, bindOne, hkey]
    rfl
  | bareList hkey items => rw [bind, bindOne, hkey]
  | @scalar slots hslots key keys hkeys value hvalue =>
    rw [bind, bindOne_scalar hvalue, bindScalar, hslots]
    match slots, hkeys with
    | .single key, rfl => rfl
    | .ordered (key :: keys), rfl => rfl
  | @bareScalar slots hslots hkeys value hvalue =>
    rw [bind, bindOne_scalar hvalue, bindScalar, hslots]
    match slots, hkeys with
    | .ordered [], rfl => rfl
  | fallback hslots hvalue =>
    rw [bind, bindOne_scalar hvalue, bindScalar, hslots]
    rfl
  | firstList hkey items hend =>
    rw [bind_of_rest hend.ne_nil, bindMany_of_listSlot hkey, bindFirst_eq hend]
  | single hslots hfirst hend =>
    rw [bind_of_rest hend.ne_nil, bindMany_of_not_wraps hfirst, hslots, ← bindFirst_eq hend]
  | @options keys hslots first hfirst middle ms hoptions =>
    rw [List.cons_append, bind_of_rest (List.concat_ne_nil _ _), bindMany_of_not_wraps hfirst,
      hslots]
    exact congrArg some (bindOrdered_of_areOptions (first :: middle) hoptions)
  | @ordered keys hslots first hfirst middle last hlast =>
    rw [List.cons_append, bind_of_rest (List.concat_ne_nil _ _), bindMany_of_not_wraps hfirst,
      hslots]
    exact congrArg some (bindOrdered_of_not_areOptions (first :: middle) hlast)
  | unmapped hslots hfirst hrest => rw [bind_of_rest hrest, bindMany_of_not_wraps hfirst, hslots]

/-! ## The rules prescribe something for all arguments -/

/-- Some arguments have a last one. -/
lemma exists_eq_concat {rest : List Json} (hrest : rest ≠ []) :
    ∃ middle last, rest = middle ++ [last] :=
  ⟨rest.dropLast, rest.getLast hrest, (List.dropLast_concat_getLast hrest).symm⟩

/-- Some arguments give members by name at their end, or none. -/
lemma exists_endsWith {rest : List Json} (hrest : rest ≠ []) : ∃ ms, EndsWith rest ms := by
  obtain ⟨middle, last, rfl⟩ := exists_eq_concat hrest
  cases last with
  | obj ms => exact ⟨ms, .object middle ms⟩
  | null | bool | int | float | str | arr => exact ⟨[], .value middle rfl⟩

/-- The rules fit a lone scalar. -/
lemma exists_prescribes_scalar {value : Json} (hvalue : value.IsScalar) :
    ∃ parameters, c.Prescribes method [value] parameters := by
  cases hslots : Keyed.get? method c.slots with
  | none => exact ⟨_, .fallback hslots hvalue⟩
  | some slots =>
    cases hkeys : slots.keys with
    | nil => exact ⟨_, .bareScalar hslots hkeys hvalue⟩
    | cons key keys => exact ⟨_, .scalar hslots hkeys hvalue⟩

/-- The rules fit a lone argument. -/
lemma exists_prescribes_one (argument : Json) :
    ∃ parameters, c.Prescribes method [argument] parameters := by
  cases argument with
  | obj ms => exact ⟨_, .object ms⟩
  | arr items =>
    cases hkey : Keyed.get? method c.listSlot with
    | none => exact ⟨_, .bareList hkey items⟩
    | some key => exact ⟨_, .list hkey items⟩
  | null | bool | int | float | str => exact exists_prescribes_scalar ⟨rfl, rfl⟩

/-- The rules fit several arguments that stand for keys in order. -/
lemma exists_prescribes_ordered {keys : List String}
    (hslots : Keyed.get? method c.slots = some (.ordered keys)) {first : Json}
    (hfirst : ¬ c.Wraps method first) (middle : List Json) (last : Json) :
    ∃ parameters, c.Prescribes method (first :: middle ++ [last]) parameters := by
  by_cases hoptions : ∃ ms, last = .obj ms ∧ AreOptions keys (middle.length + 2) ms
  · obtain ⟨ms, rfl, hms⟩ := hoptions
    exact ⟨_, .options hslots hfirst hms⟩
  · exact ⟨_, .ordered hslots hfirst fun ms hlast hms => hoptions ⟨ms, hlast, hms⟩⟩

/-- The rules fit several arguments. -/
lemma exists_prescribes_many (first : Json) {rest : List Json} (hrest : rest ≠ []) :
    ∃ parameters, c.Prescribes method (first :: rest) parameters := by
  obtain ⟨ms, hend⟩ := exists_endsWith hrest
  by_cases hfirst : c.Wraps method first
  · obtain ⟨hlist, key, hkey⟩ := hfirst
    cases first with
    | arr items => exact ⟨_, .firstList hkey items hend⟩
    | null | bool | int | float | str | obj => cases hlist
  · cases hslots : Keyed.get? method c.slots with
    | none => exact ⟨_, .unmapped hslots hfirst hrest⟩
    | some slots =>
      cases slots with
      | single key => exact ⟨_, .single hslots hfirst hend⟩
      | ordered keys =>
        obtain ⟨middle, last, rfl⟩ := exists_eq_concat hrest
        exact exists_prescribes_ordered hslots hfirst middle last

/-- The rules fit all arguments. -/
theorem exists_prescribes (c : Convention) (method : String) :
    ∀ arguments : List Json, ∃ parameters, c.Prescribes method arguments parameters
  | [] => ⟨none, .nothing⟩
  | [argument] => exists_prescribes_one argument
  | first :: second :: rest => exists_prescribes_many first (List.cons_ne_nil second rest)

/-- **Arguments are bound by the rules.** For all tables, methods and arguments, the parameters that
are made are those that the rules prescribe, and no others are prescribed.

**Proof sketch.** What is prescribed is made (`bind_of_prescribes`), so it is only one thing, and
something is prescribed for all arguments (`exists_prescribes`). -/
theorem bind_eq_iff_prescribes (c : Convention) (method : String) (arguments : List Json)
    (parameters : Option Json) :
    c.bind method arguments = parameters ↔ c.Prescribes method arguments parameters := by
  refine ⟨?_, bind_of_prescribes⟩
  rintro rfl
  obtain ⟨parameters, h⟩ := exists_prescribes c method arguments
  exact bind_of_prescribes h ▸ h

/-! ## Scalars -/

/-- A scalar is no list that stands for a member by itself. -/
lemma not_wraps_of_isScalar {first : Json} (h : first.IsScalar) : ¬ c.Wraps method first :=
  fun hwraps => Bool.false_ne_true (h.1.symm.trans hwraps.1)

/-- **Arguments in order.** Scalars stand for the members of the slots in order, and those that are
left over for nothing. -/
theorem bind_scalars {slots : Slots} (hslots : Keyed.get? method c.slots = some slots)
    (hkeys : slots.keys ≠ []) {arguments : List Json} (hsome : arguments ≠ [])
    (hscalar : ∀ a ∈ arguments, a.IsScalar) :
    c.bind method arguments = some (.object (slots.keys.zip arguments)) := by
  apply bind_of_prescribes
  match arguments, hsome with
  | [argument], _ =>
    obtain ⟨key, keys, hcons⟩ := List.exists_cons_of_ne_nil hkeys
    rw [hcons, List.zip_cons_cons, List.zip_nil_right]
    exact .scalar hslots hcons (hscalar argument List.mem_cons_self)
  | first :: second :: rest, _ =>
    have hfirst : ¬ c.Wraps method first :=
      not_wraps_of_isScalar (hscalar first List.mem_cons_self)
    obtain ⟨middle, last, hrest⟩ := exists_eq_concat (List.cons_ne_nil second rest)
    rw [hrest] at hscalar ⊢
    have hlast : last.isObject = false := (hscalar last (by simp)).2
    cases slots with
    | single key => exact .single hslots hfirst (.value middle hlast)
    | ordered keys =>
      refine .ordered hslots hfirst fun ms hms => ?_
      rw [hms] at hlast
      cases hlast

end Convention

end Sandbox

end PgGateway
