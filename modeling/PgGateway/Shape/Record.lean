import PgGateway.Shape.Reader

set_option autoImplicit false

/-!
# Records

Data with named fields, read from an object or, in the order of the fields, from a list. Members of
an object are visited in their order, so the first member that does not fit is reported, and fields
that are missing only after that; members that no field has a name for are passed over.

## Main definitions

* `PgGateway.Shape.Field` — a field: its names, its reader, and what stands in for its absence.
* `PgGateway.Shape.Record` — a list of fields with a function that makes the data of their values.
* `PgGateway.Shape.Record.read` — the reader of a record.
-/

namespace PgGateway.Shape

/-- A field of a record. -/
structure Field (α : Type) where
  /-- The name by which messages call the field. -/
  name : String
  /-- Other names that an object may use for it. -/
  aliases : List String := []
  /-- The reader of its value. -/
  read : Reader α
  /-- What stands for the field if an object does not give it. -/
  absent : Option α := none
  /-- Whether a list may end before the field. -/
  trailing : Bool := false

namespace Field

variable {α : Type}

/-- A field that must be given. -/
def required (name : String) (read : Reader α) : Field α :=
  ⟨name, [], read, none, false⟩

/-- A field that an object may leave out, but a list may not. -/
def optional (name : String) (read : Reader α) : Field (Option α) :=
  ⟨name, [], Shape.optional read, some none, false⟩

/-- A field that may be left out for a given value. -/
def defaulted (name : String) (read : Reader α) (value : α) : Field α :=
  ⟨name, [], read, some value, true⟩

/-- A field that may be left out or null. -/
def omissible (name : String) (read : Reader α) : Field (Option α) :=
  ⟨name, [], Shape.optional read, some none, true⟩

/-- The same field with a further name. -/
def orNamed (f : Field α) (other : String) : Field α :=
  { f with aliases := f.aliases ++ [other] }

end Field

/-- A field without the type of its value. -/
structure Slot where
  /-- The name by which messages call the field. -/
  name : String
  /-- Other names that an object may use for it. -/
  aliases : List String
  /-- Whether a value fits the field. -/
  check : Json → Except Mismatch Unit
  /-- Whether a list may end before the field. -/
  trailing : Bool

/-- The slot of a field. -/
def Field.slot {α : Type} (f : Field α) : Slot :=
  ⟨f.name, f.aliases, fun j => (f.read j).map fun _ => (), f.trailing⟩

/-- Values for the fields of a record, each under the name of its field. -/
abbrev Given := List (String × Json)

/-- The value given for a field, or what stands for its absence. -/
def Field.of {α : Type} (f : Field α) (given : Given) : Except Mismatch α :=
  match given.lookup f.name with
  | some j => f.read j
  | none =>
    match f.absent with
    | some a => .ok a
    | none => .error (.missingField f.name)

/-- A record: its fields, and the data made of their values. -/
structure Record (α : Type) where
  /-- The name of the type, with its article or noun. -/
  name : String
  /-- The fields in order. -/
  slots : List Slot
  /-- The data made of the given values. -/
  build : Given → Except Mismatch α

namespace Record

variable {α : Type}

/-- The slot that a key of an object means. -/
def slotFor? (slots : List Slot) (key : String) : Option Slot :=
  slots.find? fun s => s.name = key || s.aliases.contains key

/-- The values that the members of an object give to the slots, after those already given. -/
def gather (slots : List Slot) (given : Given) : List (String × Json) → Except Mismatch Given
  | [] => .ok given
  | (key, value) :: rest =>
    match slotFor? slots key with
    | none => gather slots given rest
    | some s =>
      if (given.lookup s.name).isSome then .error (.duplicateField s.name)
      else
        match s.check value with
        | .ok () => gather slots (given ++ [(s.name, value)]) rest
        | .error e => .error e

/-- How a message calls a number of elements. -/
def elements (n : Nat) : String :=
  if n = 1 then "1 element" else toString n ++ " elements"

/-- The values that the items of a list give to the slots in order, after those already given.
`position` is the number of slots passed. -/
def fill (tooShort : Nat → Mismatch) (given : Given) (position : Nat) :
    List Slot → List Json → Except Mismatch (Given × List Json)
  | [], rest => .ok (given, rest)
  | s :: slots, [] =>
    if s.trailing then fill tooShort given (position + 1) slots []
    else .error (tooShort position)
  | s :: slots, item :: rest =>
    match s.check item with
    | .ok () => fill tooShort (given ++ [(s.name, item)]) (position + 1) slots rest
    | .error e => .error e

/-- Reads the record from the members of an object. -/
def ofMembers (r : Record α) (ms : List (String × Json)) : Except Mismatch α :=
  match gather r.slots [] ms with
  | .ok given => r.build given
  | .error e => .error e

/-- The mismatch of a list that ends before a field that it must give. -/
def tooShort (r : Record α) (position : Nat) : Mismatch :=
  .length position (r.name ++ " with " ++ elements r.slots.length)

/-- Reads the record from the items of a list. -/
def ofItems (r : Record α) (js : List Json) : Except Mismatch α :=
  match fill r.tooShort [] 0 r.slots js with
  | .ok (given, []) => r.build given
  | .ok (_, _ :: _) => .error (.length js.length "fewer elements in array")
  | .error e => .error e

/-- Reads the record from an object or a list. -/
def read (r : Record α) : Reader α
  | .obj ms => r.ofMembers ms
  | .arr js => r.ofItems js
  | other => .error (.kind other r.name)

end Record

end PgGateway.Shape
