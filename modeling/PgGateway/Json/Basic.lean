import PgGateway.Keyed
import PgGateway.Number.Binary64

set_option autoImplicit false

/-!
# JSON values

A JSON value as data. Integers and floating-point numbers are two kinds of number; the members of
an object are a keyed list, so they stand in the order of their keys.

## Main definitions

* `PgGateway.Json` — the values.
* `PgGateway.Json.object` — an object from members in any order.
-/

namespace PgGateway

/-- A JSON value. -/
inductive Json where
  /-- The null value. -/
  | null
  /-- A truth value. -/
  | bool (value : Bool)
  /-- A number without point and exponent. -/
  | int (value : Int)
  /-- A number with point or exponent, or one that is too large for an integer. -/
  | float (value : Binary64)
  /-- A string. -/
  | str (value : String)
  /-- A list of values. -/
  | arr (items : List Json)
  /-- An object, with its members in the order of their keys. -/
  | obj (members : List (String × Json))
  deriving Inhabited

namespace Json

/-- The object with the given members; the last member of a key counts. -/
def object (members : List (String × Json)) : Json :=
  .obj (Keyed.ofList members)

/-- A list of strings. -/
def strings (items : List String) : Json :=
  .arr (items.map .str)

/-- A natural number. -/
def nat (n : Nat) : Json :=
  .int n

/-- The value under a key of an object. -/
def member? (key : String) : Json → Option Json
  | .obj members => Keyed.get? key members
  | _ => none

/-- Whether the value is a list. -/
def isArray : Json → Bool
  | .arr _ => true
  | _ => false

/-- Whether the value is an object. -/
def isObject : Json → Bool
  | .obj _ => true
  | _ => false

/-- A value if there is one, and null otherwise. -/
def ofOption {α : Type} (f : α → Json) : Option α → Json
  | some a => f a
  | none => .null

end Json

end PgGateway
