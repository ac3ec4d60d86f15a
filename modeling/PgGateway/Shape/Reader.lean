import PgGateway.Shape.Mismatch

set_option autoImplicit false

/-!
# Readers

Functions that take data from a JSON value or say why the value does not fit.

## Main definitions

* `PgGateway.Shape.Reader` — the readers.
* `PgGateway.Shape.text`, `flag`, `natural`, `integer`, `any` — readers of scalars.
* `PgGateway.Shape.optional`, `list`, `map`, `oneOf` — readers made of readers.
-/

namespace PgGateway.Shape

/-- Takes data from a value, or says why the value does not fit. -/
abbrev Reader (α : Type) := Json → Except Mismatch α

variable {α β : Type}

/-- Reads a string. -/
def text : Reader String
  | .str s => .ok s
  | other => .error (.kind other "a string")

/-- Reads a truth value. -/
def flag : Reader Bool
  | .bool b => .ok b
  | other => .error (.kind other "a boolean")

/-- Reads an integer from `low` to `high`; `type` names the range. -/
def integer (type : String) (low high : Int) : Reader Int
  | .int n => if low ≤ n && n ≤ high then .ok n else .error (.range (.int n) type)
  | other => .error (.kind other type)

/-- Reads a natural number up to `high`; `type` names the range. -/
def natural (type : String) (high : Nat) : Reader Nat :=
  fun j => (integer type 0 high j).map Int.toNat

/-- Reads a natural number of 16 bits. -/
def natural16 : Reader Nat := natural "u16" (Nat.pow 2 16 - 1)

/-- Reads a natural number of 32 bits. -/
def natural32 : Reader Nat := natural "u32" (Nat.pow 2 32 - 1)

/-- Reads a natural number of 64 bits. -/
def natural64 : Reader Nat := natural "u64" (Nat.pow 2 64 - 1)

/-- Reads a size in memory, a natural number of 64 bits. -/
def size : Reader Nat := natural "usize" (Nat.pow 2 64 - 1)

/-- Reads an integer of 32 bits. -/
def integer32 : Reader Int := integer "i32" (-Nat.pow 2 31) (Nat.pow 2 31 - 1)

/-- Reads any value as it is. -/
def any : Reader Json := .ok

/-- Reads null as nothing, and anything else by the given reader. -/
def optional (r : Reader α) : Reader (Option α)
  | .null => .ok none
  | other => (r other).map some

/-- Reads the items of a list in order. -/
def items (r : Reader α) : List Json → Except Mismatch (List α)
  | [] => .ok []
  | item :: rest =>
    match r item with
    | .ok a => (items r rest).map (a :: ·)
    | .error e => .error e

/-- Reads a list. -/
def list (r : Reader α) : Reader (List α)
  | .arr js => items r js
  | other => .error (.kind other "a sequence")

/-- Reads the members of an object in the order of their keys. -/
def members (r : Reader α) : List (String × Json) → Except Mismatch (Keyed α)
  | [] => .ok []
  | (key, value) :: rest =>
    match r value with
    | .ok a => (members r rest).map ((key, a) :: ·)
    | .error e => .error e

/-- Reads an object as a map. -/
def map (r : Reader α) : Reader (Keyed α)
  | .obj ms => members r ms
  | other => .error (.kind other "a map")

/-- Reads by the first of the readers that succeeds; `type` names the alternatives. -/
def oneOf (type : String) (readers : List (Reader α)) : Reader α :=
  fun j =>
    match readers.findSome? fun r => (r j).toOption with
    | some a => .ok a
    | none => .error (.noAlternative type)

/-- A reader followed by a function. -/
def mapped (f : α → β) (r : Reader α) : Reader β :=
  fun j => (r j).map f

end PgGateway.Shape
