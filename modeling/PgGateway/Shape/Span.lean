import PgGateway.Shape.Reader
import PgGateway.Time.Span

set_option autoImplicit false

/-!
# Written spans

A span of time is written as its seconds and nanoseconds. Nanoseconds of a second and more are
carried over to the seconds, and no other members are allowed beside the two.

## Main definitions

* `PgGateway.Shape.spanJson`, `PgGateway.Shape.span` — the written form, and its reader.
-/

namespace PgGateway.Shape

/-- The written form of a span. -/
def spanJson (d : Span) : Json :=
  .object [("secs", .nat d.seconds), ("nanos", .nat d.nanoseconds)]

/-- What a message calls a span. -/
def spanName : String := "struct Duration"

/-- The span of seconds and nanoseconds, unless the seconds do not fit into 64 bits. -/
def spanOf (seconds nanoseconds : Nat) : Except Mismatch Span :=
  let whole := seconds + nanoseconds / 1000000000
  if whole < Nat.pow 2 64 then .ok ⟨whole, nanoseconds % 1000000000⟩ else .error .spanOverflow

/-- Reads a span from the members of an object, after those that are already read. -/
def spanOfMembers (seconds nanoseconds : Option Nat) :
    List (String × Json) → Except Mismatch Span
  | [] =>
    match seconds, nanoseconds with
    | none, _ => .error (.missingField "secs")
    | _, none => .error (.missingField "nanos")
    | some s, some n => spanOf s n
  | (key, value) :: rest =>
    if key = "secs" then
      match natural64 value with
      | .ok s => spanOfMembers (some s) nanoseconds rest
      | .error e => .error e
    else if key = "nanos" then
      match natural32 value with
      | .ok n => spanOfMembers seconds (some n) rest
      | .error e => .error e
    else .error (.unknownField key "`secs` or `nanos`")

/-- Reads a span from the items of a list. -/
def spanOfItems : List Json → Except Mismatch Span
  | [] => .error (.length 0 spanName)
  | [seconds] => do
    let _ ← natural64 seconds
    .error (.length 1 spanName)
  | seconds :: nanoseconds :: rest => do
    let d ← spanOf (← natural64 seconds) (← natural32 nanoseconds)
    if rest.isEmpty then return d
    else .error (.length (rest.length + 2) "fewer elements in array")

/-- Reads a span. -/
def span : Reader Span
  | .obj ms => spanOfMembers none none ms
  | .arr js => spanOfItems js
  | other => .error (.kind other spanName)

end PgGateway.Shape
