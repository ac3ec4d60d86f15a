import PgGateway.Text.Blank

set_option autoImplicit false

/-!
# Spans of time

A length of time in whole seconds and nanoseconds, as time limits are configured.

## Main definitions

* `PgGateway.Span` — the lengths of time, counted in milliseconds by `Span.ofMillis` and
  `Span.toMillis`.
* `PgGateway.Span.shown` — the length in its largest fitting unit, such as `1.5s` or `20ms`.
-/

namespace PgGateway

/-- A length of time; the nanoseconds stay below a thousand million. -/
structure Span where
  /-- The whole seconds. -/
  seconds : Nat
  /-- The nanoseconds beyond them. -/
  nanoseconds : Nat
  deriving DecidableEq, Inhabited

namespace Span

/-- The length of a number of milliseconds. -/
def ofMillis (n : Nat) : Span :=
  ⟨n / 1000, n % 1000 * 1000000⟩

/-- The length of a number of seconds. -/
def ofSeconds (n : Nat) : Span :=
  ⟨n, 0⟩

/-- The whole milliseconds of a length. -/
def toMillis (d : Span) : Nat :=
  d.seconds * 1000 + d.nanoseconds / 1000000

/-- A number with a fraction of the given width, without zeros at its end, and a unit. -/
def fractional (whole fraction width : Nat) (unit : String) : String :=
  let digits := Nat.toDigits 10 fraction
  let padded := List.replicate (width - digits.length) '0' ++ digits
  let kept := Text.dropEndWhile (· == '0') padded
  toString whole ++ (if kept.isEmpty then "" else "." ++ String.ofList kept) ++ unit

/-- The length in seconds, or in the largest smaller unit of which it has at least one. -/
def shown (d : Span) : String :=
  if 0 < d.seconds then fractional d.seconds d.nanoseconds 9 "s"
  else if 1000000 ≤ d.nanoseconds then
    fractional (d.nanoseconds / 1000000) (d.nanoseconds % 1000000) 6 "ms"
  else if 1000 ≤ d.nanoseconds then
    fractional (d.nanoseconds / 1000) (d.nanoseconds % 1000) 3 "µs"
  else fractional d.nanoseconds 0 0 "ns"

end Span

end PgGateway
