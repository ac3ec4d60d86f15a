set_option autoImplicit false

/-!
# Sets of characters given by their bounds

A set of code points that falls into few runs is written as the ascending list of its bounds: the
first member of a run, the first code point after it, the first member of the next run, and so on.

## Main definitions

* `PgGateway.Text.Bounds.covers` — membership in the set that a list of bounds describes.
-/

namespace PgGateway.Text

/-- The ascending bounds of the runs of a set of code points: start, end, start, end, … -/
abbrev Bounds := List Nat

/-- Whether the set described by the bounds has the member `n`. -/
def Bounds.covers : Bounds → Nat → Bool
  | [], _ => false
  | [start], n => start ≤ n
  | start :: stop :: rest, n =>
    if n < start then false else if n < stop then true else covers rest n

end PgGateway.Text
