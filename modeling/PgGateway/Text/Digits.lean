set_option autoImplicit false

/-!
# Unsigned decimal text

Configuration values are read by one rule: an optional plus sign, then ASCII digits only, at least
one, and a value below a given bound.

## Main definitions

* `PgGateway.Text.unsigned?` — the number that a text denotes.
-/

namespace PgGateway.Text

/-- The value of an ASCII digit. -/
def digit? (c : Char) : Option Nat :=
  if '0'.toNat ≤ c.toNat && c.toNat ≤ '9'.toNat then some (c.toNat - '0'.toNat) else none

/-- The value of a text of ASCII digits, read after the digits whose value is `before`. -/
def digitsValue? (before : Nat) : List Char → Option Nat
  | [] => some before
  | c :: s =>
    match digit? c with
    | some d => digitsValue? (10 * before + d) s
    | none => none

/-- The number below `bound` that a text denotes: an optional plus sign and then digits. -/
def unsigned? (bound : Nat) (s : List Char) : Option Nat :=
  let digits := (match s with | '+' :: rest => rest | _ => s)
  if digits.isEmpty then none
  else
    match digitsValue? 0 digits with
    | some n => if n < bound then some n else none
    | none => none

end PgGateway.Text
