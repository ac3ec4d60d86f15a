import PgGateway.Json.Basic

set_option autoImplicit false

/-!
# JSON numerals

A number as a JSON text writes it, and the value that it denotes. A numeral without point and
exponent is an integer where one of 64 bits, signed or unsigned, can hold it. Every other numeral
is a floating-point number: its digits are kept as far as they fit into 64 bits, and the result is
scaled by a power of ten in one multiplication or division.

## Main definitions

* `PgGateway.Json.Numeral` — the parts of a numeral.
* `PgGateway.Json.Numeral.value?` — its value, unless it is out of range.
-/

namespace PgGateway.Json

/-- The parts of a written number. Digits are given by their values. -/
structure Numeral where
  /-- Whether a minus sign stands in front. -/
  negative : Bool
  /-- The digits before the point. -/
  whole : List Nat
  /-- The digits after the point, if there is one. -/
  fraction : Option (List Nat)
  /-- Whether the exponent is negative, and its digits, if there is one. -/
  exponent : Option (Bool × List Nat)
  deriving Inhabited

namespace Numeral

/-- Significands lie below this bound. -/
def wordBound : Nat := Nat.pow 2 64

/-- The significand extended by digits as long as it stays in its bound, and the number of digits
taken. -/
def extend (significand taken : Nat) : List Nat → Nat × Nat
  | [] => (significand, taken)
  | d :: rest =>
    if significand * 10 + d < wordBound then extend (significand * 10 + d) (taken + 1) rest
    else (significand, taken)

/-- The value of a list of digits. -/
def digitsValue (digits : List Nat) : Nat :=
  digits.foldl (fun n d => 10 * n + d) 0

/-- The largest power of ten that one step can scale by. -/
def maxStep : Nat := 308

/-- The power of ten as a floating-point number. -/
def powerOfTen (n : Nat) : Binary64 :=
  Binary64.ofNat (Nat.pow 10 n)

/-- The number scaled by a power of ten; `none` beyond the range. Exponents below -308 are taken in
steps, and `steps` of them are enough for any significand to vanish. -/
def scale (steps : Nat) (x : Binary64) (exponent : Int) : Option Binary64 :=
  if exponent.natAbs ≤ maxStep then
    if 0 ≤ exponent then
      let product := x.times (powerOfTen exponent.natAbs)
      if product.isFinite then some product else none
    else some (x.dividedBy (powerOfTen exponent.natAbs))
  else if x.isZero then some x
  else if 0 ≤ exponent then none
  else
    match steps with
    | 0 => some (Binary64.zero false)
    | steps + 1 => scale steps (x.dividedBy (powerOfTen maxStep)) (exponent + maxStep)

/-- The floating-point value of a significand and an exponent of ten. -/
def floatValue? (negative : Bool) (significand : Nat) (exponent : Int) : Option Json :=
  match scale 3 (Binary64.ofNat significand) exponent with
  | some x => some (.float (if negative then x.negate else x))
  | none => none

/-- The exponents of this size and beyond are not added up. -/
def exponentBound : Nat := Nat.pow 2 31

/-- The value of a numeral; `none` if it is out of range. -/
def value? (n : Numeral) : Option Json :=
  let (significand, taken) := extend 0 0 n.whole
  let dropped := n.whole.length - taken
  let (significand, places) :=
    match n.fraction with
    | some digits => extend significand 0 digits
    | none => (significand, 0)
  let start : Int := (dropped : Int) - (places : Int)
  match n.exponent with
  | some (below, digits) =>
    let size := digitsValue digits
    if exponentBound ≤ size then
      if significand != 0 && !below then none
      else some (.float (Binary64.zero n.negative))
    else floatValue? n.negative significand (if below then start - size else start + size)
  | none =>
    if n.fraction.isSome || dropped != 0 then floatValue? n.negative significand start
    else if !n.negative then some (.int significand)
    else if significand = 0 || Nat.pow 2 63 < significand then
      some (.float (Binary64.ofNat significand).negate)
    else some (.int (-significand))

end Numeral

end PgGateway.Json
