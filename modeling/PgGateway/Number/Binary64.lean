set_option autoImplicit false

/-!
# Binary floating-point numbers

The 64-bit binary floating-point numbers as words of bits, with the few operations that reading
and writing need. Every operation is exact arithmetic on natural numbers followed by one rounding
to the nearest number, a tie going to the even one.

## Main definitions

* `PgGateway.Binary64` — the numbers; `Binary64.magnitude` is the value without its sign.
* `PgGateway.Binary64.nearest` — the number nearest to a quotient.
* `PgGateway.Binary64.times`, `PgGateway.Binary64.dividedBy` — product and quotient, rounded once.
* `PgGateway.Binary64.singleBits`, `PgGateway.Binary64.ofSingleBits` — to single precision and
  back.
-/

namespace PgGateway

/-- A binary floating-point number of double precision, given by its 64 bits. -/
structure Binary64 where
  /-- Sign, 11 bits of exponent, 52 bits of fraction, from the highest bit down. -/
  bits : UInt64
  deriving DecidableEq, Inhabited

/-- A number of the form `significand * 2 ^ exponent`. -/
structure Dyadic where
  /-- The integer factor. -/
  significand : Nat
  /-- The exponent of two. -/
  exponent : Int
  deriving DecidableEq, Inhabited

namespace Dyadic

/-- Numerator and denominator of a dyadic number. -/
def ratio (d : Dyadic) : Nat × Nat :=
  if d.exponent < 0 then (d.significand, Nat.pow 2 (-d.exponent).toNat)
  else (d.significand * Nat.pow 2 d.exponent.toNat, 1)

end Dyadic

/-- The quotient rounded to an integer, a tie going to the even neighbour. -/
def roundQuotient (num den : Nat) : Nat :=
  let q := num / den
  let r := num % den
  if 2 * r < den then q
  else if 2 * r > den then q + 1
  else if q % 2 = 0 then q else q + 1

/-- The quotient `num / den` rounded to at most `precision` significant bits, where the exponent
does not fall below `least`. The significand may reach `2 ^ precision` by rounding up. -/
def roundDyadic (precision : Nat) (least : Int) (num den : Nat) : Dyadic :=
  let estimate : Int := (Nat.log2 num : Int) - (Nat.log2 den : Int) - precision
  let scaled (e : Int) : Nat × Nat :=
    if e < 0 then (num * Nat.pow 2 (-e).toNat, den) else (num, den * Nat.pow 2 e.toNat)
  let e := max estimate least
  let (n, d) := scaled e
  if n / d < Nat.pow 2 precision then ⟨roundQuotient n d, e⟩
  else
    let (n, d) := scaled (e + 1)
    ⟨roundQuotient n d, e + 1⟩

namespace Binary64

/-- The number with the given sign and lower 63 bits. -/
def ofSignBits (negative : Bool) (low : Nat) : Binary64 :=
  ⟨UInt64.ofNat ((if negative then Nat.pow 2 63 else 0) + low)⟩

/-- The lower 63 bits of the infinities. -/
def infinityBits : Nat := 2047 * Nat.pow 2 52

/-- Positive or negative infinity. -/
def infinity (negative : Bool) : Binary64 :=
  ofSignBits negative infinityBits

/-- A word that is not a number. -/
def notANumber : Binary64 :=
  ofSignBits false (infinityBits + Nat.pow 2 51)

/-- Positive or negative zero. -/
def zero (negative : Bool) : Binary64 :=
  ofSignBits negative 0

/-- Whether the sign bit is set. -/
def isNegative (x : Binary64) : Bool :=
  Nat.pow 2 63 ≤ x.bits.toNat

/-- The bits below the sign. -/
def lowBits (x : Binary64) : Nat :=
  x.bits.toNat % Nat.pow 2 63

/-- Whether the word is a number and not infinite. -/
def isFinite (x : Binary64) : Bool :=
  x.lowBits < infinityBits

/-- Whether the number is a zero of either sign. -/
def isZero (x : Binary64) : Bool :=
  x.lowBits = 0

/-- The value of a finite number without its sign. -/
def magnitude (x : Binary64) : Dyadic :=
  let biased : Nat := x.lowBits / Nat.pow 2 52
  let fraction : Nat := x.lowBits % Nat.pow 2 52
  if biased = 0 then ⟨fraction, -1074⟩ else ⟨Nat.pow 2 52 + fraction, (biased : Int) - 1075⟩

/-- The number whose magnitude is a dyadic number with at most 53 significant bits and an exponent
of at least -1074; infinity beyond the range. A significand of fewer bits belongs to the least
exponent. -/
def ofDyadic (negative : Bool) (d : Dyadic) : Binary64 :=
  let low :=
    if d.significand < Nat.pow 2 52 then d.significand
    else (d.exponent + 1075).toNat * Nat.pow 2 52 + (d.significand - Nat.pow 2 52)
  ofSignBits negative (min low infinityBits)

/-- The number nearest to the quotient `num / den`. -/
def nearest (negative : Bool) (num den : Nat) : Binary64 :=
  if num = 0 then zero negative else ofDyadic negative (roundDyadic 53 (-1074) num den)

/-- The number nearest to a natural number. -/
def ofNat (n : Nat) : Binary64 :=
  nearest false n 1

/-- The number nearest to an integer. -/
def ofInt (n : Int) : Binary64 :=
  nearest (n < 0) n.natAbs 1

/-- The number with the opposite sign. -/
def negate (x : Binary64) : Binary64 :=
  ofSignBits (!x.isNegative) x.lowBits

/-- The product of two finite numbers, rounded once. -/
def times (x y : Binary64) : Binary64 :=
  let (a, b) := x.magnitude.ratio
  let (c, d) := y.magnitude.ratio
  nearest (x.isNegative != y.isNegative) (a * c) (b * d)

/-- The quotient of two finite numbers, rounded once; the divisor is not zero. -/
def dividedBy (x y : Binary64) : Binary64 :=
  let (a, b) := x.magnitude.ratio
  let (c, d) := y.magnitude.ratio
  nearest (x.isNegative != y.isNegative) (a * d) (b * c)

/-- The 31 bits below the sign of single-precision infinities. -/
def singleInfinityBits : Nat := 255 * Nat.pow 2 23

/-- The 32 bits of the nearest single-precision number, which has 24 significant bits and exponents
from -149 to 104. -/
def singleBits (x : Binary64) : Nat :=
  let low :=
    if !x.isFinite then
      if x.lowBits = infinityBits then singleInfinityBits else singleInfinityBits + Nat.pow 2 22
    else if x.isZero then 0
    else
      let (num, den) := x.magnitude.ratio
      let d := roundDyadic 24 (-149) num den
      let low :=
        if d.significand < Nat.pow 2 23 then d.significand
        else (d.exponent + 150).toNat * Nat.pow 2 23 + (d.significand - Nat.pow 2 23)
      min low singleInfinityBits
  (if x.isNegative then Nat.pow 2 31 else 0) + low

/-- The number given by the 32 bits of a single-precision word. -/
def ofSingleBits (word : Nat) : Binary64 :=
  let negative := Nat.pow 2 31 ≤ word
  let low := word % Nat.pow 2 31
  let biased : Nat := low / Nat.pow 2 23
  let fraction : Nat := low % Nat.pow 2 23
  if biased = 255 then
    if fraction = 0 then infinity negative else notANumber
  else
    let d : Dyadic :=
      if biased = 0 then ⟨fraction, -149⟩ else ⟨Nat.pow 2 23 + fraction, (biased : Int) - 150⟩
    let (num, den) := d.ratio
    nearest negative num den

end Binary64

end PgGateway
