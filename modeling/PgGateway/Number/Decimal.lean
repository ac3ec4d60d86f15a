import PgGateway.Text.Cut
import PgGateway.Text.Digits

set_option autoImplicit false

/-!
# Fixed-point decimals

Decimals of up to 96 bits with a scale of up to 28 places, as the database writes its exact
numbers. The scale belongs to the value: `1.50` and `1.5` are two decimals. So does the sign, also
that of a zero: rounding a negative number to zero keeps it.

## Main definitions

* `PgGateway.Decimal` — the decimals, with `Decimal.written`.
* `PgGateway.Decimal.rescale` — the decimal rounded or extended to a number of places.
* `PgGateway.Decimal.plus?` — sums of decimals that are not negative.
* `PgGateway.Decimal.read?` — the decimal that a text denotes, with or without an exponent.
-/

namespace PgGateway

/-- A decimal `±coefficient / 10 ^ scale`. -/
structure Decimal where
  /-- Whether the number carries a minus sign. -/
  negative : Bool
  /-- The digits as an integer. -/
  coefficient : Nat
  /-- The number of places. -/
  scale : Nat
  deriving DecidableEq, Inhabited

namespace Decimal

/-- The coefficients lie below this bound. -/
def coefficientBound : Nat := Nat.pow 2 96

/-- The most places that a decimal has. -/
def maxScale : Nat := 28

/-- The decimal with the given parts; zero is not negative. -/
def make (negative : Bool) (coefficient scale : Nat) : Decimal :=
  ⟨negative && coefficient != 0, coefficient, scale⟩

/-- The text of a decimal: all its places, and at least one digit before the point. -/
def written (d : Decimal) : List Char :=
  let digits := Nat.toDigits 10 d.coefficient
  let padded := List.replicate (d.scale + 1 - digits.length) '0' ++ digits
  let whole := padded.take (padded.length - d.scale)
  let places := padded.drop (padded.length - d.scale)
  (if d.negative then ['-'] else []) ++ whole ++ (if places.isEmpty then [] else '.' :: places)

/-! ## Rounding and adding -/

/-- The decimal with `steps` places fewer, a half going away from zero. The sign stays, also where
nothing but zeros is left. -/
def dropPlaces (d : Decimal) (steps : Nat) : Decimal :=
  { d with
    coefficient := (2 * d.coefficient + Nat.pow 10 steps) / (2 * Nat.pow 10 steps)
    scale := d.scale - steps }

/-- The decimal with `steps` zeros behind its places, or as many of them as the coefficient has
room for. -/
def appendPlaces (d : Decimal) : (steps : Nat) → Decimal
  | 0 => d
  | steps + 1 =>
    if d.coefficient * 10 < coefficientBound then
      appendPlaces { d with coefficient := d.coefficient * 10, scale := d.scale + 1 } steps
    else d

/-- The decimal with `scale` places: rounded if it has more, and extended by zeros as far as
possible if it has fewer. -/
def rescale (d : Decimal) (scale : Nat) : Decimal :=
  if scale < d.scale then d.dropPlaces (d.scale - scale) else d.appendPlaces (scale - d.scale)

/-- The integer nearest to `num / den`, a half going to the even neighbour. -/
def roundEven (num den : Nat) : Nat :=
  let quotient := num / den
  let twice := 2 * (num % den)
  if den < twice || (den = twice && quotient % 2 = 1) then quotient + 1 else quotient

/-- The number `num / 10 ^ (scale + cut)` as a decimal with at most `scale` places: the most that
the coefficient has room for. -/
def fitted? (num cut : Nat) : (scale : Nat) → Option Decimal
  | 0 =>
    let coefficient := roundEven num (Nat.pow 10 cut)
    if coefficient < coefficientBound then some (make false coefficient 0) else none
  | scale + 1 =>
    let coefficient := roundEven num (Nat.pow 10 cut)
    if coefficient < coefficientBound then some (make false coefficient (scale + 1))
    else fitted? num (cut + 1) scale

/-- The sum of the magnitudes of two decimals, with all places of both where the coefficient has
room for them. -/
def plus? (a b : Decimal) : Option Decimal :=
  let scale := max a.scale b.scale
  fitted?
    (a.coefficient * Nat.pow 10 (scale - a.scale) + b.coefficient * Nat.pow 10 (scale - b.scale))
    0 scale

/-! ## Reading -/

/-- What has been read of a plain decimal. -/
structure Progress where
  /-- The digits so far. -/
  coefficient : Nat
  /-- The places so far. -/
  scale : Nat
  /-- Whether the point has been passed. -/
  pointed : Bool
  /-- Whether a digit has been seen. -/
  started : Bool
  /-- Whether the character just read was a digit that left no room for another place. -/
  full : Bool

namespace Progress

/-- Nothing read yet. -/
def start : Progress :=
  ⟨0, 0, false, false, false⟩

/-- The progress after one more digit. -/
def push (p : Progress) (digit : Nat) : Progress :=
  let scale := if p.pointed then p.scale + 1 else 0
  ⟨p.coefficient * 10 + digit, scale, p.pointed, true, p.pointed && maxScale ≤ scale⟩

/-- Coefficients below this bound take another digit and stay within a word of 64 bits, with room
to spare for a byte. -/
def wordBound : Nat := (Nat.pow 2 64 - 1) / 10 - 255

/-- Whether the coefficient had outgrown a word before its last digit. -/
def wide (p : Progress) : Bool :=
  wordBound ≤ p.coefficient / 10

/-- The decimal that has been read; places are counted modulo 29, so that a 29th place, which only
an underscore behind the 28th lets in, leaves none. -/
def finish (negative : Bool) (p : Progress) : Decimal :=
  make negative p.coefficient (p.scale % (maxScale + 1))

/-- The decimal that rounds the progress at `next`, the first character that no longer fits, a half
going up. An underscore counts as zero. The characters after it carry no weight, but have to be
digits and underscores. -/
def roundAt (negative : Bool) (p : Progress) (next : Char) (rest : List Char) : Option Decimal :=
  let digit? := if next = '_' then some 0 else Text.digit? next
  match digit? with
  | none => none
  | some d =>
    if !rest.all (fun c => c = '_' || (Text.digit? c).isSome) then none
    else if d < 5 then some (p.finish negative)
    else if p.coefficient + 1 < coefficientBound then
      some ({ p with coefficient := p.coefficient + 1 }.finish negative)
    else if p.scale = 0 then none
    else
      let shorter := { p with coefficient := (p.coefficient + 5) / 10, scale := p.scale - 1 }
      some (shorter.finish negative)

end Progress

/-- Reads the digits of a plain decimal. Underscores are skipped after the first digit. Digits
beyond 28 places or 96 bits end the reading by rounding; too many digits before the point are
refused. An underscore right behind the last place is skipped like the others if the coefficient is
wide, and otherwise it is what the reading rounds at. -/
def readDigits (negative : Bool) (p : Progress) : List Char → Option Decimal
  | [] => if p.started then some (p.finish negative) else none
  | c :: s =>
    if p.full && !(c = '_' && p.wide) then p.roundAt negative c s
    else
      match Text.digit? c with
      | some d =>
        if p.coefficient * 10 + d < coefficientBound then readDigits negative (p.push d) s
        else if p.pointed then p.roundAt negative c s
        else none
      | none =>
        if c = '.' && !p.pointed then readDigits negative { p with pointed := true } s
        else if c = '_' && p.started then readDigits negative { p with full := false } s
        else none

/-- A plain decimal: an optional sign, digits, and at most one point among or beside them. -/
def readPlain? : List Char → Option Decimal
  | '-' :: s => readDigits true .start s
  | '+' :: s => readDigits false .start s
  | s => readDigits false .start s

/-- The decimal multiplied by a power of ten: the scale shrinks first, and then the coefficient
grows as long as it stays in its bound. -/
def raise (d : Decimal) (exponent : Nat) : Option Decimal :=
  if exponent ≤ d.scale then some { d with scale := d.scale - exponent }
  else if maxScale < exponent then none
  else
    let coefficient := d.coefficient * Nat.pow 10 (exponent - d.scale)
    if coefficient < coefficientBound then some (make d.negative coefficient 0) else none

/-- The decimal divided by a power of ten. Places that would lie beyond the last one are rounded
away first. -/
def lower (d : Decimal) (exponent : Nat) : Option Decimal :=
  if exponent ≤ maxScale then
    let kept := d.rescale (min d.scale (maxScale - exponent))
    some { kept with scale := kept.scale + exponent }
  else none

/-- A plain decimal followed by `e` and an integer. -/
def readScientific? (s : List Char) : Option Decimal :=
  let base := s.takeWhile fun c => c != 'e' && c != 'E'
  match s.drop base.length with
  | [] => none
  | _ :: exponent =>
    match readPlain? base with
    | none => none
    | some d =>
      match exponent with
      | '-' :: digits => (Text.unsigned? (Nat.pow 2 32) digits).bind d.lower
      | _ => (Text.unsigned? (Nat.pow 2 32) exponent).bind d.raise

/-- The decimal that a text denotes. -/
def read? (s : List Char) : Option Decimal :=
  match readPlain? s with
  | some d => some d
  | none => readScientific? s

end Decimal

end PgGateway
