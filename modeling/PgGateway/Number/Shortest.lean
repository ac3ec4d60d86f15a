import PgGateway.Number.Binary64
import PgGateway.Text.Blank

set_option autoImplicit false

/-!
# Shortest decimal text of a floating-point number

A finite number is written with the fewest significant digits that read back as the same number;
of two such decimals the nearer one is taken, and of two equally near ones the even one.

## Main definitions

* `PgGateway.Binary64.shortest` — the digits and the exponent of ten of the decimal.
* `PgGateway.Binary64.written` — the decimal as text: positional from `0.00001` up to, but not
  including, `1e+16`, and with an exponent elsewhere.
-/

namespace PgGateway

/-- A number of the form `digits * 10 ^ exponent`. -/
structure Decadic where
  /-- The integer factor. -/
  digits : Nat
  /-- The exponent of ten. -/
  exponent : Int
  deriving DecidableEq, Inhabited

namespace Decadic

/-- Numerator and denominator. -/
def ratio (d : Decadic) : Nat × Nat :=
  if d.exponent < 0 then (d.digits, Nat.pow 10 (-d.exponent).toNat)
  else (d.digits * Nat.pow 10 d.exponent.toNat, 1)

/-- The floating-point number nearest to the decimal. -/
def nearest (negative : Bool) (d : Decadic) : Binary64 :=
  let (num, den) := d.ratio
  Binary64.nearest negative num den

end Decadic

namespace Binary64

/-- The number of decimal digits of a positive number. -/
def decimalLength (n : Nat) : Nat :=
  (Nat.toDigits 10 n).length

/-- The exponent of ten of the leading digit of the quotient of two positive numbers. -/
def leadingExponent (num den : Nat) : Int :=
  let guess : Int := (decimalLength num : Int) - (decimalLength den : Int)
  let reached :=
    if guess < 0 then den ≤ num * Nat.pow 10 (-guess).toNat else den * Nat.pow 10 guess.toNat ≤ num
  if reached then guess else guess - 1

/-- The decimals with `count` digits next to the number, the better one first: the nearer, and of
two equally near ones the even one. -/
def neighbours (x : Binary64) (count : Nat) : List Decadic :=
  let (num, den) := x.magnitude.ratio
  let e := leadingExponent num den - ((count : Int) - 1)
  let (n, d) :=
    if e < 0 then (num * Nat.pow 10 (-e).toNat, den) else (num, den * Nat.pow 10 e.toNat)
  let below : Decadic := ⟨n / d, e⟩
  let above : Decadic := ⟨n / d + 1, e⟩
  if roundQuotient n d = n / d then [below, above] else [above, below]

/-- The decimal that is equal to the number. -/
def exactDecimal (x : Binary64) : Decadic :=
  let m := x.magnitude
  if m.exponent < 0 then ⟨m.significand * Nat.pow 5 (-m.exponent).toNat, m.exponent⟩
  else ⟨m.significand * Nat.pow 2 m.exponent.toNat, 0⟩

/-- The shortest decimal, other than zero, that reads back as the finite number. Seventeen digits
always suffice. -/
def shortest (x : Binary64) : Decadic :=
  let candidates := (List.range 17).flatMap fun k => x.neighbours (k + 1)
  match candidates.find? fun d => d.nearest x.isNegative = x with
  | some d => d
  | none => x.exactDecimal

/-- The decimal point placed into the digits whose first one counts `10 ^ lead`: positional for
leads from -5 to 15, and as digits, `e`, sign and exponent elsewhere. -/
def placed (digits : List Char) (lead : Int) : List Char :=
  if lead < -5 ∨ 15 < lead then
    let mantissa :=
      match digits with
      | [] => []
      | [d] => [d]
      | d :: rest => d :: '.' :: rest
    let sign := if lead < 0 then '-' else '+'
    mantissa ++ 'e' :: sign :: Nat.toDigits 10 lead.natAbs
  else if lead < 0 then
    '0' :: '.' :: List.replicate (lead.natAbs - 1) '0' ++ digits
  else
    let whole := lead.toNat + 1
    if digits.length ≤ whole then
      digits ++ List.replicate (whole - digits.length) '0' ++ ['.', '0']
    else digits.take whole ++ '.' :: digits.drop whole

/-- The text of a finite number, always with a point or an exponent. -/
def written (x : Binary64) : List Char :=
  let sign := if x.isNegative then ['-'] else []
  if x.isZero then sign ++ ['0', '.', '0']
  else
    let d := x.shortest
    let digits := Nat.toDigits 10 d.digits
    sign ++ placed (Text.dropEndWhile (· == '0') digits) (d.exponent + digits.length - 1)

end Binary64

end PgGateway
