import PgGateway.Time.Date

set_option autoImplicit false

/-!
# Instants

Points in universal time with a precision of a nanosecond.

## Main definitions

* `PgGateway.Instant` — a date, a second of the day and the nanoseconds within it.
* `PgGateway.Instant.written`, `PgGateway.Instant.read?` — the internet form
  `YYYY-MM-DDThh:mm:ss.fffZ`; an offset is read but never written.
* `PgGateway.Instant.ofMicroseconds?` — the instant that the database counts from the year 2000.
-/

namespace PgGateway

/-- A point in universal time. A leap second is the second before it with a thousand million or
more nanoseconds. -/
structure Instant where
  /-- The date. -/
  date : Date
  /-- The second of the day. -/
  second : Nat
  /-- The nanoseconds within the second. -/
  nanosecond : Nat
  deriving DecidableEq, Inhabited

namespace Instant

/-- A thousand million. -/
def billion : Nat := 1000000000

/-- The digits of the fraction of a second: none, three, six or nine. -/
def fractionText (nanosecond : Nat) : List Char :=
  if nanosecond = 0 then []
  else if nanosecond % 1000000 = 0 then '.' :: Date.digitsTo 3 (nanosecond / 1000000)
  else if nanosecond % 1000 = 0 then '.' :: Date.digitsTo 6 (nanosecond / 1000)
  else '.' :: Date.digitsTo 9 nanosecond

/-- The text of an instant in universal time. -/
def written (t : Instant) : List Char :=
  let leap := billion ≤ t.nanosecond
  let second := t.second % 60 + (if leap then 1 else 0)
  let nanosecond := if leap then t.nanosecond - billion else t.nanosecond
  t.date.written ++ 'T' :: Date.digitsTo 2 (t.second / 3600) ++
    ':' :: Date.digitsTo 2 (t.second / 60 % 60) ++ ':' :: Date.digitsTo 2 second ++
    fractionText nanosecond ++ ['Z']

/-- The instant a number of seconds after midnight of a date, or before it. -/
def after (date : Date) (seconds : Int) (nanosecond : Nat) : Instant :=
  ⟨⟨date.day + seconds / 86400⟩, (seconds % 86400).toNat, nanosecond⟩

/-- The nanoseconds that a fraction of a second denotes; digits beyond the ninth are dropped. -/
def fraction? (s : List Char) : Option (Nat × List Char) :=
  match s with
  | '.' :: rest =>
    let digits := rest.takeWhile fun c => (Text.digit? c).isSome
    if digits.isEmpty then none
    else
      let kept := digits.take 9
      (Text.digitsValue? 0 kept).map fun n =>
        (n * Nat.pow 10 (9 - kept.length), rest.drop digits.length)
  | _ => some (0, s)

/-- The seconds that a text adds to universal time: `Z`, or a sign with hours and minutes. -/
def offset? (s : List Char) : Option Int :=
  match s with
  | ['Z'] | ['z'] => some 0
  | sign :: rest => do
    if sign != '+' && sign != '-' then none
    let (hours, rest) ← Date.fixedDigits? 2 rest
    let rest ← Text.after? [':'] rest
    let (minutes, rest) ← Date.fixedDigits? 2 rest
    if !rest.isEmpty || 24 ≤ hours || 60 ≤ minutes then none
    else
      let seconds : Int := hours * 3600 + minutes * 60
      some (if sign = '-' then -seconds else seconds)
  | [] => none

/-- The instant that a text denotes. Without an offset the text is taken as universal time if
`bare` allows it. -/
def read? (bare : Bool) (s : List Char) : Option Instant := do
  let (date, rest) ← Date.readStart? s
  let rest ←
    match rest with
    | c :: rest => if c = 'T' || c = 't' || c = ' ' then some rest else none
    | [] => none
  let (hour, rest) ← Date.fixedDigits? 2 rest
  let rest ← Text.after? [':'] rest
  let (minute, rest) ← Date.fixedDigits? 2 rest
  let rest ← Text.after? [':'] rest
  let (second, rest) ← Date.fixedDigits? 2 rest
  let (nanosecond, rest) ← fraction? rest
  let offset ← if bare && rest.isEmpty then some 0 else offset? rest
  if 24 ≤ hour || 60 ≤ minute || 60 < second then none
  else
    let leap := second = 60
    let seconds : Int := hour * 3600 + minute * 60 + (if leap then 59 else second)
    some (after date (seconds - offset) (if leap then billion + nanosecond else nanosecond))

/-- The day from which the database counts: 2000-01-01. -/
def epoch : Date := Date.ofCivil 2000 1 1

/-- The instant a number of microseconds after the start of the year 2000, if its date exists. -/
def ofMicroseconds? (n : Int) : Option Instant :=
  let t := after epoch (n / 1000000) ((n % 1000000).toNat * 1000)
  if t.date.inRange then some t else none

/-- The microseconds from the start of the year 2000 to the instant; what is less is dropped. -/
def toMicroseconds (t : Instant) : Int :=
  ((t.date.day - epoch.day) * 86400 + t.second) * 1000000 + t.nanosecond / 1000

end Instant

end PgGateway
