import PgGateway.Text.Cut
import PgGateway.Text.Digits

set_option autoImplicit false

/-!
# Calendar dates

Dates of the Gregorian calendar, extended in both directions, counted in days from 1970-01-01.

## Main definitions

* `PgGateway.Date` — a day, given by its number.
* `PgGateway.Date.civil`, `PgGateway.Date.ofCivil?` — year, month and day of a date, and back.
* `PgGateway.Date.written`, `PgGateway.Date.read?` — the text `YYYY-MM-DD`.
-/

namespace PgGateway

/-- A day, counted from 1970-01-01. -/
structure Date where
  /-- The number of days since 1970-01-01. -/
  day : Int
  deriving DecidableEq, Inhabited

namespace Date

/-- Whether a year has a 29th of February. -/
def isLeap (year : Int) : Bool :=
  year % 4 = 0 && (year % 100 != 0 || year % 400 = 0)

/-- The number of days of a month. -/
def monthLength (year : Int) (month : Nat) : Nat :=
  match month with
  | 2 => if isLeap year then 29 else 28
  | 4 | 6 | 9 | 11 => 30
  | _ => 31

/-- The number of a day, with years counted from March so that a leap day ends its year. -/
def ofCivil (year : Int) (month day : Nat) : Date :=
  let y := if month ≤ 2 then year - 1 else year
  let era := y / 400
  let yearOfEra := y - era * 400
  let monthFromMarch : Int := if month ≤ 2 then (month : Int) + 9 else (month : Int) - 3
  let dayOfYear := (153 * monthFromMarch + 2) / 5 + (day : Int) - 1
  let dayOfEra := yearOfEra * 365 + yearOfEra / 4 - yearOfEra / 100 + dayOfYear
  ⟨era * 146097 + dayOfEra - 719468⟩

/-- The date of a year, month and day that exist together. -/
def ofCivil? (year : Int) (month day : Nat) : Option Date :=
  if 1 ≤ month && month ≤ 12 && 1 ≤ day && day ≤ monthLength year month then
    some (ofCivil year month day)
  else none

/-- The year, month and day of a date. -/
def civil (d : Date) : Int × Nat × Nat :=
  let z := d.day + 719468
  let era := z / 146097
  let dayOfEra := z - era * 146097
  let yearOfEra :=
    (dayOfEra - dayOfEra / 1460 + dayOfEra / 36524 - dayOfEra / 146096) / 365
  let dayOfYear := dayOfEra - (365 * yearOfEra + yearOfEra / 4 - yearOfEra / 100)
  let monthFromMarch := (5 * dayOfYear + 2) / 153
  let day := dayOfYear - (153 * monthFromMarch + 2) / 5 + 1
  let month := if monthFromMarch < 10 then monthFromMarch + 3 else monthFromMarch - 9
  let year := yearOfEra + era * 400
  (if month ≤ 2 then year + 1 else year, month.toNat, day.toNat)

/-- The earliest and the latest day that results can hold: the first day of the year -262143 and
the last of the year 262142. -/
def inRange (d : Date) : Bool :=
  (ofCivil (-262143) 1 1).day ≤ d.day && d.day ≤ (ofCivil 262142 12 31).day

/-- The digits of a number, filled up with zeros to a width. -/
def digitsTo (width n : Nat) : List Char :=
  let digits := Nat.toDigits 10 n
  List.replicate (width - digits.length) '0' ++ digits

/-- The year of a date: four digits, with a sign outside the years 0 to 9999. -/
def yearText (year : Int) : List Char :=
  if 0 ≤ year && year ≤ 9999 then digitsTo 4 year.toNat
  else (if year < 0 then '-' else '+') :: digitsTo 4 year.natAbs

/-- The text `YYYY-MM-DD` of a date. -/
def written (d : Date) : List Char :=
  let (year, month, day) := d.civil
  yearText year ++ '-' :: digitsTo 2 month ++ '-' :: digitsTo 2 day

/-- A text of a fixed number of ASCII digits at the start, and the rest. -/
def fixedDigits? (width : Nat) (s : List Char) : Option (Nat × List Char) :=
  let digits := s.take width
  if digits.length < width then none
  else (Text.digitsValue? 0 digits).map (·, s.drop width)

/-- A date at the start of a text: year, month and day with hyphens between them; the year may have
a sign and, with it, more than four digits. -/
def readStart? (s : List Char) : Option (Date × List Char) := do
  let (sign, unsigned) :=
    match s with
    | '-' :: rest => (-1, rest)
    | '+' :: rest => (1, rest)
    | _ => ((1 : Int), s)
  let signed := unsigned.length < s.length
  let yearDigits := unsigned.takeWhile fun c => (Text.digit? c).isSome
  if yearDigits.length < 4 || (yearDigits.length != 4 && !signed) then none
  else
    let year ← Text.digitsValue? 0 yearDigits
    let rest ← Text.after? ['-'] (unsigned.drop yearDigits.length)
    let (month, rest) ← fixedDigits? 2 rest
    let rest ← Text.after? ['-'] rest
    let (day, rest) ← fixedDigits? 2 rest
    let date ← ofCivil? (sign * year) month day
    if date.inRange then some (date, rest) else none

/-- The date that a whole text denotes. -/
def read? (s : List Char) : Option Date :=
  match readStart? s with
  | some (date, []) => some date
  | _ => none

end Date

end PgGateway
