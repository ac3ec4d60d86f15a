import PgGateway.Json.Document
import PgGateway.Result.Cell

set_option autoImplicit false

/-!
# Binary values of the database

A cell arrives as the bytes of its value, or as NULL without any. What the bytes mean is decided by
the name of the column's type; the name of a built-in type means that type, and those of extensions
are taken for the types of these. Bytes that do not decode, and types that are not listed, give a
NULL cell.

## Main definitions

* `PgGateway.Wire.decode` — the cell that the bytes of a type denote.
* `PgGateway.Wire.encode` — the bytes by which a server sends a value of a type.
-/

namespace PgGateway.Wire

/-- The bytes of a value. -/
abbrev Bytes := List UInt8

/-! ## Numbers in bytes -/

/-- The number whose digits to the base 256 are the bytes, the highest first. -/
def natural (bytes : Bytes) : Nat :=
  bytes.foldl (fun n b => n * 256 + b.toNat) 0

/-- The last `width` digits of a number to the base 256. -/
def bytesOf (width n : Nat) : Bytes :=
  (List.range width).map fun i => UInt8.ofNat (n / Nat.pow 256 (width - 1 - i))

/-- The number that exactly `width` bytes denote. -/
def exactly? (width : Nat) (bytes : Bytes) : Option Nat :=
  if bytes.length = width then some (natural bytes) else none

/-- The integer that exactly `width` bytes denote in two's complement. -/
def signed? (width : Nat) (bytes : Bytes) : Option Int :=
  (exactly? width bytes).map fun n =>
    if n < Nat.pow 256 width / 2 then (n : Int) else (n : Int) - Nat.pow 256 width

/-- The bytes of an integer in two's complement. -/
def signedBytes (width : Nat) (n : Int) : Bytes :=
  bytesOf width (n % (Nat.pow 256 width : Nat)).toNat

/-- The text that bytes denote. -/
def text? (bytes : Bytes) : Option String :=
  String.fromUTF8? ⟨bytes.toArray⟩

/-- The bytes of a text. -/
def textBytes (s : String) : Bytes :=
  s.toUTF8.toList

/-! ## Exact numbers

An exact number is a head of four words — the number of groups, the weight of the first group, the
sign and the scale — and groups of four decimal digits. The weight is the power of 10000 by which
the first group counts. -/

/-- The sign word of numbers below zero. -/
def negativeSign : Nat := 0x4000

/-- The sign words from here on mark what is no number, and the infinities. -/
def specialSign : Nat := 0xC000

/-- The words of 16 bits at the beginning of bytes, `count` of them. -/
def words? : (count : Nat) → Bytes → Option (List Nat)
  | 0, _ => some []
  | count + 1, a :: b :: rest => (words? count rest).map (natural [a, b] :: ·)
  | _ + 1, _ => none

/-- The number whose groups before the point are `groups` and `missing` groups of zeros. At most
seven groups can be missing, whatever the others are. -/
def wholePart? (groups : List Nat) (missing : Nat) : Option Decimal :=
  let number := groups.foldl (fun n g => n * 10000 + g) 0 * Nat.pow 10000 missing
  if missing ≤ 7 && number < Decimal.coefficientBound then some (.make false number 0) else none

/-- Adds groups behind the point, the last digit of the first one being in the place `places`. The
group behind the 28th place only decides about rounding, and further ones do not count. -/
def addPlaces? (d : Decimal) (places : Nat) : List Nat → Option Decimal
  | [] => some d
  | g :: rest =>
    if places ≤ Decimal.maxScale then
      (d.plus? (.make false g places)).bind fun sum => addPlaces? sum (places + 4) rest
    else if places = Decimal.maxScale + 4 && 5000 ≤ g then
      d.plus? (.make false 1 Decimal.maxScale)
    else some d

/-- The decimal with the given groups, rounded to `scale` places. -/
def ofGroups? (weight : Int) (scale : Nat) (groups : List Nat) : Option Decimal :=
  let whole := (weight + 1).toNat
  (wholePart? (groups.take whole) (whole - groups.length)).bind fun d =>
    (addPlaces? d (4 * max 1 (-weight).toNat) (groups.drop whole)).map fun sum =>
      sum.rescale (min scale Decimal.maxScale)

/-- The decimal that bytes denote. Bytes behind the last group do not count. -/
def decimal? (bytes : Bytes) : Option Decimal :=
  match words? 4 bytes with
  | some [count, weight, sign, scale] =>
    if specialSign ≤ sign then none
    else
      let weight : Int := if weight < Nat.pow 2 15 then weight else (weight : Int) - Nat.pow 2 16
      (words? count (bytes.drop 8)).bind fun groups =>
        (ofGroups? weight scale groups).map fun d => { d with negative := sign = negativeSign }
  | _ => none

/-- The digits of a number to the base 10000 put before those already found, without leading
zeros. A fuel above the number is enough. -/
def groupsBefore (fuel n : Nat) (found : List Nat) : List Nat :=
  match fuel with
  | 0 => found
  | fuel + 1 => if n = 0 then found else groupsBefore fuel (n / 10000) (n % 10000 :: found)

/-- The bytes of a decimal. A zero is sent without its places and its sign. -/
def decimalBytes (d : Decimal) : Bytes :=
  if d.coefficient = 0 then bytesOf 8 0
  else
    let places := (d.scale + 3) / 4
    let n := d.coefficient * Nat.pow 10 (4 * places - d.scale)
    let groups := groupsBefore (Nat.log2 n + 1) n []
    let weight : Int := (groups.length : Int) - (places : Int) - 1
    bytesOf 2 groups.length ++ signedBytes 2 weight ++
      bytesOf 2 (if d.negative then negativeSign else 0) ++ bytesOf 2 d.scale ++
      groups.flatMap (bytesOf 2)

/-! ## Values -/

/-- The JSON value that bytes denote as a text. -/
def json? (bytes : Bytes) : Option Json :=
  (text? bytes).bind Json.read?

/-- The text that bytes denote behind the version of their format, which has to be the first. -/
def versionedText? : Bytes → Option String
  | 1 :: rest => text? rest
  | _ => none

/-- The value of a type that bytes denote; `none` also for the types that are not read. -/
def value? (type : String) (bytes : Bytes) : Option Cell :=
  match type with
  | "int2" => (signed? 2 bytes).map .int
  | "int4" => (signed? 4 bytes).map .int
  | "int8" => (signed? 8 bytes).map .int
  | "oid" => (exactly? 4 bytes).map fun n => .int n
  | "float4" => (exactly? 4 bytes).map fun n => .float (Binary64.ofSingleBits n)
  | "float8" => (exactly? 8 bytes).map fun n => .float ⟨UInt64.ofNat n⟩
  | "numeric" => (decimal? bytes).map .decimal
  | "bool" => (exactly? 1 bytes).map fun n => .bool (n != 0)
  | "json" => (json? bytes).map .json
  | "jsonb" =>
    match bytes with
    | 1 :: rest => (json? rest).map .json
    | _ => none
  | "timestamptz" | "timestamp" =>
    ((signed? 8 bytes).bind Instant.ofMicroseconds?).map .instant
  | "date" =>
    match signed? 4 bytes with
    | some n =>
      let d : Date := ⟨Instant.epoch.day + n⟩
      if d.inRange then some (.date d) else none
    | none => none
  | "text" | "varchar" | "bpchar" | "name" | "unknown" | "citext" => (text? bytes).map .string
  | "ltree" | "lquery" | "ltxtquery" => (versionedText? bytes).map .string
  | _ => none

/-- The cell of a column of the given type; NULL where there are no bytes or none that decode. -/
def decode (type : String) : Option Bytes → Cell
  | some bytes => (value? type bytes).getD .null
  | none => .null

/-! ## The other side -/

/-- The bytes written in hexadecimal digits. -/
def ofHex? : List Char → Option Bytes
  | [] => some []
  | a :: b :: rest => do
    let high ← Json.hexDigit? a
    let low ← Json.hexDigit? b
    let rest ← ofHex? rest
    some (UInt8.ofNat (high * 16 + low) :: rest)
  | [_] => none

/-- The floating-point number that a server is told to send: a number, or the name of a special
one. -/
def floatOf : Json → Binary64
  | .int n => Binary64.ofInt n
  | .float x => x
  | .str "inf" => Binary64.infinity false
  | .str "-inf" => Binary64.infinity true
  | _ => Binary64.notANumber

/-- The integer that a server is told to send. -/
def intOf : Json → Int
  | .int n => n
  | _ => 0

/-- The text that a server is told to send. -/
def textOf : Json → String
  | .str s => s
  | other => other.compact

/-- The bytes by which a server sends a value that is not NULL. -/
def encodeValue (type : String) (value : Json) : Bytes :=
  match type with
  | "int2" => signedBytes 2 (intOf value)
  | "int4" => signedBytes 4 (intOf value)
  | "int8" => signedBytes 8 (intOf value)
  | "oid" => signedBytes 4 (intOf value)
  | "float4" => bytesOf 4 (floatOf value).singleBits
  | "float8" => bytesOf 8 (floatOf value).bits.toNat
  | "numeric" =>
    match Decimal.read? (textOf value).toList with
    | some d => decimalBytes d
    | none => []
  | "bool" => [match value with | .bool true => 1 | _ => 0]
  | "json" => textBytes ((value.member? "json").getD value).compact
  | "jsonb" => 1 :: textBytes ((value.member? "json").getD value).compact
  | "timestamptz" | "timestamp" =>
    match Instant.read? true (textOf value).toList with
    | some t => signedBytes 8 t.toMicroseconds
    | none => []
  | "date" =>
    match Date.read? (textOf value).toList with
    | some d => signedBytes 4 (d.day - Instant.epoch.day)
    | none => []
  | "ltree" | "lquery" | "ltxtquery" => 1 :: textBytes (textOf value)
  | _ => textBytes (textOf value)

/-- What a server sends for a value of the given type: nothing for null, the bytes themselves where
they are given in hexadecimal, and the encoded value otherwise. -/
def encode (type : String) (value : Json) : Option Bytes :=
  match value with
  | .null => none
  | .obj [("hex", .str digits)] => some ((ofHex? digits.toList).getD [])
  | value => some (encodeValue type value)

end PgGateway.Wire
