import PgGateway.Json.Numeral
import PgGateway.Text.Digits

set_option autoImplicit false

/-!
# JSON tokens

The lexical layer of JSON. Strings are decoded here, numbers only taken apart. An escape that
denotes half of a surrogate pair without its other half does not make the text malformed: the
string then has no value, and it is for the reader to decide whether it needs one.

## Main definitions

* `PgGateway.Json.Token` — the tokens.
* `PgGateway.Json.tokens?` — the tokens of a text.
-/

namespace PgGateway.Json

/-- A token of a JSON text. -/
inductive Token where
  /-- `[` -/
  | openBracket
  /-- `]` -/
  | closeBracket
  /-- An opening brace. -/
  | openBrace
  /-- A closing brace. -/
  | closeBrace
  /-- `,` -/
  | comma
  /-- `:` -/
  | colon
  /-- The word `null`. -/
  | null
  /-- One of the words `true` and `false`. -/
  | bool (value : Bool)
  /-- A number. -/
  | number (numeral : Numeral)
  /-- A string, with its value if it has one. -/
  | string (value : Option String)
  deriving Inhabited

/-- The blanks between tokens. -/
def isGap (c : Char) : Bool :=
  c = ' ' || c = '\n' || c = '\t' || c = '\r'

/-- The digits that a text starts with, and the rest. -/
def digitRun : List Char → List Nat × List Char
  | [] => ([], [])
  | c :: s =>
    match Text.digit? c with
    | some d =>
      let (digits, rest) := digitRun s
      (d :: digits, rest)
    | none => ([], c :: s)

/-- The exponent at the start of a text, if there is one; a mark without digits is malformed. -/
def exponentPart? : List Char → Option (Option (Bool × List Nat) × List Char)
  | c :: s =>
    if c = 'e' || c = 'E' then
      let (below, s) :=
        match s with
        | '-' :: rest => (true, rest)
        | '+' :: rest => (false, rest)
        | _ => (false, s)
      match digitRun s with
      | ([], _) => none
      | (digits, rest) => some (some (below, digits), rest)
    else some (none, c :: s)
  | [] => some (none, [])

/-- A numeral at the start of a text whose sign has been read: one zero or digits that start
otherwise, then perhaps a point with digits, then perhaps an exponent. -/
def numeralPart? (negative : Bool) (s : List Char) : Option (Numeral × List Char) :=
  match digitRun s with
  | ([], _) => none
  | (0 :: _ :: _, _) => none
  | (whole, '.' :: rest) =>
    match digitRun rest with
    | ([], _) => none
    | (places, rest) =>
      (exponentPart? rest).map fun (e, rest) => (⟨negative, whole, some places, e⟩, rest)
  | (whole, rest) => (exponentPart? rest).map fun (e, rest) => (⟨negative, whole, none, e⟩, rest)

/-- The value of a hexadecimal digit. -/
def hexDigit? (c : Char) : Option Nat :=
  if '0' ≤ c && c ≤ '9' then some (c.toNat - '0'.toNat)
  else if 'a' ≤ c && c ≤ 'f' then some (c.toNat - 'a'.toNat + 10)
  else if 'A' ≤ c && c ≤ 'F' then some (c.toNat - 'A'.toNat + 10)
  else none

/-- The number of the four hexadecimal digits at the start of a text. -/
def hexQuad? : List Char → Option (Nat × List Char)
  | a :: b :: c :: d :: rest => do
    let a ← hexDigit? a
    let b ← hexDigit? b
    let c ← hexDigit? c
    let d ← hexDigit? d
    some (a * 0x1000 + b * 0x100 + c * 0x10 + d, rest)
  | _ => none

/-- One unit of a string: a character, or a number of 16 bits written by an escape. -/
inductive StringUnit where
  /-- A character that stands for itself or has a short escape. -/
  | char (c : Char)
  /-- A number of 16 bits. -/
  | word (n : Nat)
  deriving Inhabited

/-- The character of a short escape. -/
def shortEscape? (c : Char) : Option Char :=
  if c = '"' || c = '\\' || c = '/' then some c
  else if c = 'b' then some '\x08'
  else if c = 'f' then some '\x0c'
  else if c = 'n' then some '\n'
  else if c = 'r' then some '\r'
  else if c = 't' then some '\t'
  else none

/-- The unit at the start of the inside of a string, and the rest. -/
def stringUnit? : List Char → Option (StringUnit × List Char)
  | [] => none
  | '\\' :: 'u' :: s => (hexQuad? s).map fun (n, rest) => (.word n, rest)
  | '\\' :: c :: s => (shortEscape? c).map fun c => (.char c, s)
  | c :: s => if c = '\\' || c.toNat < 0x20 then none else some (.char c, s)

/-- The units up to the closing quote, in reverse, and the rest after it. -/
def stringUnits? (fuel : Nat) (done : List StringUnit) (s : List Char) :
    Option (List StringUnit × List Char) :=
  match fuel, s with
  | 0, _ => none
  | _ + 1, '"' :: rest => some (done, rest)
  | fuel + 1, s =>
    match stringUnit? s with
    | some (unit, rest) => stringUnits? fuel (unit :: done) rest
    | none => none

/-- The text of units given in reverse: a trailing half of a pair is joined with the leading half
before it, and a half that stands alone has no value. -/
def unitsText? (text : List Char) : List StringUnit → Option (List Char)
  | [] => some text
  | .char c :: before => unitsText? (c :: text) before
  | .word n :: before =>
    if 0xDC00 ≤ n && n ≤ 0xDFFF then
      match before with
      | .word m :: before =>
        if 0xD800 ≤ m && m ≤ 0xDBFF then
          let c := Char.ofNat (0x10000 + (m - 0xD800) * 0x400 + (n - 0xDC00))
          unitsText? (c :: text) before
        else none
      | _ => none
    else if 0xD800 ≤ n && n ≤ 0xDBFF then none
    else unitsText? (Char.ofNat n :: text) before

/-- The token at the start of a text that does not start with a gap, and the rest. -/
def token? : List Char → Option (Token × List Char)
  | '[' :: s => some (.openBracket, s)
  | ']' :: s => some (.closeBracket, s)
  | '{' :: s => some (.openBrace, s)
  | '}' :: s => some (.closeBrace, s)
  | ',' :: s => some (.comma, s)
  | ':' :: s => some (.colon, s)
  | 'n' :: 'u' :: 'l' :: 'l' :: s => some (.null, s)
  | 't' :: 'r' :: 'u' :: 'e' :: s => some (.bool true, s)
  | 'f' :: 'a' :: 'l' :: 's' :: 'e' :: s => some (.bool false, s)
  | '"' :: s =>
    (stringUnits? (s.length + 1) [] s).map fun (units, rest) =>
      (.string ((unitsText? [] units).map String.ofList), rest)
  | '-' :: s => (numeralPart? true s).map fun (n, rest) => (.number n, rest)
  | s => (numeralPart? false s).map fun (n, rest) => (.number n, rest)

/-- The tokens of a text after those already found, which are given in reverse. -/
def tokensAfter? (fuel : Nat) (done : List Token) (s : List Char) : Option (List Token) :=
  match fuel, s.dropWhile isGap with
  | _, [] => some done.reverse
  | 0, _ => none
  | fuel + 1, s =>
    match token? s with
    | some (token, rest) => tokensAfter? fuel (token :: done) rest
    | none => none

/-- The tokens of a text. -/
def tokens? (s : List Char) : Option (List Token) :=
  tokensAfter? s.length [] s

end PgGateway.Json
