import PgGateway.Json.Basic
import PgGateway.Number.Shortest
import PgGateway.Text.Cut
import PgGateway.Text.Quoted

set_option autoImplicit false

/-!
# JSON text

The two written forms of a value: the compact one without any blank, and the pretty one with two
spaces of indentation, one item or member a line.

## Main definitions

* `PgGateway.Json.chars` — the compact form; `Json.compact` is the string.
* `PgGateway.Json.prettyChars` — the pretty form; `Json.pretty` is the string.
-/

namespace PgGateway.Json

/-- One character of a string. A quote, a backslash and the controls below the space are escaped;
everything else stands for itself. -/
def escapedChar (c : Char) : List Char :=
  if c = '"' then ['\\', '"']
  else if c = '\\' then ['\\', '\\']
  else if c = '\x08' then ['\\', 'b']
  else if c = '\x0c' then ['\\', 'f']
  else if c = '\n' then ['\\', 'n']
  else if c = '\r' then ['\\', 'r']
  else if c = '\t' then ['\\', 't']
  else if c.toNat < 0x20 then
    '\\' :: 'u' :: List.replicate (4 - (Text.hex c.toNat).length) '0' ++ Text.hex c.toNat
  else [c]

/-- A string with its quotes. -/
def stringChars (s : String) : List Char :=
  '"' :: s.toList.flatMap escapedChar ++ ['"']

/-- An integer. -/
def intChars (n : Int) : List Char :=
  if n < 0 then '-' :: Nat.toDigits 10 n.natAbs else Nat.toDigits 10 n.toNat

/-- A floating-point number. Infinities and words that are no number are written as null. -/
def floatChars (x : Binary64) : List Char :=
  if x.isFinite then x.written else "null".toList

/-- A value that is not a list and not an object. -/
def scalarChars : Json → List Char
  | .bool true => "true".toList
  | .bool false => "false".toList
  | .int n => intChars n
  | .float x => floatChars x
  | .str s => stringChars s
  | _ => "null".toList

mutual

/-- The compact form of a value. -/
def chars : Json → List Char
  | .arr items => '[' :: itemChars items
  | .obj members => '{' :: memberChars members
  | scalar => scalarChars scalar

/-- The items of a list in compact form, with the bracket that ends them. -/
def itemChars : List Json → List Char
  | [] => [']']
  | [item] => item.chars ++ [']']
  | item :: next :: rest => item.chars ++ ',' :: itemChars (next :: rest)

/-- The members of an object in compact form, with the brace that ends them. -/
def memberChars : List (String × Json) → List Char
  | [] => ['}']
  | [(key, value)] => stringChars key ++ ':' :: value.chars ++ ['}']
  | (key, value) :: next :: rest =>
    stringChars key ++ ':' :: value.chars ++ ',' :: memberChars (next :: rest)

end

/-- The compact form of a value as a string. -/
def compact (j : Json) : String :=
  String.ofList j.chars

/-- The start of a line at a depth. -/
def lineStart (depth : Nat) : List Char :=
  '\n' :: List.replicate (2 * depth) ' '

mutual

/-- The pretty form of a value that stands at a depth. -/
def prettyChars (depth : Nat) : Json → List Char
  | .arr [] => ['[', ']']
  | .arr (item :: rest) =>
    '[' :: lineStart (depth + 1) ++ item.prettyChars (depth + 1) ++ prettyItems depth rest
  | .obj [] => ['{', '}']
  | .obj ((key, value) :: rest) =>
    '{' :: lineStart (depth + 1) ++ stringChars key ++ ':' :: ' ' ::
      value.prettyChars (depth + 1) ++ prettyMembers depth rest
  | scalar => scalarChars scalar

/-- The further items of a list that stands at a depth, with the bracket that ends it. -/
def prettyItems (depth : Nat) : List Json → List Char
  | [] => lineStart depth ++ [']']
  | item :: rest =>
    ',' :: lineStart (depth + 1) ++ item.prettyChars (depth + 1) ++ prettyItems depth rest

/-- The further members of an object that stands at a depth, with the brace that ends it. -/
def prettyMembers (depth : Nat) : List (String × Json) → List Char
  | [] => lineStart depth ++ ['}']
  | (key, value) :: rest =>
    ',' :: lineStart (depth + 1) ++ stringChars key ++ ':' :: ' ' ::
      value.prettyChars (depth + 1) ++ prettyMembers depth rest

end

/-- The pretty form of a value as a string. -/
def pretty (j : Json) : String :=
  String.ofList (j.prettyChars 0)

end PgGateway.Json
