import PgGateway.Json.Token

set_option autoImplicit false

/-!
# JSON documents

A JSON text as a tree, before it is judged: every member of an object is kept, in the order in which
it is written, numbers are not yet valued, and nesting is not limited. A value is then taken from a
document, which fails for numbers out of range, strings without a value and too deep nesting. A
reader that ignores a part of a document does not judge it.

## Main definitions

* `PgGateway.Json.Document` — the documents, with `Document.read?`.
* `PgGateway.Json.Document.value?` — the value of a document within a depth.
* `PgGateway.Json.read?` — the value of a text.
-/

namespace PgGateway.Json

/-- A JSON text as a tree. -/
inductive Document where
  /-- The word `null`. -/
  | null
  /-- One of the words `true` and `false`. -/
  | bool (value : Bool)
  /-- A number. -/
  | number (numeral : Numeral)
  /-- A string, with its value if it has one. -/
  | string (value : Option String)
  /-- A list. -/
  | arr (items : List Document)
  /-- An object; keys are strings that may lack a value. -/
  | obj (members : List (Option String × Document))
  deriving Inhabited

namespace Document

mutual

/-- The document at the start of some tokens, and the rest. -/
def parse? (fuel : Nat) (tokens : List Token) : Option (Document × List Token) :=
  match fuel, tokens with
  | 0, _ => none
  | _ + 1, .null :: rest => some (.null, rest)
  | _ + 1, .bool b :: rest => some (.bool b, rest)
  | _ + 1, .number n :: rest => some (.number n, rest)
  | _ + 1, .string s :: rest => some (.string s, rest)
  | _ + 1, .openBracket :: .closeBracket :: rest => some (.arr [], rest)
  | fuel + 1, .openBracket :: rest =>
    (parseItems? fuel rest).map fun (items, rest) => (.arr items, rest)
  | _ + 1, .openBrace :: .closeBrace :: rest => some (.obj [], rest)
  | fuel + 1, .openBrace :: rest =>
    (parseMembers? fuel rest).map fun (members, rest) => (.obj members, rest)
  | _ + 1, _ => none

/-- One or more items up to the closing bracket, and the rest after it. -/
def parseItems? (fuel : Nat) (tokens : List Token) : Option (List Document × List Token) :=
  match fuel with
  | 0 => none
  | fuel + 1 =>
    match parse? fuel tokens with
    | some (item, .closeBracket :: rest) => some ([item], rest)
    | some (item, .comma :: rest) =>
      (parseItems? fuel rest).map fun (items, rest) => (item :: items, rest)
    | _ => none

/-- One or more members up to the closing brace, and the rest after it. -/
def parseMembers? (fuel : Nat) (tokens : List Token) :
    Option (List (Option String × Document) × List Token) :=
  match fuel, tokens with
  | fuel + 1, .string key :: .colon :: tokens =>
    match parse? fuel tokens with
    | some (value, .closeBrace :: rest) => some ([(key, value)], rest)
    | some (value, .comma :: rest) =>
      (parseMembers? fuel rest).map fun (members, rest) => ((key, value) :: members, rest)
    | _ => none
  | _, _ => none

end

/-- The document of a text. -/
def read? (s : List Char) : Option Document :=
  match tokens? s with
  | some tokens =>
    match parse? (2 * tokens.length + 1) tokens with
    | some (d, []) => some d
    | _ => none
  | none => none

mutual

/-- The value of a document in which at most `depth` lists and objects lie within each other. -/
def value? (depth : Nat) : Document → Option Json
  | .null => some .null
  | .bool b => some (.bool b)
  | .number n => n.value?
  | .string s => s.map .str
  | .arr items =>
    match depth with
    | 0 => none
    | depth + 1 => (itemValues? depth items).map .arr
  | .obj members =>
    match depth with
    | 0 => none
    | depth + 1 => (memberValues? depth members).map .object

/-- The values of some items, each within the depth. -/
def itemValues? (depth : Nat) : List Document → Option (List Json)
  | [] => some []
  | item :: rest =>
    match item.value? depth, itemValues? depth rest with
    | some item, some rest => some (item :: rest)
    | _, _ => none

/-- The values of some members, each within the depth. -/
def memberValues? (depth : Nat) :
    List (Option String × Document) → Option (List (String × Json))
  | [] => some []
  | (key, value) :: rest =>
    match key, value.value? depth, memberValues? depth rest with
    | some key, some value, some rest => some ((key, value) :: rest)
    | _, _, _ => none

end

end Document

/-- The depth to which values may be nested in a text. -/
def maxDepth : Nat := 127

/-- The value of a text whose nesting stays within a depth. -/
def readWithin? (depth : Nat) (s : String) : Option Json :=
  (Document.read? s.toList).bind (·.value? depth)

/-- The value of a text. -/
def read? (s : String) : Option Json :=
  readWithin? maxDepth s

end PgGateway.Json
