import PgGateway.Json.Written

set_option autoImplicit false

/-!
# Literals in SQL

Strings, JSON values and lists of strings as they stand in a statement. A string literal is in
single quotes with every single quote inside it doubled; a backslash has no meaning there. The
elements of an array literal are in double quotes, where a backslash takes the next character as it
is, and the whole array text is then a string literal.

## Main definitions

* `PgGateway.Sql.quoteLiteral` — a string literal.
* `PgGateway.Sql.jsonbLiteral` — a `jsonb` literal.
* `PgGateway.Sql.arrayLiteral` — a `text[]` literal.
-/

namespace PgGateway.Sql

/-- The text of a string literal. -/
def literalChars (s : List Char) : List Char :=
  '\'' :: Text.substitute '\'' ['\'', '\''] s ++ ['\'']

/-- A string literal. -/
def quoteLiteral (value : String) : String :=
  String.ofList (literalChars value.toList)

/-- A JSON value as a `jsonb` literal. -/
def jsonbLiteral (value : Json) : String :=
  String.ofList (literalChars value.chars ++ "::jsonb".toList)

/-- An element of an array literal. -/
def elementChars (s : List Char) : List Char :=
  '"' :: Text.substitute '"' ['\\', '"'] (Text.substitute '\\' ['\\', '\\'] s) ++ ['"']

/-- The text of an array. -/
def arrayChars (segments : List String) : List Char :=
  '{' :: Text.joined [','] (segments.map fun s => elementChars s.toList) ++ ['}']

/-- A list of strings as a `text[]` literal. -/
def arrayLiteral (segments : List String) : String :=
  String.ofList (literalChars (arrayChars segments))

end PgGateway.Sql
