import PgGateway.Failure
import PgGateway.Text.Blank
import PgGateway.Text.Cut

set_option autoImplicit false

/-!
# Names in SQL

A name is a table, column or index as a caller writes it: one part, or a schema and one part with a
point between them. Each part has ASCII letters, digits, underscores and dollar signs and starts
with a letter or an underscore. Only such names are ever put into a statement, in double quotes.

## Main definitions

* `PgGateway.Sql.isNamePart` — the grammar of a part.
* `PgGateway.Sql.quoteName` — a name in double quotes; `quoteNames` is the same for a list.
* `PgGateway.Sql.splitName` — schema and table of a name.
-/

namespace PgGateway.Sql

/-- An ASCII letter. -/
def isAsciiLetter (c : Char) : Bool :=
  ('a' ≤ c && c ≤ 'z') || ('A' ≤ c && c ≤ 'Z')

/-- An ASCII digit. -/
def isAsciiDigit (c : Char) : Bool :=
  '0' ≤ c && c ≤ '9'

/-- A character that a part of a name may start with. -/
def isNameStart (c : Char) : Bool :=
  isAsciiLetter c || c = '_'

/-- A character that a part of a name may go on with. -/
def isNameChar (c : Char) : Bool :=
  isAsciiLetter c || isAsciiDigit c || c = '_' || c = '$'

/-- Whether a text is a part of a name. -/
def isNamePart : List Char → Bool
  | [] => false
  | c :: s => isNameStart c && s.all isNameChar

/-- The parts of a name, if it is one: blanks around the name do not count. -/
def nameParts? (name : List Char) : Option (List (List Char)) :=
  let parts := Text.pieces '.' (Text.trim name)
  if parts.length ≤ 2 && parts.all isNamePart then some parts else none

/-- A part of a name in double quotes. -/
def quotePart (part : List Char) : List Char :=
  '"' :: part ++ ['"']

/-- The name in double quotes, part by part. -/
def quoteName (name : String) : Except ToolError String :=
  match nameParts? name.toList with
  | some parts => .ok (String.ofList (Text.joined ['.'] (parts.map quotePart)))
  | none => .error (.invalidArguments ("Invalid identifier: '" ++ Text.strip name ++ "'"))

/-- The error of a list of columns without any. -/
def noColumns : ToolError :=
  .invalidArguments "At least one column is required"

/-- The names in double quotes with commas between them. -/
def quoteNames (names : List String) : Except ToolError String :=
  if names.isEmpty then .error noColumns
  else (names.mapM quoteName).map (Text.join ", ")

/-- The schema and the table of a name; the schema of a bare name is `public`. The two sides of
the first point are taken as they are. -/
def splitName (name : String) : String × String :=
  match Text.cutFirst ['.'] (Text.trim name.toList) with
  | some (schema, table) => (String.ofList schema, String.ofList table)
  | none => ("public", Text.strip name)

end PgGateway.Sql
