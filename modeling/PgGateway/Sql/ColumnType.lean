import PgGateway.Sql.Name
import PgGateway.Text.Word

set_option autoImplicit false

/-!
# Column types

The types that a new table may give its columns: words, perhaps one or two numbers in parentheses,
and perhaps the mark of an array, such as `varchar(255)`, `numeric(10, 2)` or `text[]`.

## Main definitions

* `PgGateway.Sql.isColumnType` — the grammar of a type.
-/

namespace PgGateway.Sql

/-- A character that the words of a type may go on with. -/
def isTypeChar (c : Char) : Bool :=
  isAsciiLetter c || isAsciiDigit c || c = '_' || c = ' '

/-- A number with blanks around it at the start of a text: the rest after it. -/
def afterNumber? (s : List Char) : Option (List Char) :=
  let s := Text.trimStart s
  if (s.takeWhile Text.isDigit).isEmpty then none
  else some (Text.trimStart (s.dropWhile Text.isDigit))

/-- One or two numbers and the parenthesis that closes them: the rest after it. -/
def afterNumbers? (s : List Char) : Option (List Char) :=
  match afterNumber? s with
  | some (')' :: rest) => some rest
  | some (',' :: rest) =>
    match afterNumber? rest with
    | some (')' :: rest) => some rest
    | _ => none
  | _ => none

/-- Whether a text is any number of pairs of brackets. -/
def isArrayMark : List Char → Bool
  | [] => true
  | '[' :: ']' :: s => isArrayMark s
  | _ => false

/-- Whether a text is a type that a column may have. -/
def isColumnType : List Char → Bool
  | [] => false
  | c :: s =>
    isAsciiLetter c &&
      match s.dropWhile isTypeChar with
      | '(' :: rest =>
        match afterNumbers? rest with
        | some rest => isArrayMark rest
        | none => false
      | rest => isArrayMark rest

end PgGateway.Sql
