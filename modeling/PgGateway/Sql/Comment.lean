import PgGateway.Text.Blank

set_option autoImplicit false

/-!
# Comments before a statement

Blanks and comments that a statement starts with. A line comment runs from `--` to the end of its
line. A block comment is only known as one if it ends on the line on which it starts, at the first
`*/`.

## Main definitions

* `PgGateway.Sql.afterGap?` — the text after one blank or comment.
* `PgGateway.Sql.skipGaps` — the text after all of them; `stripComments` is the same on strings.
-/

namespace PgGateway.Sql

/-- The text after the end of the first line. -/
def afterLine : List Char → List Char
  | [] => []
  | c :: s => if c = '\n' then s else afterLine s

/-- The text after the first `*/`, if that stands on the first line. -/
def afterBlock? : List Char → Option (List Char)
  | [] => none
  | '*' :: '/' :: s => some s
  | c :: s => if c = '\n' then none else afterBlock? s

/-- The text after one blank or comment at its start. -/
def afterGap? : List Char → Option (List Char)
  | [] => none
  | '-' :: '-' :: s => some (afterLine s)
  | '/' :: '*' :: s => afterBlock? s
  | c :: s => if Text.isBlank c then some s else none

/-- The text after at most `fuel` blanks and comments at its start. -/
def skipUpTo (fuel : Nat) (s : List Char) : List Char :=
  match fuel with
  | 0 => s
  | fuel + 1 =>
    match afterGap? s with
    | some rest => skipUpTo fuel rest
    | none => s

/-- The text after all blanks and comments at its start. -/
def skipGaps (s : List Char) : List Char :=
  skipUpTo s.length s

/-- `skipGaps` on strings. -/
def stripComments (sql : String) : String :=
  String.ofList (skipGaps sql.toList)

end PgGateway.Sql
