import PgGateway.Failure
import PgGateway.Json.Written
import PgGateway.Text.Blank

set_option autoImplicit false

/-!
# Paths into JSON columns

A path names a place in a JSON document by its segments. It is given as a list of strings and
numbers, or as a text: segments with points between them, perhaps after `$.` or `$`, or in braces
with commas. In a text, blanks around a segment do not count, and empty segments are dropped.

## Main definitions

* `PgGateway.Sql.parsePath` — the segments of a path.
-/

namespace PgGateway.Sql

/-- The text of a path without the mark of the root. -/
def afterRoot (s : List Char) : List Char :=
  match s with
  | '$' :: '.' :: rest => rest
  | '$' :: rest => rest
  | _ => s

/-- The text of a path with its braces taken away and its commas made points, if it has braces. -/
def withoutBraces (s : List Char) : List Char :=
  match s with
  | '{' :: inner =>
    match Text.before? ['}'] inner with
    | some inner => Text.substitute ',' ['.'] inner
    | none => s
  | _ => s

/-- The segments of a path given as a text. -/
def textSegments (s : List Char) : List (List Char) :=
  let segments := Text.pieces '.' (withoutBraces (afterRoot (Text.trim s)))
  (segments.map Text.trim).filter fun segment => !segment.isEmpty

/-- A segment of a path given as a list. -/
def itemSegment : Json → Except ToolError String
  | .str s => .ok s
  | .int n => .ok (String.ofList (Json.intChars n))
  | .float x => .ok (String.ofList (Json.floatChars x))
  | other => .error (.invalidArguments ("Invalid JSON path segment: " ++ other.compact))

/-- The segments of a path, at least one. -/
def parsePath (path : Json) : Except ToolError (List String) := do
  let segments ←
    match path with
    | .str s => .ok ((textSegments s.toList).map String.ofList)
    | .arr items => items.mapM itemSegment
    | other => .error (.invalidArguments ("Invalid JSON path: " ++ other.compact))
  if segments.isEmpty then .error (.invalidArguments "JSON path must not be empty")
  else .ok segments

end PgGateway.Sql
