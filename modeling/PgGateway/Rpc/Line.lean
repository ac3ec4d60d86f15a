import PgGateway.Json.Document
import PgGateway.Rpc.Message
import PgGateway.Text.Blank

set_option autoImplicit false

/-!
# Lines

A message is one line of JSON. A line is read as a request if that is possible, and otherwise as a
response. Only the members that a message has are judged: a member with another key may be nested
to any depth and hold numbers out of range. So a line whose parameters cannot be read is no request,
but it may be a response, which does not have them.

## Main definitions

* `PgGateway.Rpc.Incoming` — what a line holds; `Incoming.ofLine` reads it.
* `PgGateway.Rpc.linesOf` — the lines of some bytes.
-/

namespace PgGateway.Rpc

open Json (Document)

/-- The members of a message: their keys, and how their values are taken from a document. -/
abbrev Outline := List (String × (Document → Option Json))

namespace Outline

/-- The members that the outline has, in the order of the text. There are none if a member of the
outline has no value or any key has none. -/
def ofMembers (outline : Outline) :
    List (Option String × Document) → Option (List (String × Json))
  | [] => some []
  | (none, _) :: _ => none
  | (some key, d) :: rest =>
    match outline.lookup key with
    | none => ofMembers outline rest
    | some value =>
      match value d, ofMembers outline rest with
      | some j, some ms => some ((key, j) :: ms)
      | _, _ => none

/-- The items that stand for members of the outline in order. -/
def ofItems : Outline → List Document → Option (List Json)
  | _, [] => some []
  | [], _ :: _ => none
  | (_, value) :: outline, d :: rest =>
    match value d, ofItems outline rest with
    | some j, some js => some (j :: js)
    | _, _ => none

/-- The part of a document that the outline has. Members keep the order of the text, also where a
key is repeated. -/
def of (outline : Outline) : Document → Option Json
  | .obj ms => (ofMembers outline ms).map .obj
  | .arr items => (ofItems outline items).map .arr
  | other => other.value? 0

end Outline

/-- A value inside a message, which nests the value once. -/
def inner (d : Document) : Option Json :=
  d.value? (Json.maxDepth - 1)

/-- A value inside a part of a message, which nests the value twice. -/
def innermost (d : Document) : Option Json :=
  d.value? (Json.maxDepth - 2)

/-- The outline of a request. -/
def requestOutline : Outline :=
  [("jsonrpc", inner), ("id", inner), ("method", inner), ("params", inner)]

/-- The outline of an error. -/
def errorOutline : Outline :=
  [("code", innermost), ("message", innermost), ("data", innermost)]

/-- The outline of a response. -/
def responseOutline : Outline :=
  [("jsonrpc", inner), ("id", inner), ("result", inner), ("error", Outline.of errorOutline)]

/-- The data of a document by its outline and its reader. -/
def decode? {α : Type} (outline : Outline) (read : Shape.Reader α) (d : Document) : Option α :=
  (Outline.of outline d).bind fun j => (read j).toOption

/-- The request in a document. -/
def request? (d : Document) : Option Request :=
  decode? requestOutline Request.record.read d

/-- The response in a document. -/
def response? (d : Document) : Option Response :=
  decode? responseOutline Response.record.read d

/-- What a line holds. -/
inductive Incoming where
  /-- Nothing but blanks. -/
  | blank
  /-- A request. -/
  | request (r : Request)
  /-- A response. -/
  | response (r : Response)
  /-- Something else. -/
  | malformed
  deriving Inhabited

namespace Incoming

/-- What a document holds. -/
def ofDocument (d : Document) : Incoming :=
  match request? d with
  | some r => .request r
  | none =>
    match response? d with
    | some r => .response r
    | none => .malformed

/-- What a line holds. Blanks at its ends do not count. -/
def ofLine (line : String) : Incoming :=
  let text := Text.trim line.toList
  if text.isEmpty then .blank
  else
    match Document.read? text with
    | some d => ofDocument d
    | none => .malformed

end Incoming

/-! ## Bytes -/

/-- The bytes of the lines of some bytes, without the line feeds. -/
def splitLines : List UInt8 → List (List UInt8)
  | [] => []
  | b :: rest =>
    if b = 10 then [] :: splitLines rest
    else
      match splitLines rest with
      | [] => [[b]]
      | line :: lines => (b :: line) :: lines

/-- The lines of some bytes up to the first that is not UTF-8. -/
def decodeLines : List (List UInt8) → List String
  | [] => []
  | bytes :: rest =>
    match String.fromUTF8? ⟨bytes.toArray⟩ with
    | some line => line :: decodeLines rest
    | none => []

/-- The lines of some bytes, which end before the first line that is not UTF-8. -/
def linesOf (bytes : List UInt8) : List String :=
  decodeLines (splitLines bytes)

end PgGateway.Rpc
