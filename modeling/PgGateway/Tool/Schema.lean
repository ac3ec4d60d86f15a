import PgGateway.Json.Basic

set_option autoImplicit false

/-!
# Schemas

The shapes of arguments as tools announce them to their callers, written as JSON Schema. A schema
only describes: what a tool accepts is decided by the reader of its arguments.

## Main definitions

* `PgGateway.Schema` — the shapes.
* `PgGateway.Schema.toJson` — the written form.
-/

namespace PgGateway

/-- The shape of a value. -/
inductive Schema where
  /-- Any value. -/
  | any
  /-- A string. -/
  | text
  /-- One of the given strings. -/
  | choice (options : List String)
  /-- An integer, perhaps with a least and a greatest value. -/
  | integer (least greatest : Option Nat)
  /-- A truth value. -/
  | flag
  /-- A list of any values. -/
  | list
  /-- A list of values of one shape. -/
  | listOf (item : Schema)
  /-- Any object. -/
  | map
  /-- An object with the given members, each with its name and whether it must be given. -/
  | record (members : List (String × Bool × Schema))
  /-- A value of one of the shapes. -/
  | oneOf (alternatives : List Schema)
  /-- A shape with a description. -/
  | described (description : String) (inner : Schema)
  deriving Inhabited

namespace Schema

/-- A member that must be given. -/
def must (name : String) (schema : Schema) : String × Bool × Schema :=
  (name, true, schema)

/-- A member that may be left out. -/
def may (name : String) (schema : Schema) : String × Bool × Schema :=
  (name, false, schema)

/-- A string or a list of strings. -/
def textOrTexts : Schema :=
  .oneOf [.text, .listOf .text]

/-- The member of a written schema that names its type. -/
def typed (name : String) : String × Json :=
  ("type", .str name)

/-- The member of a written schema that holds a number, if there is one. -/
def bound (name : String) : Option Nat → List (String × Json)
  | some n => [(name, .nat n)]
  | none => []

/-- The member of a written schema that names the members that must be given, if there are any. -/
def requirement (names : List String) : List (String × Json) :=
  if names.isEmpty then [] else [("required", Json.strings names)]

mutual

/-- The members of a written schema. -/
def written : Schema → List (String × Json)
  | .any => []
  | .text => [typed "string"]
  | .choice options => [typed "string", ("enum", Json.strings options)]
  | .integer least greatest => typed "integer" :: bound "minimum" least ++ bound "maximum" greatest
  | .flag => [typed "boolean"]
  | .list => [typed "array"]
  | .listOf item => [typed "array", ("items", .object (written item))]
  | .map => [typed "object"]
  | .record members =>
    [typed "object", ("properties", .object (writtenMembers members))] ++
      requirement ((members.filter fun m => m.2.1).map Prod.fst)
  | .oneOf alternatives => [("oneOf", .arr (writtenAll alternatives))]
  | .described description inner => ("description", .str description) :: written inner

/-- The written forms of the members of an object. -/
def writtenMembers : List (String × Bool × Schema) → List (String × Json)
  | [] => []
  | (name, _, schema) :: rest => (name, .object (written schema)) :: writtenMembers rest

/-- The written forms of alternatives. -/
def writtenAll : List Schema → List Json
  | [] => []
  | schema :: rest => .object (written schema) :: writtenAll rest

end

/-- The written form of a schema. -/
def toJson (schema : Schema) : Json :=
  .object (written schema)

end Schema

end PgGateway
