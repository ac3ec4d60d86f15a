import PgGateway.Json.Basic

set_option autoImplicit false

/-!
# Calling conventions

A tool takes one object with named members; in code its method is called with a list of arguments.
A convention says which members the arguments of a method stand for. An object as the only
argument, or at the end, holds members by name.

## Main definitions

* `PgGateway.Sandbox.Slots` — the members that arguments stand for.
* `PgGateway.Sandbox.Convention` — the slots of the methods; `Convention.standard` is that of the
  standard tools.
* `PgGateway.Sandbox.Convention.bind` — the parameters made of arguments.
-/

namespace PgGateway.Sandbox

/-- The members that the arguments of a method stand for. -/
inductive Slots where
  /-- The first argument stands for a member, and further ones for none. -/
  | single (key : String)
  /-- The arguments stand for the members in order. -/
  | ordered (keys : List String)
  deriving DecidableEq, Inhabited

/-- The slots of methods, by the names of the methods. -/
structure Convention where
  /-- What the arguments of a method stand for. -/
  slots : Keyed Slots := []
  /-- The member that a list as the first argument of a method stands for. -/
  listSlot : Keyed String := []
  deriving Inhabited

namespace Convention

/-- The convention of the standard tools. -/
def standard : Convention where
  slots := Keyed.ofList
    [("readQuery", .single "sql"), ("writeQuery", .single "sql"), ("listTables", .single "schema"),
      ("describeTable", .ordered ["table", "schema"]),
      ("createTable", .ordered ["table", "columns"]), ("dropTable", .single "table"),
      ("createIndex", .ordered ["table", "columns"]), ("count", .ordered ["table", "where"]),
      ("exists", .ordered ["table", "where"]), ("execute", .single "statements"),
      ("extract", .ordered ["table", "column", "path"]),
      ("set", .ordered ["table", "column", "path", "value"]),
      ("keys", .ordered ["table", "column"]), ("contains", .ordered ["table", "column", "value"]),
      ("fulltextSearch", .ordered ["table", "columns", "query"]),
      ("fulltextCreateIndex", .ordered ["table", "columns"]),
      ("explain", .single "sql"), ("indexStats", .single "table"), ("tableStats", .single "table"),
      ("vacuum", .single "table"), ("analyze", .single "table"), ("reindex", .single "table"),
      ("createCollection", .single "collection"), ("dropCollection", .single "collection"),
      ("insert", .ordered ["collection", "documents"]),
      ("find", .ordered ["collection", "filter"])]
  listSlot := Keyed.ofList [("execute", "statements")]

/-- The methods that the convention names, those in both tables twice. -/
def methods (c : Convention) : List String :=
  c.slots.keys ++ c.listSlot.keys

/-- The members that a single argument fills if its method has no slots. -/
def fallbackKeys : List String :=
  ["sql", "query", "table", "name"]

/-- The parameters made of a value under several keys. -/
def filling (keys : List String) (value : Json) : Json :=
  .object (keys.map fun key => (key, value))

/-- The parameters made of a scalar as the only argument. -/
def bindScalar (c : Convention) (method : String) (value : Json) : Json :=
  match Keyed.get? method c.slots with
  | some (.single key) => filling [key] value
  | some (.ordered (key :: _)) => filling [key] value
  | some (.ordered []) => value
  | none => filling fallbackKeys value

/-- The parameters made of the only argument: an object is used as it is. -/
def bindOne (c : Convention) (method : String) (argument : Json) : Json :=
  match argument with
  | .obj _ => argument
  | .arr _ =>
    match Keyed.get? method c.listSlot with
    | some key => filling [key] argument
    | none => argument
  | scalar => c.bindScalar method scalar

/-- The members of the last of some arguments, if that is an object. -/
def lastMembers? (arguments : List Json) : Option (List (String × Json)) :=
  match arguments.getLast? with
  | some (.obj ms) => some ms
  | _ => none

/-- The parameters made of a first argument under its key and the members of the last one. Members
given by name count more than others. -/
def bindFirst (key : String) (first : Json) (rest : List Json) : Json :=
  .obj (Keyed.overlay [(key, first)] ((lastMembers? rest).getD []))

/-- The members that are given by name after arguments for the given keys: those of a last object
that names one of the keys or for which no key is left. -/
def options? (keys : List String) (arguments : List Json) : Option (List (String × Json)) :=
  match lastMembers? arguments with
  | some ms =>
    if keys.length < arguments.length || ms.any fun (key, _) => keys.contains key then some ms
    else none
  | none => none

/-- The parameters made of arguments that stand for keys in order. -/
def bindOrdered (keys : List String) (arguments : List Json) : Json :=
  match options? keys arguments with
  | some ms => .obj (Keyed.overlay (Keyed.ofList (keys.zip arguments.dropLast)) ms)
  | none => .object (keys.zip arguments)

/-- The parameters made of two or more arguments. -/
def bindMany (c : Convention) (method : String) (first : Json) (rest : List Json) : Json :=
  match Keyed.get? method c.listSlot, first.isArray with
  | some key, true => bindFirst key first rest
  | _, _ =>
    match Keyed.get? method c.slots with
    | some (.single key) => bindFirst key first rest
    | some (.ordered keys) => bindOrdered keys (first :: rest)
    | none => first

/-- The parameters made of the arguments of a call, if there are any arguments. Arguments that no
rule fits are passed on as they are, for the tool to refuse. -/
def bind (c : Convention) (method : String) : List Json → Option Json
  | [] => none
  | [argument] => some (c.bindOne method argument)
  | first :: rest => some (c.bindMany method first rest)

end Convention

end PgGateway.Sandbox
