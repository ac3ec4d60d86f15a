import PgGateway.Text.Cut

set_option autoImplicit false

/-!
# Names of methods

A tool is called in code by a method name made of its own name: without the mark of all tools and
without that of its group, and in camel case, such as `extract` for `pg_json_extract`.

## Main definitions

* `PgGateway.Sandbox.camelCase` — a name with its underscores turned into capitals.
* `PgGateway.Sandbox.methodName` — the method name of a tool in a group.
-/

namespace PgGateway.Sandbox

/-- The mark that the names of tools start with. -/
def toolMark : String := "pg_"

/-- The mark that the names of the tools of a group go on with. -/
def groupMark (group : String) : String :=
  if group = "transactions" then "transaction_"
  else if group = "docstore" then "doc_"
  else group ++ "_"

/-- Whether the mark of a group is a part of its method names. -/
def keepsMark (group : String) : Bool :=
  group == "fulltext"

/-- An ASCII letter in lower case. -/
def isSmallLetter (c : Char) : Bool :=
  'a' ≤ c && c ≤ 'z'

/-- The name in which every underscore before a small letter is dropped and the letter made a
capital. -/
def camelCase : List Char → List Char
  | [] => []
  | [c] => [c]
  | a :: b :: s =>
    if a = '_' && isSmallLetter b then b.toUpper :: camelCase s else a :: camelCase (b :: s)

/-- The name without a mark that it starts with. -/
def withoutMark (mark name : List Char) : List Char :=
  (Text.after? mark name).getD name

/-- The name without the mark of its group, unless nothing else is left. -/
def withoutGroupMark (group : String) (name : List Char) : List Char :=
  if keepsMark group then name
  else
    match Text.after? (groupMark group).toList name with
    | none | some [] => name
    | some rest => rest

/-- The method name of a tool in a group. -/
def methodName (tool group : String) : String :=
  String.ofList (camelCase (withoutGroupMark group (withoutMark toolMark.toList tool.toList)))

end PgGateway.Sandbox
