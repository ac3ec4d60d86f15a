import PgGateway.Sandbox.Alias
import PgGateway.Sandbox.MethodName
import PgGateway.Tool.Basic

set_option autoImplicit false

/-!
# Groups of methods

The tools of one group as methods, under their own names and under aliases. Where two tools want
the same method name the first one has it, an alias never takes a name that is in use, and an alias
without its method is left out. A strict build refuses all three.

## Main definitions

* `PgGateway.Sandbox.Method` — a tool as a method.
* `PgGateway.Sandbox.Shared` — a method that the names of a group share.
* `PgGateway.Sandbox.Group` — the methods and aliases of a group; `Group.ofTools` builds it.
* `PgGateway.Sandbox.classify` — tools by their groups.
-/

namespace PgGateway.Sandbox

/-- A tool as a method of a group. -/
structure Method where
  /-- The group. -/
  group : String
  /-- The name of the method. -/
  name : String
  /-- The tool. -/
  tool : Tool

/-- The text that shows a method. -/
def Method.shown (m : Method) : String :=
  r"BoundMethod { group: " ++ Text.quoted m.group ++ ", method: " ++ Text.quoted m.name ++
    ", tool: " ++ Text.quoted m.tool.name ++ r" }"

/-- A method that was made, as the names of a group share it. -/
structure Shared where
  /-- How many methods of the group were made before it. Names of one number do not mean equal
  methods only, but the very same one. -/
  serial : Nat
  /-- The method. -/
  method : Method

/-- The methods of a group. Their names and the aliases are listed, and what each name means is
looked up in a map of its own. -/
structure Group where
  /-- The name of the group. -/
  name : String
  /-- The names of the methods in order. -/
  methodNames : List String := []
  /-- The aliases in order. -/
  aliasNames : List String := []
  /-- The method that each name and each alias means. -/
  methods : Keyed Shared := []

namespace Group

/-- The shared method that a name or an alias means. -/
def shared? (g : Group) (name : String) : Option Shared :=
  g.methods.get? name

/-- The method that a name or an alias means. -/
def get? (g : Group) (name : String) : Option Method :=
  (g.shared? name).map Shared.method

/-- All names that can be called. -/
def callable (g : Group) : List String :=
  g.methods.keys

/-- The group with a method that is made under its own name. -/
def withMethod (g : Group) (m : Method) : Group :=
  { g with
    methodNames := g.methodNames ++ [m.name]
    methods := g.methods.put m.name ⟨g.methodNames.length, m⟩ }

/-- The group with an alias that shares a method. -/
def withAlias (g : Group) (name : String) (target : Shared) : Group :=
  { g with
    aliasNames := g.aliasNames ++ [name]
    methods := g.methods.put name target }

/-- The group with one more tool. -/
def addTool (strict : Bool) (g : Group) (tool : Tool) : Except ConfigError Group :=
  let name := methodName tool.name g.name
  if (g.shared? name).isSome then
    if strict then .error (.duplicateMethod g.name name) else .ok g
  else .ok (g.withMethod ⟨g.name, name, tool⟩)

/-- The group with one more alias. -/
def addAlias (strict : Bool) (g : Group) (a : Alias) : Except ConfigError Group :=
  match g.shared? a.method with
  | none => if strict then .error (.aliasTarget g.name a.name a.method) else .ok g
  | some target =>
    if (g.shared? a.name).isSome then
      if strict then .error (.duplicateMethod g.name a.name) else .ok g
    else .ok (g.withAlias a.name target)

/-- The group of the given tools and those of the aliases that are its own. -/
def ofTools (strict : Bool) (aliases : List Alias) (name : String) (tools : List Tool) :
    Except ConfigError Group := do
  let g ← tools.foldlM (addTool strict) { name }
  (Alias.ofGroup name aliases).foldlM (addAlias strict) g

end Group

/-- The tools by their groups, those of a group in their order. -/
def classify (tools : List Tool) : Keyed (List Tool) :=
  tools.foldl (fun groups t =>
    Keyed.put t.group ((Keyed.get? t.group groups).getD [] ++ [t]) groups) []

end PgGateway.Sandbox
