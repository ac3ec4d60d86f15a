import PgGateway.Sandbox.Help

set_option autoImplicit false

/-!
# Calls by path

Code calls methods by paths: `group.method`, a promoted name, or a path that asks for help. Blanks
around a path and the name of the root before it do not count.

## Main definitions

* `PgGateway.Sandbox.Target` — what a path means; `Surface.target` finds it.
* `PgGateway.Sandbox.Surface.invoke` — does what a path means.
-/

namespace PgGateway.Sandbox

/-- What a path means. -/
inductive Target where
  /-- Help. -/
  | help (text : Json)
  /-- A method. -/
  | method (m : Method)

namespace Surface

/-- The method at a path without root. -/
def methodAt? (s : Surface) (path : List Char) : Option Method :=
  match Text.cutFirst ['.'] path with
  | some (group, method) => s.get? (String.ofList group) (String.ofList method)
  | none => s.promoted? (String.ofList path)

/-- What a path means. -/
def target (s : Surface) (path : String) : Except ToolError Target :=
  let inner := withoutRoot path.toList
  if inner = "help".toList || (Text.before? helpEnding inner).isSome then
    (s.describe (some (String.ofList inner))).map .help
  else
    match s.methodAt? inner with
    | some m => .ok (.method m)
    | none => .error (.notFound (String.ofList inner))

/-- Does what a path means. Only a method counts as a call. -/
def invoke {σ : Type} (s : Surface) (path : String) (arguments : List Json)
    (executor : Executor σ) (timeout : Span) (d : Desk σ) : Except Failure Json × Desk σ :=
  match s.target path with
  | .ok (.help text) => (.ok text, d)
  | .ok (.method m) => s.call m arguments executor timeout d
  | .error e => (.error (.tool e), d)

end Surface

end PgGateway.Sandbox
