import PgGateway.Executor.Recording
import PgGateway.Proofs.Catalog.Methods
import PgGateway.Proofs.Sandbox.Convention
import PgGateway.Proofs.Server.Calls

set_option autoImplicit false

/-!
# The two call surfaces

A tool of the catalog can be called by its name with an object of arguments, or in code by the path
of its method, with the same object or with scalars for the first of its members. A server gives
both calls the same response and is in the same state after them, whatever its executor is. That
state holds the state of the executor, so both ask the same of it.

## Main definitions

* `PgGateway.Server.StandFor` — the parameters that the arguments of a method stand for.

## Main results

* `PgGateway.Server.exists_make?` — a server of the catalog has every tool on both surfaces.
* `PgGateway.Server.dispatch_codeCall_eq_dispatch_toolCall` — the two surfaces agree.
-/

namespace PgGateway.Server

open Rpc Sandbox

/-- The parameters that the arguments of a method stand for by the standard convention: an object
alone stands for itself, and scalars for the first members of the slots, in order. -/
inductive StandFor (method : String) : List Json → Json → Prop
  /-- An object. -/
  | object (ms : List (String × Json)) : StandFor method [.obj ms] (.obj ms)
  /-- Scalars. -/
  | scalars {slots : Slots} (hslots : Keyed.get? method Convention.standard.slots = some slots)
    {arguments : List Json} (hsome : arguments ≠ [])
    (hfit : arguments.length ≤ slots.keys.length) (hscalar : ∀ a ∈ arguments, a.IsScalar) :
    StandFor method arguments (.object (slots.keys.zip arguments))

/-- The standard convention binds arguments to the parameters that they stand for. -/
lemma StandFor.bind_eq {method : String} {arguments : List Json} {given : Json}
    (h : StandFor method arguments given) :
    Convention.standard.bind method arguments = some given := by
  cases h with
  | object ms => exact Convention.bind_object _ method ms
  | @scalars slots hslots _ hsome hfit hscalar =>
    -- There is a key at least for the first of the scalars.
    have hkeys : slots.keys ≠ [] := fun hnone => by simp_all
    exact Convention.bind_scalars hslots hkeys hsome hscalar

variable {σ : Type}

/-- A server of the catalog with its code mode has the surface of the catalog, also if that is to be
strict. -/
theorem exists_make? {config : Config.Server} (henabled : config.codeMode.enabled = true)
    (executor : Executor σ) :
    ∃ surface, Surface.ofTools config.codeMode.strict Alias.standard Convention.standard
        Catalog.tools = .ok surface ∧
      make? config Catalog.standard executor =
        .ok ⟨config, Catalog.standard, executor, some surface⟩ := by
  obtain ⟨surface, hsurface⟩ := Catalog.exists_surface config.codeMode.strict
  refine ⟨surface, Catalog.tools_standard ▸ hsurface, ?_⟩
  rw [make?, surfaceOf, if_pos henabled, hsurface]
  rfl

/-- **The two call surfaces agree.** Take a server of the catalog with its code mode, whatever its
executor is, and a tool of the catalog. The call by name with some parameters gets the same response
as the call in code with arguments that stand for them, and both leave the server and its executor
in the same state. The response reports the outcome of the tool.

**Proof sketch.** The name means the tool (`Catalog.get?_standard`), and so does the path
(`Catalog.target_of_mem_tools`). The arguments are bound to the parameters (`StandFor.bind_eq`), and
the tool does not look at the surface through which it is called (`Catalog.act_of_mem_tools`). -/
theorem dispatch_codeCall_eq_dispatch_toolCall {config : Config.Server}
    (henabled : config.codeMode.enabled = true) (executor : Executor σ) :
    ∃ server, make? config Catalog.standard executor = .ok server ∧
      ∀ t ∈ Catalog.tools, ∀ (arguments : List Json) (given : Json),
        StandFor (methodName t.name t.group) arguments given →
        ∀ byName byPath : Json, ToolCall.read byName = .ok ⟨t.name, given⟩ →
          CodeCall.read byPath = .ok ⟨Catalog.pathOfTool t, arguments⟩ →
        ∀ (s : State σ) (version : String) (id : Option RequestId),
          server.handler.dispatch ⟨version, id, "codemode/call", some byPath⟩ s =
              server.handler.dispatch ⟨version, id, "tools/call", some byName⟩ s ∧
            server.handler.dispatch ⟨version, id, "tools/call", some byName⟩ s =
              responded id (server.served .protocol t given s) := by
  obtain ⟨surface, hsurface, hmake⟩ := exists_make? henabled executor
  refine ⟨_, hmake, ?_⟩
  intro t ht arguments given hstand byName byPath hname hpath s version id
  have hparameters : surface.parameters (.ofTool t.group t) arguments = given := by
    rw [Surface.parameters, Surface.convention_ofTools hsurface]
    change (Convention.standard.bind (methodName t.name t.group) arguments).getD (.obj []) = given
    rw [hstand.bind_eq, Option.getD_some]
  have hbyName := dispatch_toolCall ⟨config, Catalog.standard, executor, some surface⟩ s version id
    hname (Catalog.get?_standard ht)
  have hbyPath := dispatch_codeCall ⟨config, Catalog.standard, executor, some surface⟩ s version id
    hpath rfl (Catalog.target_of_mem_tools hsurface ht)
  rw [hparameters] at hbyPath
  rw [hbyPath, hbyName]
  refine ⟨?_, rfl⟩
  exact congrArg _ (served_congr _ (Catalog.act_of_mem_tools ht) _ _ (fun _ => rfl) s)

/-- A table is described the same way by the name of the tool and in code with the name of the table
and its schema, also to an executor that records its calls. -/
theorem dispatch_codeCall_eq_dispatch_toolCall_of_describeTable :
    ∃ server, make? {} Catalog.standard Executor.recording = .ok server ∧
      ∀ (s : State Recorder) (version : String) (id : Option RequestId),
        server.handler.dispatch ⟨version, id, "codemode/call",
            some (CodeCall.toJson ⟨"core.describeTable", [.str "logs", .str "public"]⟩)⟩ s =
          server.handler.dispatch ⟨version, id, "tools/call",
            some (ToolCall.toJson ⟨"pg_describe_table",
              .obj [("schema", .str "public"), ("table", .str "logs")]⟩)⟩ s := by
  have henabled : ({} : Config.Server).codeMode.enabled = true := rfl
  obtain ⟨server, hmake, hagree⟩ :=
    dispatch_codeCall_eq_dispatch_toolCall henabled Executor.recording
  refine ⟨server, hmake, fun s version id => ?_⟩
  have hscalar : ∀ a ∈ [Json.str "logs", Json.str "public"], a.IsScalar := by
    intro a ha
    simp only [List.mem_cons, List.not_mem_nil, or_false] at ha
    rcases ha with rfl | rfl <;> exact ⟨rfl, rfl⟩
  have hslots : Keyed.get? "describeTable" Convention.standard.slots =
      some (.ordered ["table", "schema"]) := by
    decide +kernel
  have hstand := StandFor.scalars hslots (List.cons_ne_nil _ _) (by decide) hscalar
  exact (hagree Catalog.DescribeTable.tool (by simp [Catalog.tools]) _ _ hstand _ _ rfl rfl s
    version id).1

end PgGateway.Server
