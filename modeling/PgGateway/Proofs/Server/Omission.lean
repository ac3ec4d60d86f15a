import PgGateway.Executor.Recording
import PgGateway.Proofs.Catalog.Omission
import PgGateway.Proofs.Rpc.Call
import PgGateway.Proofs.Rpc.Refusal
import PgGateway.Proofs.Server.Surfaces

set_option autoImplicit false

/-!
# Calls without arguments on the two surfaces

A call of a tool by its name without arguments gives the tool null, and a call in code gives it an
empty object. So the surfaces agree on such calls only for tools that do not look at their
arguments.

## Main results

* `PgGateway.Server.served_null_eq_iff` — when a tool of the catalog makes no difference between the
  two.
* `PgGateway.Server.dispatch_of_omitted_arguments` — what the two calls come to.
-/

namespace PgGateway.Server

open Rpc Sandbox

variable {σ : Type} (server : Server σ)

/-- The answer to a tool that refuses its arguments is only given to a refusal of the same
wording. -/
lemma act_run_of_served_eq {t : Tool} {given given' : Json} {origin origin' : Origin} {s : State σ}
    {detail : String}
    (hrefused : ∀ c, t.act c given = .fail (.tool (.invalidArguments detail)))
    (h : server.served origin t given s = server.served origin' t given' s) :
    ∃ c, ((t.act c given').run server.executor server.timeout s.desk.executor).1 =
      .error (.tool (.invalidArguments detail)) := by
  refine ⟨s.desk.nextContext origin' server.timeout, ToolAnswer.ofOutcome_eq_iff.mp ?_⟩
  have hanswer := congrArg Prod.fst h
  simp only [served, Desk.serve, hrefused] at hanswer
  exact hanswer.symm

/-- A tool of the catalog comes to the same on null as on an empty object exactly if it does not
look at its arguments. -/
theorem served_null_eq_iff {t : Tool} (ht : t ∈ Catalog.tools) (origin origin' : Origin)
    (s : State σ) :
    server.served origin t .null s = server.served origin' t (.obj []) s ↔
      t.name ∈ Catalog.unreadingNames := by
  rcases Catalog.tellsApart_or_mem_unreadingNames ht with ⟨hname, hapart⟩ | ⟨hname, hsame⟩
  · refine iff_of_false (fun heq => ?_) hname
    obtain ⟨detail, hnull, hempty⟩ := hapart
    obtain ⟨c, houtcome⟩ := act_run_of_served_eq server hnull heq
    rcases hempty c with hcall | ⟨other, hother, hrefused⟩
    · exact hcall.not_isRefusal houtcome ⟨detail, rfl⟩
    · rw [hrefused] at houtcome
      injection houtcome with hcause
      injection hcause with hcause
      injection hcause with hdetail
      exact hother hdetail
  · refine iff_of_true ?_ hname
    exact served_congr server (Catalog.act_of_mem_tools ht) origin origin'
      (fun c => hsame c .null (.obj [])) s

/-- **Calls without arguments.** Take a server with its code mode, whatever its tools are, and one
of them with a path of it as a method. A call by name without the member for arguments gives the
tool null, and a call in code without arguments gives it an empty object. If the tool is one of the
catalog, the two come to the same exactly if the tool does not look at its arguments.

**Proof sketch.** The arguments of the first call are null (`ToolCall.arguments_eq_null`), and the
convention binds no arguments to an empty object. The two are told apart by all tools that look at
their arguments (`served_null_eq_iff`). -/
theorem dispatch_of_omitted_arguments {surface : Surface} (hsurface : server.surface = some surface)
    {path : String} {m : Method} (hpath : surface.target path = .ok (.method m))
    {byName : List (String × Json)} {c : ToolCall} (hread : ToolCall.read (.obj byName) = .ok c)
    (hname : server.registry.get? c.name = some m.tool)
    (hnot : "arguments" ∉ byName.map Prod.fst) {byPath : Json}
    (hcode : CodeCall.read byPath = .ok ⟨path, []⟩) (s : State σ) (version : String)
    (id : Option RequestId) :
    server.handler.dispatch ⟨version, id, "tools/call", some (.obj byName)⟩ s =
        responded id (server.served .protocol m.tool .null s) ∧
      server.handler.dispatch ⟨version, id, "codemode/call", some byPath⟩ s =
        responded id (server.served .codeMode m.tool (.obj []) s) ∧
      (m.tool ∈ Catalog.tools →
        (server.served .protocol m.tool .null s = server.served .codeMode m.tool (.obj []) s ↔
          m.tool.name ∈ Catalog.unreadingNames)) := by
  have hbyName := dispatch_toolCall server s version id hread hname
  rw [ToolCall.arguments_eq_null hread hnot] at hbyName
  exact ⟨hbyName, dispatch_codeCall server s version id hcode hsurface hpath,
    fun hm => served_null_eq_iff server hm .protocol .codeMode s⟩

/-- A request for the list of the tables by the name of the tool, without arguments. -/
lemma read_listTables :
    ToolCall.read (.obj [("name", .str "pg_list_tables")]) = .ok ⟨"pg_list_tables", .null⟩ :=
  rfl

/-- The same request in code. -/
lemma read_listTables_code :
    CodeCall.read (.obj [("path", .str "core.listTables")]) =
      .ok ⟨Catalog.pathOfTool Catalog.ListTables.tool, []⟩ :=
  rfl

/-- A server of the catalog refuses to list the tables by the name of the tool without arguments,
because it gives the tool null, and lists them in code. -/
theorem dispatch_of_omitted_arguments_of_listTables :
    ∃ server, make? {} Catalog.standard Executor.recording = .ok server ∧
      ∀ (s : State Recorder) (version : String) (id : Option RequestId),
        server.handler.dispatch ⟨version, id, "tools/call",
            some (.obj [("name", .str "pg_list_tables")])⟩ s =
          responded id (server.served .protocol Catalog.ListTables.tool .null s) ∧
        server.handler.dispatch ⟨version, id, "codemode/call",
            some (.obj [("path", .str "core.listTables")])⟩ s =
          responded id (server.served .codeMode Catalog.ListTables.tool (.obj []) s) ∧
        server.served .protocol Catalog.ListTables.tool .null s ≠
          server.served .codeMode Catalog.ListTables.tool (.obj []) s := by
  have hmem : Catalog.ListTables.tool ∈ Catalog.tools := by simp [Catalog.tools]
  have henabled : ({} : Config.Server).codeMode.enabled = true := rfl
  obtain ⟨surface, hsurface, hmake⟩ := exists_make? henabled Executor.recording
  refine ⟨_, hmake, fun s version id => ?_⟩
  obtain ⟨hname, hpath, hagree⟩ := dispatch_of_omitted_arguments
    ⟨{}, Catalog.standard, Executor.recording, some surface⟩ rfl
    (Catalog.target_of_mem_tools hsurface hmem) read_listTables (Catalog.get?_standard hmem)
    (by decide) read_listTables_code s version id
  refine ⟨hname, hpath, fun heq => ?_⟩
  exact absurd ((hagree hmem).mp heq) (by decide)

/-- The list of the tables is refused by the name of the tool without arguments, and no call is
made; in code the same request makes its call. -/
theorem listTables_calls_of_omitted_arguments :
    ∃ server, make? {} Catalog.standard Executor.recording = .ok server ∧
      server.handler.dispatch ⟨rpcVersion, some (.number 1), "tools/call",
          some (.obj [("name", .str "pg_list_tables")])⟩ (.fresh {}) =
        (.success (some (.number 1)) (ToolAnswer.toJson
          ⟨["Tool error: Invalid arguments: invalid type: null, expected struct ListTablesArgs"],
            some true⟩),
          ⟨⟨1, {}⟩, none⟩) ∧
      server.handler.dispatch ⟨rpcVersion, some (.number 1), "codemode/call",
          some (.obj [("path", .str "core.listTables")])⟩ (.fresh {}) =
        (.success (some (.number 1)) (ToolAnswer.toJson
          ⟨[(Json.object [("tables", .arr []), ("count", .nat 0)]).pretty], none⟩),
          ⟨⟨1, { calls := [.query (Catalog.ListTables.sql ⟨none⟩) none (Span.ofSeconds 30)] }⟩,
            none⟩) := by
  have hmem : Catalog.ListTables.tool ∈ Catalog.tools := by simp [Catalog.tools]
  have henabled : ({} : Config.Server).codeMode.enabled = true := rfl
  obtain ⟨surface, hsurface, hmake⟩ := exists_make? henabled Executor.recording
  refine ⟨_, hmake, ?_⟩
  have hbyName := dispatch_toolCall ⟨{}, Catalog.standard, Executor.recording, some surface⟩
    (.fresh {}) rpcVersion (some (.number 1)) read_listTables (Catalog.get?_standard hmem)
  have hbyPath := dispatch_codeCall ⟨{}, Catalog.standard, Executor.recording, some surface⟩
    (.fresh {}) rpcVersion (some (.number 1)) read_listTables_code rfl
    (Catalog.target_of_mem_tools hsurface hmem)
  rw [hbyName, hbyPath]
  exact ⟨rfl, rfl⟩

end PgGateway.Server
