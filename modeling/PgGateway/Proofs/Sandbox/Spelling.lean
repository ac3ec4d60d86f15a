import PgGateway.Proofs.Sandbox.Complete
import PgGateway.Proofs.Sandbox.Reach

set_option autoImplicit false

/-!
# Spellings of a method

A method can be called by its group and its name, by its group and an alias, and by a promoted name,
each time with the name of the root before it or without. All these paths mean the method itself,
which gets the arguments by the convention for its own name.

## Main definitions

* `PgGateway.Sandbox.rooted` — a path with the name of the root before it.
* `PgGateway.Sandbox.Surface.HasPlainNames` — whether no name clashes with what a path can mean
  otherwise.
* `PgGateway.Sandbox.Surface.Spells` — whether a path without the root spells a method.
* `PgGateway.Sandbox.Surface.Reaches` — whether a path with the root or without spells a method.

## Main results

* `PgGateway.Sandbox.Surface.target_of_spells` — a path that spells a method means it.
* `PgGateway.Sandbox.Surface.invoke_of_reaches` — calls by all spellings of a method agree.
-/

namespace PgGateway.Sandbox

/-- A path with the name of the root before it. -/
def rooted (path : String) : String :=
  rootName ++ "." ++ path

namespace Surface

/-- Whether no name of a group, a method or an alias clashes with what a path can mean otherwise. -/
structure HasPlainNames (s : Surface) : Prop where
  /-- The name of a group has no dot and no blank ends, and is not that of the root. -/
  groups : ∀ g ∈ s.groups,
    '.' ∉ g.name.toList ∧ Text.IsTrimmed g.name.toList ∧ g.name ≠ rootName
  /-- The name of a method and an alias have no blank ends and do not ask for help. -/
  names : ∀ g ∈ s.groups, ∀ name ∈ g.callable, Text.IsTrimmed name.toList ∧ name ≠ "help" ∧
    Text.before? helpEnding name.toList = none

/-- Whether a path without the root spells a method. -/
inductive Spells (s : Surface) (m : Method) : String → Prop
  /-- By its group and its name, which is listed as that of a method. -/
  | name {g : Group} {name : String} (hg : g ∈ s.groups) (hname : name ∈ g.methodNames)
    (hm : g.get? name = some m) : Spells s m (pathOf g.name name)
  /-- By its group and an alias that stands for it. -/
  | other {g : Group} {name : String} (hg : g ∈ s.groups) (halias : name ∈ g.aliasNames)
    (hm : g.get? name = some m) : Spells s m (pathOf g.name name)
  /-- By a promoted name that is bound to it. -/
  | promoted {name : String} (hname : (name, m) ∈ s.promoted) : Spells s m name

variable {strict : Bool} {aliases : List Alias} {convention : Convention} {tools : List Tool}
  {s : Surface} {m : Method} {path : String}

/-- A path means what it means without the name of the root before it, if it is taken as it
stands. -/
lemma withoutRoot_rooted (h : withoutRoot path.toList = path.toList) :
    withoutRoot (rooted path).toList = path.toList := by
  have hchars : (rooted path).toList = rootName.toList ++ '.' :: path.toList := by
    rw [rooted, String.toList_append, String.toList_append, show ".".toList = ['.'] by rfl,
      List.append_assoc, List.singleton_append]
  have htrimmed : Text.IsTrimmed (rooted path).toList := by
    rw [hchars, Text.isTrimmed_append_cons (by decide)]
    exact ⟨by decide, (withoutRoot_eq_self.mp h).1.2⟩
  have hafter : Text.after? (rootName.toList ++ ['.']) (rooted path).toList = some path.toList := by
    rw [Text.after?_eq_some, hchars, List.append_assoc, List.singleton_append]
  rw [withoutRoot, Text.trim_eq_self_iff.mpr htrimmed, hafter, Option.getD_some]

/-- Two paths that are the same without the root mean the same. -/
lemma target_congr {other : String} (h : withoutRoot path.toList = withoutRoot other.toList) :
    s.target path = s.target other := by
  rw [target, target, h]

/-- The names of promoted methods are among those that can be promoted, in order. -/
lemma promotedNames_sublist (s : Surface) : s.promotedNames.Sublist (promotions.map Prod.fst) := by
  have hnames : ∀ entries : List (String × String × String),
      ((entries.filterMap fun e => (s.get? e.2.1 e.2.2).map (e.1, ·)).map Prod.fst).Sublist
        (entries.map Prod.fst) := by
    intro entries
    induction entries with
    | nil => exact .slnil
    | cons entry entries ih =>
      obtain ⟨name, group, method⟩ := entry
      cases hget : s.get? group method with
      | none => simpa [hget] using ih.cons name
      | some m => simpa [hget] using ih.cons_cons name
  exact hnames promotions

/-- A promoted name is bound to one method. -/
lemma promoted?_of_mem {name : String} (h : (name, m) ∈ s.promoted) :
    s.promoted? name = some m :=
  lookup_eq_some_of_nodup ((promotedNames_sublist s).nodup (by decide)) h

/-- The names that can be promoted are taken as they stand, do not ask for help and have no dot. -/
lemma plain_promotions : ∀ name ∈ promotions.map Prod.fst, withoutRoot name.toList = name.toList ∧
    name.toList ≠ "help".toList ∧ Text.before? helpEnding name.toList = none ∧
      '.' ∉ name.toList := by
  decide +kernel

/-- Names of a surface whose names are plain can be told from their path. -/
lemma HasPlainNames.isSpelled (h : s.HasPlainNames) {g : Group} (hg : g ∈ s.groups) {name : String}
    (hname : name ∈ g.callable) : IsSpelled g.name name := by
  obtain ⟨hdot, htrimmed, hroot⟩ := h.groups g hg
  obtain ⟨hname, hhelp, hending⟩ := h.names g hg name hname
  exact ⟨hdot, hroot, htrimmed.1, hname.2, hhelp, hending⟩

/-- **Spellings.** A path that spells a method is taken as it stands and means the method.

**Proof sketch.** Names of a group can be told from their path (`HasPlainNames.isSpelled`), and they
mean the method. A promoted name has no dot, so it is looked up as such. -/
theorem target_of_spells (h : ofTools strict aliases convention tools = .ok s)
    (hplain : s.HasPlainNames) (hpath : s.Spells m path) :
    withoutRoot path.toList = path.toList ∧ s.target path = .ok (.method m) := by
  have hnamed : ∀ g ∈ s.groups, ∀ name, g.get? name = some m →
      withoutRoot (pathOf g.name name).toList = (pathOf g.name name).toList ∧
        s.target (pathOf g.name name) = .ok (.method m) := by
    intro g hg name hname
    have hcallable : name ∈ g.callable := Group.isSome_get?_iff.mp (by rw [hname]; rfl)
    have hspelled := hplain.isSpelled hg hcallable
    refine ⟨(isSpelled_iff.mp hspelled).2.1, ?_⟩
    rw [target_pathOf s hspelled, get?, group?_of_mem h hg, Option.bind_some, hname]
  cases hpath with
  | name hg _ hm => exact hnamed _ hg _ hm
  | other hg _ hm => exact hnamed _ hg _ hm
  | promoted hname =>
    obtain ⟨hself, hhelp, hending, hdot⟩ :=
      plain_promotions path ((promotedNames_sublist s).subset (List.mem_map_of_mem hname))
    refine ⟨hself, target_eq_method_iff.mpr ?_⟩
    rw [hself, methodAt?, Text.cutFirst_eq_none.mpr hdot, String.ofList_toList]
    exact ⟨hhelp, hending, promoted?_of_mem hname⟩

/-- A method that is spelled is what a name of a group means. -/
lemma exists_get?_of_spells (hpath : s.Spells m path) :
    ∃ g ∈ s.groups, ∃ name, g.get? name = some m := by
  cases hpath with
  | name hg _ hm => exact ⟨_, hg, _, hm⟩
  | other hg _ hm => exact ⟨_, hg, _, hm⟩
  | promoted hname =>
    rw [promoted, List.mem_filterMap] at hname
    obtain ⟨p, -, hp⟩ := hname
    obtain ⟨m', hget, heq⟩ := Option.map_eq_some_iff.mp hp
    obtain ⟨-, rfl⟩ := Prod.mk.inj heq
    obtain ⟨g, hg, hget⟩ := Option.bind_eq_some_iff.mp hget
    exact ⟨g, List.mem_of_find?_eq_some hg, _, hget⟩

/-- A method that is spelled has the method name of its tool. -/
lemma name_eq_of_spells (h : ofTools strict aliases convention tools = .ok s)
    (hpath : s.Spells m path) : m.name = methodName m.tool.name m.group := by
  obtain ⟨g, hg, name, hm⟩ := exists_get?_of_spells hpath
  rw [Group.eq_ofTool_of_get? ((group?_eq_some_iff h).mp (group?_of_mem h hg)).2 hm]
  rfl

/-- Whether a path spells a method, with the name of the root before it or without. -/
def Reaches (s : Surface) (m : Method) (path : String) : Prop :=
  ∃ bare, s.Spells m bare ∧ (path = bare ∨ path = rooted bare)

/-- **All spellings agree.** Take a surface, built strictly or not, whose names do not clash with
what a path can mean otherwise. By whatever paths a method is spelled, the calls agree for any
arguments and on any executor: they have the same outcome and leave the executor and the count of
calls the same. The method gets its arguments by the convention for its own method name, whatever
the path.

**Proof sketch.** The name of the root before a path does not count (`withoutRoot_rooted`), and the
path means the method (`target_of_spells`), so a call by it is the call of the method. -/
theorem invoke_of_reaches (h : ofTools strict aliases convention tools = .ok s)
    (hplain : s.HasPlainNames) (hpath : s.Reaches m path) {σ : Type} (arguments : List Json)
    (executor : Executor σ) (timeout : Span) (d : Desk σ) :
    (∀ other, s.Reaches m other →
      s.invoke path arguments executor timeout d = s.invoke other arguments executor timeout d) ∧
    s.invoke path arguments executor timeout d =
      d.serve executor timeout .codeMode fun context => m.tool.act context
        ((convention.bind (methodName m.tool.name m.group) arguments).getD (.obj [])) := by
  have hcall : ∀ path, s.Reaches m path →
      s.invoke path arguments executor timeout d = s.call m arguments executor timeout d := by
    rintro path ⟨bare, hbare, hpath⟩
    obtain ⟨hself, hmeans⟩ := target_of_spells h hplain hbare
    have htarget : s.target path = .ok (.method m) := by
      rcases hpath with rfl | rfl
      · exact hmeans
      · rw [target_congr ((withoutRoot_rooted hself).trans hself.symm), hmeans]
    rw [invoke, htarget]
  refine ⟨fun other hother => (hcall path hpath).trans (hcall other hother).symm, ?_⟩
  have hname : m.name = methodName m.tool.name m.group := by
    obtain ⟨bare, hbare, -⟩ := hpath
    exact name_eq_of_spells h hbare
  rw [hcall path hpath, call]
  simp only [parameters, convention_ofTools h, hname]

/-- The method that writes, which has the alias `execute`. -/
def writing : Method :=
  .ofTool "core" (.echo "pg_write_query" "core")

/-- The method of another group that has the name `execute` for itself. -/
def executing : Method :=
  .ofTool "transactions" (.echo "pg_transaction_execute" "transactions")

/-- The group of one method with aliases of it. -/
def aliased (m : Method) (names : List String) : Group :=
  names.foldl (fun g name => g.withAlias name ⟨0, m⟩) (.withMethod { name := m.group } m)

/-- The surface of the two methods. -/
def executeTwice : Surface where
  groups :=
    [aliased writing ["exec", "write", "execute"],
      aliased executing ["run", "batch", "transaction"]]
  convention := .standard

/-- A method agrees by an alias behind the root and by its promoted name, also where the alias is
the name of a method of another group. -/
theorem invoke_of_reaches_of_executeAlias :
    ofTools false Alias.standard Convention.standard [writing.tool, executing.tool] =
        .ok executeTwice ∧
      executeTwice.HasPlainNames ∧ executeTwice.Reaches writing "pg.core.execute" ∧
      executeTwice.Reaches writing "writeQuery" ∧
      executeTwice.invoke "pg.core.execute" [.str "DELETE FROM t"]
          (Executor.disconnected : Executor Unit) (.ofSeconds 5) ⟨0, ()⟩ =
        executeTwice.invoke "writeQuery" [.str "DELETE FROM t"] Executor.disconnected
          (.ofSeconds 5) ⟨0, ()⟩ := by
  have hbuilt : ofTools false Alias.standard Convention.standard [writing.tool, executing.tool] =
      .ok executeTwice := rfl
  have hplain : executeTwice.HasPlainNames := ⟨by decide +kernel, by decide +kernel⟩
  have halias : executeTwice.Reaches writing "pg.core.execute" :=
    ⟨pathOf "core" "execute", .other (g := aliased writing ["exec", "write", "execute"])
      List.mem_cons_self (by decide) rfl, .inr rfl⟩
  have hpromoted : executeTwice.Reaches writing "writeQuery" := by
    refine ⟨"writeQuery", .promoted ?_, .inl rfl⟩
    rw [show executeTwice.promoted = [("writeQuery", writing), ("transaction", executing)] from rfl]
    exact List.mem_cons_self
  exact ⟨hbuilt, hplain, halias, hpromoted,
    (invoke_of_reaches hbuilt hplain halias _ _ _ _).1 _ hpromoted⟩

end Surface

end PgGateway.Sandbox
