import PgGateway.Proofs.Sandbox.Path
import PgGateway.Proofs.Sandbox.Strict
import PgGateway.Tool.Echo

set_option autoImplicit false

/-!
# Methods that can be reached

The help lists the methods of every group. A path is a text, though, and some texts are taken: the
words for help, the name of the root before a path, blanks around it and a dot in the name of a
group. A listed method can be called by its path exactly if its names do not clash with these.

## Main definitions

* `PgGateway.Sandbox.Surface.Lists` — whether the help lists a method under a group.

## Main results

* `PgGateway.Sandbox.Surface.lists_iff` — which methods the help lists.
* `PgGateway.Sandbox.Surface.target_eq_method_iff` — when a path means a method.
* `PgGateway.Sandbox.Surface.isSpelled_of_target` — names whose path means their method can be told
  from it.
* `PgGateway.Sandbox.Surface.invoke_pathOf_of_lists` — which listed methods can be called by path.
-/

namespace PgGateway.Sandbox.Surface

variable {strict : Bool} {aliases : List Alias} {convention : Convention} {tools : List Tool}
  {s : Surface} {group method : String}

/-! ## What the help lists -/

/-- Whether the help about the surface lists a method under a group. -/
def Lists (s : Surface) (group method : String) : Prop :=
  ∃ groups methods, s.help.member? "groups" = some groups ∧
    groups.member? group = some (.arr methods) ∧ .str method ∈ methods

/-- The help lists under each group the names of its methods. -/
theorem lists_iff (h : ofTools strict aliases convention tools = .ok s) :
    s.Lists group method ↔ ∃ g, s.group? group = some g ∧ method ∈ g.methodNames := by
  have hgroups : s.help.member? "groups" =
      some (.object (s.groups.map fun g => (g.name, Json.strings g.methodNames))) :=
    (Keyed.get?_ofList_eq_some (by simp)).mpr List.mem_cons_self
  have hdistinct : ((s.groups.map fun g => (g.name, Json.strings g.methodNames)).map
      Prod.fst).Nodup := by
    simpa [Function.comp_def] using nodup_groupNames h
  have hmember : ∀ methods : List Json,
      (Json.object (s.groups.map fun g => (g.name, Json.strings g.methodNames))).member? group =
          some (.arr methods) ↔
        ∃ g ∈ s.groups, g.name = group ∧ g.methodNames.map .str = methods := by
    intro methods
    rw [Json.object, Json.member?, Keyed.get?_ofList_eq_some hdistinct]
    simp [Json.strings]
  simp only [Lists, hgroups, Option.some.injEq, exists_and_left, exists_eq_left', hmember]
  constructor
  · rintro ⟨-, ⟨g, hg, rfl, rfl⟩, hmethod⟩
    exact ⟨g, group?_of_mem h hg, by simpa using hmethod⟩
  · rintro ⟨g, hg, hmethod⟩
    have hname : g.name = group := by simpa using List.find?_some hg
    exact ⟨_, ⟨g, List.mem_of_find?_eq_some hg, hname, rfl⟩, List.mem_map_of_mem hmethod⟩

/-- Every tool is listed under its group, by its method name. -/
lemma lists_of_mem_tools (h : ofTools strict aliases convention tools = .ok s) {t : Tool}
    (ht : t ∈ tools) : s.Lists t.group (methodName t.name t.group) := by
  obtain ⟨g, hg, hbuilt⟩ := group?_ofTools h ⟨t, ht, rfl⟩
  refine (lists_iff h).mpr ⟨g, hg, (Group.mem_methodNames_ofTools hbuilt).mpr ⟨t, ?_, rfl⟩⟩
  exact List.mem_filter.mpr ⟨ht, by simp⟩

/-- A listed method name means a method of that name. -/
lemma exists_get?_of_lists (h : ofTools strict aliases convention tools = .ok s)
    (hlists : s.Lists group method) : ∃ m, s.get? group method = some m ∧ m.name = method := by
  obtain ⟨g, hg, hmethod⟩ := (lists_iff h).mp hlists
  have hstep := Group.isInStep_ofTools ((group?_eq_some_iff h).mp hg).2
  obtain ⟨target, htarget⟩ := hstep.exists_shared? (List.mem_append_left _ hmethod)
  refine ⟨target.method, ?_, hstep.name_eq hmethod htarget⟩
  rw [get?, hg, Option.bind_some, Group.get?_of_shared? htarget]

/-- What a group name and another name mean: a method of the group that has the name, or one that an
alias of the name stands for. -/
lemma of_get?_ofTools (hdirect : Alias.AreDirect aliases)
    (h : ofTools strict aliases convention tools = .ok s) {called : String} {m : Method}
    (hm : s.get? group called = some m) :
    m.group = group ∧ (m.name = called ∨
      ∃ a ∈ aliases, a.group = group ∧ a.name = called ∧ a.method = m.name) := by
  obtain ⟨g, hg, hm⟩ := Option.bind_eq_some_iff.mp hm
  exact Group.of_get?_ofTools hdirect ((group?_eq_some_iff h).mp hg).2 hm

/-! ## What a path means -/

/-- A path means a method exactly if it does not ask for help, and the method is at the path without
the root. -/
theorem target_eq_method_iff {path : String} {m : Method} :
    s.target path = .ok (.method m) ↔ withoutRoot path.toList ≠ "help".toList ∧
      Text.before? helpEnding (withoutRoot path.toList) = none ∧
      s.methodAt? (withoutRoot path.toList) = some m := by
  rw [target]
  by_cases hhelp : withoutRoot path.toList = "help".toList ∨
      (Text.before? helpEnding (withoutRoot path.toList)).isSome = true
  · have hnot : (s.describe (some (String.ofList (withoutRoot path.toList)))).map Target.help ≠
        .ok (.method m) := by
      cases s.describe (some (String.ofList (withoutRoot path.toList))) <;> simp [Except.map]
    rw [if_pos (by simpa using hhelp)]
    refine iff_of_false hnot ?_
    rintro ⟨hword, hending, -⟩
    rcases hhelp with heq | hsome
    · exact hword heq
    · simp [hending] at hsome
  · rw [if_neg (by simpa using hhelp)]
    rw [not_or, Bool.not_eq_true, Option.isSome_eq_false_iff, Option.isNone_iff_eq_none] at hhelp
    rw [ne_eq, and_iff_right hhelp.1, and_iff_right hhelp.2]
    cases s.methodAt? (withoutRoot path.toList) <;> simp

/-- The names of the promoted methods can be told from their paths. -/
lemma isSpelled_promotions : ∀ p ∈ promotions, IsSpelled p.2.1 p.2.2 := by
  decide +kernel

/-- The names of the methods with aliases can be told from their paths. -/
lemma isSpelled_standard : ∀ a ∈ Alias.standard, IsSpelled a.group a.method := by
  decide +kernel

/-- **The names of methods that can be reached.** If the path made of a group name and a method name
means the method of the two, then they can be told from the path.

**Proof sketch.** The method is found by other names than its own only by an alias or as a promoted
method, and there all names can be told from their paths. So it is found by its own names, which
stand with a dot between them in the path without blanks around it and the root. Then this is all of
the path, and the rest is `isSpelled_iff`. -/
theorem isSpelled_of_target (h : ofTools strict Alias.standard convention tools = .ok s)
    {m : Method} (hm : s.get? group method = some m) (hname : m.name = method)
    (htarget : s.target (pathOf group method) = .ok (.method m)) : IsSpelled group method := by
  have hgroup : m.group = group := (of_get?_ofTools Alias.areDirect_standard h hm).1
  have hfound : ∀ other called : String, s.get? other called = some m →
      other = group ∧ (called = method ∨ IsSpelled group method) := by
    intro other called hcalled
    obtain ⟨hother, hown | ⟨a, ha, hagroup, -, hamethod⟩⟩ :=
      of_get?_ofTools Alias.areDirect_standard h hcalled
    · exact ⟨hother ▸ hgroup, .inl (hown ▸ hname)⟩
    · have hspelled := isSpelled_standard a ha
      rw [hagroup, hamethod, ← hother, hgroup, hname] at hspelled
      exact ⟨hother ▸ hgroup, .inr hspelled⟩
  obtain ⟨-, hending, hat⟩ := target_eq_method_iff.mp htarget
  rw [methodAt?] at hat
  cases hcut : Text.cutFirst ['.'] (withoutRoot (pathOf group method).toList) with
  | none =>
    -- The path without the root is a promoted name.
    rw [hcut, promoted?] at hat
    obtain ⟨front, back, happend, -⟩ := List.lookup_eq_some_iff.mp hat
    have hmem : (String.ofList (withoutRoot (pathOf group method).toList), m) ∈ s.promoted := by
      simp [happend]
    rw [promoted, List.mem_filterMap] at hmem
    obtain ⟨p, hp, hpromoted⟩ := hmem
    obtain ⟨m', hm', heq⟩ := Option.map_eq_some_iff.mp hpromoted
    obtain ⟨-, rfl⟩ := Prod.mk.inj heq
    obtain ⟨hother, hcalled | hspelled⟩ := hfound _ _ hm'
    · have hspelled := isSpelled_promotions p hp
      rwa [hother, hcalled] at hspelled
    · exact hspelled
  | some names =>
    obtain ⟨left, right⟩ := names
    simp only [hcut] at hat
    obtain ⟨hinner, hdot⟩ := Text.cutFirst_eq_some.mp hcut
    obtain ⟨hleft, hright | hspelled⟩ := hfound _ _ hat
    · have hself : withoutRoot (pathOf group method).toList = (pathOf group method).toList := by
        rw [hinner, toList_pathOf, ← hleft, ← hright, String.toList_ofList, String.toList_ofList]
      rw [hself] at hending
      refine isSpelled_iff.mpr ⟨?_, hself, hending⟩
      rwa [← hleft, String.toList_ofList]
    · exact hspelled

/-! ## Listed methods -/

/-- **Listed methods by path.** On a surface with the standard aliases, strict or not, take a method
that the help lists under a group. Its path means this method exactly if the group has no dot, does
not begin with a blank and is not called like the root, and the method name does not end with a
blank and neither is `help` nor ends with `.help`. In that case the call by path is the call by
group and name, with any arguments and on any executor: it has the same outcome, and leaves the
executor and the count of calls the same.

**Proof sketch.** The two directions are `isSpelled_of_target` and `target_pathOf`. A call by path
does what the path means, so it is the call of the method. -/
theorem invoke_pathOf_of_lists (h : ofTools strict Alias.standard convention tools = .ok s)
    (hlists : s.Lists group method) :
    (∃ m, s.get? group method = some m ∧
      (s.target (pathOf group method) = .ok (.method m) ↔ IsSpelled group method)) ∧
    (IsSpelled group method → ∀ {σ : Type} (arguments : List Json) (executor : Executor σ)
      (timeout : Span) (d : Desk σ),
      s.invoke (pathOf group method) arguments executor timeout d =
        s.callByName group method arguments executor timeout d) := by
  obtain ⟨m, hm, hname⟩ := exists_get?_of_lists h hlists
  have hmeans : IsSpelled group method → s.target (pathOf group method) = .ok (.method m) := by
    intro hspelled
    rw [target_pathOf s hspelled, hm]
  refine ⟨⟨m, hm, isSpelled_of_target h hm hname, hmeans⟩, ?_⟩
  intro hspelled σ arguments executor timeout d
  rw [invoke, hmeans hspelled, callByName, hm]

/-- The method that takes values out of documents is called by its path. -/
theorem invoke_pathOf_of_jsonExtract :
    ∃ s, ofTools false Alias.standard Convention.standard
        [Tool.echo "pg_json_extract" "json"] = .ok s ∧
      s.Lists "json" "extract" ∧
      s.invoke "json.extract" [.str "t"] (Executor.disconnected : Executor Unit)
          (.ofSeconds 5) ⟨0, ()⟩ =
        s.callByName "json" "extract" [.str "t"] Executor.disconnected (.ofSeconds 5) ⟨0, ()⟩ := by
  obtain ⟨s, hs⟩ : ∃ s, ofTools false Alias.standard Convention.standard
      [Tool.echo "pg_json_extract" "json"] = .ok s := ⟨_, rfl⟩
  have hlists : s.Lists "json" "extract" := by
    have hname : methodName (Tool.echo "pg_json_extract" "json").name "json" = "extract" := by
      decide +kernel
    exact hname ▸ lists_of_mem_tools hs List.mem_cons_self
  have hspelled : IsSpelled "json" "extract" := by decide +kernel
  exact ⟨s, hs, hlists, (invoke_pathOf_of_lists hs hlists).2 hspelled _ _ _ _⟩

/-- Tools whose names clash with what a path can mean otherwise: with a request for help, the name
of the root, a dot in the group, and blanks at the ends. -/
def clashing : List Tool :=
  [.echo "pg_help" "core", .echo "x.help" "core", .echo "x" "pg", .echo "x" "a.b", .echo "x" " a",
    .echo "x " "a"]

/-- Tools with clashing names are listed and can be called by group and name, but their paths mean
something else. -/
theorem invoke_pathOf_ne_callByName_of_clashing :
    ∃ s, ofTools false Alias.standard Convention.standard clashing = .ok s ∧
      ∀ t ∈ clashing, s.Lists t.group (methodName t.name t.group) ∧
        s.invoke (pathOf t.group (methodName t.name t.group)) []
            (Executor.disconnected : Executor Unit) (.ofSeconds 5) ⟨0, ()⟩ ≠
          s.callByName t.group (methodName t.name t.group) [] Executor.disconnected
            (.ofSeconds 5) ⟨0, ()⟩ := by
  obtain ⟨s, hs, hissued⟩ : ∃ s, ofTools false Alias.standard Convention.standard clashing = .ok s ∧
      ∀ t ∈ clashing,
        (s.invoke (pathOf t.group (methodName t.name t.group)) []
            (Executor.disconnected : Executor Unit) (.ofSeconds 5) ⟨0, ()⟩).2.issued ≠
          (s.callByName t.group (methodName t.name t.group) [] Executor.disconnected
            (.ofSeconds 5) ⟨0, ()⟩).2.issued :=
    ⟨_, rfl, by decide +kernel⟩
  refine ⟨s, hs, fun t ht => ⟨lists_of_mem_tools hs ht, fun heq => hissued t ht ?_⟩⟩
  exact congrArg (fun outcome => outcome.2.issued) heq

end PgGateway.Sandbox.Surface
