import PgGateway.Proofs.Sandbox.Callable
import PgGateway.Proofs.Sandbox.Surface
import PgGateway.Sandbox.Convention

set_option autoImplicit false

/-!
# Strict builds

A strict build looks at every group that has a tool: its tools must have distinct method names, and
each alias of the group must stand for one of these and be none of them. Nothing else is looked at,
so neither are the aliases of a group without tools, nor the promoted names, nor the methods that
only the calling convention names.

## Main definitions

* `PgGateway.Sandbox.Alias.ArePlain` — whether the aliases of a group have distinct names, none of
  which another one stands for.
* `PgGateway.Sandbox.Group.FitsAliases` — whether the tools of a group pass a strict build.
* `PgGateway.Sandbox.Surface.KeepsTables` — whether a surface has all that the tables name.

## Main results

* `PgGateway.Sandbox.Group.exists_ofTools_strict_iff` — when a strict build of a group succeeds.
* `PgGateway.Sandbox.Surface.exists_ofTools_strict_iff` — when a strict build of all groups does.
* `PgGateway.Sandbox.Surface.isSome_get?_alias_iff`,
  `PgGateway.Sandbox.Surface.promotion_mem_promotedNames_iff`,
  `PgGateway.Sandbox.Surface.exists_mem_methodNames_iff` — what a strict build has of each table.
* `PgGateway.Sandbox.Surface.keepsTables_iff` — when it has all of them.
-/

namespace PgGateway.Sandbox

/-- Whether some aliases of one group have distinct names, none of which another one stands for. -/
structure Alias.ArePlain (aliases : List Alias) : Prop where
  /-- Their names are distinct. -/
  distinct : (aliases.map Alias.name).Nodup
  /-- None stands for another one. -/
  direct : ∀ a ∈ aliases, ∀ b ∈ aliases, a.method ≠ b.name

namespace Group

/-! ## The tools of a group -/

/-- A strict build takes one more tool exactly if its method name means nothing. -/
lemma addTool_strict_eq_ok {g g' : Group} {tool : Tool} :
    addTool true g tool = .ok g' ↔ g.shared? (methodName tool.name g.name) = none ∧
      g.withMethod (.ofTool g.name tool) = g' := by
  rw [addTool]
  cases g.shared? (methodName tool.name g.name) with
  | none => simp [Method.ofTool]
  | some used => simp

/-- A strict build takes some more tools exactly if their method names are distinct and mean
nothing. -/
lemma exists_foldlM_addTool_strict (tools : List Tool) (g : Group) :
    (∃ g', tools.foldlM (addTool true) g = .ok g') ↔
      (tools.map fun t => methodName t.name g.name).Nodup ∧
        ∀ t ∈ tools, g.shared? (methodName t.name g.name) = none := by
  induction tools generalizing g with
  | nil => exact iff_of_true ⟨g, rfl⟩ ⟨.nil, List.forall_mem_nil _⟩
  | cons tool tools ih =>
    have hnext : (∃ g', tools.foldlM (addTool true) (g.withMethod (.ofTool g.name tool)) = .ok g') ↔
        (tools.map fun t => methodName t.name g.name).Nodup ∧
          ∀ t ∈ tools, methodName tool.name g.name ≠ methodName t.name g.name ∧
            g.shared? (methodName t.name g.name) = none := by
      rw [ih, name_withMethod]
      refine and_congr_right fun _ => forall₂_congr fun t _ => ?_
      rw [shared?_withMethod, Method.ofTool]
      by_cases heq : methodName tool.name g.name = methodName t.name g.name <;> simp [heq]
    simp only [List.foldlM_cons, bind_eq_ok_iff, addTool_strict_eq_ok, List.map_cons,
      List.nodup_cons, List.mem_map, List.forall_mem_cons]
    constructor
    · rintro ⟨g', next, ⟨hfree, rfl⟩, h⟩
      obtain ⟨hdistinct, hothers⟩ := hnext.mp ⟨g', h⟩
      refine ⟨⟨?_, hdistinct⟩, hfree, fun t ht => (hothers t ht).2⟩
      rintro ⟨t, ht, heq⟩
      exact (hothers t ht).1 heq.symm
    · rintro ⟨⟨hfresh, hdistinct⟩, hfree, hothers⟩
      obtain ⟨g', h⟩ := hnext.mpr ⟨hdistinct, fun t ht =>
        ⟨fun heq => hfresh ⟨t, ht, heq.symm⟩, hothers t ht⟩⟩
      exact ⟨g', _, ⟨hfree, rfl⟩, h⟩

/-! ## The aliases of a group -/

/-- A strict build takes one more alias exactly if its method is there and its name is free. -/
lemma addAlias_strict_eq_ok {g g' : Group} {a : Alias} :
    addAlias true g a = .ok g' ↔ ∃ target, g.shared? a.method = some target ∧
      g.shared? a.name = none ∧ g.withAlias a.name target = g' := by
  rw [addAlias]
  cases g.shared? a.method with
  | none => simp
  | some target => cases g.shared? a.name <;> simp

/-- A strict build takes plain aliases exactly if their methods are there and their names free. -/
lemma exists_foldlM_addAlias_strict {aliases : List Alias} (hplain : Alias.ArePlain aliases)
    (g : Group) :
    (∃ g', aliases.foldlM (addAlias true) g = .ok g') ↔
      ∀ a ∈ aliases, (g.shared? a.method).isSome = true ∧ g.shared? a.name = none := by
  induction aliases generalizing g with
  | nil => exact iff_of_true ⟨g, rfl⟩ (List.forall_mem_nil _)
  | cons a aliases ih =>
    obtain ⟨hfresh, hdistinct⟩ := List.nodup_cons.mp hplain.distinct
    have hrest : Alias.ArePlain aliases := ⟨hdistinct, fun b hb c hc =>
      hplain.direct b (List.mem_cons_of_mem _ hb) c (List.mem_cons_of_mem _ hc)⟩
    -- The alias is none of the names that the others need, as methods or for themselves.
    have hsame : ∀ target, ∀ b ∈ aliases,
        (g.withAlias a.name target).shared? b.method = g.shared? b.method ∧
        (g.withAlias a.name target).shared? b.name = g.shared? b.name := by
      intro target b hb
      have hmethod := hplain.direct b (List.mem_cons_of_mem _ hb) a List.mem_cons_self
      have hname : a.name ≠ b.name := fun heq => hfresh (heq ▸ List.mem_map_of_mem hb)
      rw [shared?_withAlias, shared?_withAlias, if_neg hmethod.symm, if_neg hname]
      exact ⟨rfl, rfl⟩
    simp only [List.foldlM_cons, bind_eq_ok_iff, addAlias_strict_eq_ok, List.forall_mem_cons]
    constructor
    · rintro ⟨g', next, ⟨target, hmethod, hfree, rfl⟩, h⟩
      refine ⟨⟨by rw [hmethod]; rfl, hfree⟩, fun b hb => ?_⟩
      have hb' := (ih hrest _).mp ⟨g', h⟩ b hb
      rwa [(hsame target b hb).1, (hsame target b hb).2] at hb'
    · rintro ⟨⟨hmethod, hfree⟩, hothers⟩
      obtain ⟨target, htarget⟩ := Option.isSome_iff_exists.mp hmethod
      obtain ⟨g', h⟩ := (ih hrest (g.withAlias a.name target)).mpr fun b hb => by
        rw [(hsame target b hb).1, (hsame target b hb).2]
        exact hothers b hb
      exact ⟨g', _, ⟨target, htarget, hfree, rfl⟩, h⟩

/-- After a strict build every alias has a meaning. -/
lemma isSome_get?_of_foldlM_addAlias {aliases : List Alias} {g g' : Group}
    (h : aliases.foldlM (addAlias true) g = .ok g') {a : Alias} (ha : a ∈ aliases) :
    (g'.get? a.name).isSome = true := by
  induction aliases generalizing g with
  | nil => cases ha
  | cons b aliases ih =>
    rw [List.foldlM_cons] at h
    obtain ⟨next, hnext, h⟩ := exists_of_bind_eq_ok h
    rcases List.mem_cons.mp ha with rfl | ha
    · obtain ⟨target, -, -, rfl⟩ := addAlias_strict_eq_ok.mp hnext
      rw [get?_foldlM_addAlias h (by rw [get?_withAlias, if_pos rfl])]
      rfl
    · exact ih h ha

/-! ## A group -/

/-- Whether the tools of a group have distinct method names, and each alias of the group stands for
one of these and is none of them. -/
structure FitsAliases (aliases : List Alias) (name : String) (tools : List Tool) : Prop where
  /-- The method names are distinct. -/
  distinct : (tools.map fun t => methodName t.name name).Nodup
  /-- Each alias stands for one of them. -/
  method_mem : ∀ a ∈ Alias.ofGroup name aliases,
    a.method ∈ tools.map fun t => methodName t.name name
  /-- No alias is one of them. -/
  name_notMem : ∀ a ∈ Alias.ofGroup name aliases,
    a.name ∉ tools.map fun t => methodName t.name name

variable {aliases : List Alias} {name : String} {tools : List Tool}

/-- **Strict builds of a group.** They succeed exactly if the tools of the group fit its aliases. -/
theorem exists_ofTools_strict_iff (hplain : Alias.ArePlain (Alias.ofGroup name aliases)) :
    (∃ g, ofTools true aliases name tools = .ok g) ↔ FitsAliases aliases name tools := by
  have hmeans : ∀ bare, tools.foldlM (addTool true) { name } = .ok bare → ∀ called,
      (bare.shared? called).isSome = true ↔ called ∈ tools.map fun t => methodName t.name name :=
    fun bare htools called => by
      rw [← isSome_get?_foldlM_addTool htools, get?, Option.isSome_map]
  constructor
  · rintro ⟨g, h⟩
    obtain ⟨bare, htools, haliases⟩ := exists_of_bind_eq_ok h
    have hfit := (exists_foldlM_addAlias_strict hplain bare).mp ⟨g, haliases⟩
    refine ⟨((exists_foldlM_addTool_strict tools { name }).mp ⟨bare, htools⟩).1, ?_, ?_⟩
    · exact fun a ha => (hmeans bare htools _).mp (hfit a ha).1
    · intro a ha
      rw [← hmeans bare htools, Option.not_isSome_iff_eq_none]
      exact (hfit a ha).2
  · intro h
    obtain ⟨bare, htools⟩ := (exists_foldlM_addTool_strict tools { name }).mpr
      ⟨h.distinct, fun _ _ => rfl⟩
    obtain ⟨g, haliases⟩ := (exists_foldlM_addAlias_strict hplain bare).mpr fun a ha => by
      rw [← Option.not_isSome_iff_eq_none, hmeans bare htools, hmeans bare htools]
      exact ⟨h.method_mem a ha, h.name_notMem a ha⟩
    exact ⟨g, bind_eq_ok_iff.mpr ⟨bare, htools, haliases⟩⟩

/-- After a strict build every alias of the group has a meaning. -/
lemma isSome_get?_alias {g : Group} (h : ofTools true aliases name tools = .ok g) {a : Alias}
    (ha : a ∈ aliases) (hgroup : a.group = name) : (g.get? a.name).isSome = true := by
  obtain ⟨bare, -, h⟩ := exists_of_bind_eq_ok h
  exact isSome_get?_of_foldlM_addAlias h (List.mem_filter.mpr ⟨ha, by simpa using hgroup⟩)

end Group

/-- If aliases have distinct names in their groups and none stands for another, those of each group
are plain. -/
lemma Alias.arePlain_ofGroup {aliases : List Alias}
    (hdistinct : (aliases.map fun a => (a.group, a.name)).Nodup) (hdirect : AreDirect aliases)
    (name : String) : ArePlain (ofGroup name aliases) := by
  have hown : ∀ a ∈ ofGroup name aliases, a ∈ aliases ∧ a.group = name := fun a ha => by
    simpa [ofGroup] using ha
  refine ⟨List.Nodup.map_on (fun a ha b hb hname => ?_) (hdistinct.of_map.filter _),
    fun a ha b hb => hdirect a (hown a ha).1 b (hown b hb).1
      ((hown a ha).2.trans (hown b hb).2.symm)⟩
  exact List.inj_on_of_nodup_map hdistinct (hown a ha).1 (hown b hb).1
    (Prod.ext ((hown a ha).2.trans (hown b hb).2.symm) hname)

/-- No standard alias stands for another one. -/
lemma Alias.areDirect_standard : AreDirect standard := by
  unfold AreDirect
  decide +kernel

/-- The standard aliases of each group are plain. -/
lemma Alias.arePlain_standard (name : String) : ArePlain (ofGroup name standard) :=
  arePlain_ofGroup (by decide +kernel) areDirect_standard name

namespace Surface

variable {strict : Bool} {aliases : List Alias} {convention : Convention} {tools : List Tool}
  {s : Surface}

/-- **Strict builds of all groups.** They succeed exactly if the tools of every group that has one
fit its aliases. -/
theorem exists_ofTools_strict_iff (hplain : ∀ name, Alias.ArePlain (Alias.ofGroup name aliases)) :
    (∃ s, ofTools true aliases convention tools = .ok s) ↔
      ∀ t ∈ tools,
        Group.FitsAliases aliases t.group (tools.filter fun u => u.group = t.group) := by
  have hgroups : (∃ s, ofTools true aliases convention tools = .ok s) ↔
      ∀ entry ∈ classify tools, ∃ g, Group.ofTools true aliases entry.1 entry.2 = .ok g := by
    rw [← exists_mapM_eq_ok_iff]
    constructor
    · rintro ⟨s, h⟩
      obtain ⟨groups, hgroups, -⟩ := exists_of_bind_eq_ok h
      exact ⟨groups, hgroups⟩
    · rintro ⟨groups, hgroups⟩
      exact ⟨⟨groups, convention⟩, bind_eq_ok_iff.mpr ⟨groups, hgroups, rfl⟩⟩
  rw [hgroups]
  simp only [Group.exists_ofTools_strict_iff (hplain _)]
  constructor
  · intro h t ht
    exact h (t.group, _) (mem_classify.mpr ⟨⟨t, ht, rfl⟩, rfl⟩)
  · rintro h ⟨name, members⟩ hentry
    obtain ⟨⟨t, ht, rfl⟩, hmembers⟩ := mem_classify.mp hentry
    have hfits := h t ht
    rwa [← hmembers] at hfits

/-- A group without tools has no methods. -/
lemma exists_tool_of_isSome_get? (h : ofTools strict aliases convention tools = .ok s)
    {group called : String} (hsome : (s.get? group called).isSome = true) :
    ∃ t ∈ tools, t.group = group := by
  obtain ⟨m, hm⟩ := Option.isSome_iff_exists.mp hsome
  obtain ⟨g, hg, -⟩ := Option.bind_eq_some_iff.mp hm
  exact ((group?_eq_some_iff h).mp hg).1

/-- The method name of a tool has a meaning in its group. -/
lemma isSome_get?_methodName (h : ofTools strict aliases convention tools = .ok s) {t : Tool}
    (ht : t ∈ tools) : (s.get? t.group (methodName t.name t.group)).isSome = true := by
  have hsome : (tools.find? fun u => u.group = t.group ∧
      methodName u.name t.group = methodName t.name t.group).isSome = true :=
    List.find?_isSome.mpr ⟨t, ht, by simp⟩
  obtain ⟨first, hfirst⟩ := Option.isSome_iff_exists.mp hsome
  rw [get?_ofTools h hfirst]
  rfl

/-- A strict build has an alias exactly if the group of the alias has a tool. -/
theorem isSome_get?_alias_iff (h : ofTools true aliases convention tools = .ok s) {a : Alias}
    (ha : a ∈ aliases) :
    (s.get? a.group a.name).isSome = true ↔ ∃ t ∈ tools, t.group = a.group := by
  refine ⟨exists_tool_of_isSome_get? h, fun hgroup => ?_⟩
  obtain ⟨g, hg, hbuilt⟩ := group?_ofTools h hgroup
  rw [get?, hg, Option.bind_some]
  exact Group.isSome_get?_alias hbuilt ha rfl

/-- In a strict build, the method that an alias stands for is made of a tool if the group of the
alias has one. -/
lemma exists_tool_of_alias (hplain : ∀ name, Alias.ArePlain (Alias.ofGroup name aliases))
    (h : ofTools true aliases convention tools = .ok s) {a : Alias} (ha : a ∈ aliases)
    (hgroup : ∃ t ∈ tools, t.group = a.group) :
    ∃ t ∈ tools, t.group = a.group ∧ methodName t.name t.group = a.method := by
  obtain ⟨t, ht, hgroup⟩ := hgroup
  have hfits := (exists_ofTools_strict_iff hplain).mp ⟨s, h⟩ t ht
  have hmethod := hfits.method_mem a (List.mem_filter.mpr ⟨ha, by simpa using hgroup.symm⟩)
  simp only [List.mem_map, List.mem_filter, decide_eq_true_eq] at hmethod
  obtain ⟨u, ⟨hu, hugroup⟩, hname⟩ := hmethod
  exact ⟨u, hu, hugroup.trans hgroup, by rw [hugroup, hname]⟩

/-- A promoted name is there exactly if its method is. -/
lemma promotion_mem_promotedNames (s : Surface) {p : String × String × String}
    (hp : p ∈ promotions) : p.1 ∈ s.promotedNames ↔ (s.get? p.2.1 p.2.2).isSome = true := by
  have hnames : ∀ q ∈ promotions, q.1 = p.1 → q = p := fun q hq heq =>
    List.inj_on_of_nodup_map (f := Prod.fst) (by decide) hq hp heq
  simp only [promotedNames, promoted, List.mem_map, List.mem_filterMap, Option.map_eq_some_iff]
  constructor
  · rintro ⟨-, ⟨q, hq, m, hm, rfl⟩, hname⟩
    rw [← hnames q hq hname, hm]
    rfl
  · intro hsome
    obtain ⟨m, hm⟩ := Option.isSome_iff_exists.mp hsome
    exact ⟨(p.1, m), ⟨p, hp, m, hm, rfl⟩, rfl⟩

/-- A strict build has a promoted name exactly if the group of its method has a tool. -/
theorem promotion_mem_promotedNames_iff
    (h : ofTools true Alias.standard convention tools = .ok s) {p : String × String × String}
    (hp : p ∈ promotions) : p.1 ∈ s.promotedNames ↔ ∃ t ∈ tools, t.group = p.2.1 := by
  -- For each promoted method there is also an alias.
  have haliased : ∀ p ∈ promotions, ∃ a ∈ Alias.standard, a.group = p.2.1 ∧ a.method = p.2.2 := by
    decide +kernel
  rw [promotion_mem_promotedNames s hp]
  refine ⟨exists_tool_of_isSome_get? h, fun hgroup => ?_⟩
  obtain ⟨a, ha, hagroup, hmethod⟩ := haliased p hp
  obtain ⟨t, ht, htgroup, hname⟩ :=
    exists_tool_of_alias Alias.arePlain_standard h ha (hagroup ▸ hgroup)
  rw [← hmethod, ← hagroup, ← htgroup, ← hname]
  exact isSome_get?_methodName h ht

/-- A build, strict or not, has a method of a name exactly if a tool has this method name. -/
theorem exists_mem_methodNames_iff (h : ofTools strict aliases convention tools = .ok s)
    {method : String} :
    (∃ g ∈ s.groups, method ∈ g.methodNames) ↔
      ∃ t ∈ tools, methodName t.name t.group = method := by
  constructor
  · rintro ⟨g, hg, hmethod⟩
    have hbuilt := ((group?_eq_some_iff h).mp (group?_of_mem h hg)).2
    obtain ⟨t, ht, hname⟩ := (Group.mem_methodNames_ofTools hbuilt).mp hmethod
    rw [List.mem_filter, decide_eq_true_eq] at ht
    exact ⟨t, ht.1, by rw [ht.2, hname]⟩
  · rintro ⟨t, ht, hname⟩
    obtain ⟨g, hg, hbuilt⟩ := group?_ofTools h ⟨t, ht, rfl⟩
    refine ⟨g, List.mem_of_find?_eq_some hg, (Group.mem_methodNames_ofTools hbuilt).mpr ?_⟩
    exact ⟨t, List.mem_filter.mpr ⟨ht, by simp⟩, hname⟩

/-- Whether a surface has all that the standard tables name: every alias in its group, every
promoted name, and every method of the calling convention. -/
structure KeepsTables (s : Surface) : Prop where
  /-- Every alias can be called in its group. -/
  alias_isSome : ∀ a ∈ Alias.standard, (s.get? a.group a.name).isSome = true
  /-- Every promoted name is there. -/
  promotion_mem : ∀ p ∈ promotions, p.1 ∈ s.promotedNames
  /-- Every method of the convention is a method of some group. -/
  method_mem : ∀ method ∈ Convention.standard.methods, ∃ g ∈ s.groups, method ∈ g.methodNames

/-- The groups that have aliases. -/
def aliasedGroups : List String :=
  ["core", "transactions", "json", "fulltext", "performance", "admin", "docstore"]

/-- The methods of the convention that no alias stands for. -/
def unaliasedMethods : List String :=
  ["createTable", "count", "exists", "contains", "tableStats"]

/-- **The tables of a strict build.** A strict build has all that the tables name exactly if each
group with aliases has a tool, and so has each method of the convention that no alias stands for.

**Proof sketch.** A group with a tool has its aliases (`isSome_get?_alias_iff`), and with them the
methods that they stand for, among which are the promoted ones. -/
theorem keepsTables_iff (h : ofTools true Alias.standard convention tools = .ok s) :
    s.KeepsTables ↔ (∀ group ∈ aliasedGroups, ∃ t ∈ tools, t.group = group) ∧
      ∀ method ∈ unaliasedMethods, ∃ t ∈ tools, methodName t.name t.group = method := by
  have hgroups : ∀ group ∈ aliasedGroups, ∃ a ∈ Alias.standard, a.group = group := by
    decide +kernel
  have haliased : ∀ a ∈ Alias.standard, a.group ∈ aliasedGroups := by decide +kernel
  have hpromoted : ∀ p ∈ promotions, p.2.1 ∈ aliasedGroups := by decide +kernel
  have hunaliased : ∀ m ∈ unaliasedMethods, m ∈ Convention.standard.methods := by decide +kernel
  have hmethods : ∀ m ∈ Convention.standard.methods,
      m ∈ unaliasedMethods ∨ ∃ a ∈ Alias.standard, a.method = m := by
    decide +kernel
  constructor
  · intro hkeeps
    refine ⟨fun group hgroup => ?_, fun m hm => ?_⟩
    · obtain ⟨a, ha, rfl⟩ := hgroups group hgroup
      exact (isSome_get?_alias_iff h ha).mp (hkeeps.alias_isSome a ha)
    · exact (exists_mem_methodNames_iff h).mp (hkeeps.method_mem m (hunaliased m hm))
  · rintro ⟨hsome, hnamed⟩
    refine ⟨fun a ha => (isSome_get?_alias_iff h ha).mpr (hsome _ (haliased a ha)),
      fun p hp => (promotion_mem_promotedNames_iff h hp).mpr (hsome _ (hpromoted p hp)),
      fun m hm => (exists_mem_methodNames_iff h).mpr ?_⟩
    rcases hmethods m hm with hm | ⟨a, ha, rfl⟩
    · exact hnamed m hm
    · obtain ⟨t, ht, -, hname⟩ :=
        exists_tool_of_alias Alias.arePlain_standard h ha (hsome _ (haliased a ha))
      exact ⟨t, ht, hname⟩

end Surface

end PgGateway.Sandbox
