import PgGateway.Catalog.Standard
import PgGateway.Proofs.Sandbox.Chain
import PgGateway.Proofs.Sandbox.Strict

set_option autoImplicit false

/-!
# The order of aliases

Aliases with distinct names can be put in any order if none of them can be chained. If one can, it
is taken behind the alias that it stands for and left out before it. A strict build does not leave
it out but fails, so all orders in which a strict build succeeds give the same meanings.

## Main definitions

* `PgGateway.Sandbox.Group.IsUnordered` — whether the meanings do not depend on the order.

## Main results

* `PgGateway.Sandbox.Group.isUnordered_iff` — they do not exactly if there are no chains.
* `PgGateway.Sandbox.Group.get?_eq_of_strict` — they do not among strict builds.
* `PgGateway.Sandbox.Group.direct_and_unordered_iff` — which builds are free of chains.
-/

namespace PgGateway.Sandbox.Group

variable {strict : Bool} {bare : Group} {methods : List String}

/-! ## The order of the aliases -/

/-- Whether the tools that the names of a group mean do not depend on the order of its aliases. -/
def IsUnordered (aliases : List Alias) (name : String) (tools : List Tool) : Prop :=
  ∃ g, ofTools false aliases name tools = .ok g ∧
    ∀ other : List Alias, other.Perm aliases → ∃ g', ofTools false other name tools = .ok g' ∧
      ∀ called, (g'.get? called).map Method.tool = (g.get? called).map Method.tool

/-- Of aliases with distinct names, the one that is found by a name is the only one of this name, if
that stands for a method. -/
lemma find?_eq_some_iff_of_nodup {aliases : List Alias}
    (hdistinct : (aliases.map Alias.name).Nodup) {called : String} {a : Alias} :
    aliases.find? (fun a => a.name = called ∧ (bare.get? a.method).isSome = true) = some a ↔
      a ∈ aliases ∧ a.name = called ∧ (bare.get? a.method).isSome = true := by
  constructor
  · intro h
    exact ⟨List.mem_of_find?_eq_some h, by simpa using List.find?_some h⟩
  · rintro ⟨ha, hname, hsome⟩
    refine find?_eq_some_of_nodup hdistinct ha fun b hb => ?_
    rw [decide_eq_true_iff, hname]
    refine ⟨And.left, fun heq => ⟨heq, ?_⟩⟩
    rwa [List.inj_on_of_nodup_map hdistinct hb ha (heq.trans hname.symm)]

/-- Aliases with distinct names mean directly the same in every order. -/
lemma directly_perm {aliases other : List Alias} (hperm : other.Perm aliases)
    (hdistinct : (aliases.map Alias.name).Nodup) (bare : Group) (called : String) :
    directly bare other called = directly bare aliases called := by
  have hother : (other.map Alias.name).Nodup := ((hperm.map _).nodup_iff).mpr hdistinct
  rw [directly, directly]
  congr 2
  ext a
  rw [find?_eq_some_iff_of_nodup hother, find?_eq_some_iff_of_nodup hdistinct, hperm.mem_iff]

/-- Aliases of other names change nothing about a name. -/
lemma get?_foldlM_addAlias_of_not_mem {aliases : List Alias} {g g' : Group}
    (h : aliases.foldlM (addAlias strict) g = .ok g') {called : String}
    (hcalled : called ∉ aliases.map Alias.name) : g'.get? called = g.get? called := by
  induction aliases generalizing g with
  | nil =>
    cases h
    rfl
  | cons a aliases ih =>
    rw [List.map_cons, List.mem_cons, not_or] at hcalled
    rw [List.foldlM_cons] at h
    obtain ⟨next, hnext, h⟩ := exists_of_bind_eq_ok h
    rw [ih h hcalled.2, get?_addAlias hnext, if_neg hcalled.1]

/-- Aliases without chains give the same meanings in every order. -/
lemma isUnordered_of_areChainless {aliases : List Alias} {name : String} {tools : List Tool}
    (hdistinct : ((Alias.ofGroup name aliases).map Alias.name).Nodup)
    (h : Alias.AreChainless (toolNames name tools) (Alias.ofGroup name aliases)) :
    IsUnordered aliases name tools := by
  obtain ⟨bare, htools⟩ := exists_foldlM_eq_ok exists_addTool_lenient tools { name }
  have hmeans : ∀ other : List Alias, other.Perm aliases →
      ∃ g, ofTools false other name tools = .ok g ∧
        ∀ called, g.get? called = directly bare (Alias.ofGroup name aliases) called := by
    intro other hperm
    have hown : (Alias.ofGroup name other).Perm (Alias.ofGroup name aliases) := hperm.filter _
    obtain ⟨g, hg⟩ :=
      exists_foldlM_eq_ok exists_addAlias_lenient (Alias.ofGroup name other) bare
    refine ⟨g, bind_eq_ok_iff.mpr ⟨bare, htools, hg⟩, fun called => ?_⟩
    rw [← directly_perm hown hdistinct]
    exact get?_eq_directly (fun called => isSome_get?_foldlM_addTool htools) hg
      (h.noneChained fun a ha => hown.mem_iff.mp ha) called
  obtain ⟨g, hg, hdirectly⟩ := hmeans aliases (.refl _)
  refine ⟨g, hg, fun other hperm => ?_⟩
  obtain ⟨g', hg', hdirectly'⟩ := hmeans other hperm
  exact ⟨g', hg', fun called => by rw [hdirectly, hdirectly']⟩

/-- An alias of a method, and one behind it that stands for the former: the latter means something,
also after further aliases. -/
lemma isSome_get?_chained {a b : Alias} {rest : List Alias} {g : Group}
    (h : (a :: b :: rest).foldlM (addAlias strict) bare = .ok g) (hchain : b.method = a.name)
    (hmethod : (bare.get? a.method).isSome = true) : (g.get? b.name).isSome = true := by
  rw [List.foldlM_cons] at h
  obtain ⟨first, hfirst, h⟩ := exists_of_bind_eq_ok h
  rw [List.foldlM_cons] at h
  obtain ⟨second, hsecond, h⟩ := exists_of_bind_eq_ok h
  have hsome : (second.get? b.name).isSome = true := by
    rw [get?_addAlias hsecond, if_pos rfl, hchain, get?_addAlias hfirst a.name, if_pos rfl,
      Option.isSome_or, Option.isSome_or, hmethod, Bool.or_true, Bool.or_true]
  obtain ⟨m, hm⟩ := Option.isSome_iff_exists.mp hsome
  rw [get?_foldlM_addAlias h hm, Option.isSome_some]

/-- An alias that stands for nothing means nothing, also after further aliases of other names. -/
lemma get?_missing {b : Alias} {rest : List Alias} {g : Group}
    (h : (b :: rest).foldlM (addAlias strict) bare = .ok g) (hname : bare.get? b.name = none)
    (hmethod : bare.get? b.method = none) (hrest : b.name ∉ rest.map Alias.name) :
    g.get? b.name = none := by
  rw [List.foldlM_cons] at h
  obtain ⟨first, hfirst, h⟩ := exists_of_bind_eq_ok h
  rw [get?_foldlM_addAlias_of_not_mem h hrest, get?_addAlias hfirst, if_pos rfl, hname, hmethod,
    Option.none_or]

/-- An alias of a group at the front is one of those of the group. -/
lemma ofGroup_cons {name : String} {a : Alias} (hgroup : a.group = name) (rest : List Alias) :
    Alias.ofGroup name (a :: rest) = a :: Alias.ofGroup name rest :=
  List.filter_cons_of_pos (by simpa using hgroup)

/-- Two aliases that make a chain: in this order the second one is taken, and in the other order it
is left out. -/
lemma get?_of_chain {name : String} {tools : List Tool} {a b : Alias} {rest : List Alias}
    (hgroupA : a.group = name) (hgroupB : b.group = name)
    (hmethod : a.method ∈ toolNames name tools) (hchain : b.method = a.name)
    (hfreeA : a.name ∉ toolNames name tools) (hfreeB : b.name ∉ toolNames name tools)
    (hrest : b.name ∉ (Alias.ofGroup name (a :: rest)).map Alias.name) {taken left : Group}
    (htaken : ofTools strict (a :: b :: rest) name tools = .ok taken)
    (hleft : ofTools strict (b :: a :: rest) name tools = .ok left) :
    (taken.get? b.name).isSome = true ∧ left.get? b.name = none := by
  obtain ⟨bare, htools, htaken⟩ := exists_of_bind_eq_ok htaken
  obtain ⟨bare', htools', hleft⟩ := exists_of_bind_eq_ok hleft
  obtain rfl : bare = bare' := Except.ok.inj (htools.symm.trans htools')
  have hmethods : ∀ called, (bare.get? called).isSome = true ↔ called ∈ toolNames name tools :=
    fun called => isSome_get?_foldlM_addTool htools
  have hnone : ∀ {called}, called ∉ toolNames name tools → bare.get? called = none := fun hmem =>
    Option.not_isSome_iff_eq_none.mp (mt (hmethods _).mp hmem)
  rw [ofGroup_cons hgroupA, ofGroup_cons hgroupB] at htaken
  rw [ofGroup_cons hgroupB] at hleft
  exact ⟨isSome_get?_chained htaken hchain ((hmethods _).mpr hmethod),
    get?_missing hleft (hnone hfreeB) (hnone (hchain ▸ hfreeA)) hrest⟩

/-- Aliases that give the same meanings in every order have no chains.

**Proof sketch.** Put the two aliases of a chain to the front, in both orders (`get?_of_chain`). -/
lemma areChainless_of_isUnordered {aliases : List Alias} {name : String} {tools : List Tool}
    (hdistinct : ((Alias.ofGroup name aliases).map Alias.name).Nodup)
    (h : IsUnordered aliases name tools) :
    Alias.AreChainless (toolNames name tools) (Alias.ofGroup name aliases) := by
  intro a ha b hb hmethod hchain
  by_contra hnot
  obtain ⟨hfreeA, hfreeB⟩ := not_or.mp hnot
  have hne : b ≠ a := fun heq => hfreeA (by rwa [← hchain, heq])
  obtain ⟨haliasA, hgroupA⟩ : a ∈ aliases ∧ a.group = name := by simpa [Alias.ofGroup] using ha
  obtain ⟨haliasB, hgroupB⟩ : b ∈ aliases ∧ b.group = name := by simpa [Alias.ofGroup] using hb
  obtain ⟨rest, hperm⟩ : ∃ rest, aliases.Perm (a :: b :: rest) :=
    ⟨_, (List.perm_cons_erase haliasA).trans
      (.cons a (List.perm_cons_erase ((List.mem_erase_of_ne hne).mpr haliasB)))⟩
  have hrest : b.name ∉ (Alias.ofGroup name (a :: rest)).map Alias.name := by
    have hown : (Alias.ofGroup name aliases).Perm (b :: Alias.ofGroup name (a :: rest)) :=
      ofGroup_cons hgroupB _ ▸ (hperm.trans (.swap b a rest)).filter _
    exact (List.nodup_cons.mp ((hown.map Alias.name).nodup_iff.mp hdistinct)).1
  obtain ⟨g, -, hsame⟩ := h
  obtain ⟨taken, htaken, hmeansTaken⟩ := hsame _ hperm.symm
  obtain ⟨left, hleft, hmeansLeft⟩ := hsame _ ((List.Perm.swap a b rest).trans hperm.symm)
  obtain ⟨hsome, hmissing⟩ :=
    get?_of_chain hgroupA hgroupB hmethod hchain hfreeA hfreeB hrest htaken hleft
  have heq := (hmeansTaken b.name).trans (hmeansLeft b.name).symm
  rw [hmissing, Option.map_none, Option.map_eq_none_iff] at heq
  rw [heq] at hsome
  cases hsome

/-- **The order of aliases.** Aliases with distinct names give the same meanings in every order
exactly if they have no chains. -/
theorem isUnordered_iff {aliases : List Alias} {name : String} {tools : List Tool}
    (hdistinct : ((Alias.ofGroup name aliases).map Alias.name).Nodup) :
    IsUnordered aliases name tools ↔
      Alias.AreChainless (toolNames name tools) (Alias.ofGroup name aliases) :=
  ⟨areChainless_of_isUnordered hdistinct, isUnordered_of_areChainless hdistinct⟩

/-! ## Strict builds -/

/-- After a strict build every alias means what its method means. -/
lemma get?_name_eq_get?_method {aliases : List Alias} {g : Group}
    (h : aliases.foldlM (addAlias true) bare = .ok g) :
    ∀ a ∈ aliases, g.get? a.name = g.get? a.method := by
  induction aliases generalizing bare with
  | nil => exact List.forall_mem_nil _
  | cons a aliases ih =>
    rw [List.foldlM_cons] at h
    obtain ⟨next, hnext, h⟩ := exists_of_bind_eq_ok h
    refine List.forall_mem_cons.mpr ⟨?_, ih h⟩
    obtain ⟨target, htarget, hfree, -⟩ := addAlias_strict_eq_ok.mp hnext
    have hne : a.method ≠ a.name := fun heq => by rw [heq, hfree] at htarget; cases htarget
    have hname : next.get? a.name = some target.method := by
      rw [get?_addAlias hnext, if_pos rfl, get?_eq_none_iff.mpr hfree, get?_of_shared? htarget,
        Option.none_or]
    have hmethod : next.get? a.method = some target.method := by
      rw [get?_addAlias hnext, if_neg hne, get?_of_shared? htarget]
    rw [get?_foldlM_addAlias h hname, get?_foldlM_addAlias h hmethod]

/-- Where every alias means what its method means, the names mean at least what they mean after a
build of these aliases. -/
lemma get?_of_foldlM_addAlias {aliases : List Alias} {g g' : Group}
    (h : aliases.foldlM (addAlias strict) bare = .ok g)
    (hbare : ∀ called m, bare.get? called = some m → g'.get? called = some m)
    (hmeans : ∀ a ∈ aliases, g'.get? a.name = g'.get? a.method) {called : String} {m : Method}
    (hm : g.get? called = some m) : g'.get? called = some m := by
  induction aliases generalizing bare with
  | nil =>
    cases h
    exact hbare called m hm
  | cons a aliases ih =>
    rw [List.foldlM_cons] at h
    obtain ⟨next, hnext, h⟩ := exists_of_bind_eq_ok h
    obtain ⟨hfirst, hrest⟩ := List.forall_mem_cons.mp hmeans
    refine ih h (fun called m hm => ?_) hrest
    rw [get?_addAlias hnext] at hm
    split at hm
    · next heq =>
      rcases Option.or_eq_some_iff.mp hm with hm | ⟨-, hm⟩
      · exact hbare called m hm
      · rw [heq, hfirst]
        exact hbare _ m hm
    · exact hbare called m hm

/-- **Strict builds do not depend on the order.** All orders of some aliases in which a strict build
succeeds give the same meanings.

**Proof sketch.** In both groups every alias means what its method means
(`get?_name_eq_get?_method`), so what a name means in one of them, it means in the other
(`get?_of_foldlM_addAlias`). -/
theorem get?_eq_of_strict {aliases other : List Alias} (hperm : other.Perm aliases) {name : String}
    {tools : List Tool} {g g' : Group} (h : ofTools true aliases name tools = .ok g)
    (h' : ofTools true other name tools = .ok g') (called : String) :
    g'.get? called = g.get? called := by
  obtain ⟨bare, htools, haliases⟩ := exists_of_bind_eq_ok h
  obtain ⟨bare', htools', hother⟩ := exists_of_bind_eq_ok h'
  obtain rfl : bare = bare' := Except.ok.inj (htools.symm.trans htools')
  have hown : (Alias.ofGroup name other).Perm (Alias.ofGroup name aliases) := hperm.filter _
  have hmeans := get?_name_eq_get?_method haliases
  have hmeans' := get?_name_eq_get?_method hother
  ext m
  constructor
  · exact get?_of_foldlM_addAlias hother (fun _ _ hm => get?_foldlM_addAlias haliases hm)
      fun a ha => hmeans a (hown.mem_iff.mp ha)
  · exact get?_of_foldlM_addAlias haliases (fun _ _ hm => get?_foldlM_addAlias hother hm)
      fun a ha => hmeans' a (hown.mem_iff.mpr ha)

/-! ## Builds free of chains -/

/-- **Builds free of chains.** For all tools and aliases:

A build that succeeds, strict or not, takes only aliases that stand for method names of tools
exactly if none of the aliases of the group is chained to those before it.

If the aliases of the group have distinct names, a build that is not strict gives the same tools
under the same names in every order of the aliases exactly if no two of them make a chain.

And all orders of the aliases in which a strict build succeeds give the same meanings. -/
theorem direct_and_unordered_iff (aliases : List Alias) (name : String) (tools : List Tool) :
    (∀ strict g, ofTools strict aliases name tools = .ok g →
      (TakesDirectly strict aliases name tools ↔
        Alias.NoneChained (toolNames name tools) (Alias.ofGroup name aliases))) ∧
    (((Alias.ofGroup name aliases).map Alias.name).Nodup →
      (IsUnordered aliases name tools ↔
        Alias.AreChainless (toolNames name tools) (Alias.ofGroup name aliases))) ∧
    ∀ other : List Alias, other.Perm aliases → ∀ g g', ofTools true aliases name tools = .ok g →
      ofTools true other name tools = .ok g' → ∀ called, g'.get? called = g.get? called :=
  ⟨fun _ _ h => takesDirectly_iff h, isUnordered_iff,
    fun _ hperm _ _ h h' => get?_eq_of_strict hperm h h'⟩

/-- The aliases in use are free of chains in every group of the catalog. -/
theorem direct_and_unordered_iff_of_catalog : ∀ name ∈ Surface.aliasedGroups,
    TakesDirectly false Alias.standard name Catalog.tools ∧
      IsUnordered Alias.standard name Catalog.tools := by
  have hchainless : ∀ name ∈ Surface.aliasedGroups,
      ((Alias.ofGroup name Alias.standard).map Alias.name).Nodup ∧
        Alias.AreChainless (toolNames name Catalog.tools) (Alias.ofGroup name Alias.standard) := by
    decide +kernel
  intro name hname
  obtain ⟨hdistinct, hnone⟩ := hchainless name hname
  obtain ⟨g, hg⟩ := exists_ofTools_lenient Alias.standard name Catalog.tools
  have hlaw := direct_and_unordered_iff Alias.standard name Catalog.tools
  exact ⟨(hlaw.1 false g hg).mpr (hnone.noneChained fun _ ha => ha), (hlaw.2.1 hdistinct).mpr hnone⟩

/-- An alias behind another one, for which it stands: the build takes both, but in the other order
only the one that stands for a method. -/
theorem not_direct_and_unordered_of_chain :
    (([⟨"core", "look", "readQuery"⟩, ⟨"core", "peek", "look"⟩] : List Alias).map
        Alias.name).Nodup ∧
      ¬ TakesDirectly false [⟨"core", "look", "readQuery"⟩, ⟨"core", "peek", "look"⟩] "core"
        [.echo "pg_read_query" "core"] ∧
      ¬ IsUnordered [⟨"core", "look", "readQuery"⟩, ⟨"core", "peek", "look"⟩] "core"
        [.echo "pg_read_query" "core"] := by
  refine ⟨by decide, fun h => ?_, ?_⟩
  · have hmem := h [⟨"core", "look", "readQuery"⟩] ⟨"core", "peek", "look"⟩ [] rfl
      ⟨_, _, rfl, rfl, by decide +kernel⟩
    exact absurd hmem (by decide +kernel)
  · rintro ⟨g, hg, h⟩
    obtain ⟨g', hg', hsame⟩ :=
      h [⟨"core", "peek", "look"⟩, ⟨"core", "look", "readQuery"⟩] (.swap _ _ _)
    cases hg
    cases hg'
    exact absurd (congrArg Option.isSome (hsame "peek")) (by decide +kernel)

end PgGateway.Sandbox.Group
