import PgGateway.Proofs.Keyed
import PgGateway.Proofs.Tool.Calls
import PgGateway.Tool.Echo
import PgGateway.Tool.Registry
import Mathlib.Data.Finset.Card

set_option autoImplicit false

/-!
# The tools of a registry

A registry keeps its tools in a list and their places in an index. Every registration keeps the two
in step: the names are distinct, and the index has each name with its place and no other name. So
after any history of registrations the tool of a name is the one that was registered last, in the
place where the name was registered first.

## Main definitions

* `PgGateway.Registry.names` — the names of the tools in order.
* `PgGateway.Registry.IsInStep` — whether the list and the index fit together.
* `PgGateway.Registry.Records` — what a registry is after a history of registrations.

## Main results

* `PgGateway.Registry.IsInStep.register` — a registration keeps the two in step.
* `PgGateway.Registry.names_register`, `PgGateway.Registry.get?_register` — what a registration does
  to the order of the names and to the tools of the names.
* `PgGateway.Registry.records_ofList` — the law of registries.
* `PgGateway.Registry.tools_ofList`, `PgGateway.Registry.get?_ofList` — tools with distinct names
  are kept in order, and each is found by its name.
-/

namespace PgGateway

namespace Registry

/-- The names of the tools in order. -/
def names (r : Registry) : List String :=
  r.tools.map Tool.name

/-- Whether the list of the tools and the index of their places fit together. -/
structure IsInStep (r : Registry) : Prop where
  /-- The names are distinct. -/
  nodup : r.names.Nodup
  /-- The index has each name with its place, and no other name. -/
  index_iff : ∀ {name i}, r.index.get? name = some i ↔ r.names[i]? = some name

variable {r : Registry} {name : String} {tool : Tool}

/-! ## One registration -/

/-- A registry without tools is in step. -/
lemma isInStep_empty : IsInStep {} where
  nodup := List.nodup_nil
  index_iff := by simp [names, Keyed.get?]

/-- A tool with a name in use takes the place of the one before. -/
lemma register_of_index {i : Nat} (hi : r.index.get? tool.name = some i) :
    r.register tool = ⟨r.tools.set i tool, r.index⟩ := by
  rw [register, hi]

/-- A tool with a new name goes behind all others. -/
lemma register_of_fresh (hi : r.index.get? tool.name = none) :
    r.register tool = ⟨r.tools ++ [tool], r.index.put tool.name r.tools.length⟩ := by
  rw [register, hi]

namespace IsInStep

/-- A name is in the index exactly if it is that of a tool. -/
lemma index_eq_none_iff (h : r.IsInStep) : r.index.get? name = none ↔ name ∉ r.names := by
  rw [List.mem_iff_getElem?, Option.eq_none_iff_forall_ne_some]
  simp only [ne_eq, h.index_iff, not_exists]

/-- In the place of a name stands a tool of this name. -/
lemma exists_tool_of_index (h : r.IsInStep) {i : Nat} (hi : r.index.get? name = some i) :
    ∃ hlt : i < r.tools.length, r.tools[i].name = name := by
  obtain ⟨hlt, hname⟩ := List.getElem?_eq_some_iff.mp (h.index_iff.mp hi)
  rw [names, List.length_map] at hlt
  exact ⟨hlt, by simpa [names] using hname⟩

/-- A tool with a name in use leaves the names as they are. -/
lemma names_set (h : r.IsInStep) {i : Nat} (hi : r.index.get? tool.name = some i) :
    (r.tools.set i tool).map Tool.name = r.names := by
  obtain ⟨hlt, hname⟩ := List.getElem?_eq_some_iff.mp (h.index_iff.mp hi)
  rw [List.map_set, ← hname]
  exact List.set_getElem_self hlt

end IsInStep

/-- A registration adds the name of the tool at the end, unless it is in use. -/
theorem names_register (h : r.IsInStep) (tool : Tool) :
    (r.register tool).names =
      if tool.name ∈ r.names then r.names else r.names ++ [tool.name] := by
  cases hi : r.index.get? tool.name with
  | none =>
    rw [register_of_fresh hi, if_neg (h.index_eq_none_iff.mp hi), names, List.map_append]
    rfl
  | some i =>
    rw [register_of_index hi, if_pos (List.mem_of_getElem? (h.index_iff.mp hi))]
    exact h.names_set hi

/-- **In step.** A registration keeps the tools and the index in step.

**Proof sketch.** Whether they are in step depends on the names and the index only. Under a name in
use both stay as they are. A new name gets the place behind all others. -/
theorem IsInStep.register (h : r.IsInStep) (tool : Tool) : (r.register tool).IsInStep := by
  have hnames := names_register h tool
  cases hi : r.index.get? tool.name with
  | some i =>
    rw [if_pos (List.mem_of_getElem? (h.index_iff.mp hi))] at hnames
    rw [register_of_index hi] at hnames ⊢
    exact ⟨hnames ▸ h.nodup, fun {name j} => by rw [hnames]; exact h.index_iff⟩
  | none =>
    have hfresh := h.index_eq_none_iff.mp hi
    have hlength : r.tools.length = r.names.length := (List.length_map ..).symm
    rw [if_neg hfresh] at hnames
    rw [register_of_fresh hi, hlength] at hnames ⊢
    refine ⟨?_, fun {name j} => ?_⟩
    · rw [hnames]
      refine List.nodup_append.mpr ⟨h.nodup, List.nodup_singleton _, fun used hused new hnew => ?_⟩
      rintro rfl
      exact hfresh (List.mem_singleton.mp hnew ▸ hused)
    · rw [hnames, getElem?_concat_eq_some_iff, Keyed.get?_put, ← h.index_iff]
      split
      · next heq =>
        subst heq
        simp [hi]
      · next hne => simp [hne]

/-- After a registration the tool is that of its name, and the other names keep theirs. -/
theorem get?_register (h : r.IsInStep) (tool : Tool) (name : String) :
    (r.register tool).get? name = if tool.name = name then some tool else r.get? name := by
  cases hi : r.index.get? tool.name with
  | none =>
    rw [register_of_fresh hi, get?, get?, Keyed.get?_put]
    split
    · exact List.getElem?_concat_length
    · cases hj : r.index.get? name with
      | none => rfl
      | some j =>
        obtain ⟨hlt, -⟩ := h.exists_tool_of_index hj
        exact List.getElem?_append_left hlt
  | some i =>
    rw [register_of_index hi, get?, get?]
    split
    · next heq =>
      subst heq
      obtain ⟨hlt, -⟩ := h.exists_tool_of_index hi
      rw [hi]
      exact List.getElem?_set_self hlt
    · next hne =>
      cases hj : r.index.get? name with
      | none => rfl
      | some j =>
        have hplaces : i ≠ j := by
          rintro rfl
          exact hne (Option.some.inj ((h.index_iff.mp hi).symm.trans (h.index_iff.mp hj)))
        exact List.getElem?_set_ne hplaces

/-- The tool of a name is one of the tools and has this name, if there is one. -/
lemma IsInStep.get?_eq_some_iff (h : r.IsInStep) :
    r.get? name = some tool ↔ tool ∈ r.tools ∧ tool.name = name := by
  rw [get?, Option.bind_eq_some_iff]
  constructor
  · rintro ⟨i, hi, htool⟩
    obtain ⟨hlt, hname⟩ := h.exists_tool_of_index hi
    rw [List.getElem?_eq_getElem hlt, Option.some.injEq] at htool
    rw [htool] at hname
    exact ⟨htool ▸ List.getElem_mem hlt, hname⟩
  · rintro ⟨hmem, rfl⟩
    obtain ⟨i, htool⟩ := List.mem_iff_getElem?.mp hmem
    exact ⟨i, h.index_iff.mpr (by simp [names, htool]), htool⟩

/-! ## A history of registrations -/

/-- One more registration at the end of a history. -/
lemma ofList_concat (history : List Tool) (tool : Tool) :
    ofList (history ++ [tool]) = (ofList history).register tool :=
  List.foldl_concat ..

/-- After every history the tools and the index are in step. -/
theorem isInStep_ofList (history : List Tool) : (ofList history).IsInStep := by
  induction history using List.reverseRecOn with
  | nil => exact isInStep_empty
  | append_singleton history tool ih =>
    rw [ofList_concat]
    exact ih.register tool

/-- The names stand in the order in which they were first registered. -/
theorem names_ofList (history : List Tool) :
    (ofList history).names = (history.map Tool.name).eraseDups := by
  induction history using List.reverseRecOn with
  | nil => rfl
  | append_singleton history tool ih =>
    rw [ofList_concat, names_register (isInStep_ofList history), ih, List.map_append,
      List.map_singleton, eraseDups_concat]
    simp only [List.mem_eraseDups]

/-- The tool of a name is the one that was registered last. -/
theorem get?_ofList_eq_find? (history : List Tool) (name : String) :
    (ofList history).get? name = history.reverse.find? fun t => t.name = name := by
  induction history using List.reverseRecOn with
  | nil => rfl
  | append_singleton history tool ih =>
    rw [ofList_concat, get?_register (isInStep_ofList history), ih, List.reverse_concat,
      List.find?_cons]
    by_cases hname : tool.name = name <;> simp [hname]

/-- There are as many tools as names that were registered. -/
lemma size_ofList (history : List Tool) :
    (ofList history).size = (history.map Tool.name).toFinset.card := by
  have hnodup := (isInStep_ofList history).nodup
  have hset : (ofList history).names.toFinset = (history.map Tool.name).toFinset := by
    ext name
    simp [names_ofList]
  rw [← hset, List.toFinset_card_of_nodup hnodup, names, List.length_map, size]

/-! ## Calls by name -/

/-- The names in the list of definitions are those of the tools. -/
lemma map_name_definitions (r : Registry) : r.definitions.map Definition.name = r.names := by
  rw [definitions, names, List.map_map]
  rfl

/-- There is a tool of a name exactly if a definition with this name is listed. -/
lemma IsInStep.get?_eq_none_iff (h : r.IsInStep) :
    r.get? name = none ↔ ∀ d ∈ r.definitions, d.name ≠ name := by
  rw [Option.eq_none_iff_forall_ne_some]
  simp only [ne_eq, h.get?_eq_some_iff, definitions, List.forall_mem_map, not_and]
  exact Iff.rfl

/-- A definition that is listed is that of the tool of its name. -/
lemma IsInStep.exists_get?_of_mem_definitions (h : r.IsInStep) {d : Definition}
    (hd : d ∈ r.definitions) : ∃ t, r.get? d.name = some t ∧ t.definition = d := by
  obtain ⟨t, ht, rfl⟩ := List.mem_map.mp hd
  exact ⟨t, h.get?_eq_some_iff.mpr ⟨ht, rfl⟩, rfl⟩

/-- A name without a tool is not found. -/
lemma act_of_get?_eq_none (h : r.get? name = none) (context : Context) (arguments : Json) :
    r.act name context arguments = .fail (.tool (.notFound name)) := by
  rw [act, h]

/-- The tool of a name does what it does with the arguments. -/
lemma act_of_get?_eq_some (h : r.get? name = some tool) (context : Context) (arguments : Json) :
    r.act name context arguments = tool.act context arguments := by
  rw [act, h]

/-- What a registry is after a history of registrations. -/
structure Records (r : Registry) (history : List Tool) : Prop where
  /-- The names are distinct. -/
  nodup : r.names.Nodup
  /-- The index has a name with a place exactly if a tool of this name stands there. -/
  index_iff : ∀ name i, r.index.get? name = some i ↔ ∃ t, r.tools[i]? = some t ∧ t.name = name
  /-- The index has the names that were registered. -/
  indexed_iff : ∀ name, (∃ i, r.index.get? name = some i) ↔ name ∈ history.map Tool.name
  /-- The tool of a name is the one that was registered last. -/
  get?_eq : ∀ name, r.get? name = history.reverse.find? fun t => t.name = name
  /-- The names stand in the order in which they were first registered. -/
  names_eq : r.names = (history.map Tool.name).eraseDups
  /-- There are as many tools as names that were registered. -/
  size_eq : r.size = (history.map Tool.name).toFinset.card
  /-- A name has no tool exactly if no definition that is listed has it. -/
  get?_eq_none_iff : ∀ name, r.get? name = none ↔ ∀ d ∈ r.definitions, d.name ≠ name
  /-- A name that is not listed is not found. -/
  act_of_not_listed : ∀ name, (∀ d ∈ r.definitions, d.name ≠ name) → ∀ context arguments,
    r.act name context arguments = .fail (.tool (.notFound name))
  /-- A name that is listed is that of the tool with the definition that is listed. -/
  act_of_listed : ∀ d ∈ r.definitions, ∃ t, r.get? d.name = some t ∧ t.definition = d ∧
    ∀ context arguments, r.act d.name context arguments = t.act context arguments
  /-- If no tool answers by itself that it is not found, then a call by a name is answered so
  exactly if the name is not listed. -/
  answer_iff : ∀ (name : String) (context : Context) (arguments : Json) {σ : Type}
    (executor : Executor σ) (timeout : Span) (s : σ),
    (∀ t ∈ history, ((t.act context arguments).run executor timeout s).1 ≠
      .error (.tool (.notFound t.name))) →
    (((r.act name context arguments).run executor timeout s).1 = .error (.tool (.notFound name)) ↔
      ∀ d ∈ r.definitions, d.name ≠ name)

/-- **The law of registries.** After any history of registrations the names are distinct, the index
has each of them with its place, the tool of a name is the last one that was registered, and the
names stand in the order of their first registrations. So a call by a name is not found exactly if
the name is not listed, and otherwise it is a call of the tool that is listed. -/
theorem records_ofList (history : List Tool) : (ofList history).Records history := by
  have h := isInStep_ofList history
  have hmem : ∀ {name t}, (ofList history).get? name = some t → t ∈ history ∧ t.name = name := by
    intro name t ht
    rw [get?_ofList_eq_find?] at ht
    exact ⟨List.mem_reverse.mp (List.mem_of_find?_eq_some ht), by
      simpa using List.find?_some ht⟩
  refine
    { nodup := h.nodup
      index_iff := fun name i => ?_
      indexed_iff := fun name => ?_
      get?_eq := get?_ofList_eq_find? history
      names_eq := names_ofList history
      size_eq := size_ofList history
      get?_eq_none_iff := fun name => h.get?_eq_none_iff
      act_of_not_listed := fun name hname => act_of_get?_eq_none (h.get?_eq_none_iff.mpr hname)
      act_of_listed := fun d hd => ?_
      answer_iff := fun name context arguments σ executor timeout s hown => ?_ }
  · rw [h.index_iff, names, List.getElem?_map, Option.map_eq_some_iff]
  · rw [← List.mem_eraseDups, ← names_ofList, ← not_iff_not, ← h.index_eq_none_iff,
      Option.eq_none_iff_forall_ne_some, not_exists]
  · obtain ⟨t, ht, hdefinition⟩ := h.exists_get?_of_mem_definitions hd
    exact ⟨t, ht, hdefinition, act_of_get?_eq_some ht⟩
  · rw [← h.get?_eq_none_iff]
    cases ht : (ofList history).get? name with
    | none => simp [act_of_get?_eq_none ht]
    | some t =>
      obtain ⟨hhistory, rfl⟩ := hmem ht
      rw [act_of_get?_eq_some ht]
      simp [hown t hhistory]

/-- A tool that is replaced by one of another group, and a name that nothing is registered under. -/
theorem records_ofList_of_repeated_name :
    let history := [Tool.echo "pg_b" "core", Tool.echo "pg_a" "core", Tool.echo "pg_b" "admin"]
    let r := ofList history
    r.names = ["pg_b", "pg_a"] ∧ r.get? "pg_b" = some (Tool.echo "pg_b" "admin") ∧
      (∀ t ∈ history, ((t.act {} .null).run .disconnected (.ofSeconds 5) ()).1 ≠
        .error (.tool (.notFound t.name))) ∧
      ((r.act "pg_c" {} .null).run .disconnected (.ofSeconds 5) ()).1 =
        .error (.tool (.notFound "pg_c")) := by
  intro history r
  have hrecords : r.Records history := records_ofList history
  have hnames : r.names = ["pg_b", "pg_a"] := hrecords.names_eq.trans (by decide)
  have hlisted : ∀ d ∈ r.definitions, d.name ≠ "pg_c" := by
    have hnot : "pg_c" ∉ r.definitions.map Definition.name := by
      rw [map_name_definitions, hnames]
      decide
    exact fun d hd heq => hnot (List.mem_map.mpr ⟨d, hd, heq⟩)
  have hown : ∀ t ∈ history, ((t.act {} .null).run .disconnected (.ofSeconds 5) ()).1 ≠
      .error (.tool (.notFound t.name)) := by
    simp [history, Tool.echo]
  exact ⟨hnames, (hrecords.get?_eq "pg_b").trans rfl, hown,
    (hrecords.answer_iff "pg_c" {} .null .disconnected (.ofSeconds 5) () hown).mpr hlisted⟩

/-! ## Tools with distinct names -/

/-- A registry keeps tools with distinct names in their order. -/
theorem tools_ofList {tools : List Tool} (hdistinct : (tools.map Tool.name).Nodup) :
    (ofList tools).tools = tools := by
  induction tools using List.reverseRecOn with
  | nil => rfl
  | append_singleton tools tool ih =>
    rw [List.map_append, List.map_singleton, List.nodup_append] at hdistinct
    obtain ⟨hbefore, -, hfresh⟩ := hdistinct
    have hnew : (ofList tools).index.get? tool.name = none := by
      rw [(isInStep_ofList tools).index_eq_none_iff, names, ih hbefore]
      exact fun hmem => hfresh _ hmem _ List.mem_cons_self rfl
    rw [ofList_concat, register, hnew, ih hbefore]

/-- A registry finds each of some tools with distinct names by its name. -/
theorem get?_ofList {tools : List Tool} (hdistinct : (tools.map Tool.name).Nodup) {t : Tool}
    (ht : t ∈ tools) : (ofList tools).get? t.name = some t := by
  rw [(isInStep_ofList tools).get?_eq_some_iff, tools_ofList hdistinct]
  exact ⟨ht, rfl⟩

end Registry

end PgGateway
