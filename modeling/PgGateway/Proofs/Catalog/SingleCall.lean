import PgGateway.Catalog.Standard
import PgGateway.Proofs.Executor.Observed

set_option autoImplicit false

/-!
# One call or none

Every tool of the catalog either refuses its arguments, and then leaves the executor alone, or makes
one call, whose result it never blames on the arguments. What can fail before the call — names,
paths, conditions, documents — fails as a refusal.

## Main definitions

* `PgGateway.Catalog.RefusedOr` — a step that refuses, or has a result with a property.
* `PgGateway.Catalog.RefusesOrCalls` — a tool all of whose actions refuse or make a call.

## Main results

* `PgGateway.Catalog.refusesOrCalls_of_mem_tools` — all tools of the catalog are such.
* `PgGateway.Catalog.tools_single_call` — a tool makes at most one call, none exactly if it refuses
  its arguments, and fails with the error of its call.
-/

namespace PgGateway.Catalog

variable {α β : Type}

/-- Whether a step refuses what it is given, or has a result with a property. -/
inductive RefusedOr (P : α → Prop) : Except ToolError α → Prop
  /-- It refuses. -/
  | refused (detail : String) : RefusedOr P (.error (.invalidArguments detail))
  /-- It has such a result. -/
  | done {a : α} (h : P a) : RefusedOr P (.ok a)

/-- Whether a step fails only by refusing what it is given. -/
abbrev OnlyRefuses (x : Except ToolError α) : Prop :=
  RefusedOr (fun _ => True) x

namespace RefusedOr

variable {P : α → Prop} {Q : β → Prop}

/-- Two steps refuse or have a result if each does. -/
lemma bind {x : Except ToolError α} {f : α → Except ToolError β} (hx : RefusedOr P x)
    (hf : ∀ a, P a → RefusedOr Q (f a)) : RefusedOr Q (x >>= f) := by
  cases hx with
  | refused detail => exact .refused detail
  | done h => exact hf _ h

/-- A step that only refuses may be followed by any step on its result. -/
lemma andThen {x : Except ToolError α} {f : α → Except ToolError β} (hx : OnlyRefuses x)
    (hf : ∀ a, RefusedOr Q (f a)) : RefusedOr Q (x >>= f) :=
  hx.bind fun a _ => hf a

/-- A step that is made on every item of a list only refuses if it only refuses on each. -/
lemma mapM {f : α → Except ToolError β} (hf : ∀ a, OnlyRefuses (f a)) (items : List α) :
    OnlyRefuses (items.mapM f) := by
  induction items with
  | nil => exact .done trivial
  | cons item items ih =>
    rw [List.mapM_cons]
    exact (hf item).andThen fun _ => ih.andThen fun _ => .done trivial

end RefusedOr

/-! ## The parts of statements -/

/-- What is no name is refused. -/
lemma onlyRefuses_quoteName (name : String) : OnlyRefuses (Sql.quoteName name) := by
  rw [Sql.quoteName]
  split
  · exact .done trivial
  · exact .refused _

/-- A list without names is refused, and so is one with what is no name. -/
lemma onlyRefuses_quoteNames (names : List String) : OnlyRefuses (Sql.quoteNames names) := by
  rw [Sql.quoteNames]
  split
  · exact .refused _
  · exact (RefusedOr.mapM onlyRefuses_quoteName names).andThen fun _ => .done trivial

/-- What is no path is refused. -/
lemma onlyRefuses_parsePath (path : Json) : OnlyRefuses (Sql.parsePath path) := by
  have hsegment : ∀ j, OnlyRefuses (Sql.itemSegment j) := by
    intro j
    cases j with
    | str | int | float => exact .done trivial
    | null | bool | arr | obj => exact .refused _
  have hsegments : ∀ segments : List String, OnlyRefuses
      (if segments.isEmpty then .error (.invalidArguments "JSON path must not be empty")
        else .ok segments : Except ToolError (List String)) := by
    intro segments
    split
    · exact .refused _
    · exact .done trivial
  unfold Sql.parsePath
  cases path with
  | str s => exact hsegments _
  | arr items => exact (RefusedOr.mapM hsegment items).andThen hsegments
  | null | bool | int | float | obj => exact .refused _

/-- A search in no columns is refused, and so is one in what is no column. -/
lemma onlyRefuses_searchVector (language : String) (columns : List String) :
    OnlyRefuses (searchVector language columns) := by
  rw [searchVector]
  split
  · exact .refused _
  · exact (RefusedOr.mapM (fun c => (onlyRefuses_quoteName c).andThen fun _ => .done trivial)
      columns).andThen fun _ => .done trivial

/-- A command is refused on what is no table. -/
lemma onlyRefuses_onTable (command : String) (table : Option String) :
    OnlyRefuses (onTable command table) := by
  cases table with
  | none => exact .done trivial
  | some table => exact (onlyRefuses_quoteName table).andThen fun _ => .done trivial

/-! ## The plans of the tools -/

/-- A plan that builds its statement and then runs it refuses or makes a call. -/
lemma RefusedOr.isCall {built : Except ToolError α} {act : α → Action} (hbuilt : OnlyRefuses built)
    (hact : ∀ a, (act a).IsCall) : RefusedOr Action.IsCall (do let a ← built; return act a) :=
  hbuilt.andThen fun a => .done (hact a)

/-- A statement that may change data is refused as a query. -/
lemma ReadQuery.refusedOr_plan (a : ReadQuery) : RefusedOr Action.IsCall a.plan := by
  rw [plan]
  split
  · exact .done .ofAnswer
  · exact .refused _

/-- A statement that only reads is refused as a change. -/
lemma WriteQuery.refusedOr_plan (a : WriteQuery) : RefusedOr Action.IsCall a.plan := by
  rw [plan]
  split
  · exact .refused _
  · exact .done .execute

/-- A transaction of which all statements are blank is refused. -/
lemma Transaction.refusedOr_plan (a : Transaction) : RefusedOr Action.IsCall a.plan := by
  rw [plan]
  split
  · exact .refused _
  · exact .done .transaction

/-- A table that is not found is no fault of the arguments. -/
lemma DescribeTable.refusedOr_plan (a : DescribeTable) : RefusedOr Action.IsCall a.plan := by
  refine .done (.query fun result cause h => ?_)
  unfold conclude at h
  dsimp only at h
  split at h
  · cases h
    rintro ⟨detail, hdetail⟩
    cases hdetail
  · cases h

/-- A table without columns is refused, and so is a column without a name or a type. -/
lemma CreateTable.refusedOr_plan (a : CreateTable) : RefusedOr Action.IsCall a.plan := by
  have hcolumn : ∀ c : ColumnPlan, OnlyRefuses c.sql? := by
    intro c
    rw [ColumnPlan.sql?]
    split
    · exact (onlyRefuses_quoteName c.name).andThen fun _ => .done trivial
    · exact .refused _
  have hsql : OnlyRefuses a.sql? := by
    rw [sql?]
    split
    · exact .refused _
    · exact (RefusedOr.mapM hcolumn a.columns).andThen fun _ =>
        (onlyRefuses_quoteName a.table).andThen fun _ => .done trivial
  exact hsql.isCall fun _ => .execute

/-- What is no name of a table is refused, and other tables are dropped. -/
lemma DropTable.refusedOr_plan (a : DropTable) : RefusedOr Action.IsCall a.plan := by
  have hsql : OnlyRefuses a.sql? := (onlyRefuses_quoteName a.table).andThen fun _ => .done trivial
  exact hsql.isCall fun _ => .execute

/-- An unknown access method is refused. -/
lemma CreateIndex.refusedOr_plan (a : CreateIndex) : RefusedOr Action.IsCall a.plan := by
  have husing : OnlyRefuses a.usingPart? := by
    rw [usingPart?]
    split
    · exact .done trivial
    · split
      · exact .done trivial
      · exact .refused _
  have hsql : OnlyRefuses a.sql? := husing.andThen fun _ =>
    (onlyRefuses_quoteName a.indexName).andThen fun _ =>
      (onlyRefuses_quoteName a.table).andThen fun _ =>
        (onlyRefuses_quoteNames a.columns).andThen fun _ => .done trivial
  exact hsql.isCall fun _ => .execute

/-- What is no name of a table is refused, and of other tables the indexes are made anew. -/
lemma Reindex.refusedOr_plan (a : Reindex) : RefusedOr Action.IsCall a.plan := by
  have hsql : OnlyRefuses a.sql? := (onlyRefuses_quoteName a.table).andThen fun _ => .done trivial
  exact hsql.isCall fun _ => .execute

/-- Rows are counted unless the table has no name; the condition is taken as it is. -/
lemma Filter.refusedOr_countPlan (a : Filter) : RefusedOr Action.IsCall a.countPlan := by
  have hsql : OnlyRefuses a.countSql? :=
    (onlyRefuses_quoteName a.table).andThen fun _ => .done trivial
  exact hsql.isCall fun _ => .ofAnswer

/-- So it is with the question whether there are rows. -/
lemma Filter.refusedOr_existsPlan (a : Filter) : RefusedOr Action.IsCall a.existsPlan := by
  have hsql : OnlyRefuses a.existsSql? :=
    (onlyRefuses_quoteName a.table).andThen fun _ => .done trivial
  exact hsql.isCall fun _ => .ofAnswer

/-- What is no path, column or table is refused, in this order. -/
lemma JsonExtract.refusedOr_plan (a : JsonExtract) : RefusedOr Action.IsCall a.plan := by
  have hsql : OnlyRefuses a.sql? := (onlyRefuses_parsePath a.path).andThen fun _ =>
    (onlyRefuses_quoteName a.column).andThen fun _ =>
      (onlyRefuses_quoteName a.table).andThen fun _ => .done trivial
  exact hsql.isCall fun _ => .ofAnswer

/-- What is no column, path or table is refused, in this order. -/
lemma JsonSet.refusedOr_plan (a : JsonSet) : RefusedOr Action.IsCall a.plan := by
  have hsql : OnlyRefuses a.sql? := (onlyRefuses_quoteName a.column).andThen fun _ =>
    (onlyRefuses_parsePath a.path).andThen fun _ =>
      (onlyRefuses_quoteName a.table).andThen fun _ => .done trivial
  exact hsql.isCall fun _ => .execute

/-- A path is refused only if there is one. -/
lemma JsonKeys.refusedOr_plan (a : JsonKeys) : RefusedOr Action.IsCall a.plan := by
  have htarget : OnlyRefuses a.target? := by
    refine (onlyRefuses_quoteName a.column).andThen fun column => ?_
    cases a.path with
    | none => exact .done trivial
    | some path => exact (onlyRefuses_parsePath path).andThen fun _ => .done trivial
  have hsql : OnlyRefuses a.sql? := htarget.andThen fun _ =>
    (onlyRefuses_quoteName a.table).andThen fun _ => .done trivial
  exact hsql.isCall fun _ => .ofAnswer

/-- What is no column or table is refused; the value may be any. -/
lemma JsonContains.refusedOr_plan (a : JsonContains) : RefusedOr Action.IsCall a.plan := by
  have hsql : OnlyRefuses a.sql? := (onlyRefuses_quoteName a.column).andThen fun _ =>
    (onlyRefuses_quoteName a.table).andThen fun _ => .done trivial
  exact hsql.isCall fun _ => .ofAnswer

/-- A search in columns that cannot be searched is refused. -/
lemma FulltextSearch.refusedOr_plan (a : FulltextSearch) : RefusedOr Action.IsCall a.plan := by
  have hsql : OnlyRefuses a.sql? := (onlyRefuses_searchVector _ a.columns).andThen fun _ =>
    (onlyRefuses_quoteName a.table).andThen fun _ => .done trivial
  exact hsql.isCall fun _ => .ofAnswer

/-- An index on such columns is refused, and so is one without a name. -/
lemma FulltextIndex.refusedOr_plan (a : FulltextIndex) : RefusedOr Action.IsCall a.plan := by
  have hsql : OnlyRefuses a.sql? := (onlyRefuses_quoteName a.indexName).andThen fun _ =>
    (onlyRefuses_quoteName a.table).andThen fun _ =>
      (onlyRefuses_searchVector _ a.columns).andThen fun _ => .done trivial
  exact hsql.isCall fun _ => .execute

/-- A statement that may change data is refused if it is to be run for its plan. -/
lemma Explain.refusedOr_plan (a : Explain) : RefusedOr Action.IsCall a.plan := by
  have hsql : OnlyRefuses a.sql? := by
    rw [sql?]
    split
    · exact .refused _
    · exact .done trivial
  exact hsql.isCall fun _ => .ofAnswer

/-- A table may be left out, but what is given has to be one. -/
lemma Vacuum.refusedOr_plan (a : Vacuum) : RefusedOr Action.IsCall a.plan :=
  (onlyRefuses_onTable _ a.table).isCall fun _ => .execute

/-- So it is with the table of which statistics are collected. -/
lemma Analyze.refusedOr_plan (a : Analyze) : RefusedOr Action.IsCall a.plan :=
  (onlyRefuses_onTable _ a.table).isCall fun _ => .execute

/-- A collection that is made has a name that goes for a table and for an index. -/
lemma Collection.refusedOr_createPlan (a : Collection) : RefusedOr Action.IsCall a.createPlan := by
  have hstatements : OnlyRefuses a.creation? :=
    (onlyRefuses_quoteName a.collection).andThen fun _ =>
      (onlyRefuses_quoteName _).andThen fun _ => .done trivial
  exact hstatements.isCall fun _ => .transaction

/-- One that is dropped has the name of a table. -/
lemma Collection.refusedOr_dropPlan (a : Collection) : RefusedOr Action.IsCall a.dropPlan := by
  have hsql : OnlyRefuses a.removal? :=
    (onlyRefuses_quoteName a.collection).andThen fun _ => .done trivial
  exact hsql.isCall fun _ => .execute

/-- What is no document is refused, and so is a list without documents. -/
lemma InsertDocuments.refusedOr_plan (a : InsertDocuments) : RefusedOr Action.IsCall a.plan := by
  have hitems : OnlyRefuses a.items? := by
    rw [items?]
    split
    · exact .done trivial
    · exact .refused _
    · split
      · exact .refused _
      · exact .done trivial
    · exact .refused _
  have hsql : OnlyRefuses a.sql? := hitems.andThen fun _ =>
    (onlyRefuses_quoteName a.collection).andThen fun _ => .done trivial
  exact hsql.isCall fun _ => .ofAnswer

/-- A filter that is no object is refused. -/
lemma FindDocuments.refusedOr_plan (a : FindDocuments) : RefusedOr Action.IsCall a.plan := by
  have hclause : OnlyRefuses a.clause? := by
    rw [clause?]
    split
    · exact .done trivial
    · exact .done trivial
    · exact .done trivial
    · exact .done trivial
    · exact .refused _
  have hsql : OnlyRefuses a.sql? := hclause.andThen fun _ =>
    (onlyRefuses_quoteName a.collection).andThen fun _ => .done trivial
  exact hsql.isCall fun _ => .ofAnswer

/-! ## The tools -/

/-- Whether every action of a tool either refuses the arguments or makes a call. -/
def RefusesOrCalls (t : Tool) : Prop :=
  ∀ (c : Context) (given : Json),
    (∃ detail, t.act c given = .fail (.tool (.invalidArguments detail))) ∨ (t.act c given).IsCall

/-- Arguments that do not fit are refused, so a tool refuses or makes a call if its plan does. -/
lemma refusesOrCalls_reading {group name description : String} {schema : Schema}
    {arguments : Shape.Reader α} {plan : α → Except ToolError Action}
    (hplan : ∀ a, RefusedOr Action.IsCall (plan a)) :
    RefusesOrCalls (.reading group name description schema arguments plan) := by
  intro c given
  change (∃ detail, Tool.actionOf arguments plan given = .fail (.tool (.invalidArguments detail))) ∨
    (Tool.actionOf arguments plan given).IsCall
  rw [Tool.actionOf]
  cases arguments given with
  | error mismatch => exact .inl ⟨_, rfl⟩
  | ok a =>
    have ha := hplan a
    dsimp only
    generalize plan a = planned at ha ⊢
    cases ha with
    | refused detail => exact .inl ⟨detail, rfl⟩
    | done h => exact .inr h

/-- Every tool of the catalog refuses its arguments or makes a call. -/
theorem refusesOrCalls_of_mem_tools {t : Tool} (ht : t ∈ tools) : RefusesOrCalls t := by
  simp only [tools, List.mem_cons, List.not_mem_nil, or_false] at ht
  rcases ht with rfl | rfl | rfl | rfl | rfl | rfl | rfl | rfl | rfl | rfl | rfl | rfl | rfl |
    rfl | rfl | rfl | rfl | rfl | rfl | rfl | rfl | rfl | rfl | rfl | rfl | rfl | rfl | rfl
  · exact refusesOrCalls_reading ReadQuery.refusedOr_plan
  · exact refusesOrCalls_reading WriteQuery.refusedOr_plan
  · exact refusesOrCalls_reading fun _ => .done .ofAnswer
  · exact refusesOrCalls_reading fun _ => .done .ofAnswer
  · exact refusesOrCalls_reading DescribeTable.refusedOr_plan
  · exact refusesOrCalls_reading CreateTable.refusedOr_plan
  · exact refusesOrCalls_reading DropTable.refusedOr_plan
  · exact refusesOrCalls_reading CreateIndex.refusedOr_plan
  · exact refusesOrCalls_reading Filter.refusedOr_countPlan
  · exact refusesOrCalls_reading Filter.refusedOr_existsPlan
  · exact refusesOrCalls_reading Transaction.refusedOr_plan
  · exact refusesOrCalls_reading JsonExtract.refusedOr_plan
  · exact refusesOrCalls_reading JsonSet.refusedOr_plan
  · exact refusesOrCalls_reading JsonKeys.refusedOr_plan
  · exact refusesOrCalls_reading JsonContains.refusedOr_plan
  · exact refusesOrCalls_reading FulltextSearch.refusedOr_plan
  · exact refusesOrCalls_reading FulltextIndex.refusedOr_plan
  · exact refusesOrCalls_reading Explain.refusedOr_plan
  · exact refusesOrCalls_reading fun _ => .done .ofAnswer
  · exact refusesOrCalls_reading fun _ => .done .ofAnswer
  · exact refusesOrCalls_reading fun _ => .done .ofAnswer
  · exact refusesOrCalls_reading Vacuum.refusedOr_plan
  · exact refusesOrCalls_reading Analyze.refusedOr_plan
  · exact refusesOrCalls_reading Reindex.refusedOr_plan
  · exact refusesOrCalls_reading Collection.refusedOr_createPlan
  · exact refusesOrCalls_reading Collection.refusedOr_dropPlan
  · exact refusesOrCalls_reading InsertDocuments.refusedOr_plan
  · exact refusesOrCalls_reading FindDocuments.refusedOr_plan

/-- **One call or none.** Run a tool of the catalog on any arguments by means of any executor, and
watch what is asked of the executor. At most one call is made; none is made exactly if the tool
refuses its arguments; and if the call fails, the tool fails with the error of the call.

**Proof sketch.** The action of the tool stands for a procedure that makes at most one call and
passes its error on (`Action.procedure_makesAtMost`, `Action.procedure_passesErrors`), so this is
what is observed of its run. The action refuses, and then makes no call, or it is a call, and then
is not refused (`refusesOrCalls_of_mem_tools`, `Action.IsCall.not_isRefusal`). -/
theorem tools_single_call {t : Tool} (ht : t ∈ tools) (c : Context) (given : Json) {σ : Type}
    (executor : Executor σ) (s : σ) (before : List Observation) :
    let outcome := ((t.act c given).run executor c.timeout s).1
    ∃ made : List Observation,
      (t.act c given).run executor.observed c.timeout (s, before) =
        (outcome, ((t.act c given).run executor c.timeout s).2, before ++ made) ∧
      made.map Observation.call = t.calls c given ∧
      made.length ≤ 1 ∧
      (made = [] ↔ ∃ detail, outcome = .error (.tool (.invalidArguments detail))) ∧
      ∀ o ∈ made, ∀ e, o.failure = some e → outcome = .error (.database e) := by
  intro outcome
  have hcalls := (t.act c given).map_call_observations executor c.timeout s
  refine ⟨(t.act c given).procedure.observations executor c.timeout s, Procedure.run_observed ..,
    hcalls, (Action.procedure_makesAtMost _).length_observations_le executor c.timeout s, ?_,
    (Action.procedure_passesErrors _).run_eq_error executor c.timeout s⟩
  rw [← List.map_eq_nil_iff (f := Observation.call), hcalls]
  rcases refusesOrCalls_of_mem_tools ht c given with ⟨detail, hrefused⟩ | hcall
  · refine iff_of_true (by rw [hrefused]; rfl) ⟨detail, ?_⟩
    change ((t.act c given).run executor c.timeout s).1 = _
    rw [hrefused, Action.run_fail]
  · refine iff_of_false (hcall.calls_ne_nil c.timeout) ?_
    rintro ⟨detail, hrefused⟩
    exact hcall.not_isRefusal hrefused ⟨detail, rfl⟩

/-- Without a database the one call of a tool fails, and so does the tool. -/
theorem tools_single_call_of_disconnected :
    DescribeTable.tool ∈ tools ∧
    ∃ made : List Observation,
      (DescribeTable.tool.act {} (.obj [("table", .str "logs")])).run
          (Executor.disconnected : Executor Unit).observed (Span.ofSeconds 30) ((), []) =
        (.error (.database .notConnected), (), made) ∧
      made.length = 1 := by
  have hmem : DescribeTable.tool ∈ tools := by simp [tools]
  obtain ⟨made, hrun, hcalls, -, -, -⟩ := tools_single_call hmem {} (.obj [("table", .str "logs")])
    (Executor.disconnected : Executor Unit) () []
  refine ⟨hmem, made, hrun, ?_⟩
  rw [← List.length_map Observation.call, hcalls]
  rfl

end PgGateway.Catalog
