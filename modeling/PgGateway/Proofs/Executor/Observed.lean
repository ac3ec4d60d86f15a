import PgGateway.Proofs.Tool.Calls

set_option autoImplicit false

/-!
# Observed executors

Any executor can be watched while it works: the observed executor answers as the one under it does
and keeps, beside its state, the calls that were made and the error of each that failed. So what a
procedure does to an executor can be said whatever the executor is and answers: how many calls it
makes, and what becomes of their errors. The procedure of an action makes at most one call and
passes its error on.

## Main definitions

* `PgGateway.Observation` — a call, and the error that it failed with.
* `PgGateway.Executor.observed` — the executor that is watched.
* `PgGateway.Executor.Logs` — whether an executor keeps a log of the calls of actions.
* `PgGateway.Procedure.observations` — what is observed of a procedure.
* `PgGateway.Procedure.MakesAtMost`, `PgGateway.Procedure.PassesErrors` — whether a procedure makes
  at most so many calls, and whether it fails as its calls do.
* `PgGateway.Action.IsCall` — an action that makes a call and never blames its result on the
  arguments.

## Main results

* `PgGateway.Procedure.run_observed` — a procedure runs observed as it does unobserved.
* `PgGateway.Procedure.MakesAtMost.length_observations_le` — so many calls are observed at most.
* `PgGateway.Procedure.PassesErrors.run_eq_error` — the error of a call that fails is the outcome.
* `PgGateway.Action.procedure_makesAtMost`, `PgGateway.Action.procedure_passesErrors` — actions make
  one call at most and pass its error on.
* `PgGateway.Action.map_call_observations` — what is observed of an action are the calls that it
  names.
* `PgGateway.Executor.logs_observed` — the observed executor logs the calls of actions.
-/

namespace PgGateway

variable {σ α : Type}

/-- Whether a failure says that the arguments do not fit the tool. -/
def Failure.IsRefusal (cause : Failure) : Prop :=
  ∃ detail, cause = .tool (.invalidArguments detail)

/-- A call that was made, and the error that it failed with, if it failed. -/
structure Observation where
  /-- The call. -/
  call : Call
  /-- The error of the call. -/
  failure : Option DatabaseError
  deriving DecidableEq

/-- The observation of a call with a given outcome. -/
def Observation.of (call : Call) : Except DatabaseError α → Observation
  | .ok _ => ⟨call, none⟩
  | .error e => ⟨call, some e⟩

@[simp]
lemma Observation.call_of (call : Call) (outcome : Except DatabaseError α) :
    (Observation.of call outcome).call = call := by
  cases outcome <;> rfl

/-- The error of an observation is that of the outcome. -/
lemma Observation.failure_of_eq_some {call : Call} {outcome : Except DatabaseError α}
    {e : DatabaseError} (h : (Observation.of call outcome).failure = some e) :
    outcome = .error e := by
  cases outcome with
  | ok a => cases h
  | error e' =>
    cases h
    rfl

namespace Executor

/-- The outcome of a call and the new state, with the observation of the call after those made
before. -/
def watched (call : Call) (before : List Observation) :
    Except DatabaseError α × σ → Except DatabaseError α × (σ × List Observation)
  | (outcome, s) => (outcome, s, before ++ [.of call outcome])

/-- The executor that answers as another does and keeps the calls that were made to it. -/
def observed (executor : Executor σ) : Executor (σ × List Observation) where
  name := executor.name
  query sql limit timeout s :=
    watched (.query sql limit timeout) s.2 (executor.query sql limit timeout s.1)
  execute sql timeout s := watched (.execute sql timeout) s.2 (executor.execute sql timeout s.1)
  transaction statements timeout s :=
    watched (.transaction statements timeout) s.2 (executor.transaction statements timeout s.1)

@[simp]
lemma observed_query (executor : Executor σ) (sql : String) (limit : Option Nat) (timeout : Span)
    (s : σ × List Observation) : executor.observed.query sql limit timeout s =
      watched (.query sql limit timeout) s.2 (executor.query sql limit timeout s.1) := rfl

@[simp]
lemma observed_execute (executor : Executor σ) (sql : String) (timeout : Span)
    (s : σ × List Observation) : executor.observed.execute sql timeout s =
      watched (.execute sql timeout) s.2 (executor.execute sql timeout s.1) := rfl

@[simp]
lemma observed_transaction (executor : Executor σ) (statements : List String) (timeout : Span)
    (s : σ × List Observation) : executor.observed.transaction statements timeout s =
      watched (.transaction statements timeout) s.2
        (executor.transaction statements timeout s.1) := rfl

/-- Whether an executor keeps a log of the calls that actions make to it. -/
def Logs (executor : Executor σ) (log : σ → List Call) : Prop :=
  ∀ (action : Action) (timeout : Span) (s : σ),
    log (action.run executor timeout s).2 = log s ++ action.calls timeout

end Executor

/-! ## Procedures -/

namespace Procedure

/-- The calls that a procedure makes when it is run, in order, with the errors of those that
fail. -/
def observations (executor : Executor σ) (timeout : Span) : Procedure → σ → List Observation
  | .done _, _ => []
  | .query sql limit next, s =>
    let (outcome, s) := executor.query sql limit timeout s
    .of (.query sql limit timeout) outcome :: (next outcome).observations executor timeout s
  | .execute sql next, s =>
    let (outcome, s) := executor.execute sql timeout s
    .of (.execute sql timeout) outcome :: (next outcome).observations executor timeout s
  | .transaction statements next, s =>
    let (outcome, s) := executor.transaction statements timeout s
    .of (.transaction statements timeout) outcome ::
      (next outcome).observations executor timeout s

/-- **Observed procedures.** A procedure runs on the observed executor as it does on the one under
it, and its calls are kept after those made before.

**Proof sketch.** Induction on the procedure. After a call the rest of it is run from the state in
which the call leaves the executor, with one observation more. -/
theorem run_observed (p : Procedure) (executor : Executor σ) (timeout : Span) (s : σ)
    (before : List Observation) :
    p.run executor.observed timeout (s, before) =
      ((p.run executor timeout s).1, (p.run executor timeout s).2,
        before ++ p.observations executor timeout s) := by
  induction p generalizing s before with
  | done outcome => simp [run, observations]
  | query sql limit next ih => simp [run, observations, Executor.watched, ih]
  | execute sql next ih => simp [run, observations, Executor.watched, ih]
  | transaction statements next ih => simp [run, observations, Executor.watched, ih]

/-- Whether a procedure makes at most so many calls, whatever their outcomes are. -/
inductive MakesAtMost : ℕ → Procedure → Prop
  /-- A procedure that is done makes no more calls. -/
  | done {n : ℕ} {outcome : Except Failure Json} : MakesAtMost n (.done outcome)
  /-- After a query there is one call less to make. -/
  | query {n : ℕ} {sql : String} {limit : Option Nat}
    {next : Except DatabaseError ResultSet → Procedure}
    (h : ∀ outcome, MakesAtMost n (next outcome)) : MakesAtMost (n + 1) (.query sql limit next)
  /-- After a statement without rows there is one call less to make. -/
  | execute {n : ℕ} {sql : String} {next : Except DatabaseError Nat → Procedure}
    (h : ∀ outcome, MakesAtMost n (next outcome)) : MakesAtMost (n + 1) (.execute sql next)
  /-- After a transaction there is one call less to make. -/
  | transaction {n : ℕ} {statements : List String}
    {next : Except DatabaseError (List Nat) → Procedure}
    (h : ∀ outcome, MakesAtMost n (next outcome)) :
    MakesAtMost (n + 1) (.transaction statements next)

/-- **The number of calls.** No more calls are observed of a procedure than it makes at most. -/
theorem MakesAtMost.length_observations_le {n : ℕ} {p : Procedure} (h : p.MakesAtMost n)
    (executor : Executor σ) (timeout : Span) (s : σ) :
    (p.observations executor timeout s).length ≤ n := by
  induction h generalizing s with
  | done => exact Nat.zero_le _
  | query h ih => exact Nat.succ_le_succ (ih _ _)
  | execute h ih => exact Nat.succ_le_succ (ih _ _)
  | transaction h ih => exact Nat.succ_le_succ (ih _ _)

/-- Whether a procedure makes no more calls after one that fails, but fails with its error. -/
inductive PassesErrors : Procedure → Prop
  /-- A procedure that is done makes no call that could fail. -/
  | done {outcome : Except Failure Json} : PassesErrors (.done outcome)
  /-- The error of a query is passed on. -/
  | query {sql : String} {limit : Option Nat} {next : Except DatabaseError ResultSet → Procedure}
    (hfailed : ∀ e, next (.error e) = .done (.error (.database e)))
    (h : ∀ result, PassesErrors (next (.ok result))) : PassesErrors (.query sql limit next)
  /-- The error of a statement without rows is passed on. -/
  | execute {sql : String} {next : Except DatabaseError Nat → Procedure}
    (hfailed : ∀ e, next (.error e) = .done (.error (.database e)))
    (h : ∀ count, PassesErrors (next (.ok count))) : PassesErrors (.execute sql next)
  /-- The error of a transaction is passed on. -/
  | transaction {statements : List String} {next : Except DatabaseError (List Nat) → Procedure}
    (hfailed : ∀ e, next (.error e) = .done (.error (.database e)))
    (h : ∀ counts, PassesErrors (next (.ok counts))) : PassesErrors (.transaction statements next)

/-- What follows on a call in a procedure that passes errors on: if the call or a later one fails,
the error is the outcome. -/
lemma eq_error_of_mem_cons {call : Call} {outcome : Except DatabaseError α}
    {next : Except DatabaseError α → Procedure} {executor : Executor σ} {timeout : Span} {s : σ}
    (hfailed : ∀ e, next (.error e) = .done (.error (.database e)))
    (hrest : ∀ a, outcome = .ok a → ∀ o ∈ (next (.ok a)).observations executor timeout s,
      ∀ e, o.failure = some e → ((next (.ok a)).run executor timeout s).1 = .error (.database e))
    {o : Observation}
    (ho : o ∈ Observation.of call outcome :: (next outcome).observations executor timeout s)
    {e : DatabaseError} (he : o.failure = some e) :
    ((next outcome).run executor timeout s).1 = .error (.database e) := by
  rcases List.mem_cons.mp ho with rfl | ho
  · rw [Observation.failure_of_eq_some he, hfailed]
    rfl
  · cases outcome with
    | ok a => exact hrest a rfl o ho e he
    | error e' =>
      -- After an error nothing more is observed.
      rw [hfailed] at ho
      cases ho

/-- **The errors of calls.** If a call is observed to fail, the outcome is its error. -/
theorem PassesErrors.run_eq_error {p : Procedure} (h : p.PassesErrors) (executor : Executor σ)
    (timeout : Span) (s : σ) : ∀ o ∈ p.observations executor timeout s, ∀ e, o.failure = some e →
      (p.run executor timeout s).1 = .error (.database e) := by
  induction h generalizing s with
  | done => exact nofun
  | query hfailed h ih =>
    exact fun o ho e he => eq_error_of_mem_cons hfailed (fun a _ => ih a _) ho he
  | execute hfailed h ih =>
    exact fun o ho e he => eq_error_of_mem_cons hfailed (fun a _ => ih a _) ho he
  | transaction hfailed h ih =>
    exact fun o ho e he => eq_error_of_mem_cons hfailed (fun a _ => ih a _) ho he

end Procedure

/-! ## Actions -/

namespace Action

/-- The procedure of an action makes at most one call. -/
theorem procedure_makesAtMost (action : Action) : action.procedure.MakesAtMost 1 := by
  cases action with
  | answer | fail => exact .done
  | query => exact .query fun _ => .done
  | execute => exact .execute fun _ => .done
  | transaction => exact .transaction fun _ => .done

/-- The procedure of an action passes the error of its call on. -/
theorem procedure_passesErrors (action : Action) : action.procedure.PassesErrors := by
  cases action with
  | answer | fail => exact .done
  | query => exact .query (fun _ => rfl) fun _ => .done
  | execute => exact .execute (fun _ => rfl) fun _ => .done
  | transaction => exact .transaction (fun _ => rfl) fun _ => .done

/-- The calls that are observed of an action are those that it names. -/
theorem map_call_observations (action : Action) (executor : Executor σ) (timeout : Span) (s : σ) :
    (action.procedure.observations executor timeout s).map Observation.call =
      action.calls timeout := by
  cases action with
  | answer | fail => rfl
  | query | execute | transaction => simp [procedure, Procedure.observations, calls]

/-- Whether an action makes a call, and what it makes of the result is never a refusal. -/
inductive IsCall : Action → Prop
  /-- A query whose result is not refused. -/
  | query {sql : String} {limit : Option Nat} {conclude : ResultSet → Except Failure Json}
    (accepts : ∀ result cause, conclude result = .error cause → ¬ cause.IsRefusal) :
    IsCall (.query sql limit conclude)
  /-- A statement without rows. -/
  | execute {sql : String} {conclude : Nat → Json} : IsCall (.execute sql conclude)
  /-- A transaction. -/
  | transaction {statements : List String} {conclude : List Nat → Json} :
    IsCall (.transaction statements conclude)

/-- A query whose result always makes an answer is a call. -/
lemma IsCall.ofAnswer {sql : String} {limit : Option Nat} {answer : ResultSet → Json} :
    IsCall (.query sql limit fun result => .ok (answer result)) :=
  .query fun _ _ h => nomatch h

/-- A call is made by an action that is one. -/
lemma IsCall.calls_ne_nil {action : Action} (h : action.IsCall) (timeout : Span) :
    action.calls timeout ≠ [] := by
  cases h <;> exact List.cons_ne_nil _ _

/-- What is made of the outcome of a call is no refusal if what is made of its result is none. -/
lemma not_isRefusal_of_passed {conclude : α → Except Failure Json}
    (accepts : ∀ result cause, conclude result = .error cause → ¬ cause.IsRefusal)
    {outcome : Except DatabaseError α} {cause : Failure}
    (h : passed conclude outcome = .error cause) : ¬ cause.IsRefusal := by
  cases outcome with
  | ok a => exact accepts a cause h
  | error e =>
    cases h
    rintro ⟨detail, hdetail⟩
    cases hdetail

/-- Where every result makes an answer, no outcome is a refusal. -/
lemma not_isRefusal_of_answer {answer : α → Json} {outcome : Except DatabaseError α}
    {cause : Failure} (h : passed (fun a => .ok (answer a)) outcome = .error cause) :
    ¬ cause.IsRefusal := by
  refine not_isRefusal_of_passed (fun result cause h => ?_) h
  cases h

/-- **Calls are not refused.** An action that is a call does not end with a refusal. -/
theorem IsCall.not_isRefusal {action : Action} (h : action.IsCall) {executor : Executor σ}
    {timeout : Span} {s : σ} {cause : Failure}
    (hrun : (action.run executor timeout s).1 = .error cause) : ¬ cause.IsRefusal := by
  cases h with
  | query accepts => exact not_isRefusal_of_passed accepts hrun
  | execute => exact not_isRefusal_of_answer hrun
  | transaction => exact not_isRefusal_of_answer hrun

end Action

/-- The observed executor logs its calls. -/
theorem Executor.logs_observed (executor : Executor σ) :
    executor.observed.Logs fun s => s.2.map Observation.call := by
  intro action timeout s
  obtain ⟨s, before⟩ := s
  simp only [Action.run, Procedure.run_observed, List.map_append, Action.map_call_observations]

end PgGateway
