import PgGateway.Catalog.Statement
import PgGateway.Proofs.Postgres.Answered
import PgGateway.Proofs.Shape.Reader
import PgGateway.Proofs.Shape.Record
import PgGateway.Proofs.Tool.Calls

set_option autoImplicit false

/-!
# Transactions as their callers number them

The tool for transactions reads a list of statements, passes over the blank ones, and hands the
others to the executor, which numbers what it is handed. So the place that an error names is that in
the list of the caller only if no blank entry stands before it.

## Main definitions

* `PgGateway.Catalog.Transaction.IsStatement` — what denotes a statement in the list of a caller.
* `PgGateway.Catalog.Transaction.IsGiven` — arguments that give a list.

## Main results

* `PgGateway.Catalog.Transaction.read_eq_ok_iff` — the arguments that are read.
* `PgGateway.Catalog.Transaction.run_eq_ok_iff` — what is run when the tool succeeds.
* `PgGateway.Catalog.Transaction.run_names_place_iff` — the place that the error of the tool names,
  and what is run when the tool succeeds.
-/

namespace PgGateway.Catalog.Transaction

open Shape

/-! ## The list of the caller -/

/-- Whether an item of a list denotes a statement: it is a string, or an object that holds one. -/
inductive IsStatement : Json → String → Prop
  /-- A string. -/
  | plain (sql : String) : IsStatement (.str sql) sql
  /-- An object. Its other members do not matter. -/
  | object {ms : List (String × Json)} {sql : String} (hsql : valuesOf "sql" ms = [.str sql]) :
    IsStatement (.obj ms) sql

/-- Whether arguments give a list: they are an object that holds it, or a list with it as the only
item. -/
inductive IsGiven : Json → List Json → Prop
  /-- An object. Its other members do not matter. -/
  | object {ms : List (String × Json)} {items : List Json}
    (hitems : valuesOf "statements" ms = [.arr items]) : IsGiven (.obj ms) items
  /-- A list. -/
  | list (items : List Json) : IsGiven (.arr [.arr items]) items

/-- What an object denotes that holds a statement. -/
lemma isStatement_obj_iff {ms : List (String × Json)} {sql : String} :
    IsStatement (.obj ms) sql ↔ valuesOf "sql" ms = [.str sql] := by
  refine ⟨fun h => ?_, .object⟩
  cases h with
  | object hsql => exact hsql

/-- The list that an object gives. -/
lemma isGiven_obj_iff {ms : List (String × Json)} {items : List Json} :
    IsGiven (.obj ms) items ↔ valuesOf "statements" ms = [.arr items] := by
  refine ⟨fun h => ?_, .object⟩
  cases h with
  | object hitems => exact hitems

/-- The list that a list gives. -/
lemma isGiven_arr_iff {js items : List Json} : IsGiven (.arr js) items ↔ js = [.arr items] := by
  constructor
  · intro h
    cases h with
    | list => rfl
  · rintro rfl
    exact .list items

/-- A string, or an object that holds one, is read as a statement, and nothing else is. -/
lemma statement_eq_ok_iff {j : Json} {sql : String} :
    statement j = .ok sql ↔ IsStatement j sql := by
  cases j with
  | str s =>
    have hread : statement (.str s) = .ok s := rfl
    rw [hread, Except.ok.injEq]
    exact ⟨fun h => h ▸ .plain s, fun h => by cases h; rfl⟩
  | obj ms =>
    have hone : statement (.obj ms) = .ok sql ↔ statementObject (.obj ms) = .ok sql := by
      simp only [statement, oneOf, List.findSome?, text, Except.toOption]
      cases statementObject (.obj ms) <;> simp
    have hobject : statementObject (.obj ms) = .ok sql ↔ valuesOf "sql" ms = [.str sql] := by
      refine (Record.read_obj_eq_ok_iff_of_one (f := Field.required "sql" text) (a := sql)
        (r := ⟨"struct variant Statement::Object", _, fun given =>
          (Field.required "sql" text).of given⟩) rfl rfl rfl fun given => Iff.rfl).trans ?_
      simp [Field.required, text_eq_ok_iff]
    rw [hone, hobject, isStatement_obj_iff]
  | null | bool | int | float | arr => exact iff_of_false (by rintro ⟨⟩) (by rintro ⟨⟩)

/-- A list of what denotes statements is read as these statements. -/
lemma list_statement_eq_ok_iff {value : Json} {statements : List String} :
    list statement value = .ok statements ↔
      ∃ items, value = .arr items ∧ List.Forall₂ IsStatement items statements := by
  simp only [list_eq_ok_iff, statement_eq_ok_iff]

/-- **The arguments of a transaction.** Arguments are read exactly if they give a list all of whose
items denote statements, and these are the statements of the transaction, in order. -/
theorem read_eq_ok_iff {given : Json} {a : Transaction} :
    read given = .ok a ↔
      ∃ items, IsGiven given items ∧ List.Forall₂ IsStatement items a.statements := by
  let f := Field.required "statements" (list statement)
  have hbuild : ∀ given : Given, (do return ⟨← f.of given⟩ : Except Mismatch Transaction) = .ok a ↔
      f.of given = .ok a.statements := by
    intro given
    obtain ⟨statements⟩ := a
    cases f.of given with
    | error e => exact iff_of_false (by rintro ⟨⟩) (by rintro ⟨⟩)
    | ok statements' => exact ⟨fun h => by cases h; rfl, fun h => by cases h; rfl⟩
  have hvalues : ∀ {p : Json → Prop} {q : List Json → Prop}, (∀ items, q items ↔ p (.arr items)) →
      ((∃ value, p value ∧ f.read value = .ok a.statements) ↔
        ∃ items, q items ∧ List.Forall₂ IsStatement items a.statements) := by
    intro p q hpq
    constructor
    · rintro ⟨value, hp, hvalue⟩
      obtain ⟨items, rfl, hitems⟩ := list_statement_eq_ok_iff.mp hvalue
      exact ⟨items, (hpq items).mpr hp, hitems⟩
    · rintro ⟨items, hq, hitems⟩
      exact ⟨.arr items, (hpq items).mp hq, list_statement_eq_ok_iff.mpr ⟨items, rfl, hitems⟩⟩
  cases given with
  | obj ms =>
    exact (Record.read_obj_eq_ok_iff_of_one (f := f) rfl rfl rfl hbuild).trans
      (hvalues fun items => isGiven_obj_iff)
  | arr js =>
    exact (Record.read_arr_eq_ok_iff_of_one (f := f) rfl rfl hbuild).trans
      (hvalues fun items => isGiven_arr_iff)
  | null | bool | int | float | str =>
    exact iff_of_false (by rintro ⟨⟩) (by rintro ⟨items, ⟨⟩, -⟩)

/-! ## What the tool runs -/

/-- Whether a statement is blank. -/
def isBlank (sql : String) : Bool :=
  sql.toList.all Text.isBlank

/-- The statements that take effect are those that are not blank. -/
lemma effective_eq (a : Transaction) :
    a.effective = a.statements.filter fun sql => !isBlank sql := by
  have hblank : ∀ sql : String, (Text.strip sql).isEmpty = isBlank sql := by
    intro sql
    rw [Bool.eq_iff_iff, String.isEmpty_iff, Text.strip, isBlank, List.all_eq_true,
      ← Text.trim_eq_nil_iff]
    simp
  simp only [effective, hblank]

/-- The tool runs the statements that take effect, if there are any. -/
lemma run_eq {given : Json} {a : Transaction} (hread : read given = .ok a) (c : Context) {β : Type}
    (b : Backend β) (p : Pool β) :
    (tool.act c given).run (Pool.executor b) c.timeout p =
      if a.effective.isEmpty then
        (.error (.tool (refused "At least one statement is required")), p)
      else
        Action.concluded (fun counts => .ok (success [("statements", .nat a.effective.length),
          ("rows_affected", .arr (counts.map .nat))]))
          (Pool.transaction b a.effective c.timeout p) := by
  have haction : tool.act c given = Tool.actionOf read plan given := rfl
  rw [haction, Tool.actionOf, hread]
  dsimp only
  rw [plan]
  cases a.effective.isEmpty <;> rfl

/-- A call that fails makes the tool fail with its error. -/
lemma concluded_eq_error {α σ : Type} {conclude : α → Except Failure Json}
    {called : Except DatabaseError α × σ} {e : DatabaseError} (h : called.1 = .error e) :
    (Action.concluded conclude called).1 = .error (.database e) := by
  obtain ⟨result, s⟩ := called
  obtain rfl : result = .error e := h
  rfl

/-- A tool that makes an answer of the result succeeds exactly if the call does. -/
lemma concluded_eq_ok_iff {α σ : Type} {answerOf : α → Json}
    {called : Except DatabaseError α × σ} {answer : Json} {s : σ} :
    Action.concluded (fun a => .ok (answerOf a)) called = (.ok answer, s) ↔
      ∃ a, called = (.ok a, s) ∧ answer = answerOf a := by
  obtain ⟨result, s'⟩ := called
  cases result with
  | error e => simp [Action.concluded, Action.passed]
  | ok a => simp [Action.concluded, Action.passed, eq_comm, and_comm]

section Run

variable {given : Json} {a : Transaction} {β : Type} {b : Backend β} {p : Pool β}

/-- The error of the tool names the place of the first statement that fails among those that are not
blank. -/
lemma run_eq_error_of_failsFirst (hread : read given = .ok a) (c : Context) {server : β}
    {place : Nat} {f : Fault} (hbegins : Pool.Begins b p server)
    (hfails : Pool.FailsFirst b isBlank server a.statements place f) :
    ((tool.act c given).run (Pool.executor b) c.timeout p).1 =
      .error (.database (Pool.errorOf c.timeout
        (Pool.statementFailed (Pool.placeAmong isBlank a.statements place)) f)) := by
  rw [run_eq hread, effective_eq, List.isEmpty_eq_false_iff.mpr hfails.filter_ne_nil,
    if_neg Bool.false_ne_true]
  exact concluded_eq_error (hfails.transaction_eq hbegins c.timeout)

/-- The tool succeeds exactly if there are statements that are not blank, and the transaction of all
of them is committed. -/
lemma run_eq_ok_iff (hread : read given = .ok a) (c : Context) {answer : Json} {p' : Pool β} :
    (tool.act c given).run (Pool.executor b) c.timeout p = (.ok answer, p') ↔
      ∃ done, done.map Prod.fst = a.statements.filter (fun sql => !isBlank sql) ∧ done ≠ [] ∧
        Pool.Commits b p done p' ∧
        answer = success [("statements", .nat done.length),
          ("rows_affected", .arr ((Pool.counts done).map .nat))] := by
  have hlength : ∀ {done : List (String × Answer)}, done.map Prod.fst = a.effective →
      a.effective.length = done.length := by
    intro done hdone
    rw [← hdone, List.length_map]
  rw [run_eq hread, ← effective_eq]
  cases hempty : a.effective.isEmpty with
  | true =>
    refine iff_of_false (by simp) ?_
    rintro ⟨done, hdone, hne, -⟩
    rw [← hdone, List.isEmpty_iff, List.map_eq_nil_iff] at hempty
    exact hne hempty
  | false =>
    rw [if_neg Bool.false_ne_true, concluded_eq_ok_iff]
    simp only [Pool.transaction_eq_ok_iff]
    constructor
    · rintro ⟨_, ⟨done, hdone, hcommits, rfl⟩, hanswer⟩
      refine ⟨done, hdone, ?_, hcommits, hlength hdone ▸ hanswer⟩
      rintro rfl
      simp [← hdone] at hempty
    · rintro ⟨done, hdone, -, hcommits, hanswer⟩
      exact ⟨_, ⟨done, hdone, hcommits, rfl⟩, hlength hdone ▸ hanswer⟩

end Run

/-- **Places and statements of a transaction.** Take arguments that give a list of statements, some
of them perhaps blank. If the statement in some place of the list is the first one that fails, the
error of the tool names the number of the statements before it that are not blank; so it names the
place in the list exactly if no statement before is blank. A server that does not answer in time is
reported as such, without a place. The tool succeeds exactly if the transaction of all statements
that are not blank, in order and as they are given, is committed, and there is one.

**Proof sketch.** The arguments are read as the statements of the list (`read_eq_ok_iff`), and what
is run is a transaction of those that are not blank. Its error names a place among these
(`run_eq_error_of_failsFirst`), and a number is read off its text
(`Pool.names_statementFailed_iff`). When it succeeds is `run_eq_ok_iff`. -/
theorem run_names_place_iff {given : Json} {items : List Json} {statements : List String}
    (hgiven : IsGiven given items) (hitems : List.Forall₂ IsStatement items statements)
    (c : Context) {β : Type} (b : Backend β) (p : Pool β) :
    let run := (tool.act c given).run (Pool.executor b) c.timeout p
    (∀ server place f, Pool.Begins b p server →
      Pool.FailsFirst b isBlank server statements place f →
        run.1 = .error (.database (Pool.errorOf c.timeout
          (Pool.statementFailed (Pool.placeAmong isBlank statements place)) f)) ∧
        (f ≠ .stalled →
          ((∃ detail, run.1 = .error (.database (Pool.statementFailed place detail))) ↔
            ∀ sql ∈ statements.take place, isBlank sql = false))) ∧
    ∀ answer p', run = (.ok answer, p') ↔
      ∃ done, done.map Prod.fst = statements.filter (fun sql => !isBlank sql) ∧ done ≠ [] ∧
        Pool.Commits b p done p' ∧
        answer = success [("statements", .nat done.length),
          ("rows_affected", .arr ((Pool.counts done).map .nat))] := by
  intro run
  have hread : read given = .ok ⟨statements⟩ := read_eq_ok_iff.mpr ⟨items, hgiven, hitems⟩
  refine ⟨fun server place f hbegins hfails => ?_, fun answer p' => run_eq_ok_iff hread c⟩
  have herror : run.1 = _ := run_eq_error_of_failsFirst hread c hbegins hfails
  refine ⟨herror, fun hf => ?_⟩
  rw [herror, ← Pool.placeAmong_eq_iff hfails.place_lt]
  simp only [Except.error.injEq, Failure.database.injEq]
  exact (Pool.names_statementFailed_iff hf).trans eq_comm

/-- A statement as a string that is answered, one in an object that the server refuses, and a blank
entry behind them. -/
theorem run_names_place_iff_of_blank_behind :
    let items := [.str "UPDATE a SET b = 1", .obj [("sql", .str "DROP TABLE c")], .str " "]
    let given := Json.obj [("statements", .arr items)]
    let statements := ["UPDATE a SET b = 1", "DROP TABLE c", " "]
    let p : Pool Script := ⟨{ replies := [.answer { affected := 2 }, .fault .rejected] }, true⟩
    let server := { p.server with received := ["START TRANSACTION"] }
    IsGiven given items ∧ List.Forall₂ IsStatement items statements ∧
      Pool.Begins Script.backend p server ∧
      Pool.FailsFirst Script.backend isBlank server statements 1 .rejected ∧
      ((tool.act {} given).run (Pool.executor Script.backend) (.ofSeconds 30) p).1 =
        .error (.database (.transaction "statement 1 failed: db error")) := by
  intro items given statements p server
  have hgiven : IsGiven given items := .object rfl
  have hitems : List.Forall₂ IsStatement items statements :=
    .cons (.plain _) (.cons (.object rfl) (.cons (.plain _) .nil))
  have hbegins : Pool.Begins Script.backend p server := ⟨p, rfl, rfl⟩
  have hfails : Pool.FailsFirst Script.backend isBlank server statements 1 .rejected :=
    .answered (by decide +kernel) rfl (.here (by decide +kernel) rfl)
  obtain ⟨herror, -⟩ := run_names_place_iff hgiven hitems {} Script.backend p
  obtain ⟨herror, -⟩ := herror server 1 .rejected hbegins hfails
  have hnamed : Pool.statementFailed (Pool.placeAmong isBlank statements 1) "db error" =
      .transaction "statement 1 failed: db error" := by decide +kernel
  exact ⟨hgiven, hitems, hbegins, hfails, hnamed ▸ herror⟩

/-- **A place that is not that of the caller.** Behind a blank entry the statement that fails is
numbered as if the entry did not stand before it. -/
theorem run_names_other_place_behind_blank :
    let given := Json.obj [("statements", .arr [.str " ", .str "DROP TABLE c"])]
    let p : Pool Script := ⟨{ replies := [.fault .rejected] }, true⟩
    let server := { p.server with received := ["START TRANSACTION"] }
    Pool.Begins Script.backend p server ∧
      Pool.FailsFirst Script.backend isBlank server [" ", "DROP TABLE c"] 1 .rejected ∧
      ((tool.act {} given).run (Pool.executor Script.backend) (.ofSeconds 30) p).1 =
        .error (.database (Pool.statementFailed 0 "db error")) ∧
      ∀ detail, Pool.statementFailed 0 "db error" ≠ Pool.statementFailed 1 detail := by
  refine ⟨⟨_, rfl, rfl⟩, .passed (by decide +kernel) (.here (by decide +kernel) rfl), ?_, ?_⟩
  · rfl
  · intro detail h
    exact absurd (Pool.eq_of_statementFailed_eq h) (by decide)

end PgGateway.Catalog.Transaction
