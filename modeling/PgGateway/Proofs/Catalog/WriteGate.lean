import PgGateway.Catalog.Statement
import PgGateway.Proofs.Sql.Explained
import PgGateway.Proofs.Tool.Calls

set_option autoImplicit false

/-!
# The gate for statements that change data

Two tools take a statement only if it reads: the one that reads, and the one that explains, if it is
to run the statement. The latter looks at the statement that it explains. The former looks at the
text as a whole, so it lets statements that change data through if they are explained.

## Main results

* `PgGateway.Catalog.ReadQuery.calls_eq_nil_iff` — which statements are refused by the tool that
  reads.
* `PgGateway.Catalog.Explain.calls_eq_nil` — the tool that explains runs no statement that may
  change data.
* `PgGateway.Catalog.explainAnalyze_calls_eq_nil_iff` — when neither tool makes a call for a
  statement that may change data.
-/

namespace PgGateway.Catalog

open Sql

/-- The tool that reads makes no call exactly if the statement may change data. -/
theorem ReadQuery.calls_eq_nil_iff {given : Json} {a : ReadQuery}
    (hread : ReadQuery.read given = .ok a) (c : Context) :
    ReadQuery.tool.calls c given = [] ↔ isReadOnly a.sql = false := by
  have haction : ReadQuery.tool.act c given = Tool.actionOf ReadQuery.read ReadQuery.plan given :=
    rfl
  rw [Tool.calls, haction, Tool.actionOf, hread]
  simp only [ReadQuery.plan]
  cases hkind : isReadOnly a.sql <;> simp [Action.calls]

/-- The tool that explains makes no call if it is to run a statement that may change data. -/
theorem Explain.calls_eq_nil {given : Json} {a : Explain} (hread : Explain.read given = .ok a)
    (hanalyze : a.analyze = true) (hkind : isReadOnly a.sql = false) (c : Context) :
    Explain.tool.calls c given = [] := by
  have hrefused : a.plan =
      .error (refused "EXPLAIN ANALYZE is only allowed for read-only statements") := by
    simp [Explain.plan, Explain.sql?, hanalyze, hkind]
  have haction : Explain.tool.act c given = Tool.actionOf Explain.read Explain.plan given := rfl
  rw [Tool.calls, haction, Tool.actionOf, hread]
  simp only [hrefused]
  rfl

/-- **The gate under explanation.** Take a statement that may change data, and a text that runs it
to explain it, behind any blanks, comments and parentheses. Neither the tool that reads, given the
text, nor the tool that explains, given the statement to run, makes a call exactly if the keyword of
the text is not exposed.

**Proof sketch.** The tool that explains refuses the statement (`Explain.calls_eq_nil`). The tool
that reads refuses what does not count as reading (`ReadQuery.calls_eq_nil_iff`), and the text
counts as reading exactly if its keyword is exposed (`isReadOnly_of_isExplainAnalyze`). -/
theorem explainAnalyze_calls_eq_nil_iff {w p : List Char} (marks : List Mark)
    (hkind : isReadOnly (String.ofList w) = false) (hp : IsExplainAnalyze p) {given given' : Json}
    {a : ReadQuery} {b : Explain} (hread : ReadQuery.read given = .ok a)
    (hsql : a.sql = String.ofList (Mark.text marks ++ (p ++ w)))
    (hexplain : Explain.read given' = .ok b) (hanalyze : b.analyze = true)
    (hstatement : b.sql = String.ofList w) (c : Context) :
    (ReadQuery.tool.calls c given = [] ∧ Explain.tool.calls c given' = []) ↔
      isExposed marks (p ++ w) = false := by
  have hrefused := Explain.calls_eq_nil hexplain hanalyze (hstatement ▸ hkind) c
  rw [ReadQuery.calls_eq_nil_iff hread, hsql, isReadOnly_of_isExplainAnalyze hp]
  exact and_iff_left hrefused

/-- The keyword is not exposed behind a comment of two lines, so nothing is run. -/
theorem explainAnalyze_calls_eq_nil_behind_comment :
    let given := Json.obj [("sql", .str "/* 1\n2 */EXPLAIN ANALYZE DELETE FROM t")]
    let given' := Json.obj [("analyze", .bool true), ("sql", .str "DELETE FROM t")]
    ReadQuery.tool.calls {} given = [] ∧ Explain.tool.calls {} given' = [] := by
  intro given given'
  have hkind : isReadOnly (String.ofList "DELETE FROM t".toList) = false := by decide
  have hp := @IsExplainAnalyze.plain "EXPLAIN".toList "ANALYZE".toList [.blank ' ' rfl]
    [.blank ' ' rfl] rfl nofun rfl
  have hread : ReadQuery.read given =
      .ok ⟨"/* 1\n2 */EXPLAIN ANALYZE DELETE FROM t", none⟩ := by rfl
  have hexplain : Explain.read given' = .ok ⟨"DELETE FROM t", true, false⟩ := by rfl
  exact (explainAnalyze_calls_eq_nil_iff [.gap (.block " 1\n2 */".toList rfl)] hkind hp hread
    (by rfl) hexplain rfl rfl {}).2 rfl

/-- A statement that changes data is run by the tool that reads if it is explained. -/
theorem readQuery_statements_of_explained_delete :
    isReadOnly "DELETE FROM t" = false ∧ IsExplainAnalyze "EXPLAIN ANALYZE ".toList ∧
      ReadQuery.tool.statements {}
        (.obj [("sql", .str ("EXPLAIN ANALYZE " ++ "DELETE FROM t"))]) =
          ["EXPLAIN ANALYZE DELETE FROM t"] :=
  ⟨by decide, @IsExplainAnalyze.plain "EXPLAIN".toList "ANALYZE".toList [.blank ' ' rfl]
    [.blank ' ' rfl] rfl nofun rfl, by decide⟩

end PgGateway.Catalog
