import PgGateway.Catalog.Statement
import PgGateway.Postgres.Limit
import PgGateway.Proofs.Text.Cut
import PgGateway.Proofs.Tool.Calls

set_option autoImplicit false

/-!
# Terminators

A statement is written into another one without the semicolons at its end. The blanks at its ends
are removed once, and then the semicolons, once. So semicolons stay if there are blanks between
them and the last ones.

## Main definitions

* `PgGateway.Sql.EndsInSemicolon` — whether a text ends in a semicolon, blanks aside.
* `PgGateway.Sql.HasSplitTerminator` — whether blanks part the semicolons at the end of a text.

## Main results

* `PgGateway.Sql.endsInSemicolon_withoutTerminator_iff` — when a semicolon is left of a statement.
* `PgGateway.Catalog.embedded_endsInSemicolon_iff` — the same for the statement that is limited, and
  for the one that is explained.
-/

namespace PgGateway.Sql

/-- Whether a text ends in a semicolon, blanks at its end aside. -/
def EndsInSemicolon (s : List Char) : Prop :=
  (Text.trimEnd s).getLast? = some ';'

instance (s : List Char) : Decidable (EndsInSemicolon s) :=
  inferInstanceAs (Decidable (_ = _))

/-- Whether blanks part the semicolons at the end of a text: it ends in a semicolon, blanks, further
semicolons, and perhaps blanks. -/
def HasSplitTerminator (s : List Char) : Prop :=
  ∃ front blanks n back, s = front ++ ';' :: (blanks ++ (List.replicate (n + 1) ';' ++ back)) ∧
    blanks ≠ [] ∧ (∀ c ∈ blanks, Text.isBlank c = true) ∧ ∀ c ∈ back, Text.isBlank c = true

/-- A text with blanks at its end ends in one, which is no semicolon. -/
lemma exists_getLast?_of_blanks {blanks : List Char} (hne : blanks ≠ [])
    (hblanks : ∀ c ∈ blanks, Text.isBlank c = true) (s : List Char) :
    ∃ c, (s ++ blanks).getLast? = some c ∧ Text.isBlank c = true ∧ c ≠ ';' := by
  have hblank := hblanks _ (List.getLast_mem hne)
  refine ⟨blanks.getLast hne, ?_, hblank, ?_⟩
  · rw [List.getLast?_append, List.getLast?_eq_some_getLast hne, Option.some_or]
  · intro heq
    rw [heq] at hblank
    exact absurd hblank (by decide)

/-- A semicolon that is left of a statement is parted by blanks from the ones that are removed.

**Proof sketch.** What is left does not end in a semicolon itself, so blanks follow the semicolon in
it. These are no end of the trimmed statement, so semicolons follow them there. -/
lemma hasSplitTerminator_of_endsInSemicolon {sql : String}
    (h : EndsInSemicolon (withoutTerminator sql).toList) : HasSplitTerminator sql.toList := by
  rw [EndsInSemicolon, withoutTerminator, String.toList_ofList] at h
  obtain ⟨front, back, hsql, -, hback⟩ := Text.exists_append_trim_append sql.toList
  obtain ⟨semicolons, htrim, hsemicolons⟩ :=
    Text.exists_dropEndWhile_append (· == ';') (Text.trim sql.toList)
  have hend := Text.getLast?_dropEndWhile_any (· == ';') (Text.trim sql.toList)
  have htrimmed : (Text.trim sql.toList).getLast?.any Text.isBlank = false :=
    Text.getLast?_dropEndWhile_any Text.isBlank (Text.trimStart sql.toList)
  generalize Text.dropEndWhile (· == ';') (Text.trim sql.toList) = inner at *
  obtain ⟨blanks, hinner, hblanks⟩ := Text.exists_dropEndWhile_append Text.isBlank inner
  obtain ⟨start, hstart⟩ := List.getLast?_eq_some_iff.mp h
  rw [show Text.dropEndWhile Text.isBlank inner = start ++ [';'] from hstart] at hinner
  have hparted : blanks ≠ [] := by
    rintro rfl
    rw [hinner] at hend
    simp at hend
  have hremoved : semicolons ≠ [] := by
    rintro rfl
    obtain ⟨c, hc, hblank, -⟩ := exists_getLast?_of_blanks hparted hblanks (start ++ [';'])
    rw [htrim, List.append_nil, hinner, hc, Option.any_some, hblank] at htrimmed
    cases htrimmed
  obtain ⟨n, hn⟩ := Nat.exists_eq_succ_of_ne_zero (mt List.length_eq_zero_iff.mp hremoved)
  have hreplicate : semicolons = List.replicate (n + 1) ';' :=
    List.eq_replicate_iff.mpr ⟨hn, fun c hc => by simpa using hsemicolons c hc⟩
  refine ⟨front ++ start, blanks, n, back, ?_, hparted, hblanks, hback⟩
  rw [hsql, htrim, hinner, hreplicate]
  simp

/-- Of the semicolons at the end of a statement that blanks part, one before the blanks is left. -/
lemma endsInSemicolon_of_hasSplitTerminator {sql : String} (h : HasSplitTerminator sql.toList) :
    EndsInSemicolon (withoutTerminator sql).toList := by
  obtain ⟨front, blanks, n, back, hsql, hne, hblanks, hback⟩ := h
  let left := Text.trimStart front ++ [';'] ++ blanks
  let semicolons := List.replicate (n + 1) ';'
  have hstart : Text.trimStart sql.toList = left ++ semicolons ++ back := by
    rw [hsql, Text.trimStart_append_cons (by decide)]
    simp [left, semicolons]
  have htrim : Text.trim sql.toList = left ++ semicolons := by
    have hlast : (left ++ semicolons).getLast?.any Text.isBlank = false := by
      simp [semicolons, List.replicate_succ', List.getLast?_append, Text.isBlank]
    rw [Text.trim, hstart, Text.trimEnd, Text.dropEndWhile_append_of_forall hback]
    exact Text.trimEnd_eq_self.mpr hlast
  have hinner : Text.dropEndWhile (· == ';') (Text.trim sql.toList) = left := by
    obtain ⟨c, hc, -, hsemicolon⟩ :=
      exists_getLast?_of_blanks hne hblanks (Text.trimStart front ++ [';'])
    rw [htrim, Text.dropEndWhile_append_of_forall (by simp [semicolons]),
      Text.dropEndWhile_eq_self, hc, Option.any_some]
    exact beq_eq_false_iff_ne.mpr hsemicolon
  have hend : Text.trimEnd left = Text.trimStart front ++ [';'] := by
    rw [Text.trimEnd, Text.dropEndWhile_append_of_forall hblanks]
    exact Text.trimEnd_eq_self.mpr (by simp [Text.isBlank])
  rw [EndsInSemicolon, withoutTerminator, String.toList_ofList, hinner, hend,
    List.getLast?_concat]

/-- **Semicolons that are left.** A statement without its terminator ends in a semicolon, blanks
aside, exactly if blanks part the semicolons at the end of the statement. -/
theorem endsInSemicolon_withoutTerminator_iff (sql : String) :
    EndsInSemicolon (withoutTerminator sql).toList ↔ HasSplitTerminator sql.toList :=
  ⟨hasSplitTerminator_of_endsInSemicolon, endsInSemicolon_of_hasSplitTerminator⟩

/-- A statement is sent without its terminator, alone or inside another one. -/
lemma limited_eq (sql : String) (limit : Option Nat) :
    limited sql limit = withoutTerminator sql ∨
      ∃ n, limit = some n ∧ limited sql limit = wrapped (withoutTerminator sql) (n + 1) := by
  cases limit with
  | none => exact .inl rfl
  | some n =>
    rw [limited]
    split
    · exact .inr ⟨n, rfl, rfl⟩
    · exact .inl rfl

end PgGateway.Sql

namespace PgGateway.Catalog

open Sql

/-- The tool that explains hands over its options and the statement without its terminator. -/
lemma Explain.statements_eq {given : Json} {a : Explain} (hread : Explain.read given = .ok a)
    {c : Context} (hcall : Explain.tool.calls c given ≠ []) :
    Explain.tool.statements c given =
      ["EXPLAIN (" ++ Text.join ", " a.options ++ ") " ++ withoutTerminator a.sql] := by
  have haction : Explain.tool.act c given = Tool.actionOf Explain.read Explain.plan given := rfl
  rw [Tool.calls, haction] at hcall
  obtain ⟨a', action, hread', hplan, hact⟩ := Tool.actionOf_eq_of_calls hcall
  obtain rfl : a = a' := Except.ok.inj (hread.symm.trans hread')
  rw [Tool.statements, Tool.calls, haction, hact]
  rw [Explain.plan, Explain.sql?] at hplan
  split at hplan
  · cases hplan
  · cases hplan
    rfl

/-- **Terminators inside other statements.** A statement that is limited is sent without its
terminator, alone or inside the statement that limits it, and so is one that is explained, behind
the options. What is left of it there ends in a semicolon, blanks aside, exactly if blanks part the
semicolons at the end of the statement. -/
theorem embedded_endsInSemicolon_iff (sql : String) :
    (∀ limit, limited sql limit = withoutTerminator sql ∨
      ∃ n, limit = some n ∧ limited sql limit = wrapped (withoutTerminator sql) (n + 1)) ∧
    (∀ (c : Context) (given : Json) (a : Explain), Explain.read given = .ok a → a.sql = sql →
      Explain.tool.calls c given ≠ [] → Explain.tool.statements c given =
        ["EXPLAIN (" ++ Text.join ", " a.options ++ ") " ++ withoutTerminator sql]) ∧
    (EndsInSemicolon (withoutTerminator sql).toList ↔ HasSplitTerminator sql.toList) := by
  refine ⟨limited_eq sql, fun c given a hread hsql hcall => ?_,
    endsInSemicolon_withoutTerminator_iff sql⟩
  rw [← hsql]
  exact Explain.statements_eq hread hcall

/-- Semicolons in a literal and in the middle, and two at the end, where blanks stand before and
behind them only. -/
theorem embedded_endsInSemicolon_iff_of_joined_semicolons :
    let sql := " SELECT ';' ; SELECT 2 ;;
"
    let given := Json.obj [("buffers", .bool true), ("sql", .str sql)]
    Explain.read given = .ok ⟨sql, false, true⟩ ∧ Explain.tool.calls {} given ≠ [] ∧
      Explain.tool.statements {} given = ["EXPLAIN (FORMAT JSON) SELECT ';' ; SELECT 2 "] ∧
      ¬ HasSplitTerminator sql.toList := by
  intro sql given
  have hread : Explain.read given = .ok ⟨sql, false, true⟩ := by rfl
  have hcall : Explain.tool.calls {} given ≠ [] := by decide +kernel
  have hinner : withoutTerminator sql = "SELECT ';' ; SELECT 2 " := by decide +kernel
  obtain ⟨-, hexplained, hends⟩ := embedded_endsInSemicolon_iff sql
  have hstatements := hexplained {} given _ hread rfl hcall
  rw [hinner] at hstatements hends
  exact ⟨hread, hcall, hstatements, mt hends.mpr (by decide +kernel)⟩

/-- **A semicolon that is left.** Of two semicolons with a blank between them one is left: inside
the statement that limits, in the statement by itself, and behind the options of the one that
explains. -/
theorem endsInSemicolon_of_parted_semicolons :
    let sql := "SELECT 1; ;"
    limited sql (some 10) = wrapped "SELECT 1; " 11 ∧ limited sql none = "SELECT 1; " ∧
      Explain.tool.statements {} (.obj [("sql", .str sql)]) =
        ["EXPLAIN (FORMAT JSON) SELECT 1; "] ∧
      EndsInSemicolon "SELECT 1; ".toList := by
  decide +kernel

end PgGateway.Catalog
