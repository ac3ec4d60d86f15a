import PgGateway.Postgres.Limit
import PgGateway.Proofs.Sql.Leading
import PgGateway.Proofs.Text.Cut

set_option autoImplicit false

/-!
# Limited statements that read

A statement is taken for reading as the caller wrote it, and once more without its terminator
before it is wrapped. The two agree, so a statement that reads is sent without a limit only if it
shows or explains.

## Main results

* `PgGateway.Sql.isReadOnly_withoutTerminator` — a statement that reads also reads without its
  terminator, and begins with the same keyword.
* `PgGateway.Sql.isNestableBy_eq` — of the statements that read, those that can stand inside another
  one are told by their keyword, whatever the capitals of other letters are.
* `PgGateway.Sql.limited_of_isReadOnly` — a statement that reads is wrapped unless it shows or
  explains.
-/

namespace PgGateway.Sql

open Dialect

/-! ## The end of a statement -/

/-- What may be removed from the end of a statement begins and ends no comment. -/
lemma ne_of_isBlankOr {c : Char} (h : isBlankOr ';' c = true) : c ≠ '-' ∧ c ≠ '*' ∧ c ≠ '/' := by
  refine ⟨?_, ?_, ?_⟩ <;> rintro rfl <;> exact absurd h (by decide)

/-- A statement is what is left of it without its terminator, between blanks and what may be removed
from its end. -/
lemma exists_append_withoutTerminator (sql : String) :
    ∃ front back, sql.toList = front ++ ((withoutTerminator sql).toList ++ back) ∧
      (∀ c ∈ front, Text.isBlank c = true) ∧ ∀ c ∈ back, isBlankOr ';' c = true := by
  obtain ⟨front, blanks, hsql, hfront, hblanks⟩ := Text.exists_append_trim_append sql.toList
  obtain ⟨semicolons, htrim, hsemicolons⟩ :=
    Text.exists_dropEndWhile_append (· == ';') (Text.trim sql.toList)
  refine ⟨front, semicolons ++ blanks, ?_, hfront, fun c hc => ?_⟩
  · rw [withoutTerminator, String.toList_ofList, ← List.append_assoc _ semicolons, ← htrim]
    exact hsql
  · rw [isBlankOr, Bool.or_eq_true]
    rcases List.mem_append.mp hc with hsemicolon | hblank
    · exact .inr (hsemicolons c hsemicolon)
    · exact .inl (hblanks c hblank)

/-- Behind a statement, what may be removed from its end is skipped only together with a comment
that is not ended, and then nothing else is left.

**Proof sketch.** Induction on the blanks and comments. One of the statement is skipped with and
without the end; a line comment that ends with the statement goes on over the end; and where no
blank or comment begins, the end makes none. -/
lemma skipGaps_append {back : List Char} (hback : ∀ c ∈ back, isBlankOr ';' c = true)
    (s : List Char) :
    skipGaps (s ++ back) = skipGaps s ++ back ∨
      ∀ c ∈ skipGaps (s ++ back), isBlankOr ';' c = true := by
  have hskipped : ∀ t, t <:+ back → ∀ c ∈ skipGaps t, isBlankOr ';' c = true := fun t ht c hc =>
    hback c (((removes_skipGaps t).1.isSuffix.trans ht).mem hc)
  induction s using gaps_induction with
  | stop s hgap =>
    by_cases hs : s = []
    · subst hs
      exact .inr (hskipped back (List.suffix_refl back))
    · have happend := afterGap?_append_eq_none hs hgap fun c hc => ne_of_isBlankOr (hback c hc)
      rw [skipGaps_eq (s ++ back), happend, skipGaps_eq s, hgap]
      exact .inl rfl
  | skip s t hgap ih =>
    rcases after?_eq_some ((gateway_after? s).trans hgap) with
      ⟨g, hg, rfl⟩ | ⟨rfl, text, htext, rfl⟩
    · have happend : afterGap? (g ++ t ++ back) = some (t ++ back) := by
        rw [← gateway_after?, List.append_assoc, after?_append hg]
      rw [skipGaps_eq (g ++ t ++ back), happend, skipGaps_eq (g ++ t), hgap]
      exact ih
    · have happend : afterGap? ('-' :: '-' :: text ++ back) = some (gateway.afterLine back) := by
        rw [← gateway_after?]
        exact congrArg some (afterLine_append_of_forall htext back)
      rw [skipGaps_eq ('-' :: '-' :: text ++ back), happend]
      exact .inr (hskipped _ ((List.tail_suffix _).trans (List.dropWhile_suffix _)))

/-- The end of a statement is the end of its body if the body begins with a letter. -/
lemma body_append {s back t : List Char} {c : Char} (hback : ∀ c ∈ back, isBlankOr ';' c = true)
    (hbody : body (s ++ back) = c :: t) (hc : isAsciiLetter c = true) :
    body (s ++ back) = body s ++ back := by
  have hmem : ∀ u : List Char, c ∈ u → ¬ ∀ c ∈ u, isBlankOr ';' c = true := by
    intro u hcu hu
    rw [isAsciiLetter_of_isBlankOr (by decide) (hu c hcu)] at hc
    cases hc
  have hstart : c ∈ body (s ++ back) := by
    rw [hbody]
    exact List.mem_cons_self
  rcases skipGaps_append hback s with happend | hending
  · have hdrop : body (s ++ back) =
        if (body s).isEmpty then back.dropWhile isFiller else body s ++ back := by
      rw [body, happend, List.dropWhile_append]
      rfl
    rw [hdrop]
    split
    · next hempty =>
      rw [hdrop, if_pos hempty] at hstart
      exact absurd hback (hmem back ((List.dropWhile_suffix _).mem hstart))
    · rfl
  · exact absurd hending (hmem _ ((List.dropWhile_suffix _).mem hstart))

/-- A statement that reads begins with a letter, behind comments and parentheses. -/
lemma exists_body_eq_cons {s : List Char} (h : isReadOnly (String.ofList s) = true) :
    ∃ c t, body s = c :: t ∧ isAsciiLetter c = true := by
  cases hbody : body s with
  | nil =>
    rw [isReadOnly_of_body_eq (t := []) hbody] at h
    exact absurd h (by decide)
  | cons c t =>
    refine ⟨c, t, rfl, ?_⟩
    by_contra hc
    rw [Bool.not_eq_true] at hc
    rw [isReadOnly_of_body_eq_cons hbody hc] at h
    cases h

/-- The first letters of a text are found before what may be removed from its end. -/
lemma takeWhile_append_of_forall {back : List Char} (hback : ∀ c ∈ back, isBlankOr ';' c = true)
    (s : List Char) : (s ++ back).takeWhile isAsciiLetter = s.takeWhile isAsciiLetter := by
  cases back with
  | nil => rw [List.append_nil]
  | cons z back =>
    have hz := isAsciiLetter_of_isBlankOr (by decide) (hback z List.mem_cons_self)
    exact takeWhile_append_cons hz s back

/-- **The terminator does not matter.** A statement that reads also reads without its terminator and
the blanks around it, and begins with the same keyword. -/
theorem isReadOnly_withoutTerminator {sql : String} (h : isReadOnly sql = true) :
    isReadOnly (withoutTerminator sql) = true ∧
      firstKeyword (withoutTerminator sql) = firstKeyword sql := by
  obtain ⟨front, back, hsql, hfront, hback⟩ := exists_append_withoutTerminator sql
  have hstart : body sql.toList = body ((withoutTerminator sql).toList ++ back) := by
    rw [hsql, body_append_of_isGaps (isGaps_of_forall_isBlank hfront)]
  have hreads : isReadOnly (String.ofList sql.toList) = true := by rwa [String.ofList_toList]
  obtain ⟨c, t, hbody, hc⟩ := exists_body_eq_cons hreads
  have hend : body sql.toList = body (withoutTerminator sql).toList ++ back := by
    rw [hstart, body_append hback (hstart.symm.trans hbody) hc]
  have hkeyword : firstKeyword (withoutTerminator sql) = firstKeyword sql := by
    rw [firstKeyword, firstKeyword, hend, takeWhile_append_of_forall hback]
  have hwords : hasWriteWord (body (withoutTerminator sql).toList) =
      hasWriteWord (body sql.toList) := by
    have hwordless : ∀ c ∈ back, Text.isWordChar c = false := fun c hc =>
      isWordChar_of_isBlankOr (by decide +kernel) (hback c hc)
    rw [hend, hasWriteWord, hasWriteWord, Text.words_append_of_forall hwordless]
  refine ⟨?_, hkeyword⟩
  rw [isReadOnly, hkeyword, hwords]
  exact h

/-! ## Statements inside others -/

/-- Whether a statement that reads can stand inside another one, where `upper` tells the capitals of
a character. -/
def isNestableBy (upper : Char → List Char) (sql : String) : Bool :=
  let start := (skipGaps sql.toList).flatMap upper
  !(Text.beginsWith "EXPLAIN".toList start || Text.beginsWith "SHOW".toList start)

/-- The capitals in use are those of ASCII. -/
lemma isNestable_eq_isNestableBy (sql : String) :
    isNestable sql = isNestableBy (fun c => [c.toUpper]) sql := by
  rw [isNestable, List.map_eq_flatMap, isNestableBy]

/-- A keyword of statements that read begins with one of those that show or explain only if it is
that one, whatever follows it. -/
lemma beginsWith_keyword {k : String} (hk : k ∈ readKeywords) (rest : List Char) :
    Text.beginsWith "EXPLAIN".toList (k.toList ++ rest) = (k == "EXPLAIN") ∧
      Text.beginsWith "SHOW".toList (k.toList ++ rest) = (k == "SHOW") := by
  simp only [readKeywords, List.mem_cons, List.not_mem_nil, or_false] at hk
  rcases hk with rfl | rfl | rfl | rfl | rfl | rfl <;> exact ⟨rfl, rfl⟩

/-- The keyword of a statement that reads is one of the keywords of such statements. -/
lemma firstKeyword_mem_of_isReadOnly {sql : String} (h : isReadOnly sql = true) :
    firstKeyword sql ∈ readKeywords := by
  rw [isReadOnly] at h
  split at h
  · next hwith =>
    rw [hwith]
    decide
  · exact List.contains_iff_mem.mp h

/-- ASCII letters are capitalised as such. -/
lemma flatMap_of_forall_isAsciiLetter {upper : Char → List Char}
    (hupper : ∀ c : Char, c.toNat < 128 → upper c = [c.toUpper]) {s : List Char}
    (hs : ∀ c ∈ s, isAsciiLetter c = true) : s.flatMap upper = s.map Char.toUpper := by
  induction s with
  | nil => rfl
  | cons c s ih =>
    rw [List.forall_mem_cons] at hs
    have hletter := isAsciiLetter_iff.mp hs.1
    rw [List.flatMap_cons, hupper c (by omega), ih hs.2]
    rfl

/-- **Which statements can stand inside another one.** A statement that reads cannot exactly if it
begins, behind comments, with the keyword to show or to explain. It does not matter how characters
beyond ASCII are capitalised.

**Proof sketch.** Behind the comments there is a parenthesis, which begins neither of the keywords,
or the first keyword of the statement, of which the comparison sees the whole. -/
theorem isNestableBy_eq {sql : String} (h : isReadOnly sql = true) {upper : Char → List Char}
    (hupper : ∀ c : Char, c.toNat < 128 → upper c = [c.toUpper]) :
    isNestableBy upper sql = !((skipGaps sql.toList).head? != some '(' &&
      (firstKeyword sql == "EXPLAIN" || firstKeyword sql == "SHOW")) := by
  have hreads : isReadOnly (String.ofList sql.toList) = true := by rwa [String.ofList_toList]
  obtain ⟨c, t, hbody, hc⟩ := exists_body_eq_cons hreads
  have hdrop : body sql.toList = (skipGaps sql.toList).dropWhile isFiller := rfl
  have hgap := afterGap?_skipGaps sql.toList
  cases hrest : skipGaps sql.toList with
  | nil =>
    rw [hdrop, hrest] at hbody
    cases hbody
  | cons x xs =>
    rw [hrest] at hdrop hgap
    by_cases hx : isFiller x = true
    · have hparen : x = '(' := by
        rw [isFiller, Bool.or_eq_true, decide_eq_true_eq] at hx
        refine hx.resolve_right fun hblank => ?_
        have hafter := after?_append (d := gateway) (.blank hblank) xs
        rw [List.singleton_append, gateway_after?, hgap] at hafter
        cases hafter
      have hstart : (skipGaps sql.toList).flatMap upper = '(' :: xs.flatMap upper := by
        rw [hrest, hparen, List.flatMap_cons, hupper '(' (by decide)]
        rfl
      rw [isNestableBy, hstart, hparen]
      rfl
    · rw [List.dropWhile_cons_of_neg hx, hbody] at hdrop
      obtain ⟨rfl, rfl⟩ := List.cons.inj hdrop
      have hkeyword : (firstKeyword sql).toList =
          ((c :: t).takeWhile isAsciiLetter).flatMap upper := by
        rw [firstKeyword, String.toList_ofList, hbody, flatMap_of_forall_isAsciiLetter hupper]
        exact fun c hc => List.mem_takeWhile_imp hc
      have hstart : (skipGaps sql.toList).flatMap upper = (firstKeyword sql).toList ++
          ((c :: t).dropWhile isAsciiLetter).flatMap upper := by
        rw [hrest, hkeyword, ← List.flatMap_append, List.takeWhile_append_dropWhile]
      have hparen : c ≠ '(' := by
        rintro rfl
        cases hc
      obtain ⟨hexplain, hshow⟩ := beginsWith_keyword (firstKeyword_mem_of_isReadOnly h)
        (((c :: t).dropWhile isAsciiLetter).flatMap upper)
      rw [isNestableBy, hstart, hexplain, hshow, List.head?_cons]
      simp [hparen]

/-- **Reading statements are limited.** A statement that reads is sent inside another one that
returns at most one row more than the limit, unless its first keyword shows or explains. Whether it
can stand there does not depend on the capitals of characters beyond ASCII.

**Proof sketch.** Without its terminator the statement reads and has the same first keyword
(`isReadOnly_withoutTerminator`), and if it cannot stand inside another one, that keyword shows or
explains (`isNestableBy_eq`). -/
theorem limited_of_isReadOnly {sql : String} (h : isReadOnly sql = true) (n : Nat) :
    (limited sql (some n) = "SELECT * FROM (\n" ++ withoutTerminator sql ++
        "\n) AS limited_result LIMIT " ++ toString (n + 1) ∨
      firstKeyword sql = "EXPLAIN" ∨ firstKeyword sql = "SHOW") ∧
    ∀ upper : Char → List Char, (∀ c : Char, c.toNat < 128 → upper c = [c.toUpper]) →
      isNestableBy upper (withoutTerminator sql) = isNestable (withoutTerminator sql) := by
  obtain ⟨hinner, hkeyword⟩ := isReadOnly_withoutTerminator h
  have hascii := (isNestable_eq_isNestableBy (withoutTerminator sql)).trans
    (isNestableBy_eq hinner fun c _ => rfl)
  refine ⟨?_, fun upper hupper => (isNestableBy_eq hinner hupper).trans hascii.symm⟩
  cases hnestable : isNestable (withoutTerminator sql) with
  | true =>
    left
    rw [limited]
    simp only [hinner, hnestable, Bool.and_self, if_true]
    rfl
  | false =>
    right
    rw [hascii, hkeyword] at hnestable
    simp only [Bool.not_eq_false', Bool.and_eq_true, Bool.or_eq_true, beq_iff_eq] at hnestable
    exact hnestable.2

/-- A statement with a comment before it and two semicolons behind it, and the largest limit. -/
theorem limited_of_isReadOnly_of_commented_table :
    limited "-- all\n (table t) ;; " (some 4294967295) =
      "SELECT * FROM (\n-- all\n (table t) \n) AS limited_result LIMIT 4294967296" := by
  have hreads : isReadOnly "-- all\n (table t) ;; " = true := by decide
  have hkeyword : ¬ (firstKeyword "-- all\n (table t) ;; " = "EXPLAIN" ∨
      firstKeyword "-- all\n (table t) ;; " = "SHOW") := by decide
  have hinner : withoutTerminator "-- all\n (table t) ;; " = "-- all\n (table t) " := by decide
  have hsent := (limited_of_isReadOnly hreads 4294967295).1.resolve_right hkeyword
  rw [hinner] at hsent
  exact hsent

end PgGateway.Sql
