import PgGateway.Proofs.Sql.Comment
import PgGateway.Sql.Statement

set_option autoImplicit false

/-!
# Statements that are run to be explained

`EXPLAIN` with the option `ANALYZE` runs the statement that it explains. The kind of a statement is
judged by its first keyword, so such a text counts as reading whatever it runs, unless its beginning
hides the keyword.

## Main definitions

* `PgGateway.Sql.Mark` — a blank, a comment or an opening parenthesis before a statement.
* `PgGateway.Sql.IsExplainAnalyze` — the beginnings of texts that run a statement to explain it.
* `PgGateway.Sql.isExposed` — whether the first keyword is found behind some marks.

## Main results

* `PgGateway.Sql.isReadOnly_of_isExplainAnalyze` — a text that runs a statement to explain it counts
  as reading exactly if its keyword is exposed.
-/

namespace PgGateway.Sql

/-- What may stand before a statement. -/
inductive Mark where
  /-- An opening parenthesis. -/
  | opening
  /-- A blank or a comment. -/
  | gap (g : Gap)

namespace Mark

/-- The text of a mark. -/
def chars : Mark → List Char
  | .opening => ['(']
  | .gap g => g.chars

/-- Whether it is no comment. -/
def isSpacing : Mark → Bool
  | .opening => true
  | .gap g => g.isSpacing

/-- The text of some marks. -/
def text (marks : List Mark) : List Char :=
  marks.flatMap chars

end Mark

/-- An opening parenthesis or a blank. -/
def isFiller (c : Char) : Bool :=
  c = '(' || Text.isBlank c

/-- Whether a text is a keyword, in any case. -/
def IsKeyword (keyword : String) (s : List Char) : Prop :=
  s.map Char.toUpper = keyword.toList

/-- The beginnings of texts that run the statement which follows, to explain it. Other options and
the values of options are left open, and so is whether there is a blank before the statement, which
may begin with a parenthesis. -/
inductive IsExplainAnalyze : List Char → Prop
  /-- `EXPLAIN ANALYZE`. -/
  | plain {explain analyze : List Char} {between after : List Gap}
      (hexplain : IsKeyword "EXPLAIN" explain) (hbetween : between ≠ [])
      (hanalyze : IsKeyword "ANALYZE" analyze) :
      IsExplainAnalyze (explain ++ (between.flatMap Gap.chars ++ (analyze ++
        after.flatMap Gap.chars)))
  /-- `EXPLAIN` with `ANALYZE` in a list of options. -/
  | listed {explain analyze before behind : List Char} {between after : List Gap}
      (hexplain : IsKeyword "EXPLAIN" explain) (hanalyze : IsKeyword "ANALYZE" analyze) :
      IsExplainAnalyze (explain ++ (between.flatMap Gap.chars ++ ('(' :: (before ++ (analyze ++
        (behind ++ ')' :: after.flatMap Gap.chars))))))

/-- Whether the keyword of a text is found behind some marks. It is found behind blanks and comments
that are plain, and then behind parentheses and blanks. From a comment that is not plain the search
goes on where the comment is taken to end. -/
def isExposed : List Mark → List Char → Bool
  | [], _ => true
  | .opening :: marks, _ => marks.all Mark.isSpacing
  | .gap g :: marks, s =>
    if g.isPlain then isExposed marks s
    else (afterGap? (g.chars ++ (Mark.text marks ++ s))).any fun t => isReadOnly (String.ofList t)

/-! ## Letters -/

/-- The numbers of ASCII letters. -/
lemma isAsciiLetter_iff {c : Char} :
    isAsciiLetter c = true ↔
      (97 ≤ c.toNat ∧ c.toNat ≤ 122) ∨ (65 ≤ c.toNat ∧ c.toNat ≤ 90) := by
  simp only [isAsciiLetter, Bool.or_eq_true, Bool.and_eq_true, decide_eq_true_eq, Char.le_def,
    UInt32.le_iff_toNat_le]
  exact Iff.rfl

/-- A character whose capital is a capital letter is an ASCII letter. -/
lemma isAsciiLetter_of_isUpper_toUpper {c : Char} (h : c.toUpper.isUpper = true) :
    isAsciiLetter c = true := by
  by_cases hlower : 'a'.val ≤ c.val ∧ c.val ≤ 'z'.val
  · rw [isAsciiLetter_iff]
    exact .inl hlower
  · have hsame : c.toUpper = c := dif_neg hlower
    rw [hsame] at h
    rw [isAsciiLetter_iff]
    exact .inr (of_decide_eq_true h)

/-- The characters of `EXPLAIN` are ASCII letters. -/
lemma IsKeyword.isAsciiLetter {s : List Char} (h : IsKeyword "EXPLAIN" s) {c : Char}
    (hc : c ∈ s) : isAsciiLetter c = true := by
  have hmem : c.toUpper ∈ s.map Char.toUpper := List.mem_map_of_mem hc
  rw [show s.map Char.toUpper = "EXPLAIN".toList from h] at hmem
  have hcapitals : "EXPLAIN".toList.all Char.isUpper = true := by decide
  exact isAsciiLetter_of_isUpper_toUpper (List.all_eq_true.mp hcapitals _ hmem)

/-- `EXPLAIN` is not empty. -/
lemma IsKeyword.ne_nil {s : List Char} (h : IsKeyword "EXPLAIN" s) : s ≠ [] := by
  rintro rfl
  cases h

/-- A letter is no blank. -/
lemma isBlank_eq_false_of_isAsciiLetter {c : Char} (hc : isAsciiLetter c = true) :
    Text.isBlank c = false := by
  rw [isAsciiLetter_iff] at hc
  simp only [Text.isBlank, Bool.or_eq_false_iff, Bool.and_eq_false_iff, beq_eq_false_iff_ne,
    decide_eq_false_iff_not]
  omega

/-- A blank or comment does not begin with a letter. -/
lemma Gap.exists_chars_eq_cons (g : Gap) : ∃ c s, g.chars = c :: s ∧ isAsciiLetter c = false := by
  cases g with
  | blank c hblank =>
    refine ⟨c, [], rfl, Bool.eq_false_iff.mpr fun hletter => ?_⟩
    rw [isBlank_eq_false_of_isAsciiLetter hletter] at hblank
    cases hblank
  | line text last htext hlast => exact ⟨'-', _, rfl, by decide⟩
  | block rest hclosed => exact ⟨'/', _, rfl, by decide⟩

/-- A text that runs a statement to explain it begins with `EXPLAIN`. -/
lemma IsExplainAnalyze.exists_eq_append {p : List Char} (hp : IsExplainAnalyze p) :
    ∃ explain c s, p = explain ++ c :: s ∧ IsKeyword "EXPLAIN" explain ∧
      isAsciiLetter c = false := by
  cases hp with
  | @plain explain analyze between after hexplain hbetween hanalyze =>
    obtain ⟨g, gs, rfl⟩ := List.exists_cons_of_ne_nil hbetween
    obtain ⟨c, s, hg, hc⟩ := g.exists_chars_eq_cons
    exact ⟨explain, c, _, by rw [List.flatMap_cons, hg]; rfl, hexplain, hc⟩
  | @listed explain analyze before behind between after hexplain hanalyze =>
    cases between with
    | nil => exact ⟨explain, '(', _, rfl, hexplain, by decide⟩
    | cons g gs =>
      obtain ⟨c, s, hg, hc⟩ := g.exists_chars_eq_cons
      exact ⟨explain, c, _, by rw [List.flatMap_cons, hg]; rfl, hexplain, hc⟩

/-! ## The first keyword -/

/-- What a statement is taken to be depends on the text from its first keyword on. -/
lemma isReadOnly_of_body_eq {s t : List Char} (h : body s = body t) :
    isReadOnly (String.ofList s) = isReadOnly (String.ofList t) := by
  simp only [isReadOnly, firstKeyword, String.toList_ofList, h]

/-- A text whose first keyword is `EXPLAIN` counts as reading. -/
lemma isReadOnly_of_body_eq_explain {s explain t : List Char} {c : Char}
    (hbody : body s = explain ++ c :: t) (hexplain : IsKeyword "EXPLAIN" explain)
    (hc : isAsciiLetter c = false) : isReadOnly (String.ofList s) = true := by
  have hkeyword : firstKeyword (String.ofList s) = "EXPLAIN" := by
    rw [firstKeyword, String.toList_ofList, hbody,
      List.takeWhile_append_of_pos fun d hd => hexplain.isAsciiLetter hd,
      List.takeWhile_cons_of_neg (by simp [hc]), List.append_nil,
      show explain.map Char.toUpper = "EXPLAIN".toList from hexplain, String.ofList_toList]
  rw [isReadOnly, hkeyword, if_neg (by decide)]
  decide

/-- A text that does not begin with a keyword does not count as reading. -/
lemma isReadOnly_of_body_eq_cons {s t : List Char} {c : Char} (hbody : body s = c :: t)
    (hc : isAsciiLetter c = false) : isReadOnly (String.ofList s) = false := by
  have hkeyword : firstKeyword (String.ofList s) = "" := by
    rw [firstKeyword, String.toList_ofList, hbody, List.takeWhile_cons_of_neg (by simp [hc])]
    rfl
  rw [isReadOnly, hkeyword, if_neg (by decide)]
  decide

/-- A blank or comment before a statement does not matter. -/
lemma body_of_afterGap?_eq_some {s t : List Char} (h : afterGap? s = some t) : body s = body t := by
  rw [body, body, skipGaps_eq s, h]

/-- Without a blank or comment before it, a statement is looked for behind parentheses. -/
lemma body_of_afterGap?_eq_none {s : List Char} (h : afterGap? s = none) :
    body s = s.dropWhile isFiller := by
  rw [body, skipGaps_eq, h]
  rfl

/-- The search for a keyword stops at a letter. -/
lemma dropWhile_isFiller_of_isAsciiLetter {c : Char} (hc : isAsciiLetter c = true)
    (s : List Char) : (c :: s).dropWhile isFiller = c :: s := by
  have hparen : c ≠ '(' := by
    rintro rfl
    cases hc
  rw [List.dropWhile_cons_of_neg]
  simp [isFiller, hparen, isBlank_eq_false_of_isAsciiLetter hc]

/-- A statement that begins with a letter is taken as a whole. -/
lemma body_of_isAsciiLetter {c : Char} (hc : isAsciiLetter c = true) (s : List Char) :
    body (c :: s) = c :: s := by
  have hdash : c ≠ '-' := by
    rintro rfl
    cases hc
  have hslash : c ≠ '/' := by
    rintro rfl
    cases hc
  have hgap : afterGap? (c :: s) = none := by
    rw [afterGap?_cons hdash hslash, isBlank_eq_false_of_isAsciiLetter hc,
      if_neg Bool.false_ne_true]
  rw [body_of_afterGap?_eq_none hgap, dropWhile_isFiller_of_isAsciiLetter hc]

/-- Behind an opening parenthesis the search only passes over parentheses and blanks. -/
lemma body_opening (s : List Char) : body ('(' :: s) = s.dropWhile isFiller := by
  have hgap : afterGap? ('(' :: s) = none := by
    rw [afterGap?_cons (by decide) (by decide), if_neg (by decide)]
  rw [body_of_afterGap?_eq_none hgap, List.dropWhile_cons_of_pos (by decide)]

/-- Without comments among the marks, the search comes to what follows. -/
lemma dropWhile_text {marks : List Mark} (hspacing : marks.all Mark.isSpacing = true)
    (s : List Char) : (Mark.text marks ++ s).dropWhile isFiller = s.dropWhile isFiller := by
  induction marks with
  | nil => rfl
  | cons m marks ih =>
    rw [List.all_cons, Bool.and_eq_true] at hspacing
    obtain ⟨c, hchars, hc⟩ : ∃ c, m.chars = [c] ∧ isFiller c = true := by
      rcases m with _ | (⟨c, hblank⟩ | _ | _)
      · exact ⟨'(', rfl, rfl⟩
      · exact ⟨c, rfl, by rw [isFiller, hblank, Bool.or_true]⟩
      · cases hspacing.1
      · cases hspacing.1
    rw [Mark.text, List.flatMap_cons, hchars, List.append_assoc, List.singleton_append,
      List.dropWhile_cons_of_pos hc]
    exact ih hspacing.2

/-- A comment among the marks ends the search. -/
lemma dropWhile_text_of_comment {marks : List Mark} (hspacing : marks.all Mark.isSpacing = false)
    (s : List Char) :
    ∃ c t, (Mark.text marks ++ s).dropWhile isFiller = c :: t ∧ isAsciiLetter c = false := by
  induction marks with
  | nil => cases hspacing
  | cons m marks ih =>
    rw [Mark.text, List.flatMap_cons, List.append_assoc]
    rcases m with _ | (⟨c, hblank⟩ | _ | _)
    · exact ih hspacing
    · rw [Mark.chars, Gap.chars, List.singleton_append,
        List.dropWhile_cons_of_pos (by rw [isFiller, hblank, Bool.or_true])]
      exact ih hspacing
    · exact ⟨'-', _, rfl, by decide⟩
    · exact ⟨'/', _, rfl, by decide⟩

/-- A comment that is not skipped ends the search. -/
lemma isReadOnly_of_afterGap?_eq_none {g : Gap} (hplain : g.isPlain = false) {s : List Char}
    (hgap : afterGap? (g.chars ++ s) = none) :
    isReadOnly (String.ofList (g.chars ++ s)) = false := by
  cases g with
  | blank c hblank => cases hplain
  | line text last htext hlast => cases hgap
  | block rest hclosed =>
    exact isReadOnly_of_body_eq_cons (body_of_afterGap?_eq_none hgap) (by decide)

/-! ## Explained statements -/

/-- A text that runs a statement to explain it is not cut by the search for its keyword, and counts
as reading where it is found. -/
lemma IsExplainAnalyze.found {p : List Char} (hp : IsExplainAnalyze p) (w : List Char) :
    body (p ++ w) = p ++ w ∧ (p ++ w).dropWhile isFiller = p ++ w ∧
      ∀ {s : List Char}, body s = p ++ w → isReadOnly (String.ofList s) = true := by
  obtain ⟨explain, c, s, hcut, hexplain, hc⟩ := hp.exists_eq_append
  obtain ⟨e, letters, rfl⟩ := List.exists_cons_of_ne_nil hexplain.ne_nil
  have he : isAsciiLetter e = true := hexplain.isAsciiLetter List.mem_cons_self
  have hstart : p ++ w = e :: letters ++ c :: (s ++ w) := by
    rw [hcut, List.append_assoc]
    rfl
  rw [hstart]
  exact ⟨body_of_isAsciiLetter he _, dropWhile_isFiller_of_isAsciiLetter he _,
    fun hbody => isReadOnly_of_body_eq_explain hbody hexplain hc⟩

/-- **What an explained statement is taken to be.** A text that runs a statement to explain it
counts as reading exactly if its keyword is exposed; what it runs only matters behind a comment
whose end is misread.

**Proof sketch.** Induction on the marks before the text. Without any, the first keyword is
`EXPLAIN`; a plain blank or comment is skipped (`afterGap?_append`); any other is skipped to where
it is taken to end, or ends the search; and behind a parenthesis the search goes on over parentheses
and blanks only. -/
theorem isReadOnly_of_isExplainAnalyze {p : List Char} (hp : IsExplainAnalyze p)
    (marks : List Mark) (w : List Char) :
    isReadOnly (String.ofList (Mark.text marks ++ (p ++ w))) = isExposed marks (p ++ w) := by
  obtain ⟨hbody, hfiller, hreads⟩ := hp.found w
  induction marks with
  | nil =>
    rw [isExposed, Mark.text, List.flatMap_nil, List.nil_append]
    exact hreads hbody
  | cons m marks ih =>
    cases m with
    | opening =>
      have hopening := body_opening (Mark.text marks ++ (p ++ w))
      rw [isExposed]
      cases hspacing : marks.all Mark.isSpacing with
      | false =>
        obtain ⟨d, t, hd, hletter⟩ := dropWhile_text_of_comment hspacing (p ++ w)
        exact isReadOnly_of_body_eq_cons (hopening.trans hd) hletter
      | true =>
        rw [dropWhile_text hspacing, hfiller] at hopening
        exact hreads hopening
    | gap g =>
      rw [isExposed, Mark.text, List.flatMap_cons, List.append_assoc, Mark.chars]
      cases hplain : g.isPlain with
      | true =>
        rw [isReadOnly_of_body_eq (body_of_afterGap?_eq_some (afterGap?_append hplain _)),
          if_pos rfl]
        exact ih
      | false =>
        rw [if_neg Bool.false_ne_true]
        cases hgap : afterGap? (g.chars ++ (Mark.text marks ++ (p ++ w))) with
        | none =>
          rw [Option.any_none]
          exact isReadOnly_of_afterGap?_eq_none hplain hgap
        | some t =>
          rw [Option.any_some]
          exact isReadOnly_of_body_eq (body_of_afterGap?_eq_some hgap)

end PgGateway.Sql
