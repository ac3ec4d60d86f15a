import PgGateway.Proofs.Sql.Leading
import PgGateway.Proofs.Text.Pattern

set_option autoImplicit false

/-!
# Stripping comments

The blanks and comments before a statement are found by a regular expression, which says for each
repetition whether it goes on or stops: a line comment goes on to the end of its line, a block
comment stops at the first `*/`, and the whole goes on as long as there is a blank or comment. What
it leaves is what skipping leaves, and that is an end of the text, as short as possible, and stays
as it is if it is stripped again.

## Main definitions

* `PgGateway.Sql.leadingGaps` — the regular expression.

## Main results

* `PgGateway.Sql.first?_gap` — one blank or comment is matched as it is skipped.
* `PgGateway.Sql.first?_leadingGaps` — the regular expression leaves what skipping leaves.
* `PgGateway.Sql.gateway_isGap_iff` — the texts of blanks and comments.
* `PgGateway.Sql.stripComments_maximal` — stripping takes the longest prefix of blanks and comments,
  and nothing the second time.
-/

namespace PgGateway.Sql

open Text Dialect

/-! ## The regular expression -/

/-- Every character but a line feed. -/
def inLine : Pattern :=
  .one (· != '\n')

/-- The rest of a line, with its line feed if there is one: `[^\n]*\n?`. -/
def restOfLine : Pattern :=
  .seq (.many true inLine) (.or (.char '\n') .empty)

/-- As few characters of a line as stand before `*/`, with that: `.*?\*/`. -/
def restOfBlock : Pattern :=
  .seq (.many false inLine) (.seq (.char '*') (.char '/'))

/-- A blank or comment. -/
def gap : Pattern :=
  .or (.one isBlank)
    (.or (.seq (.char '-') (.seq (.char '-') restOfLine))
      (.seq (.char '/') (.seq (.char '*') restOfBlock)))

/-- The blanks and comments before a statement: `^(\s|--[^\n]*\n?|/\*.*?\*/)*`. -/
def leadingGaps : Pattern :=
  .many true gap

/-! ## What it matches -/

/-- A line is matched with its line feed. -/
lemma first?_restOfLine (s : List Char) : restOfLine.first? s = some (afterLine s) := by
  refine Pattern.first?_seq_of_eq_some (Pattern.first?_many_one _ s) ?_
  rw [Pattern.first?_or]
  induction s with
  | nil => rfl
  | cons c s ih =>
    by_cases hc : c = '\n'
    · subst hc
      rfl
    · rw [List.dropWhile_cons_of_pos (by simpa using hc), ih, afterLine, if_neg hc]

/-- A block comment is matched up to the first `*/`, if that stands on its line. -/
lemma first?_restOfBlock (s : List Char) : restOfBlock.first? s = afterBlock? s := by
  have hcons : ∀ c s, restOfBlock.first? (c :: s) =
      ((Pattern.seq (.char '*') (.char '/')).first? (c :: s)).or
        (if c != '\n' then restOfBlock.first? s else none) :=
    Pattern.first?_few_one_seq_cons _ _
  fun_induction afterBlock? s with
  | case1 => rfl
  | case2 s => rfl
  | case3 s hclose =>
    rw [hcons]
    rfl
  | case4 c s hclose hline ih =>
    have hopen : (Pattern.seq (.char '*') (.char '/')).first? (c :: s) = none := by
      refine Pattern.first?_char_seq_eq_none fun t ht => Pattern.first?_char_eq_none fun u hu => ?_
      obtain ⟨hc, rfl⟩ := List.cons.inj ht
      exact hclose u hc hu
    rw [hcons, hopen, if_pos (bne_iff_ne.mpr hline), ih, Option.none_or]

/-- Nothing is matched as a comment that does not begin with the two characters of one. -/
lemma first?_comment_eq_none {a b : Char} {s : List Char} (h : ∀ t, s ≠ a :: b :: t)
    (q : Pattern) : (Pattern.seq (.char a) (.seq (.char b) q)).first? s = none := by
  refine Pattern.first?_char_seq_eq_none fun t ht =>
    Pattern.first?_char_seq_eq_none fun u hu => ?_
  exact absurd (by rw [ht, hu]) (h u)

/-- One blank or comment is matched as it is skipped. -/
theorem first?_gap (s : List Char) : gap.first? s = afterGap? s := by
  rw [gap, Pattern.first?_or, Pattern.first?_or]
  unfold afterGap?
  split
  · rfl
  · next s =>
    have hblank : isBlank '-' = false := by decide
    simp [Pattern.char, first?_restOfLine, hblank]
  · next s =>
    have hblank : isBlank '/' = false := by decide
    simp [Pattern.char, first?_restOfBlock, hblank]
  · next c s hdash hslash =>
    have hline : ∀ t, c :: s ≠ '-' :: '-' :: t := fun t ht =>
      hdash t (List.cons.inj ht).1 (List.cons.inj ht).2
    have hblock : ∀ t, c :: s ≠ '/' :: '*' :: t := fun t ht =>
      hslash t (List.cons.inj ht).1 (List.cons.inj ht).2
    rw [first?_comment_eq_none hline, first?_comment_eq_none hblock, Pattern.first?_one_cons,
      Option.or_none, Option.or_none]

/-- A blank or comment is not empty. -/
lemma takes_gap : gap.Takes :=
  (Pattern.takes_one _).or (((Pattern.takes_one _).seq _).or ((Pattern.takes_one _).seq _))

/-- **The match.** The regular expression matches every text, and leaves of it what skipping
leaves.

**Proof sketch.** A greedy repetition goes on behind the first blank or comment
(`Pattern.first?_many`), and so does skipping (`skipGaps_eq`). -/
theorem first?_leadingGaps (s : List Char) : leadingGaps.first? s = some (skipGaps s) := by
  induction s using gaps_induction with
  | stop s hgap => rw [leadingGaps, Pattern.first?_many takes_gap, first?_gap, skipGaps_eq, hgap]
  | skip s t hgap ih =>
    rw [leadingGaps, Pattern.first?_many takes_gap, first?_gap, skipGaps_eq, hgap]
    exact ih

/-! ## The texts of comments -/

/-- Behind its beginning, a block comment on one line is a text without a line feed, and `*/`, which
does not stand there before. -/
theorem isOneLine_iff {rest : List Char} :
    IsOneLine rest ↔
      ∃ text, '\n' ∉ text ∧ ¬ ['*', '/'] <:+: text ++ ['*'] ∧ rest = text ++ ['*', '/'] := by
  have hpair : ∀ c text, ['*', '/'] <+: c :: (text ++ ['*', '/']) ↔
      ['*', '/'] <+: c :: (text ++ ['*']) := by
    intro c text
    rw [← pair_prefix_append (s := text ++ ['*']) (by simp) ['/'], List.append_assoc]
    rfl
  constructor
  · intro h
    induction h with
    | closing => exact ⟨[], List.not_mem_nil, by decide, rfl⟩
    | @cons c s hline hclose hrest ih =>
      obtain ⟨text, htext, hfirst, rfl⟩ := ih
      refine ⟨c :: text, List.not_mem_cons_of_ne_of_not_mem (Ne.symm hline) htext, ?_, rfl⟩
      rw [List.cons_append, List.infix_cons_iff, ← hpair]
      exact not_or.mpr ⟨hclose, hfirst⟩
  · rintro ⟨text, htext, hfirst, rfl⟩
    induction text with
    | nil => exact .closing
    | cons c text ih =>
      rw [List.mem_cons, not_or] at htext
      rw [List.cons_append, List.infix_cons_iff, ← hpair, not_or] at hfirst
      exact .cons (Ne.symm htext.1) hfirst.1 (ih htext.2 hfirst.2)

/-- A blank or comment by the rules of the gateway is a blank, a line comment with its line feed, or
a block comment that has no line feed and ends at the first `*/`. -/
theorem gateway_isGap_iff {g : List Char} :
    gateway.IsGap g ↔ (∃ c, isBlank c = true ∧ g = [c]) ∨
      (∃ text, '\n' ∉ text ∧ g = ['-', '-'] ++ text ++ ['\n']) ∨
      ∃ text, '\n' ∉ text ∧ ¬ ['*', '/'] <:+: text ++ ['*'] ∧
        g = ['/', '*'] ++ text ++ ['*', '/'] := by
  have hends : ∀ text : List Char, (∀ c ∈ text, gateway.endsLine c = false) ↔ '\n' ∉ text := by
    intro text
    simp only [gateway, beq_eq_false_iff_ne]
    exact ⟨fun h hmem => h _ hmem rfl, fun h c hc heq => h (heq ▸ hc)⟩
  constructor
  · intro h
    cases h with
    | @blank c hblank => exact .inl ⟨c, hblank, rfl⟩
    | @line text last htext hlast =>
      obtain rfl : last = '\n' := beq_iff_eq.mp hlast
      exact .inr (.inl ⟨text, (hends text).mp htext, rfl⟩)
    | block hrest =>
      obtain ⟨text, htext, hfirst, rfl⟩ := isOneLine_iff.mp hrest
      exact .inr (.inr ⟨text, htext, hfirst, rfl⟩)
  · rintro (⟨c, hblank, rfl⟩ | ⟨text, htext, rfl⟩ | ⟨text, htext, hfirst, rfl⟩)
    · exact .blank hblank
    · exact .line ((hends text).mpr htext) rfl
    · exact .block (isOneLine_iff.mpr ⟨text, htext, hfirst, rfl⟩)

/-! ## What is left -/

/-- What is left begins with no blank and no comment. -/
lemma not_prefix_skipGaps {g : List Char} (hgap : gateway.IsGap g) (s : List Char) :
    ¬ g <+: skipGaps s := by
  rintro ⟨u, hu⟩
  have hafter := after?_append hgap u
  rw [hu, gateway_after?, afterGap?_skipGaps] at hafter
  cases hafter

/-- What is left begins with no line comment, not even one that ends with the text. -/
lemma not_dashes_prefix_skipGaps (s : List Char) : ¬ ['-', '-'] <+: skipGaps s := by
  rintro ⟨u, hu⟩
  have hgap := afterGap?_skipGaps s
  rw [← hu] at hgap
  cases hgap

/-- What is left is left as it is. -/
lemma skipGaps_skipGaps (s : List Char) : skipGaps (skipGaps s) = skipGaps s := by
  rw [skipGaps_eq, afterGap?_skipGaps]

/-- **Stripping comments.** What the regular expression leaves of a statement is an end of it.
Before that stand blanks, line comments up to a line feed or the end, and block comments that have
no line feed and end at the first `*/`; there is no longer prefix of such, and none of them stands
at the beginning of what is left. Stripping it again changes nothing. What a blank or comment is by
the rules of the gateway is told as well. -/
theorem stripComments_maximal (sql : String) :
    let s := sql.toList
    let t := (stripComments sql).toList
    leadingGaps.first? s = some t ∧ t <:+ s ∧ gateway.Leaves s t ∧
      (∀ u, gateway.Leaves s u → t <:+ u) ∧
      (∀ g, gateway.IsGap g → ¬ g <+: t) ∧ ¬ ['-', '-'] <+: t ∧
      stripComments (stripComments sql) = stripComments sql ∧
      ∀ g, gateway.IsGap g ↔ (∃ c, isBlank c = true ∧ g = [c]) ∨
        (∃ text, '\n' ∉ text ∧ g = ['-', '-'] ++ text ++ ['\n']) ∨
        ∃ text, '\n' ∉ text ∧ ¬ ['*', '/'] <:+: text ++ ['*'] ∧
          g = ['/', '*'] ++ text ++ ['*', '/'] := by
  intro s t
  have ht : t = skipGaps s := String.toList_ofList
  obtain ⟨hleaves, hleast⟩ := removes_skipGaps s
  rw [ht]
  refine ⟨first?_leadingGaps s, hleaves.isSuffix, hleaves, fun u hu => ?_,
    fun g hg => not_prefix_skipGaps hg s, not_dashes_prefix_skipGaps s, ?_,
    fun g => gateway_isGap_iff⟩
  · exact List.suffix_of_suffix_length_le hleaves.isSuffix hu.isSuffix (hleast u hu)
  · rw [stripComments, show (stripComments sql).toList = skipGaps s from ht, skipGaps_skipGaps]
    rfl

end PgGateway.Sql
