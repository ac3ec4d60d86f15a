import PgGateway.Proofs.Sql.Dialect
import PgGateway.Proofs.Sql.Explained
import PgGateway.Proofs.Text.Word

set_option autoImplicit false

/-!
# Leading comments

The gateway and the database disagree about comments: for the gateway a line comment ends with a
line feed only, and a block comment stands on one line and ends at its first `*/`; for the database
a line comment also ends with a carriage return, and block comments span lines and nest. So the
gateway may take a statement for another one than the database does.

## Main definitions

* `PgGateway.Sql.IsOneLine`, `PgGateway.Sql.IsNested` — the block comments of the two.
* `PgGateway.Sql.Dialect.gateway`, `PgGateway.Sql.Dialect.postgres` — their rules.

## Main results

* `PgGateway.Sql.Dialect.postgres_isGap_iff` — the rules of the database are those of its gaps.
* `PgGateway.Sql.removes_skipGaps` — the gateway skips the longest prefix by its own rules.
* `PgGateway.Sql.isReadOnly_append_iff` — the comments behind which every statement is taken for
  what it is.
* `PgGateway.Sql.comments_read_alike_iff` — where the gateway reads comments as the database does.
-/

namespace PgGateway.Sql

/-! ## Block comments -/

/-- A block comment on one line. It ends at its first `*/`. -/
inductive IsOneLine : List Char → Prop
  /-- The end. -/
  | closing : IsOneLine ['*', '/']
  /-- A character before the end. -/
  | cons {c : Char} {s : List Char} (hline : c ≠ '\n') (hclose : ¬ ['*', '/'] <+: c :: s)
    (hrest : IsOneLine s) : IsOneLine (c :: s)

/-- A block comment that may span lines and hold other block comments. -/
inductive IsNested : List Char → Prop
  /-- The end. -/
  | closing : IsNested ['*', '/']
  /-- A character that neither begins nor ends a comment. -/
  | cons {c : Char} {s : List Char} (hopen : ¬ ['/', '*'] <+: c :: s)
    (hclose : ¬ ['*', '/'] <+: c :: s) (hrest : IsNested s) : IsNested (c :: s)
  /-- A comment inside. -/
  | inner {s t : List Char} (hinner : IsNested s) (hrest : IsNested t) :
    IsNested ('/' :: '*' :: (s ++ t))

/-- A block comment on one line is not empty. -/
lemma IsOneLine.ne_nil {s : List Char} (h : IsOneLine s) : s ≠ [] := by
  cases h <;> exact List.cons_ne_nil _ _

/-- A nested block comment is not empty. -/
lemma IsNested.ne_nil {s : List Char} (h : IsNested s) : s ≠ [] := by
  cases h <;> exact List.cons_ne_nil _ _

/-- Whether a text begins with two given characters is decided by its first two. -/
lemma pair_prefix_append {a b c : Char} {s : List Char} (hs : s ≠ []) (t : List Char) :
    [a, b] <+: c :: (s ++ t) ↔ [a, b] <+: c :: s := by
  obtain ⟨e, s, rfl⟩ := List.exists_cons_of_ne_nil hs
  simp [List.cons_prefix_cons]

/-- The text after a block comment on one line. -/
theorem afterBlock?_eq_some_iff {s t : List Char} :
    afterBlock? s = some t ↔ ∃ rest, IsOneLine rest ∧ s = rest ++ t := by
  constructor
  · intro h
    fun_induction afterBlock? s with
    | case1 => cases h
    | case2 s =>
      cases h
      exact ⟨['*', '/'], .closing, rfl⟩
    | case3 s hclose => cases h
    | case4 c s hclose hline ih =>
      obtain ⟨rest, hrest, rfl⟩ := ih h
      refine ⟨c :: rest, .cons hline ?_ hrest, rfl⟩
      rw [← pair_prefix_append hrest.ne_nil t]
      rintro ⟨u, hu⟩
      exact hclose u (List.cons.inj hu).1.symm (List.cons.inj hu).2.symm
  · rintro ⟨rest, hrest, rfl⟩
    induction hrest with
    | closing => rfl
    | @cons c s hline hclose hrest ih =>
      have hopen : ∀ u, c = '*' → s ++ t = '/' :: u → False := by
        rintro u rfl hu
        apply hclose
        rw [← pair_prefix_append hrest.ne_nil t, hu]
        exact ⟨u, rfl⟩
      rw [List.cons_append, afterBlock?.eq_3 c _ hopen, if_neg hline, ih]

/-- A nested block comment closes one of the comments that are open. -/
lemma afterNested?_append {rest : List Char} (h : IsNested rest) (depth : Nat) (t : List Char) :
    afterNested? depth (rest ++ t) =
      match depth with
      | 0 => some t
      | depth + 1 => afterNested? depth t := by
  induction h generalizing depth t with
  | closing => cases depth <;> rfl
  | @cons c s hopen hclose hrest ih =>
    have hnotOpen : ∀ u, c = '/' → s ++ t = '*' :: u → False := by
      rintro u rfl hu
      apply hopen
      rw [← pair_prefix_append hrest.ne_nil t, hu]
      exact ⟨u, rfl⟩
    have hnotClose : ∀ u, c = '*' → s ++ t = '/' :: u → False := by
      rintro u rfl hu
      apply hclose
      rw [← pair_prefix_append hrest.ne_nil t, hu]
      exact ⟨u, rfl⟩
    rw [List.cons_append, afterNested?.eq_5 depth c _ hnotOpen hnotClose]
    exact ih depth t
  | @inner s u hinner hrest ihinner ihrest =>
    have hstep : afterNested? depth ('/' :: '*' :: (s ++ u) ++ t) =
        afterNested? (depth + 1) (s ++ (u ++ t)) := by
      rw [← List.append_assoc]
      rfl
    rw [hstep]
    exact (ihinner (depth + 1) _).trans (ihrest depth t)

/-- Before the end of the outermost comment each of the comments that are open is closed. -/
lemma exists_nested_of_afterNested? {depth : Nat} {s t : List Char}
    (h : afterNested? depth s = some t) :
    ∃ (rest : List Char) (rests : List (List Char)), IsNested rest ∧ (∀ r ∈ rests, IsNested r) ∧
      rests.length = depth ∧ s = rest ++ (rests.flatten ++ t) := by
  fun_induction afterNested? depth s with
  | case1 => cases h
  | case2 depth s ih =>
    obtain ⟨rest, rests, hrest, hrests, hlength, rfl⟩ := ih h
    obtain ⟨next, rests, rfl⟩ := List.exists_cons_of_length_eq_add_one hlength
    rw [List.forall_mem_cons] at hrests
    refine ⟨_, rests, .inner hrest hrests.1, hrests.2, Nat.succ.inj hlength, ?_⟩
    simp
  | case3 s =>
    cases h
    exact ⟨['*', '/'], [], .closing, nofun, rfl, rfl⟩
  | case4 s depth ih =>
    obtain ⟨rest, rests, hrest, hrests, hlength, rfl⟩ := ih h
    refine ⟨['*', '/'], rest :: rests, .closing, List.forall_mem_cons.mpr ⟨hrest, hrests⟩, ?_, ?_⟩
    · rw [List.length_cons, hlength]
    · simp
  | case5 depth c s hnotOpen hnotClose ih =>
    obtain ⟨rest, rests, hrest, hrests, hlength, rfl⟩ := ih h
    refine ⟨c :: rest, rests, .cons ?_ ?_ hrest, hrests, hlength, rfl⟩
    · rw [← pair_prefix_append hrest.ne_nil (rests.flatten ++ t)]
      rintro ⟨u, hu⟩
      exact hnotOpen u (List.cons.inj hu).1.symm (List.cons.inj hu).2.symm
    · rw [← pair_prefix_append hrest.ne_nil (rests.flatten ++ t)]
      rintro ⟨u, hu⟩
      exact hnotClose u (List.cons.inj hu).1.symm (List.cons.inj hu).2.symm

/-- The text after a nested block comment. -/
theorem afterNested?_eq_some_iff {s t : List Char} :
    afterNested? 0 s = some t ↔ ∃ rest, IsNested rest ∧ s = rest ++ t := by
  constructor
  · intro h
    obtain ⟨rest, rests, hrest, -, hlength, rfl⟩ := exists_nested_of_afterNested? h
    obtain rfl := List.eq_nil_of_length_eq_zero hlength
    exact ⟨rest, hrest, rfl⟩
  · rintro ⟨rest, hrest, rfl⟩
    exact afterNested?_append hrest 0 t

/-! ## The two dialects -/

namespace Dialect

/-- The rules of the gateway. -/
def gateway : Dialect where
  endsLine c := c == '\n'
  IsBlock := IsOneLine
  afterBlock? := Sql.afterBlock?
  afterBlock?_eq_some := afterBlock?_eq_some_iff

/-- The rules of the database. -/
def postgres : Dialect where
  endsLine c := c == '\n' || c == '\r'
  IsBlock := IsNested
  afterBlock? := afterNested? 0
  afterBlock?_eq_some := afterNested?_eq_some_iff

/-- The blanks and comments by the rules of the database are the gaps of statements. -/
theorem postgres_isGap_iff {s : List Char} : postgres.IsGap s ↔ ∃ g : Gap, g.chars = s := by
  have hends : ∀ c, postgres.endsLine c = true ↔ c = '\n' ∨ c = '\r' := fun c => by
    simp [postgres]
  constructor
  · intro h
    cases h with
    | blank hblank => exact ⟨.blank _ hblank, rfl⟩
    | line htext hlast =>
      refine ⟨.line _ _ (fun c hc => ?_) ((hends _).mp hlast), rfl⟩
      rw [← not_or, ← hends, Bool.not_eq_true]
      exact htext c hc
    | @block rest hrest =>
      have hclosed : afterNested? 0 rest = some [] :=
        afterNested?_eq_some_iff.mpr ⟨rest, hrest, (List.append_nil rest).symm⟩
      exact ⟨.block rest hclosed, rfl⟩
  · rintro ⟨g, rfl⟩
    cases g with
    | blank c hblank => exact .blank hblank
    | line text last htext hlast =>
      refine .line (fun c hc => ?_) ((hends last).mpr hlast)
      rw [← Bool.not_eq_true, hends, not_or]
      exact htext c hc
    | block rest hclosed =>
      obtain ⟨block, hblock, heq⟩ := afterNested?_eq_some_iff.mp hclosed
      rw [List.append_nil] at heq
      rw [Gap.chars, heq]
      exact .block hblock

/-- Behind a line stands what follows its line feed. -/
lemma gateway_afterLine (s : List Char) : gateway.afterLine s = Sql.afterLine s := by
  induction s with
  | nil => rfl
  | cons c s ih =>
    rw [Sql.afterLine]
    split
    · next hc =>
      subst hc
      rfl
    · next hc =>
      rw [← ih, afterLine, List.dropWhile_cons_of_pos (by simpa [gateway] using hc), afterLine]

/-- Where no comment begins, a blank is skipped. -/
lemma afterGap?_of_not_comment {c : Char} {s : List Char}
    (hdash : ∀ t, c = '-' → s = '-' :: t → False) (hslash : ∀ t, c = '/' → s = '*' :: t → False) :
    afterGap? (c :: s) = if Text.isBlank c then some s else none := by
  unfold afterGap?
  split <;> simp_all

/-- The gateway passes one blank or comment by its rules. -/
lemma gateway_after? (s : List Char) : gateway.after? s = afterGap? s := by
  unfold after?
  split
  · rfl
  · next s =>
    rw [gateway_afterLine]
    rfl
  · rfl
  · next c s hdash hslash => rw [afterGap?_of_not_comment hdash hslash]

end Dialect

open Dialect

/-- **What the gateway skips.** It is the longest prefix of blanks and comments by the rules of the
gateway. -/
theorem removes_skipGaps (s : List Char) : gateway.Removes s (skipGaps s) := by
  induction s using gaps_induction with
  | stop s hgap =>
    rw [skipGaps_eq, hgap]
    exact removes_of_after?_eq_none ((gateway_after? s).trans hgap)
  | skip s t hgap ih =>
    rw [skipGaps_eq, hgap]
    exact removes_of_after?_eq_some ((gateway_after? s).trans hgap) ih

/-- Where the gateway goes on, there is no blank and no comment by its rules. -/
lemma afterGap?_skipGaps (s : List Char) : afterGap? (skipGaps s) = none := by
  cases hgap : afterGap? (skipGaps s) with
  | none => rfl
  | some t =>
    have hafter := (gateway_after? (skipGaps s)).trans hgap
    have hsame := (removes_iff.mp (removes_skipGaps s)).2 t (.of_after? hafter (.refl t))
    have hlt := length_lt_of_after? hafter
    rw [hsame] at hlt
    exact absurd hlt (Nat.lt_irrefl _)

/-! ## Statements behind comments -/

/-- The body of a statement stands behind all blanks and comments by the rules of the gateway. -/
lemma body_append_of_isGaps {c : List Char} (h : gateway.IsGaps c) (s : List Char) :
    body (c ++ s) = body s := by
  induction h with
  | nil => rfl
  | @cons g gs hgap hgaps ih =>
    have hafter : afterGap? (g ++ (gs ++ s)) = some (gs ++ s) := by
      rw [← gateway_after?, after?_append hgap]
    rw [List.append_assoc, body_of_afterGap?_eq_some hafter, ih]

/-- A text consists of blanks and comments and a text that does not begin with one. -/
lemma exists_isGaps_append (d : Dialect) (c : List Char) :
    ∃ q r, d.IsGaps q ∧ c = q ++ r ∧ ∀ g t, d.IsGap g → r ≠ g ++ t := by
  induction hlength : c.length using Nat.strongRecOn generalizing c with
  | _ n ih =>
    by_cases hgap : ∃ g t, d.IsGap g ∧ c = g ++ t
    · obtain ⟨g, t, hg, rfl⟩ := hgap
      have hpos := hg.length_pos
      rw [List.length_append] at hlength
      obtain ⟨q, r, hq, rfl, hr⟩ := ih t.length (by omega) t rfl
      exact ⟨g ++ q, r, .cons hg hq, (List.append_assoc g q r).symm, hr⟩
    · exact ⟨[], c, .nil, rfl, fun g t hg ht => hgap ⟨g, t, hg, ht⟩⟩

/-- Whether a character is a blank or the given one. Blanks and comments end with a blank or a
slash. -/
def isBlankOr (mark c : Char) : Bool :=
  Text.isBlank c || c == mark

/-- A block comment on one line ends with a slash. -/
lemma IsOneLine.getLast?_eq {s : List Char} (h : IsOneLine s) : s.getLast? = some '/' := by
  induction h with
  | closing => rfl
  | @cons c s hline hclose hrest ih => rw [List.getLast?_cons, ih, Option.getD_some]

/-- A nested block comment ends with a slash. -/
lemma IsNested.getLast?_eq {s : List Char} (h : IsNested s) : s.getLast? = some '/' := by
  induction h with
  | closing => rfl
  | @cons c s hopen hclose hrest ih => rw [List.getLast?_cons, ih, Option.getD_some]
  | @inner s t hinner hrest ihinner ihrest =>
    rw [List.getLast?_cons, List.getLast?_cons, List.getLast?_append, ihrest, Option.some_or,
      Option.getD_some, Option.getD_some]

/-- The last character of blanks and comments. -/
lemma Dialect.IsGaps.getLast?_of_postgres {c : List Char} (h : postgres.IsGaps c) :
    c.getLast?.all (isBlankOr '/') = true := by
  induction h with
  | nil => rfl
  | @cons g gs hgap hgaps ih =>
    rw [List.getLast?_append]
    cases hlast : gs.getLast? with
    | some z =>
      rw [hlast] at ih
      exact ih
    | none =>
      rw [Option.none_or]
      cases hgap with
      | @blank c hblank => simp [isBlankOr, hblank]
      | @line text last htext hline =>
        have hend : last = '\n' ∨ last = '\r' := by simpa [postgres] using hline
        rw [← List.cons_append, ← List.cons_append, List.getLast?_concat]
        rcases hend with rfl | rfl <;> rfl
      | @block rest hrest =>
        rw [List.getLast?_cons, List.getLast?_cons, IsNested.getLast?_eq hrest]
        rfl

/-- A block comment that is not closed stays so when a text without a slash follows. -/
lemma afterBlock?_append_eq_none {rest s : List Char} (hnone : afterBlock? rest = none)
    (hs : '/' ∉ s) : afterBlock? (rest ++ s) = none := by
  by_contra hsome
  obtain ⟨t, ht⟩ := Option.ne_none_iff_exists'.mp hsome
  obtain ⟨block, hblock, heq⟩ := afterBlock?_eq_some_iff.mp ht
  rcases List.append_eq_append_iff.mp heq with ⟨tail, rfl, rfl⟩ | ⟨tail, rfl, -⟩
  · -- the slash that closes the comment stands in what follows
    have hlast := hblock.getLast?_eq
    rw [List.getLast?_append] at hlast
    cases htail : tail.getLast? with
    | none =>
      obtain rfl := List.getLast?_eq_none_iff.mp htail
      rw [List.append_nil] at hblock
      rw [afterBlock?_eq_some_iff.mpr ⟨rest, hblock, (List.append_nil rest).symm⟩] at hnone
      cases hnone
    | some z =>
      rw [htail, Option.some_or, Option.some.injEq] at hlast
      have hmem : z ∈ tail := List.mem_of_getLast? htail
      exact hs (List.mem_append_left _ (hlast ▸ hmem))
  · rw [afterBlock?_eq_some_iff.mpr ⟨block, hblock, rfl⟩] at hnone
    cases hnone

/-- A text that begins with no blank and no comment begins with none either when something follows
that cannot be taken together with it. -/
lemma afterGap?_append_eq_none {r s : List Char} (hr : r ≠ []) (hnone : afterGap? r = none)
    (hs : ∀ c ∈ s, c ≠ '-' ∧ c ≠ '*' ∧ c ≠ '/') : afterGap? (r ++ s) = none := by
  unfold afterGap? at hnone
  split at hnone
  · exact absurd rfl hr
  · cases hnone
  · exact afterBlock?_append_eq_none hnone fun hmem => (hs _ hmem).2.2 rfl
  · next c r hdash hslash =>
    have hdash' : ∀ t, c = '-' → r ++ s = '-' :: t → False := by
      intro t hc ht
      cases r with
      | nil =>
        obtain rfl : s = '-' :: t := ht
        exact (hs '-' List.mem_cons_self).1 rfl
      | cons e r => exact hdash r hc (by rw [(List.cons.inj ht).1])
    have hslash' : ∀ t, c = '/' → r ++ s = '*' :: t → False := by
      intro t hc ht
      cases r with
      | nil =>
        obtain rfl : s = '*' :: t := ht
        exact (hs '*' List.mem_cons_self).2.1 rfl
      | cons e r => exact hslash r hc (by rw [(List.cons.inj ht).1])
    have hblank : Text.isBlank c = false := by
      by_contra hblank
      rw [Bool.not_eq_false] at hblank
      rw [if_pos hblank] at hnone
      cases hnone
    rw [List.cons_append, afterGap?_of_not_comment hdash' hslash', hblank,
      if_neg Bool.false_ne_true]

/-- The first characters of a kind are found before one of another kind. -/
lemma takeWhile_append_cons {p : Char → Bool} {z : Char} (hz : p z = false) (u s : List Char) :
    (u ++ z :: s).takeWhile p = u.takeWhile p := by
  induction u with
  | nil => rw [List.nil_append, List.takeWhile_cons_of_neg (by simp [hz]), List.takeWhile_nil]
  | cons c u ih =>
    cases hc : p c with
    | true =>
      rw [List.cons_append, List.takeWhile_cons_of_pos hc, List.takeWhile_cons_of_pos hc, ih]
    | false =>
      rw [List.cons_append, List.takeWhile_cons_of_neg (by simp [hc]),
        List.takeWhile_cons_of_neg (by simp [hc])]

/-- A character that is a blank or no letter is no letter. -/
lemma isAsciiLetter_of_isBlankOr {mark c : Char} (hmark : isAsciiLetter mark = false)
    (h : isBlankOr mark c = true) : isAsciiLetter c = false := by
  rw [isBlankOr, Bool.or_eq_true, beq_iff_eq] at h
  rcases h with hblank | rfl
  · by_contra hletter
    rw [Bool.not_eq_false] at hletter
    rw [isBlank_eq_false_of_isAsciiLetter hletter] at hblank
    cases hblank
  · exact hmark

/-- A character that is a blank or no part of a word is no part of a word. -/
lemma isWordChar_of_isBlankOr {mark c : Char} (hmark : Text.isWordChar mark = false)
    (h : isBlankOr mark c = true) : Text.isWordChar c = false := by
  rw [isBlankOr, Bool.or_eq_true, beq_iff_eq] at h
  rcases h with hblank | rfl
  · exact Text.isWordChar_of_isBlank hblank
  · exact hmark

/-- What a statement is taken to be is decided before the end of a comment that its body holds, but
for the words behind it. -/
lemma isReadOnly_of_body_eq_append {s t u v w : List Char} {z : Char} (hz : isBlankOr '/' z = true)
    (hs : body s = u ++ z :: v) (ht : body t = u ++ z :: w)
    (hwords : hasWriteWord v = hasWriteWord w) :
    isReadOnly (String.ofList s) = isReadOnly (String.ofList t) := by
  have hletter := isAsciiLetter_of_isBlankOr (by decide) hz
  have hkeyword : firstKeyword (String.ofList s) = firstKeyword (String.ofList t) := by
    rw [firstKeyword, firstKeyword, String.toList_ofList, String.toList_ofList, hs, ht,
      takeWhile_append_cons hletter, takeWhile_append_cons hletter]
  have hwrite : hasWriteWord (body s) = hasWriteWord (body t) := by
    have hword := isWordChar_of_isBlankOr (by decide +kernel) hz
    rw [hasWriteWord] at hwords
    rw [hs, ht, hasWriteWord, hasWriteWord, Text.words_append_cons hword,
      Text.words_append_cons hword, List.any_append, List.any_append, hwords]
    rfl
  rw [isReadOnly, isReadOnly, hkeyword, String.toList_ofList, String.toList_ofList, hwrite]

/-- A line comment that is not ended hides the statement behind it. -/
lemma isReadOnly_of_line {text : List Char} (htext : ∀ c ∈ text, gateway.endsLine c = false) :
    isReadOnly (String.ofList ('-' :: '-' :: text ++ "SELECT".toList)) = false := by
  have hline : ∀ c ∈ text ++ "SELECT".toList, gateway.endsLine c = false :=
    List.forall_mem_append.mpr ⟨htext, by simp [gateway]⟩
  have hgap : afterGap? ('-' :: '-' :: text ++ "SELECT".toList) = some [] := by
    rw [← gateway_after?]
    exact congrArg some (afterLine_eq_nil hline)
  rw [isReadOnly_of_body_eq (body_of_afterGap?_eq_some hgap)]
  decide

/-- A comment behind a parenthesis hides the statement behind it. -/
lemma isReadOnly_of_opening {r : List Char} (hr : ∀ c ∈ r, isFiller c = true) :
    isReadOnly (String.ofList ('(' :: r ++ "/**/SELECT".toList)) = false := by
  have hbody : body ('(' :: r ++ "/**/SELECT".toList) = '/' :: "**/SELECT".toList := by
    rw [List.cons_append, body_opening, List.dropWhile_append_of_pos hr]
    rfl
  exact isReadOnly_of_body_eq_cons hbody (by decide)

/-- Behind a text whose keyword is looked for in itself, two statements that hold no comment and
change nothing are taken for the same. -/
lemma isReadOnly_append_eq_append {r s t rest : List Char} {e : Char} (hr : r ≠ [])
    (hnone : afterGap? r = none) (hrest : r.dropWhile isFiller = e :: rest)
    (hend : r.getLast?.all (isBlankOr '/') = true)
    (hs : ∀ c ∈ s, c ≠ '-' ∧ c ≠ '*' ∧ c ≠ '/') (ht : ∀ c ∈ t, c ≠ '-' ∧ c ≠ '*' ∧ c ≠ '/')
    (hwords : hasWriteWord s = hasWriteWord t) :
    isReadOnly (String.ofList (r ++ s)) = isReadOnly (String.ofList (r ++ t)) := by
  have hbody : ∀ s, (∀ c ∈ s, c ≠ '-' ∧ c ≠ '*' ∧ c ≠ '/') → body (r ++ s) = e :: rest ++ s := by
    intro s hs
    rw [body_of_afterGap?_eq_none (afterGap?_append_eq_none hr hnone hs), List.dropWhile_append,
      hrest]
    rfl
  obtain ⟨u, z, hz⟩ : ∃ u z, e :: rest = u ++ [z] :=
    ⟨_, _, (List.dropLast_concat_getLast (List.cons_ne_nil e rest)).symm⟩
  have hlast : isBlankOr '/' z = true := by
    rw [← List.takeWhile_append_dropWhile (p := isFiller) (l := r), hrest, hz] at hend
    simpa using hend
  refine isReadOnly_of_body_eq_append (u := u) hlast ?_ ?_ hwords
  · rw [hbody s hs, hz, List.append_assoc, List.singleton_append]
  · rw [hbody t ht, hz, List.append_assoc, List.singleton_append]

/-- A text that ends like a comment, and does not begin with a blank or comment, changes what some
statement behind it is taken for.

**Proof sketch.** If the text begins with a line comment, that goes on over the statement. If it
consists of parentheses and blanks, a comment behind it hides the statement. Otherwise the keyword
is looked for in the text, and `SELECT` behind it makes no other difference than `X` does. -/
lemma eq_nil_of_isReadOnly_append {r : List Char} (hstuck : ∀ g t, gateway.IsGap g → r ≠ g ++ t)
    (hend : r.getLast?.all (isBlankOr '/') = true)
    (h : ∀ s, isReadOnly (String.ofList (r ++ s)) = isReadOnly (String.ofList s)) : r = [] := by
  by_contra hr
  cases hafter : afterGap? r with
  | some t =>
    rcases after?_eq_some ((gateway_after? r).trans hafter) with
      ⟨g, hgap, heq⟩ | ⟨-, text, htext, rfl⟩
    · exact hstuck g t hgap heq
    · have hhidden := isReadOnly_of_line htext
      rw [h] at hhidden
      exact absurd hhidden (by decide)
  | none =>
    cases hrest : r.dropWhile isFiller with
    | nil =>
      have hfiller := List.dropWhile_eq_nil_iff.mp hrest
      obtain ⟨c, r, rfl⟩ := List.exists_cons_of_ne_nil hr
      obtain rfl : c = '(' := by
        have hfirst := hfiller c List.mem_cons_self
        rw [isFiller, Bool.or_eq_true, decide_eq_true_eq] at hfirst
        exact hfirst.resolve_right fun hblank => hstuck [c] r (.blank hblank) rfl
      have hhidden := isReadOnly_of_opening fun x hx => hfiller x (List.mem_cons_of_mem '(' hx)
      rw [h] at hhidden
      exact absurd hhidden (by decide)
    | cons e rest =>
      have hsame := isReadOnly_append_eq_append hr hafter hrest hend
        (s := "SELECT".toList) (t := "X".toList) (by simp) (by simp) (by decide +kernel)
      rw [h, h] at hsame
      exact absurd hsame (by decide)

/-- **Which comments do not matter.** Every statement behind given blanks and comments of the
database is taken for what it is exactly if the gateway takes them for blanks and comments too. -/
theorem isReadOnly_append_iff {c : List Char} (hc : postgres.IsGaps c) :
    (∀ s, isReadOnly (String.ofList (c ++ s)) = isReadOnly (String.ofList s)) ↔
      gateway.IsGaps c := by
  constructor
  · intro h
    obtain ⟨q, r, hq, rfl, hstuck⟩ := exists_isGaps_append gateway c
    have hend : r.getLast?.all (isBlankOr '/') = true := by
      have hlast := hc.getLast?_of_postgres
      rw [List.getLast?_append] at hlast
      cases hr : r.getLast? with
      | none => rfl
      | some z => simpa [hr] using hlast
    have hrest : ∀ s, isReadOnly (String.ofList (r ++ s)) = isReadOnly (String.ofList s) := by
      intro s
      rw [← h s, List.append_assoc, isReadOnly_of_body_eq (body_append_of_isGaps hq (r ++ s))]
    rw [eq_nil_of_isReadOnly_append hstuck hend hrest, List.append_nil]
    exact hq
  · intro h s
    exact isReadOnly_of_body_eq (body_append_of_isGaps h s)

/-- **Where comments are read alike.** Of a text the gateway skips the longest prefix of blanks and
comments of the database exactly if what the database leaves can be reached by the rules of the
gateway and begins with no blank and no comment by them. And every statement behind given blanks and
comments of the database is taken for what it is exactly if they are blanks and comments by the
rules of the gateway. -/
theorem comments_read_alike_iff (s : List Char) {c : List Char} (hc : postgres.IsGaps c) :
    (postgres.Removes s (skipGaps s) ↔
      ∃ t, postgres.Removes s t ∧ gateway.Leaves s t ∧ ∀ u, gateway.Leaves t u → u = t) ∧
    ((∀ t, isReadOnly (String.ofList (c ++ t)) = isReadOnly (String.ofList t)) ↔
      gateway.IsGaps c) := by
  refine ⟨⟨fun h => ?_, ?_⟩, isReadOnly_append_iff hc⟩
  · exact ⟨skipGaps s, h, removes_iff.mp (removes_skipGaps s)⟩
  · rintro ⟨t, ht, hreached⟩
    rw [(removes_skipGaps s).unique (removes_iff.mpr hreached)]
    exact ht

/-- Behind a line comment that a line feed ends, and a blank, every statement is taken for what it
is, and the two go on with the statement. -/
theorem comments_read_alike_iff_of_line :
    let c := "-- a\n ".toList
    let s := c ++ "SELECT 1".toList
    postgres.IsGaps c ∧ postgres.Removes s (skipGaps s) ∧
      ∀ t, isReadOnly (String.ofList (c ++ t)) = isReadOnly (String.ofList t) := by
  intro c s
  have hc : c = '-' :: '-' :: (" a".toList ++ ['\n']) ++ ([' '] ++ []) := by decide
  have hdatabase : postgres.IsGaps c := by
    rw [hc]
    exact .cons (.line (by simp [postgres]) rfl) (.cons (.blank rfl) .nil)
  have hgateway : gateway.IsGaps c := by
    rw [hc]
    exact .cons (.line (by simp [gateway]) rfl) (.cons (.blank rfl) .nil)
  have hskip : skipGaps s = "SELECT 1".toList := by decide
  have hremoves : postgres.Removes s "SELECT 1".toList :=
    removes_of_after?_eq_some (t := ' ' :: "SELECT 1".toList) (by decide)
      (removes_of_after?_eq_some (t := "SELECT 1".toList) (by decide)
        (removes_of_after?_eq_none (by decide)))
  obtain ⟨hskips, hreads⟩ := comments_read_alike_iff s hdatabase
  have hreached := removes_iff.mp (removes_skipGaps s)
  rw [hskip] at hreached
  exact ⟨hdatabase, hskips.mpr ⟨_, hremoves, hreached⟩, hreads.mpr hgateway⟩

/-- **A statement hidden by a nested comment.** Behind a comment that holds another one, a statement
that changes data counts as reading: the gateway goes on in the middle of the comment. -/
theorem not_read_alike_of_nested_comment :
    let c := "/* /* */ SELECT */ ".toList
    let w := "DELETE FROM t".toList
    postgres.IsGaps c ∧ postgres.Removes (c ++ w) w ∧
      ¬ postgres.Removes (c ++ w) (skipGaps (c ++ w)) ∧
      isReadOnly (String.ofList (c ++ w)) = true ∧ isReadOnly (String.ofList w) = false := by
  intro c w
  have hremoves : postgres.Removes (c ++ w) w :=
    removes_of_after?_eq_some (t := ' ' :: w) (by decide)
      (removes_of_after?_eq_some (t := w) (by decide) (removes_of_after?_eq_none (by decide)))
  have hgaps : postgres.IsGaps c := by
    have hcomment : postgres.IsGap ('/' :: '*' :: " /* */ SELECT */".toList) :=
      postgres_isGap_iff.mpr ⟨.block " /* */ SELECT */".toList (by decide), rfl⟩
    have hblank : postgres.IsGap [' '] := .blank rfl
    have hc : c = '/' :: '*' :: " /* */ SELECT */".toList ++ ([' '] ++ []) := by decide
    rw [hc]
    exact .cons hcomment (.cons hblank .nil)
  refine ⟨hgaps, hremoves, fun h => ?_, by decide, by decide⟩
  have hskip : skipGaps (c ++ w) = w := h.unique hremoves
  exact absurd hskip (by decide)

end PgGateway.Sql
