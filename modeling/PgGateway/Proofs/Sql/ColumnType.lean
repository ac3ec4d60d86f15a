import PgGateway.Proofs.Text.Cut
import PgGateway.Proofs.Text.Word
import PgGateway.Sql.ColumnType
import Mathlib.Computability.Language

set_option autoImplicit false

/-!
# The language of column types

A type begins with a letter and goes on with letters, digits, underscores and spaces. One or two
numbers in parentheses may follow, with blanks around each, and then the mark of an array, any
number of times. The reader of a type goes over the text once. It takes as much as it can of each
part, and is right to do so because no part begins like what may still belong to the one before it.

## Main definitions

* `PgGateway.Sql.columnTypes` — the language of the types, part by part.

## Main results

* `PgGateway.Sql.mem_many_mul_iff` — when as much as possible may be taken of a part.
* `PgGateway.Sql.isColumnType_iff` — the texts that are read as types are those of the language.
-/

namespace PgGateway.Sql

open Text
open scoped Computability

/-! ## Parts -/

/-- The texts of one character of a kind. -/
def one (p : Char → Bool) : Language Char :=
  {s | ∃ c, p c = true ∧ s = [c]}

/-- The texts of characters of a kind. -/
def many (p : Char → Bool) : Language Char :=
  (one p)∗

/-- The text of a character. -/
def mark (c : Char) : Language Char :=
  one (· = c)

/-- The numbers. -/
def numerals : Language Char :=
  one isDigit * many isDigit

/-- What stands in the parentheses of a type, with the closing one: a number, or two with a comma
between them, and blanks around each. -/
def sizes : Language Char :=
  many isBlank * numerals * (1 + many isBlank * mark ',' * many isBlank * numerals) *
    many isBlank * mark ')'

/-- The mark of an array. -/
def brackets : Language Char :=
  mark '[' * mark ']'

/-- The types that a column may have. -/
def columnTypes : Language Char :=
  one isAsciiLetter * many isTypeChar * (1 + mark '(' * sizes) * brackets∗

section Parts

variable {p q : Char → Bool} {l m : Language Char} {s : List Char}

/-- A character of a kind with a text of a language behind it. -/
lemma mem_one_mul_iff : s ∈ one p * l ↔ ∃ c rest, p c = true ∧ rest ∈ l ∧ s = c :: rest := by
  rw [Language.mem_mul]
  constructor
  · rintro ⟨_, ⟨c, hc, rfl⟩, rest, hrest, rfl⟩
    exact ⟨c, rest, hc, hrest, rfl⟩
  · rintro ⟨c, rest, hc, hrest, rfl⟩
    exact ⟨[c], ⟨c, hc, rfl⟩, rest, hrest, rfl⟩

/-- The first character is of the kind, and the others are the text of the language. -/
@[simp] lemma cons_mem_one_mul {c : Char} : c :: s ∈ one p * l ↔ p c = true ∧ s ∈ l := by
  rw [mem_one_mul_iff]
  constructor
  · rintro ⟨_, _, hc, hs, ⟨⟩⟩
    exact ⟨hc, hs⟩
  · rintro ⟨hc, hs⟩
    exact ⟨c, s, hc, hs, rfl⟩

/-- There is such a character. -/
@[simp] lemma nil_notMem_one_mul : [] ∉ one p * l := by
  rw [mem_one_mul_iff]
  rintro ⟨_, _, -, -, ⟨⟩⟩

/-- What is left of a text is a character with a text of a language behind it. -/
lemma exists_mem_mark_mul_iff {c : Char} {left : Option (List Char)} :
    (∃ rest ∈ mark c * l, left = some rest) ↔ ∃ rest ∈ l, left = some (c :: rest) := by
  constructor
  · rintro ⟨_, hmem, hleft⟩
    obtain ⟨d, rest, hd, hrest, rfl⟩ := mem_one_mul_iff.mp hmem
    exact ⟨rest, hrest, by rw [hleft, of_decide_eq_true hd]⟩
  · rintro ⟨rest, hrest, hleft⟩
    exact ⟨c :: rest, cons_mem_one_mul.mpr ⟨decide_eq_true rfl, hrest⟩, hleft⟩

/-- A text of characters of a kind has no others. -/
lemma mem_many_iff : s ∈ many p ↔ ∀ c ∈ s, p c = true := by
  induction s with
  | nil => exact iff_of_true (Language.nil_mem_kstar _) (List.forall_mem_nil _)
  | cons c s ih =>
    rw [List.forall_mem_cons, ← ih]
    unfold many
    rw [← Language.one_add_self_mul_kstar_eq_kstar, Language.mem_add, Language.mem_one,
      cons_mem_one_mul, Language.one_add_self_mul_kstar_eq_kstar]
    simp

/-- Two texts of characters of a kind in a row are one. -/
lemma append_mem_many {t : List Char} (hs : s ∈ many p) (ht : t ∈ many p) : s ++ t ∈ many p :=
  mem_many_iff.mpr (List.forall_mem_append.mpr ⟨mem_many_iff.mp hs, mem_many_iff.mp ht⟩)

/-- Whether a text has characters of a kind only can be computed. -/
lemma mem_many_of_all (h : s.all p = true) : s ∈ many p :=
  mem_many_iff.mpr (List.all_eq_true.mp h)

/-- A character that is not of the kind is not in such a text. -/
lemma notMem_of_mem_many (hs : s ∈ many p) {c : Char} (hc : p c = false) : c ∉ s := by
  intro hmem
  rw [mem_many_iff.mp hs c hmem] at hc
  cases hc

/-- Whether the texts of a language have characters of a kind only. -/
def HasOnly (p : Char → Bool) (l : Language Char) : Prop :=
  ∀ s ∈ l, s ∈ many p

namespace HasOnly

/-- There are no characters in the empty text. -/
lemma empty : HasOnly p 1 := by
  rintro s rfl
  exact Language.nil_mem_kstar _

/-- Characters of a kind are of every wider kind. -/
lemma of_many (h : ∀ c, q c = true → p c = true) : HasOnly p (many q) := by
  intro s hs
  exact mem_many_iff.mpr fun c hc => h c (mem_many_iff.mp hs c hc)

/-- One character of a kind is of every wider kind. -/
lemma of_one (h : ∀ c, q c = true → p c = true) : HasOnly p (one q) := by
  rintro _ ⟨c, hc, rfl⟩
  exact mem_many_iff.mpr (List.forall_mem_singleton.mpr (h c hc))

/-- The texts of two languages. -/
lemma add (hl : HasOnly p l) (hm : HasOnly p m) : HasOnly p (l + m) := by
  rintro s (hs | hs)
  · exact hl s hs
  · exact hm s hs

/-- The texts of one language with those of another behind them. -/
lemma mul (hl : HasOnly p l) (hm : HasOnly p m) : HasOnly p (l * m) := by
  intro s hs
  obtain ⟨a, ha, b, hb, rfl⟩ := Language.mem_mul.mp hs
  exact append_mem_many (hl a ha) (hm b hb)

/-- The texts of a language any number of times. -/
lemma kstar (hl : HasOnly p l) : HasOnly p l∗ := by
  intro s hs
  obtain ⟨parts, rfl, hparts⟩ := Language.mem_kstar.mp hs
  rw [mem_many_iff]
  intro c hc
  obtain ⟨part, hpart, hmem⟩ := List.mem_flatten.mp hc
  exact mem_many_iff.mp (hl part (hparts part hpart)) c hmem

end HasOnly

/-! ## Where parts end -/

/-- Whether no text of a language begins with a character of a kind. -/
def StartsApart (p : Char → Bool) (l : Language Char) : Prop :=
  ∀ s ∈ l, s.head?.any p = false

/-- Each of two languages is apart. -/
lemma StartsApart.add (hl : StartsApart p l) (hm : StartsApart p m) : StartsApart p (l + m) := by
  rintro s (hs | hs)
  · exact hl s hs
  · exact hm s hs

/-- A language is apart if the characters that its texts begin with are of another kind. -/
lemma startsApart_one_mul (h : ∀ c, q c = true → p c = false) : StartsApart p (one q * l) := by
  intro s hs
  obtain ⟨c, rest, hc, -, rfl⟩ := mem_one_mul_iff.mp hs
  exact h c hc

/-- A language is apart if its texts begin with one character of another kind. -/
lemma startsApart_mark_mul {c : Char} (h : p c = false) : StartsApart p (mark c * l) :=
  startsApart_one_mul fun d hd => by rw [of_decide_eq_true hd, h]

/-- A language stays apart behind characters of another kind. -/
lemma StartsApart.many_mul (hl : StartsApart p l) (h : ∀ c, q c = true → p c = false) :
    StartsApart p (many q * l) := by
  unfold many
  rw [← Language.one_add_self_mul_kstar_eq_kstar, add_mul, one_mul, mul_assoc]
  exact hl.add (startsApart_one_mul h)

/-- **Taking as much as possible.** If what follows does not begin with a character of a kind, then
all characters of the kind at the start of a text belong to the part before it. -/
lemma mem_many_mul_iff (h : StartsApart p l) : s ∈ many p * l ↔ s.dropWhile p ∈ l := by
  rw [Language.mem_mul]
  constructor
  · rintro ⟨front, hfront, rest, hrest, rfl⟩
    rw [List.dropWhile_append_of_pos (mem_many_iff.mp hfront), dropWhile_eq_self.mpr (h rest hrest)]
    exact hrest
  · intro hrest
    exact ⟨s.takeWhile p, mem_many_iff.mpr fun c hc => List.mem_takeWhile_imp hc, _, hrest,
      List.takeWhile_append_dropWhile⟩

end Parts

/-! ## Types -/

variable {l : Language Char} {s : List Char}

/-- Digits are not blank. -/
lemma isBlank_of_isDigit (c : Char) (h : isDigit c = true) : isBlank c = false := by
  rw [← Bool.not_eq_true]
  intro hblank
  rw [isDigit_of_isBlank hblank] at h
  cases h

/-- What is left behind a number and the blanks around it. -/
lemma afterNumber?_iff (hblank : StartsApart isBlank l) (hdigit : StartsApart isDigit l) :
    s ∈ many isBlank * (numerals * (many isBlank * l)) ↔
      ∃ rest ∈ l, afterNumber? s = some rest := by
  rw [numerals, mul_assoc, mem_many_mul_iff (startsApart_one_mul isBlank_of_isDigit),
    ← trimStart, afterNumber?]
  cases trimStart s with
  | nil => simp
  | cons c u =>
    rw [cons_mem_one_mul,
      mem_many_mul_iff (hdigit.many_mul fun _ => isDigit_of_isBlank), mem_many_mul_iff hblank]
    cases hc : isDigit c with
    | false => simp [hc]
    | true => simp [hc, trimStart]

/-- What is left behind one number or two, if a parenthesis closes them. -/
lemma afterNumbers?_eq_some {rest : List Char} : afterNumbers? s = some rest ↔
    afterNumber? s = some (')' :: rest) ∨
      ∃ u, afterNumber? s = some (',' :: u) ∧ afterNumber? u = some (')' :: rest) := by
  rw [afterNumbers?]
  split
  · next hfirst => simp [hfirst]
  · next u hfirst =>
    simp only [hfirst, Option.some.injEq, List.cons.injEq, Char.reduceEq, false_and, false_or,
      true_and, exists_eq_left']
    split
    · next hsecond => simp [hsecond]
    · next hnot =>
      exact iff_of_false (by simp) (hnot rest)
  · next hclose hcomma =>
    refine iff_of_false (by simp) ?_
    rintro (hfirst | ⟨u, hfirst, -⟩)
    · exact hclose rest hfirst
    · exact hcomma u hfirst

/-- The sizes of a type are read as numbers with a parenthesis that closes them. -/
lemma mem_sizes_mul_iff : s ∈ sizes * l ↔ ∃ rest ∈ l, afterNumbers? s = some rest := by
  have hclose : ∀ {p : Char → Bool}, p ')' = false → StartsApart p (mark ')' * l) :=
    startsApart_mark_mul
  -- the character behind the first number decides whether there is a second one
  have hsizes : sizes * l = many isBlank * (numerals * (many isBlank * (mark ')' * l +
      mark ',' * (many isBlank * (numerals * (many isBlank * (mark ')' * l))))))) := by
    simp only [sizes, mul_assoc, add_mul, mul_add, one_mul]
  rw [hsizes, afterNumber?_iff ((hclose (by decide)).add (startsApart_mark_mul (by decide)))
    ((hclose (by decide)).add (startsApart_mark_mul (by decide)))]
  simp only [Language.mem_add, or_and_right, exists_or, exists_mem_mark_mul_iff,
    afterNumbers?_eq_some,
    afterNumber?_iff (hclose (p := isBlank) (by decide)) (hclose (by decide)), and_or_left]
  refine or_congr_right ⟨?_, ?_⟩
  · rintro ⟨u, ⟨rest, hrest, hsecond⟩, hfirst⟩
    exact ⟨rest, hrest, u, hfirst, hsecond⟩
  · rintro ⟨rest, hrest, u, hfirst, hsecond⟩
    exact ⟨u, ⟨rest, hrest, hsecond⟩, hfirst⟩

/-- The marks of an array are none, or begin with one. -/
lemma mem_brackets_kstar_iff :
    s ∈ brackets∗ ↔ s = [] ∨ s ∈ mark '[' * (mark ']' * brackets∗) := by
  rw [← mul_assoc, ← brackets, ← Language.mem_one, ← Language.mem_add,
    Language.one_add_self_mul_kstar_eq_kstar]

/-- The marks of an array are read one by one. -/
lemma isArrayMark_iff : isArrayMark s = true ↔ s ∈ brackets∗ := by
  fun_induction isArrayMark s with
  | case1 => exact iff_of_true rfl (Language.nil_mem_kstar _)
  | case2 s ih =>
    rw [ih, mem_brackets_kstar_iff (s := '[' :: ']' :: s), mark, mark, cons_mem_one_mul,
      cons_mem_one_mul]
    simp
  | case3 s hne hpair =>
    refine iff_of_false Bool.false_ne_true fun hs => ?_
    rcases mem_brackets_kstar_iff.mp hs with hnil | hs
    · exact hne hnil
    · obtain ⟨c, t, hc, ht, rfl⟩ := mem_one_mul_iff.mp hs
      obtain ⟨d, u, hd, -, rfl⟩ := mem_one_mul_iff.mp ht
      exact hpair u (by rw [of_decide_eq_true hc, of_decide_eq_true hd])

/-- The marks of an array begin with a bracket. -/
lemma startsApart_brackets {p : Char → Bool} (h : p '[' = false) : StartsApart p brackets∗ := by
  intro s hs
  rcases mem_brackets_kstar_iff.mp hs with rfl | hs
  · rfl
  · exact startsApart_mark_mul h s hs

/-- **The language of types.** The texts that are read as types are those of the language. -/
theorem isColumnType_iff : isColumnType s = true ↔ s ∈ columnTypes := by
  have htail : (1 + mark '(' * sizes) * brackets∗ = brackets∗ + mark '(' * (sizes * brackets∗) := by
    rw [add_mul, one_mul, mul_assoc]
  have hapart : StartsApart isTypeChar (brackets∗ + mark '(' * (sizes * brackets∗)) :=
    (startsApart_brackets (by decide)).add (startsApart_mark_mul (by decide))
  rw [columnTypes, mul_assoc, mul_assoc, htail]
  cases s with
  | nil => exact iff_of_false Bool.false_ne_true nil_notMem_one_mul
  | cons c s =>
    rw [cons_mem_one_mul, mem_many_mul_iff hapart, isColumnType, Bool.and_eq_true, Language.mem_add]
    refine and_congr_right fun _ => ?_
    split
    · next rest hrest =>
      have hopen : '(' :: rest ∉ brackets∗ := fun hmem => by
        cases startsApart_brackets (p := (· = '(')) (by decide) _ hmem
      rw [hrest, or_iff_right hopen, mark, cons_mem_one_mul, mem_sizes_mul_iff,
        and_iff_right (decide_eq_true rfl)]
      cases afterNumbers? rest with
      | none => simp
      | some u => simp [isArrayMark_iff]
    · next hother =>
      have hclosed : s.dropWhile isTypeChar ∉ mark '(' * (sizes * brackets∗) := fun hmem => by
        obtain ⟨d, rest, hd, -, hrest⟩ := mem_one_mul_iff.mp hmem
        exact hother rest (by rw [hrest, of_decide_eq_true hd])
      rw [or_iff_left hclosed, isArrayMark_iff]

example : isColumnType "numeric(10, 2)[]".toList = true ∧
    isColumnType "int); DROP TABLE t".toList = false := by
  decide +kernel

/-! ## Characters of types -/

/-- A character in the parentheses of a type. -/
def isSizeChar (c : Char) : Bool :=
  isBlank c || isDigit c || c = ','

/-- In the parentheses of a type there are blanks, digits and commas. -/
lemma exists_of_mem_sizes (h : s ∈ sizes) : ∃ inner ∈ many isSizeChar, s = inner ++ [')'] := by
  have hblank : HasOnly isSizeChar (many isBlank) := .of_many fun c hc => by simp [isSizeChar, hc]
  have hcomma : HasOnly isSizeChar (mark ',') := .of_one fun c hc => by
    simp [isSizeChar, of_decide_eq_true hc]
  have hnumerals : HasOnly isSizeChar numerals :=
    .mul (.of_one fun c hc => by simp [isSizeChar, hc])
      (.of_many fun c hc => by simp [isSizeChar, hc])
  have hsecond : HasOnly isSizeChar (1 + many isBlank * mark ',' * many isBlank * numerals) :=
    .add .empty (((hblank.mul hcomma).mul hblank).mul hnumerals)
  obtain ⟨inner, hinner, _, ⟨c, hc, rfl⟩, rfl⟩ := Language.mem_mul.mp h
  exact ⟨inner, (((hblank.mul hnumerals).mul hsecond).mul hblank) inner hinner,
    by rw [of_decide_eq_true hc]⟩

/-- A bracket. -/
def isBracket (c : Char) : Bool :=
  c = '[' || c = ']'

/-- A type is a word, perhaps with sizes in parentheses, and brackets. -/
lemma exists_of_mem_columnTypes (h : s ∈ columnTypes) :
    ∃ word ∈ many isTypeChar, ∃ size, ∃ back ∈ many isBracket, s = word ++ size ++ back ∧
      (size = [] ∨ ∃ inner ∈ many isSizeChar, size = '(' :: (inner ++ [')'])) := by
  have hword : HasOnly isTypeChar (one isAsciiLetter * many isTypeChar) :=
    .mul (.of_one fun c hc => by simp [isTypeChar, hc]) (.of_many fun _ => id)
  have hback : HasOnly isBracket brackets∗ := by
    refine .kstar (.mul (.of_one fun c hc => ?_) (.of_one fun c hc => ?_))
    · simp [isBracket, of_decide_eq_true hc]
    · simp [isBracket, of_decide_eq_true hc]
  obtain ⟨front, hfront, back, hmem, rfl⟩ := Language.mem_mul.mp h
  obtain ⟨word, hmemWord, size, hsize, rfl⟩ := Language.mem_mul.mp hfront
  refine ⟨word, hword word hmemWord, size, back, hback back hmem, rfl, ?_⟩
  rcases hsize with hnone | hsome
  · exact .inl hnone
  · obtain ⟨c, rest, hc, hrest, rfl⟩ := mem_one_mul_iff.mp hsome
    obtain ⟨inner, hinner, rfl⟩ := exists_of_mem_sizes hrest
    exact .inr ⟨inner, hinner, by rw [of_decide_eq_true hc]⟩

end PgGateway.Sql
