import PgGateway.Proofs.Json.Numeral

set_option autoImplicit false

/-!
# Tokens in text

A written string is read as one token, however its characters are escaped. A text that is made of
tokens has these tokens, where none of them is a number that what follows goes on with.

## Main definitions

* `PgGateway.Json.Lexes` — whether a text is made of some tokens.

## Main results

* `PgGateway.Json.token?_stringChars` — the text of a string is read as the string.
* `PgGateway.Json.Lexes.append` — texts that are made of tokens, one after the other.
* `PgGateway.Json.Lexes.tokens?_eq` — a text that is made of tokens has these tokens.
-/

namespace PgGateway.Json

open Text

/-! ## Strings -/

/-- The unit as which a written character is read: a control character without a short escape is
read as a number. -/
def unitOf (c : Char) : StringUnit :=
  if c.toNat < 0x20 ∧ c ∉ ['\x08', '\x0c', '\n', '\r', '\t'] then .word c.toNat else .char c

/-- A hexadecimal digit has its value. -/
lemma hexDigit?_digitChar {d : Nat} (h : d < 16) : hexDigit? (Nat.digitChar d) = some d := by
  have hall : ∀ d < 16, hexDigit? (Nat.digitChar d) = some d := by decide
  exact hall d h

/-- The four digits of the escape of a control character give its number. -/
lemma hexQuad?_hex {n : Nat} (h : n < 0x20) (rest : List Char) :
    hexQuad? (List.replicate (4 - (hex n).length) '0' ++ hex n ++ rest) = some (n, rest) := by
  have hall : ∀ n < 0x20, List.replicate (4 - (hex n).length) '0' ++ hex n =
      ['0', '0', Nat.digitChar (n / 16), Nat.digitChar (n % 16)] := by
    decide
  have hzero : hexDigit? '0' = some 0 := rfl
  simp only [hall n h, List.cons_append, List.nil_append, hexQuad?, hzero,
    hexDigit?_digitChar (show n / 16 < 16 by omega),
    hexDigit?_digitChar (show n % 16 < 16 by omega), Option.bind_eq_bind, Option.bind_some]
  congr 2
  omega

/-- An escaped character is read as its unit. -/
lemma stringUnit?_escapedChar (c : Char) (rest : List Char) :
    stringUnit? (escapedChar c ++ rest) = some (unitOf c, rest) := by
  by_cases hshort : c ∈ ['"', '\\', '\x08', '\x0c', '\n', '\r', '\t']
  · -- The characters with a short escape.
    simp only [List.mem_cons, List.not_mem_nil, or_false] at hshort
    rcases hshort with rfl | rfl | rfl | rfl | rfl | rfl | rfl <;> rfl
  · simp only [List.mem_cons, List.not_mem_nil, or_false, not_or] at hshort
    obtain ⟨hquote, hslash, hb, hf, hn, hr, ht⟩ := hshort
    simp only [escapedChar, hquote, hslash, hb, hf, hn, hr, ht, if_false]
    split
    · next hcontrol =>
      have hquad := hexQuad?_hex hcontrol rest
      rw [unitOf, if_pos ⟨hcontrol, by simp [hb, hf, hn, hr, ht]⟩]
      simp only [List.cons_append, List.append_assoc] at hquad ⊢
      rw [stringUnit?, hquad]
      rfl
    · next hcontrol =>
      rw [unitOf, if_neg (fun h => hcontrol h.1), List.singleton_append]
      unfold stringUnit?
      split <;> simp_all

/-- An escaped character does not start with a quote. -/
lemma exists_escapedChar_eq_cons (c : Char) : ∃ d s, escapedChar c = d :: s ∧ d ≠ '"' := by
  by_cases hquote : c = '"'
  · subst hquote
    exact ⟨'\\', ['"'], rfl, by decide⟩
  · unfold escapedChar
    rw [if_neg hquote]
    repeat' split
    all_goals first
      | exact ⟨_, _, rfl, by decide⟩
      | exact ⟨_, _, rfl, hquote⟩

/-- The units of a string are read up to its closing quote. -/
lemma stringUnits?_escaped (s : List Char) {fuel : Nat} (hfuel : s.length < fuel)
    (done : List StringUnit) (rest : List Char) :
    stringUnits? fuel done (s.flatMap escapedChar ++ '"' :: rest) =
      some ((s.map unitOf).reverse ++ done, rest) := by
  induction s generalizing fuel done with
  | nil =>
    obtain ⟨fuel, rfl⟩ := Nat.exists_eq_add_of_lt hfuel
    rfl
  | cons c s ih =>
    cases fuel with
    | zero => exact absurd hfuel (Nat.not_lt_zero _)
    | succ fuel =>
      have hrest := ih (Nat.lt_of_succ_lt_succ hfuel) (unitOf c :: done)
      have hunit := stringUnit?_escapedChar c (s.flatMap escapedChar ++ '"' :: rest)
      obtain ⟨d, t, hdt, hd⟩ := exists_escapedChar_eq_cons c
      rw [List.flatMap_cons, List.append_assoc, stringUnits?.eq_3]
      · rw [hunit]
        dsimp only
        rw [hrest]
        simp
      · intro rest' h
        rw [hdt] at h
        exact hd (List.cons.inj h).1

/-- The units of a string give its text. -/
lemma unitsText?_unitOf (s text : List Char) (before : List StringUnit) :
    unitsText? text ((s.map unitOf).reverse ++ before) = unitsText? (s ++ text) before := by
  induction s generalizing before with
  | nil => rfl
  | cons c s ih =>
    rw [List.map_cons, List.reverse_cons, List.append_assoc, ih, List.singleton_append, unitOf]
    split
    · next hcontrol =>
      have hlow : ¬ (0xDC00 ≤ c.toNat ∧ c.toNat ≤ 0xDFFF) := by omega
      have hhigh : ¬ (0xD800 ≤ c.toNat ∧ c.toNat ≤ 0xDBFF) := by omega
      rw [unitsText?.eq_def]
      dsimp only
      rw [if_neg (by simpa using hlow), if_neg (by simpa using hhigh), Char.ofNat_toNat]
      rfl
    · rfl

/-- A text is not longer than when it is escaped. -/
lemma length_le_length_escaped (s : List Char) : s.length ≤ (s.flatMap escapedChar).length := by
  induction s with
  | nil => exact Nat.zero_le _
  | cons c s ih =>
    obtain ⟨d, t, hdt, -⟩ := exists_escapedChar_eq_cons c
    rw [List.flatMap_cons, hdt]
    simp only [List.length_cons, List.length_append]
    omega

/-- **Strings.** The text of a string is read as the string. -/
theorem token?_stringChars (s : String) (rest : List Char) :
    token? (stringChars s ++ rest) = some (.string (some s), rest) := by
  have hfuel : s.toList.length <
      (s.toList.flatMap escapedChar ++ '"' :: rest).length + 1 := by
    have hlength := length_le_length_escaped s.toList
    rw [List.length_append]
    omega
  have hchars : stringChars s ++ rest =
      '"' :: (s.toList.flatMap escapedChar ++ '"' :: rest) := by
    simp [stringChars]
  have htext : unitsText? [] ((s.toList.map unitOf).reverse ++ []) = some s.toList := by
    rw [unitsText?_unitOf, List.append_nil]
    rfl
  rw [hchars, token?, stringUnits?_escaped s.toList hfuel, Option.map_some]
  dsimp only
  rw [htext, Option.map_some, String.ofList_toList]

/-! ## Texts made of tokens -/

/-- No token starts with a gap. -/
lemma token?_eq_none_of_isGap {c : Char} (hc : isGap c = true) (s : List Char) :
    token? (c :: s) = none := by
  rw [isGap] at hc
  simp only [Bool.or_eq_true, decide_eq_true_eq] at hc
  rcases hc with ((rfl | rfl) | rfl) | rfl <;> rfl

/-- The token at the start of a text is found without gaps before it. -/
lemma tokensAfter?_of_token? {s rest : List Char} {t : Token} (h : token? s = some (t, rest))
    (fuel : Nat) (done : List Token) :
    tokensAfter? (fuel + 1) done s = tokensAfter? fuel (t :: done) rest := by
  cases s with
  | nil => cases h
  | cons c s =>
    have hc : ¬ isGap c = true := by
      intro hgap
      rw [token?_eq_none_of_isGap hgap] at h
      cases h
    rw [tokensAfter?.eq_def, List.dropWhile_cons_of_neg hc]
    simp only [h]

/-- Whether a text is made of some tokens, if what follows does not go on like a number. -/
structure Lexes (s : List Char) (ts : List Token) : Prop where
  /-- Every token takes some of the text. -/
  length_le : ts.length ≤ s.length
  /-- The tokens are found, and what follows is left. -/
  read : ∀ fuel done rest, EndsNumeral rest →
    tokensAfter? (fuel + ts.length) done (s ++ rest) = tokensAfter? fuel (ts.reverse ++ done) rest

namespace Lexes

/-- A text that is one token. -/
lemma single {c : Char} {s : List Char} {t : Token}
    (h : ∀ rest, EndsNumeral rest → token? (c :: s ++ rest) = some (t, rest)) :
    Lexes (c :: s) [t] where
  length_le := by simp
  read fuel done rest hrest := tokensAfter?_of_token? (h rest hrest) fuel done

/-- A text after a token that ends wherever it stands. -/
lemma cons {s : List Char} {ts : List Token} (hs : Lexes s ts) {c : Char} {t : Token}
    (h : ∀ rest, token? (c :: rest) = some (t, rest)) : Lexes (c :: s) (t :: ts) where
  length_le := Nat.succ_le_succ hs.length_le
  read fuel done rest hrest := by
    rw [List.length_cons, ← Nat.add_assoc, List.cons_append, tokensAfter?_of_token? (h _),
      hs.read fuel _ rest hrest, List.reverse_cons, List.append_assoc]
    rfl

/-- Two texts of which the second does not go on like a number. -/
lemma append {s s' : List Char} {ts ts' : List Token} (hs : Lexes s ts) (hs' : Lexes s' ts')
    (hends : ∀ rest, EndsNumeral (s' ++ rest)) : Lexes (s ++ s') (ts ++ ts') where
  length_le := by
    rw [List.length_append, List.length_append]
    exact Nat.add_le_add hs.length_le hs'.length_le
  read fuel done rest hrest := by
    rw [List.length_append, Nat.add_comm ts.length, ← Nat.add_assoc, List.append_assoc,
      hs.read _ done _ (hends rest), hs'.read fuel _ rest hrest, List.reverse_append,
      List.append_assoc]

/-- A text that is made of tokens has these tokens. -/
theorem tokens?_eq {s : List Char} {ts : List Token} (h : Lexes s ts) : tokens? s = some ts := by
  obtain ⟨fuel, hfuel⟩ := Nat.exists_eq_add_of_le' h.length_le
  have hread := h.read fuel [] [] nofun
  rw [List.append_nil, List.append_nil, ← hfuel] at hread
  rw [tokens?, hread, tokensAfter?.eq_def]
  exact congrArg some (List.reverse_reverse ts)

end Lexes

end PgGateway.Json
