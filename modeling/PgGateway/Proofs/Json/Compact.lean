import PgGateway.Json.Document
import PgGateway.Proofs.Json.FloatText
import PgGateway.Proofs.Json.Lexed

set_option autoImplicit false

/-!
# Compact JSON is read

The compact form of every value is the text of a document. Its lists and objects are those of the
value, with the keys in the same order, and its strings are those of the value. What its numbers are
worth is another question.

## Main definitions

* `PgGateway.Json.Document.tokens` — the tokens of a document.
* `PgGateway.Json.document` — the document of a value.

## Main results

* `PgGateway.Json.Document.read?_of_lexes` — a document is read from its tokens.
* `PgGateway.Json.read?_chars` — the compact form of a value is read as the document of the value.
-/

namespace PgGateway.Json

namespace Document

mutual

/-- The tokens of a document. -/
def tokens : Document → List Token
  | .null => [.null]
  | .bool b => [.bool b]
  | .number n => [.number n]
  | .string s => [.string s]
  | .arr items => .openBracket :: itemTokens items
  | .obj members => .openBrace :: memberTokens members

/-- The tokens of some items, with the bracket that ends them. -/
def itemTokens : List Document → List Token
  | [] => [.closeBracket]
  | [item] => item.tokens ++ [.closeBracket]
  | item :: next :: rest => item.tokens ++ .comma :: itemTokens (next :: rest)

/-- The tokens of some members, with the brace that ends them. -/
def memberTokens : List (Option String × Document) → List Token
  | [] => [.closeBrace]
  | [(key, value)] => .string key :: .colon :: (value.tokens ++ [.closeBrace])
  | (key, value) :: next :: rest =>
    .string key :: .colon :: (value.tokens ++ .comma :: memberTokens (next :: rest))

end

/-- A document does not start with a closing bracket. -/
lemma exists_tokens_eq_cons (d : Document) : ∃ t ts, d.tokens = t :: ts ∧ t ≠ .closeBracket := by
  cases d <;> rw [tokens] <;> exact ⟨_, _, rfl, nofun⟩

/-- Some items do not start with a closing bracket. -/
lemma exists_itemTokens_eq_cons (item : Document) (rest : List Document) :
    ∃ t ts, itemTokens (item :: rest) = t :: ts ∧ t ≠ .closeBracket := by
  obtain ⟨t, ts, hts, ht⟩ := exists_tokens_eq_cons item
  cases rest with
  | nil => exact ⟨t, _, by rw [itemTokens, hts, List.cons_append], ht⟩
  | cons next rest => exact ⟨t, _, by rw [itemTokens, hts, List.cons_append], ht⟩

/-- Some members start with a key. -/
lemma exists_memberTokens_eq_cons (key : Option String) (value : Document)
    (rest : List (Option String × Document)) :
    ∃ ts, memberTokens ((key, value) :: rest) = .string key :: ts := by
  cases rest with
  | nil => exact ⟨_, memberTokens.eq_2 key value⟩
  | cons next rest => exact ⟨_, memberTokens.eq_3 key value next rest⟩

mutual

/-- A document is read from its tokens.

**Proof sketch.** Induction on the document. Each list and each object takes one off the fuel, and
so does each item and each member; there are two tokens for each of them. -/
theorem parse?_tokens : ∀ (d : Document) (fuel : Nat) (rest : List Token),
    2 * d.tokens.length ≤ fuel → parse? fuel (d.tokens ++ rest) = some (d, rest)
  | .null, fuel + 1, rest, _ => by rw [tokens]; rfl
  | .bool b, fuel + 1, rest, _ => by rw [tokens]; rfl
  | .number n, fuel + 1, rest, _ => by rw [tokens]; rfl
  | .string s, fuel + 1, rest, _ => by rw [tokens]; rfl
  | .arr [], fuel + 1, rest, _ => by rw [tokens, itemTokens]; rfl
  | .arr (item :: items), fuel + 1, rest, hfuel => by
    rw [tokens, List.length_cons] at hfuel
    have hitems := parseItems?_itemTokens item items fuel rest (by omega)
    obtain ⟨t, ts, hts, ht⟩ := exists_itemTokens_eq_cons item items
    rw [hts] at hitems
    rw [tokens, hts]
    have hstep : parse? (fuel + 1) (.openBracket :: (t :: ts) ++ rest) =
        (parseItems? fuel (t :: ts ++ rest)).map fun (items, rest) => (.arr items, rest) := by
      cases t <;> first | rfl | exact absurd rfl ht
    rw [hstep, hitems]
    rfl
  | .obj [], fuel + 1, rest, _ => by rw [tokens, memberTokens]; rfl
  | .obj ((key, value) :: members), fuel + 1, rest, hfuel => by
    rw [tokens, List.length_cons] at hfuel
    have hmembers := parseMembers?_memberTokens key value members fuel rest (by omega)
    obtain ⟨ts, hts⟩ := exists_memberTokens_eq_cons key value members
    rw [hts] at hmembers
    rw [tokens, hts]
    change (parseMembers? fuel (.string key :: ts ++ rest)).map _ = _
    rw [hmembers]
    rfl
  | d, 0, rest, hfuel => by
    obtain ⟨t, ts, hts, -⟩ := exists_tokens_eq_cons d
    rw [hts] at hfuel
    exact absurd hfuel (Nat.not_succ_le_zero _)

/-- Items are read from their tokens. -/
theorem parseItems?_itemTokens : ∀ (item : Document) (items : List Document) (fuel : Nat)
    (rest : List Token), 2 * (itemTokens (item :: items)).length ≤ fuel →
      parseItems? fuel (itemTokens (item :: items) ++ rest) = some (item :: items, rest)
  | item, [], fuel + 1, rest, hfuel => by
    rw [itemTokens, List.length_append, List.length_singleton] at hfuel
    have hitem := parse?_tokens item fuel (.closeBracket :: rest) (by omega)
    rw [itemTokens, List.append_assoc, List.singleton_append, parseItems?, hitem]
  | item, next :: items, fuel + 1, rest, hfuel => by
    rw [itemTokens, List.length_append, List.length_cons] at hfuel
    have hitem := parse?_tokens item fuel
      (.comma :: (itemTokens (next :: items) ++ rest)) (by omega)
    have hitems := parseItems?_itemTokens next items fuel rest (by omega)
    rw [itemTokens, List.append_assoc, List.cons_append, parseItems?, hitem]
    dsimp only
    rw [hitems]
    rfl
  | item, items, 0, rest, hfuel => by
    obtain ⟨t, ts, hts, -⟩ := exists_itemTokens_eq_cons item items
    rw [hts] at hfuel
    exact absurd hfuel (Nat.not_succ_le_zero _)

/-- Members are read from their tokens. -/
theorem parseMembers?_memberTokens : ∀ (key : Option String) (value : Document)
    (members : List (Option String × Document)) (fuel : Nat) (rest : List Token),
    2 * (memberTokens ((key, value) :: members)).length ≤ fuel →
      parseMembers? fuel (memberTokens ((key, value) :: members) ++ rest) =
        some ((key, value) :: members, rest)
  | key, value, [], fuel + 1, rest, hfuel => by
    simp only [memberTokens, List.length_cons, List.length_append] at hfuel
    have hvalue := parse?_tokens value fuel (.closeBrace :: rest) (by omega)
    rw [memberTokens, List.cons_append, List.cons_append, List.append_assoc,
      List.singleton_append, parseMembers?, hvalue]
  | key, value, (nextKey, next) :: members, fuel + 1, rest, hfuel => by
    simp only [memberTokens, List.length_cons, List.length_append] at hfuel
    have hvalue := parse?_tokens value fuel
      (.comma :: (memberTokens ((nextKey, next) :: members) ++ rest)) (by omega)
    have hmembers := parseMembers?_memberTokens nextKey next members fuel rest (by omega)
    rw [memberTokens, List.cons_append, List.cons_append, List.append_assoc, List.cons_append,
      parseMembers?, hvalue]
    dsimp only
    rw [hmembers]
    rfl
  | key, value, members, 0, rest, hfuel => by
    obtain ⟨ts, hts⟩ := exists_memberTokens_eq_cons key value members
    rw [hts] at hfuel
    exact absurd hfuel (Nat.not_succ_le_zero _)

end

/-- **Documents.** A text that is made of the tokens of a document is read as the document. -/
theorem read?_of_lexes {s : List Char} {d : Document} (h : Lexes s d.tokens) :
    read? s = some d := by
  have hparse := parse?_tokens d (2 * d.tokens.length + 1) [] (by omega)
  rw [List.append_nil] at hparse
  rw [read?, h.tokens?_eq]
  dsimp only
  rw [hparse]

end Document

/-! ## Documents of values -/

mutual

/-- The document as which the compact form of a value is read. -/
def document : Json → Document
  | .null => .null
  | .bool b => .bool b
  | .int n => .number (numeralOf (intChars n))
  | .float x => if x.isFinite then .number (numeralOf x.written) else .null
  | .str s => .string (some s)
  | .arr items => .arr (itemDocuments items)
  | .obj members => .obj (memberDocuments members)

/-- The documents of some items. -/
def itemDocuments : List Json → List Document
  | [] => []
  | item :: rest => item.document :: itemDocuments rest

/-- The documents of some members under their keys. -/
def memberDocuments : List (String × Json) → List (Option String × Document)
  | [] => []
  | (key, value) :: rest => (some key, value.document) :: memberDocuments rest

end

/-- A text that is read as a numeral is made of this token. -/
lemma IsNumeralText.lexes {s : List Char} {n : Numeral} (h : IsNumeralText s n) :
    Lexes s [.number (numeralOf s)] := by
  rw [h.numeralOf_eq]
  cases s with
  | nil => exact absurd (h [] nofun) nofun
  | cons c s => exact .single h

/-- The text of a string is made of this token. -/
lemma lexes_stringChars (s : String) : Lexes (stringChars s) [.string (some s)] :=
  .single fun rest _ => token?_stringChars s rest

/-- The characters that stand between values do not go on like a number. -/
lemma endsNumeral_cons {c : Char} (hc : c ∈ [',', ':', ']', '}']) (rest : List Char) :
    EndsNumeral (c :: rest) := by
  rintro c' ⟨⟩
  simp only [List.mem_cons, List.not_mem_nil, or_false] at hc
  rcases hc with rfl | rfl | rfl | rfl <;> exact ⟨rfl, by decide, by decide, by decide⟩

/-- The bracket that ends a list is a token. -/
lemma lexes_closeBracket : Lexes [']'] [.closeBracket] :=
  .single fun _ _ => rfl

/-- The brace that ends an object is a token. -/
lemma lexes_closeBrace : Lexes ['}'] [.closeBrace] :=
  .single fun _ _ => rfl

/-- A key and its value with a colon between them. -/
lemma Lexes.member {s : List Char} {ts : List Token} (hs : Lexes s ts) (key : String) :
    Lexes (stringChars key ++ ':' :: s) (.string (some key) :: .colon :: ts) :=
  (lexes_stringChars key).append (hs.cons fun _ => rfl) fun _ => endsNumeral_cons (by simp) _

mutual

/-- The compact form of a value is made of the tokens of its document.

**Proof sketch.** Induction on the value. Behind each item and each member stands a character that
ends a number. -/
theorem lexes_chars : ∀ j : Json, Lexes j.chars j.document.tokens
  | .null => Lexes.single (c := 'n') (s := ['u', 'l', 'l']) fun _ _ => rfl
  | .bool true => Lexes.single (c := 't') (s := ['r', 'u', 'e']) fun _ _ => rfl
  | .bool false => Lexes.single (c := 'f') (s := ['a', 'l', 's', 'e']) fun _ _ => rfl
  | .int n => (isNumeralText_intChars n).lexes
  | .float x => by
    change Lexes (floatChars x) (document (.float x)).tokens
    rw [document, floatChars]
    split
    · obtain ⟨n, hn⟩ := exists_isNumeralText_written x
      exact hn.lexes
    · exact Lexes.single (c := 'n') (s := ['u', 'l', 'l']) fun _ _ => rfl
  | .str s => lexes_stringChars s
  | .arr items => by
    rw [chars, document, Document.tokens]
    exact (lexes_itemChars items).cons fun _ => rfl
  | .obj members => by
    rw [chars, document, Document.tokens]
    exact (lexes_memberChars members).cons fun _ => rfl

/-- The text of items is made of their tokens. -/
theorem lexes_itemChars : ∀ items : List Json,
    Lexes (itemChars items) (Document.itemTokens (itemDocuments items))
  | [] => by
    rw [itemChars, itemDocuments, Document.itemTokens]
    exact lexes_closeBracket
  | [item] => by
    rw [itemChars, itemDocuments, itemDocuments, Document.itemTokens]
    exact (lexes_chars item).append lexes_closeBracket fun _ => endsNumeral_cons (by simp) _
  | item :: next :: rest => by
    rw [itemChars, itemDocuments, itemDocuments, Document.itemTokens]
    exact (lexes_chars item).append ((lexes_itemChars (next :: rest)).cons fun _ => rfl)
      fun _ => endsNumeral_cons (by simp) _

/-- The text of members is made of their tokens. -/
theorem lexes_memberChars : ∀ members : List (String × Json),
    Lexes (memberChars members) (Document.memberTokens (memberDocuments members))
  | [] => by
    rw [memberChars, memberDocuments, Document.memberTokens]
    exact lexes_closeBrace
  | [(key, value)] => by
    rw [memberChars, memberDocuments, memberDocuments, Document.memberTokens]
    exact ((lexes_chars value).member key).append lexes_closeBrace
      fun _ => endsNumeral_cons (by simp) _
  | (key, value) :: (nextKey, next) :: rest => by
    rw [memberChars, memberDocuments, memberDocuments, Document.memberTokens]
    exact ((lexes_chars value).member key).append
      ((lexes_memberChars ((nextKey, next) :: rest)).cons fun _ => rfl)
      fun _ => endsNumeral_cons (by simp) _

end

/-- **Compact JSON.** The compact form of a value is read as the document of the value. -/
theorem read?_chars (j : Json) : Document.read? j.chars = some j.document :=
  Document.read?_of_lexes (lexes_chars j)

end PgGateway.Json
