import PgGateway.Proofs.Text.Cut
import PgGateway.Sql.Path

set_option autoImplicit false

/-!
# Spellings of paths

A path can be given as a list or as a text, and as a text with points or in braces, with or without
a mark of the root. All spellings of a path with plain segments are read alike. A list is read item
by item, so that segments which no text could have are kept as well.

## Main definitions

* `PgGateway.Sql.spellingMarks` — the characters that the spellings are made with.
* `PgGateway.Sql.IsPlainSegment` — whether a segment can stand in every spelling.
* `PgGateway.Sql.spellings` — the spellings of a path as a text.
* `PgGateway.Sql.IsBody` — what all texts behind the mark of the root have in common.

## Main results

* `PgGateway.Sql.IsBody.textSegments_eq` — the mark of the root and blanks around the path do not
  count.
* `PgGateway.Sql.parsePath_items` — the segments of a list, item by item.
* `PgGateway.Sql.parsePath_spellings` — all spellings of a path are read alike.
-/

namespace PgGateway.Sql

/-- The characters that the spellings of a path are made with. -/
def spellingMarks : List Char :=
  ['.', ',', '{', '}', '$']

/-- Whether a segment can stand in every spelling: it is not empty, there are no blanks around it,
and it has none of the characters that the spellings are made with. -/
structure IsPlainSegment (segment : String) : Prop where
  /-- The segment is not empty. -/
  ne_empty : segment ≠ ""
  /-- There are no blanks around it. -/
  trimmed : Text.IsTrimmed segment.toList
  /-- It has no points, commas, braces and dollar signs. -/
  not_mem : ∀ mark ∈ spellingMarks, mark ∉ segment.toList

/-- The marks of the root that a path may begin with. -/
def rootMarks : List String :=
  ["", "$.", "$"]

/-- The spellings of a path as a text: behind a mark of the root the segments stand with points
between them, or in braces with commas between them. -/
def spellings (segments : List String) : List String :=
  rootMarks.flatMap fun root =>
    [root ++ Text.join "." segments, root ++ r"{" ++ Text.join "," segments ++ r"}"]

/-! ## Behind the mark of the root -/

/-- What all texts have in common that stand behind a mark of the root and name a path: they are not
taken for a part of the mark, and without braces they are the segments with points between them. -/
structure IsBody (parts : List (List Char)) (body : List Char) : Prop where
  /-- There are no blanks around the text. -/
  trimmed : Text.IsTrimmed body
  /-- It begins with a character. -/
  ne_nil : body ≠ []
  /-- It does not begin like a mark of the root. -/
  head?_ne : body.head? ≠ some '$' ∧ body.head? ≠ some '.'
  /-- Without braces it is the segments with points between them. -/
  withoutBraces_eq : withoutBraces body = Text.joined ['.'] parts

/-- A text that does not begin with a brace has none to be taken away. -/
lemma withoutBraces_of_head? {s : List Char} (h : s.head? ≠ some '{') : withoutBraces s = s := by
  unfold withoutBraces
  split
  · exact absurd rfl h
  · rfl

/-- Braces around a text are taken away, and its commas are made points. -/
lemma withoutBraces_braces (inner : List Char) :
    withoutBraces ('{' :: (inner ++ ['}'])) = Text.substitute ',' ['.'] inner := by
  have hinner : Text.before? ['}'] (inner ++ ['}']) = some inner :=
    Text.before?_eq_some.mpr rfl
  rw [withoutBraces, hinner]

/-- There are three marks of the root, and one of them is empty. -/
lemma eq_of_mem_rootMarks {root : String} (h : root ∈ rootMarks) :
    root = "" ∨ root = "$." ∨ root = "$" := by
  simpa [rootMarks] using h

/-- A mark of the root is taken away from a text that does not begin like one. -/
lemma afterRoot_append {root : String} (hroot : root ∈ rootMarks) {body : List Char}
    (h : body.head? ≠ some '$' ∧ body.head? ≠ some '.') :
    afterRoot (root.toList ++ body) = body := by
  obtain ⟨hdollar, hpoint⟩ := h
  rcases eq_of_mem_rootMarks hroot with rfl | rfl | rfl
  · show afterRoot body = body
    unfold afterRoot
    split
    · exact absurd rfl hdollar
    · exact absurd rfl hdollar
    · rfl
  · rfl
  · show afterRoot ('$' :: body) = body
    unfold afterRoot
    split
    · next heq =>
      cases heq
      exact absurd rfl hpoint
    · next heq =>
      cases heq
      rfl
    · next hnot => exact absurd rfl (hnot body)

/-- A mark of the root puts no blanks around a text. -/
lemma isTrimmed_root_append {root : String} (hroot : root ∈ rootMarks) {body : List Char}
    (h : Text.IsTrimmed body) (hne : body ≠ []) : Text.IsTrimmed (root.toList ++ body) := by
  rcases eq_of_mem_rootMarks hroot with rfl | rfl | rfl
  · exact h
  · exact (Text.isTrimmed_append (by decide) hne).mpr ⟨by decide, h.2⟩
  · exact (Text.isTrimmed_append (by decide) hne).mpr ⟨by decide, h.2⟩

section Plain

variable {segments : List String}

/-- Plain segments are not empty, and no blanks stand around them. -/
lemma trimmed_of_plain (h : ∀ segment ∈ segments, IsPlainSegment segment) :
    ∀ part ∈ segments.map String.toList, part ≠ [] ∧ Text.IsTrimmed part := by
  intro part hpart
  obtain ⟨segment, hmem, rfl⟩ := List.mem_map.mp hpart
  have hne := (h segment hmem).ne_empty
  exact ⟨by simpa using hne, (h segment hmem).trimmed⟩

/-- The characters that the spellings are made with are in no plain segment. -/
lemma not_mem_of_plain (h : ∀ segment ∈ segments, IsPlainSegment segment) {mark : Char}
    (hmark : mark ∈ spellingMarks) :
    ∀ part ∈ segments.map String.toList, mark ∉ part := by
  intro part hpart
  obtain ⟨segment, hmem, rfl⟩ := List.mem_map.mp hpart
  exact (h segment hmem).not_mem mark hmark

/-- Plain segments with points between them name the path of the segments. -/
lemma isBody_join (h : ∀ segment ∈ segments, IsPlainSegment segment) (hne : segments ≠ []) :
    IsBody (segments.map String.toList) (Text.join "." segments).toList := by
  have hparts := trimmed_of_plain h
  rw [Text.join, String.toList_ofList]
  obtain ⟨first, rest, rfl⟩ := List.exists_cons_of_ne_nil hne
  have hfirst := hparts first.toList List.mem_cons_self
  have hhead : ∀ {mark : Char}, mark ∈ spellingMarks →
      (Text.joined ['.'] ((first :: rest).map String.toList)).head? ≠ some mark := by
    intro mark hmark heq
    rw [List.map_cons, Text.head?_joined_cons _ hfirst.1] at heq
    exact not_mem_of_plain h hmark first.toList List.mem_cons_self (List.mem_of_head? heq)
  exact ⟨Text.isTrimmed_joined _ hparts, Text.joined_cons_ne_nil _ hfirst.1 _,
    ⟨hhead (by decide), hhead (by decide)⟩, withoutBraces_of_head? (hhead (by decide))⟩

/-- Plain segments in braces with commas between them name the path of the segments. -/
lemma isBody_braces (h : ∀ segment ∈ segments, IsPlainSegment segment) :
    IsBody (segments.map String.toList) (r"{" ++ Text.join "," segments ++ r"}").toList := by
  have hchars : (r"{" ++ Text.join "," segments ++ r"}").toList =
      '{' :: (Text.joined [','] (segments.map String.toList) ++ ['}']) := by
    simp [Text.join]
  rw [hchars]
  have htrimmed : Text.IsTrimmed
      (['{'] ++ (Text.joined [','] (segments.map String.toList) ++ ['}'])) :=
    (Text.isTrimmed_append (by simp) (by simp)).mpr ⟨by decide, by simp [Text.isBlank]⟩
  refine ⟨htrimmed, by simp, by simp, ?_⟩
  rw [withoutBraces_braces, Text.substitute_joined _ (not_mem_of_plain h (by decide))]

end Plain

/-- **Marks and blanks do not count.** The segments of a path are those behind the mark of the root,
if they are plain, whatever blanks stand around the path. -/
theorem IsBody.textSegments_eq {parts : List (List Char)} {body : List Char} (h : IsBody parts body)
    (hne : parts ≠ []) (hpoint : ∀ part ∈ parts, '.' ∉ part)
    (hparts : ∀ part ∈ parts, part ≠ [] ∧ Text.IsTrimmed part) {root : String}
    (hroot : root ∈ rootMarks) {front back : List Char}
    (hfront : ∀ c ∈ front, Text.isBlank c = true) (hback : ∀ c ∈ back, Text.isBlank c = true) :
    textSegments (front ++ (root.toList ++ body ++ back)) = parts := by
  have htrim : Text.trim (root.toList ++ body) = root.toList ++ body :=
    Text.trim_eq_self_iff.mpr (isTrimmed_root_append hroot h.trimmed h.ne_nil)
  have hpieces : Text.pieces '.' (Text.joined ['.'] parts) = parts := Text.pieces_joined hne hpoint
  have hmap : parts.map Text.trim = parts := by
    rw [List.map_congr_left fun part hmem => Text.trim_eq_self_iff.mpr (hparts part hmem).2,
      List.map_id']
  rw [textSegments, Text.trim_append_append hfront hback, htrim, afterRoot_append hroot h.head?_ne,
    h.withoutBraces_eq, hpieces, hmap]
  apply List.filter_eq_self.mpr
  intro part hmem
  simpa using (hparts part hmem).1

/-! ## Lists -/

/-- An integer is written in decimal. -/
lemma ofList_intChars (n : Int) : String.ofList (Json.intChars n) = toString n := by
  cases n with
  | ofNat n =>
    have hsign : ¬ Int.ofNat n < 0 := Int.not_lt.mpr (Int.natCast_nonneg n)
    rw [Json.intChars, if_neg hsign]
    rfl
  | negSucc n =>
    rw [Json.intChars, if_pos (Int.negSucc_lt_zero n), ← List.singleton_append,
      String.ofList_append]
    rfl

/-- **Lists item by item.** Of a list of strings and integers, the strings are segments as they are,
and the integers in decimal; only the list without items is refused. -/
theorem parsePath_items (items : List (String ⊕ Int)) :
    parsePath (.arr (items.map (Sum.elim .str .int))) =
      if items = [] then .error (.invalidArguments "JSON path must not be empty")
      else .ok (items.map (Sum.elim id toString)) := by
  have hitem : ∀ item : String ⊕ Int,
      itemSegment (Sum.elim .str .int item) = .ok (Sum.elim id toString item) := by
    intro item
    cases item with
    | inl s => rfl
    | inr n => exact congrArg Except.ok (ofList_intChars n)
  have hmap : (items.map (Sum.elim Json.str Json.int)).mapM itemSegment =
      .ok (items.map (Sum.elim id toString)) := by
    induction items with
    | nil => rfl
    | cons item items ih =>
      rw [List.map_cons, List.mapM_cons, hitem, ih]
      rfl
  unfold parsePath
  dsimp only
  rw [hmap]
  cases items with
  | nil => rfl
  | cons item items => rfl

/-! ## All spellings -/

/-- A spelling is a mark of the root and a text that names the path. -/
lemma exists_isBody_of_mem_spellings {segments : List String}
    (h : ∀ segment ∈ segments, IsPlainSegment segment) (hne : segments ≠ []) {spelling : String}
    (hspelling : spelling ∈ spellings segments) :
    ∃ root ∈ rootMarks, ∃ body, spelling.toList = root.toList ++ body ∧
      IsBody (segments.map String.toList) body := by
  obtain ⟨root, hroot, hmem⟩ := List.mem_flatMap.mp hspelling
  rcases List.mem_pair.mp hmem with rfl | rfl
  · exact ⟨root, hroot, _, String.toList_append, isBody_join h hne⟩
  · refine ⟨root, hroot, _, ?_, isBody_braces h⟩
    rw [String.append_assoc, String.append_assoc, String.toList_append, ← String.append_assoc]

/-- A spelling of a path with plain segments is read as these segments, whatever blanks stand around
it. -/
lemma parsePath_str_of_mem_spellings {segments : List String}
    (h : ∀ segment ∈ segments, IsPlainSegment segment) (hne : segments ≠ []) {spelling : String}
    (hspelling : spelling ∈ spellings segments) {front back : String}
    (hfront : ∀ c ∈ front.toList, Text.isBlank c = true)
    (hback : ∀ c ∈ back.toList, Text.isBlank c = true) :
    parsePath (.str (front ++ spelling ++ back)) = .ok segments := by
  obtain ⟨root, hroot, body, hchars, hbody⟩ := exists_isBody_of_mem_spellings h hne hspelling
  have hread : textSegments (front ++ spelling ++ back).toList = segments.map String.toList := by
    rw [String.toList_append, String.toList_append, List.append_assoc, hchars]
    exact hbody.textSegments_eq (by simpa using hne) (not_mem_of_plain h (by decide))
      (trimmed_of_plain h) hroot hfront hback
  have hsegments : (segments.map String.toList).map String.ofList = segments := by
    simp [Function.comp_def]
  unfold parsePath
  dsimp only
  rw [hread, hsegments]
  obtain ⟨first, rest, rfl⟩ := List.exists_cons_of_ne_nil hne
  rfl

/-- **Spellings of a path.** Plain segments are read from each spelling of the path that they make,
whatever blanks stand around it, and from their list. A list of strings and integers is read if and
only if it has an item; its strings are segments as they are, whatever they contain, and its
integers are segments in decimal. -/
theorem parsePath_spellings (segments : List String) (items : List (String ⊕ Int)) :
    (segments ≠ [] → (∀ segment ∈ segments, IsPlainSegment segment) →
      (∀ spelling ∈ spellings segments, ∀ front back : String,
        (∀ c ∈ front.toList, Text.isBlank c = true) →
        (∀ c ∈ back.toList, Text.isBlank c = true) →
          parsePath (.str (front ++ spelling ++ back)) = .ok segments) ∧
      parsePath (Json.strings segments) = .ok segments) ∧
    ((∃ read, parsePath (.arr (items.map (Sum.elim .str .int))) = .ok read) ↔ items ≠ []) ∧
    (items ≠ [] → parsePath (.arr (items.map (Sum.elim .str .int))) =
      .ok (items.map (Sum.elim id toString))) := by
  refine ⟨fun hne h => ⟨fun spelling hspelling front back hfront hback =>
    parsePath_str_of_mem_spellings h hne hspelling hfront hback, ?_⟩, ?_, ?_⟩
  · have hlist := parsePath_items (segments.map .inl)
    rw [if_neg (by simpa using hne), List.map_map, List.map_map] at hlist
    simpa [Json.strings, Function.comp_def] using hlist
  · rw [parsePath_items]
    by_cases hitems : items = []
    · simp [hitems]
    · simp [hitems]
  · intro hitems
    rw [parsePath_items, if_neg hitems]

/-- Segments with inner blanks, quotes and a number, and a list with items that no text could
name. -/
theorem parsePath_spellings_of_blanks :
    let segments := ["first name", "it's", "0"]
    let items : List (String ⊕ Int) :=
      [.inl "", .inl "a.b ", .inl r"{c,$}", .inr (-7), .inr 10]
    segments ≠ [] ∧ (∀ segment ∈ segments, IsPlainSegment segment) ∧
      r"${first name,it's,0}" ∈ spellings segments ∧
      "$first name.it's.0" ∈ spellings segments ∧
      (∀ c ∈ "\t ".toList, Text.isBlank c = true) ∧ (∀ c ∈ "\n".toList, Text.isBlank c = true) ∧
      parsePath (.str ("\t " ++ r"${first name,it's,0}" ++ "\n")) = .ok segments ∧
      parsePath (.str ("\t " ++ "$first name.it's.0" ++ "\n")) = .ok segments ∧
      parsePath (Json.strings segments) = .ok segments ∧ items ≠ [] ∧
      parsePath (.arr (items.map (Sum.elim .str .int))) =
        .ok ["", "a.b ", r"{c,$}", "-7", "10"] := by
  intro segments items
  have hne : segments ≠ [] := by decide
  have hplain : ∀ segment ∈ segments, IsPlainSegment segment := by
    intro segment hsegment
    have hcases : segment = "first name" ∨ segment = "it's" ∨ segment = "0" := by
      simpa [segments] using hsegment
    rcases hcases with rfl | rfl | rfl
    · exact ⟨by decide, by decide +kernel, by simp [spellingMarks]⟩
    · exact ⟨by decide, by decide +kernel, by simp [spellingMarks]⟩
    · exact ⟨by decide, by decide +kernel, by simp [spellingMarks]⟩
  have hbraces : r"${first name,it's,0}" ∈ spellings segments := by decide +kernel
  have hdollar : "$first name.it's.0" ∈ spellings segments := by decide +kernel
  have hfront : ∀ c ∈ "\t ".toList, Text.isBlank c = true := by simp [Text.isBlank]
  have hback : ∀ c ∈ "\n".toList, Text.isBlank c = true := by simp [Text.isBlank]
  have hitems : items ≠ [] := by simp [items]
  have htexts : items.map (Sum.elim id toString) = ["", "a.b ", r"{c,$}", "-7", "10"] := by
    decide +kernel
  obtain ⟨hread, -, hkept⟩ := parsePath_spellings segments items
  obtain ⟨htext, hlist⟩ := hread hne hplain
  exact ⟨hne, hplain, hbraces, hdollar, hfront, hback, htext _ hbraces _ _ hfront hback,
    htext _ hdollar _ _ hfront hback, hlist, hitems, htexts ▸ hkept hitems⟩

end PgGateway.Sql
