import PgGateway.Proofs.Json.OneLine
import PgGateway.Proofs.Json.RoundTrip
import PgGateway.Proofs.Rpc.Envelope
import PgGateway.Proofs.Rpc.Framing

set_option autoImplicit false

/-!
# Requests on the wire

A request is sent as the compact form of its members, on one line. The other side takes the line
from the bytes, reads its document and makes a request of it. Apart from null as its id, which makes
a notification of the request, it gets the same version, id and method. It gets the same parameters
exactly if they are not null, do not nest too deeply, and their floating-point numbers are read
back, which is so if these are short.

## Main definitions

* `PgGateway.Rpc.Request.line` — the text of a request as it is sent.
* `PgGateway.Rpc.Request.IsStandard` — whether a request is one that a text can hold.
* `PgGateway.Rpc.Incoming.ofBytes` — what the lines of some bytes hold.

## Main results

* `PgGateway.Rpc.Request.toJson_eq` — the members that are sent are those of the written form.
* `PgGateway.Rpc.Request.request?_members` — what is read from the document of a request.
* `PgGateway.Rpc.Request.ofBytes_framed_line` — what is read from the bytes of a request.
-/

namespace PgGateway.Rpc

open Json (Document)
open Shape

/-- What the lines of some bytes hold. -/
def Incoming.ofBytes (bytes : List UInt8) : List Incoming :=
  (linesOf bytes).map ofLine

namespace Request

/-! ### The line of a request -/

/-- The members of a written request before its parameters, in the order in which they are sent. -/
def envelope (r : Request) : List (String × Json) :=
  ("jsonrpc", .str r.version) :: memberIf "id" (r.id.map RequestId.toJson) ++
    [("method", .str r.method)]

/-- The members of a written request, in the order in which they are sent. -/
def members (r : Request) : List (String × Json) :=
  r.envelope ++ memberIf "params" r.params

/-- The members are those of the written form. -/
lemma toJson_eq (r : Request) : r.toJson = .object r.members := by
  obtain ⟨version, id, method, params⟩ := r
  cases id <;> cases params <;> rfl

/-- The text of a request as it is sent, on one line. -/
def line (r : Request) : String :=
  (Json.obj r.members).compact

/-- Whether a request is one that a text can hold. -/
structure IsStandard (r : Request) : Prop where
  /-- The number of its id fits into 64 bits. -/
  id : ∀ n, r.id = some (.number n) → -Nat.pow 2 63 ≤ n ∧ n < Nat.pow 2 63
  /-- Its parameters are such. -/
  params : ∀ p, r.params = some p → p.IsStandard

/-- The line of a request is read as the document of its members. -/
lemma read?_line (r : Request) :
    Document.read? r.line.toList = some (.obj (Json.memberDocuments r.members)) := by
  rw [line, Json.compact, String.toList_ofList, Json.read?_chars, Json.document]

/-- The text of some members ends with a brace. -/
lemma exists_memberChars_eq_concat (ms : List (String × Json)) :
    ∃ s, Json.memberChars ms = s ++ ['}'] := by
  induction ms with
  | nil => exact ⟨[], by rw [Json.memberChars]; rfl⟩
  | cons m ms ih =>
    obtain ⟨key, value⟩ := m
    cases ms with
    | nil => exact ⟨_, by rw [Json.memberChars]⟩
    | cons next rest =>
      obtain ⟨s, hs⟩ := ih
      exact ⟨_, by rw [Json.memberChars, hs, ← List.cons_append, ← List.append_assoc]⟩

/-- The line of a request has no blank ends. -/
lemma isTrimmed_line (r : Request) : Text.IsTrimmed r.line.toList := by
  obtain ⟨s, hs⟩ := exists_memberChars_eq_concat r.members
  have hline : r.line.toList = '{' :: s ++ ['}'] := by
    rw [line, Json.compact, String.toList_ofList, Json.chars, hs, List.cons_append]
  rw [hline]
  refine ⟨rfl, ?_⟩
  rw [List.getLast?_concat]
  rfl

/-- What a line that is sent holds is what its members make. -/
lemma ofLine_line (r : Request) :
    Incoming.ofLine r.line = .ofDocument (.obj (Json.memberDocuments r.members)) := by
  have htrim : Text.trim r.line.toList = r.line.toList :=
    Text.trim_eq_self_iff.mpr (isTrimmed_line r)
  refine Incoming.ofLine_eq ?_
  rw [htrim, read?_line]

/-! ### What is read from it -/

/-- Members that are all those of a request have the values of their documents taken from them. -/
lemma ofMembers_requestOutline {ms : List (String × Json)}
    (hkeys : ∀ m ∈ ms, m.1 ∈ ["jsonrpc", "id", "method", "params"]) :
    Outline.ofMembers requestOutline (Json.memberDocuments ms) =
      Document.memberValues? (Json.maxDepth - 1) (Json.memberDocuments ms) := by
  induction ms with
  | nil => rfl
  | cons m ms ih =>
    obtain ⟨key, value⟩ := m
    obtain ⟨hkey, hrest⟩ := List.forall_mem_cons.mp hkeys
    have hlookup : requestOutline.lookup key = some inner := by
      simp only [List.mem_cons, List.not_mem_nil, or_false] at hkey
      rcases hkey with rfl | rfl | rfl | rfl <;> rfl
    rw [Json.memberDocuments, Outline.ofMembers, hlookup]
    dsimp only
    rw [ih hrest]
    change _ = Document.memberValues? _ _
    cases hvalue : value.document.value? (Json.maxDepth - 1) <;>
      cases hvalues : Document.memberValues? (Json.maxDepth - 1) (Json.memberDocuments ms) <;>
      simp [Document.memberValues?, inner, hvalue, hvalues]

variable {r : Request}

/-- The members before the parameters have the values of their documents. -/
lemma memberValues?_envelope (hr : r.IsStandard) :
    Document.memberValues? (Json.maxDepth - 1) (Json.memberDocuments r.envelope) =
      some r.envelope := by
  obtain ⟨version, id, method, params⟩ := r
  have hnumber : ∀ n, id = some (.number n) → -Nat.pow 2 63 ≤ n ∧ n < Nat.pow 2 64 := by
    intro n hn
    obtain ⟨hlow, hhigh⟩ := hr.id n hn
    have hpow : Nat.pow 2 63 ≤ Nat.pow 2 64 := by decide
    exact ⟨hlow, by omega⟩
  refine (Json.memberValues?_memberDocuments_iff _ ?_).mpr ?_
  · rcases id with _ | (s | n | _)
    · simp [envelope, memberIf, Json.AllMembers, Json.All, Json.FitsText]
    · simp [envelope, memberIf, Json.AllMembers, Json.All, Json.FitsText, RequestId.toJson]
    · simpa [envelope, memberIf, Json.AllMembers, Json.All, Json.FitsText, RequestId.toJson]
        using hnumber n rfl
    · simp [envelope, memberIf, Json.AllMembers, Json.All, Json.FitsText, RequestId.toJson]
  · rcases id with _ | (s | n | _) <;>
      simp [envelope, memberIf, Json.AllMembers, Json.All, Json.FloatReadsBack, RequestId.toJson,
        Json.depthOfMembers, Json.depth]

/-- The value of a parameter, which null is not. -/
def nonNull? : Json → Option Json
  | .null => none
  | j => some j

/-- What the members before the parameters and some parameters give to the keys of a request. -/
lemma valuesOf_envelope_append (r : Request) (params : Option Json) :
    valuesOf "jsonrpc" (r.envelope ++ memberIf "params" params) = [.str r.version] ∧
      valuesOf "id" (r.envelope ++ memberIf "params" params) =
        (r.id.map RequestId.toJson).toList ∧
      valuesOf "method" (r.envelope ++ memberIf "params" params) = [.str r.method] ∧
      valuesOf "params" (r.envelope ++ memberIf "params" params) = params.toList := by
  cases hid : r.id <;> cases params <;> simp [envelope, hid, memberIf, valuesOf]

/-- An id that is not null is read from its written form. -/
lemma read_toJson_id (hr : r.IsStandard) {id : RequestId} (hid : r.id = some id)
    (hnull : id ≠ .null) : Shape.optional RequestId.read id.toJson = .ok (some id) := by
  cases id with
  | text s => rfl
  | number n =>
    obtain ⟨hlow, hhigh⟩ := hr.id n hid
    have hrange : -Nat.pow 2 63 ≤ n ∧ n ≤ Nat.pow 2 63 - 1 := by
      have hpow : Nat.pow 2 63 = 9223372036854775808 := by decide
      omega
    change (RequestId.read (.int n)).map some = _
    rw [RequestId.read_int hrange]
    rfl
  | null => exact absurd rfl hnull

/-- Members with parameters are read as the request with these parameters, if it has no null id. -/
lemma read_envelope_append (hr : r.IsStandard) (hid : r.id ≠ some .null) (params : Option Json) :
    record.read (.obj (r.envelope ++ memberIf "params" params)) =
      .ok ⟨r.version, r.id, r.method, params.bind nonNull?⟩ := by
  obtain ⟨hversion, hids, hmethod, hparams⟩ := valuesOf_envelope_append r params
  refine read_obj_eq_ok_iff.mpr ⟨.inr ⟨_, hversion, rfl⟩, ?_, .inr ⟨_, hmethod, rfl⟩, ?_⟩
  · cases hcase : r.id with
    | none =>
      rw [hcase] at hids
      exact .inl ⟨hids, rfl⟩
    | some id =>
      rw [hcase] at hids hid
      exact .inr ⟨_, hids, read_toJson_id hr hcase fun hnull => hid (congrArg some hnull)⟩
  · cases params with
    | none => exact .inl ⟨hparams, rfl⟩
    | some p => exact .inr ⟨p, hparams, by cases p <;> rfl⟩

/-- The keys of the members are all those of a request. -/
lemma mem_keys_of_mem_members (r : Request) :
    ∀ m ∈ r.members, m.1 ∈ ["jsonrpc", "id", "method", "params"] := by
  cases hid : r.id <;> cases hparams : r.params <;>
    simp [members, envelope, memberIf, hid, hparams]

/-- **Requests in their documents.** In the document of its members a request that has no null id is
read with its version, its id and its method. Its parameters are those that their document has as
its value, except for null. -/
theorem request?_members (hr : r.IsStandard) (hid : r.id ≠ some .null) :
    request? (.obj (Json.memberDocuments r.members)) =
      match r.params with
      | none => some r
      | some p => (inner p.document).map fun p' => { r with params := nonNull? p' } := by
  have henvelope := memberValues?_envelope hr
  rw [request?, decode?, Outline.of, ofMembers_requestOutline r.mem_keys_of_mem_members]
  cases hparams : r.params with
  | none =>
    have hread := read_envelope_append hr hid none
    rw [memberIf, List.append_nil] at hread
    rw [members, hparams, memberIf, List.append_nil, henvelope]
    change (record.read (.obj r.envelope)).toOption = _
    rw [hread]
    obtain ⟨version, id, method, params⟩ := r
    cases hparams
    rfl
  | some p =>
    rw [members, hparams, memberIf, Json.memberValues?_concat henvelope]
    dsimp only [inner]
    cases hvalue : p.document.value? (Json.maxDepth - 1) with
    | none => rfl
    | some p' =>
      have hread := read_envelope_append hr hid (some p')
      change (record.read (.obj (r.envelope ++ memberIf "params" (some p')))).toOption = _
      rw [hread]
      rfl

/-! ### There and back -/

/-- A line is read as the request in its document. -/
lemma ofLine_line_eq_request_iff {r' : Request} :
    Incoming.ofLine r.line = .request r' ↔
      request? (.obj (Json.memberDocuments r.members)) = some r' := by
  rw [ofLine_line, Incoming.ofDocument]
  cases request? (.obj (Json.memberDocuments r.members)) with
  | some r'' => simp
  | none => cases response? (.obj (Json.memberDocuments r.members)) <;> simp

/-- A request is read from its line exactly if its parameters are read from their document and are
not null. -/
lemma ofLine_line_eq_request_self_iff (hr : r.IsStandard) (hid : r.id ≠ some .null) :
    Incoming.ofLine r.line = .request r ↔
      ∀ p, r.params = some p → p ≠ .null ∧ p.depth < Json.maxDepth ∧ p.IsReadBack := by
  rw [ofLine_line_eq_request_iff, request?_members hr hid]
  cases hparams : r.params with
  | none => simp
  | some p =>
    have hvalue := Json.value?_document_iff (Json.maxDepth - 1) (hr.params p hparams)
    have hself : ∀ p', { r with params := nonNull? p' } = r ↔ p' = p ∧ p ≠ .null := by
      intro p'
      obtain ⟨version, id, method, params⟩ := r
      cases hparams
      cases p' <;> cases p <;> simp [nonNull?]
    have hbound : p.depth < Json.maxDepth ↔ p.depth ≤ Json.maxDepth - 1 := by
      rw [Json.maxDepth]
      omega
    simp only [inner, Option.map_eq_some_iff, hself, Option.some_inj, forall_eq', hbound,
      ← hvalue]
    constructor
    · rintro ⟨p', hp', rfl, hnull⟩
      exact ⟨hnull, hp'⟩
    · rintro ⟨hnull, hp⟩
      exact ⟨p, hp, rfl, hnull⟩

/-- The bytes of a request hold what its line holds. -/
lemma ofBytes_framed_line_eq (r : Request) :
    Incoming.ofBytes (framed r.line) = [Incoming.ofLine r.line] := by
  have hline : '\n' ∉ r.line.toList := by
    rw [line, Json.compact, String.toList_ofList]
    exact (Json.isPlain_chars _).newline_not_mem
  have hlines : linesOf ([r.line].flatMap framed) = [r.line] :=
    linesOf_flatMap_framed fun s hs => List.mem_singleton.mp hs ▸ hline
  rw [List.flatMap_singleton] at hlines
  rw [Incoming.ofBytes, hlines, List.map_singleton]

/-- **Requests on the wire.** A request that has no null id is read from its bytes as the same
request exactly if it has no parameters, or if they are not null, nest below the bound and have each
of their floating-point numbers read back. That is so if the floating-point numbers are short. Null
as the parameters is read as none. Any request that is read has the version, the id and the method
of the one that was sent, so it is a notification exactly if that was one.

**Proof sketch.** The bytes are those of one line (`ofBytes_framed_line_eq`), which holds the
request in the document of the members (`ofLine_line_eq_request_iff`). There the parameters are the
value of their own document (`request?_members`), and `Json.value?_document_iff` says when this
value is the one that was sent. -/
theorem ofBytes_framed_line (hr : r.IsStandard) (hid : r.id ≠ some .null) :
    (Incoming.ofBytes (framed r.line) = [.request r] ↔
        ∀ p, r.params = some p → p ≠ .null ∧ p.depth < Json.maxDepth ∧ p.IsReadBack) ∧
      ((∀ p, r.params = some p → p ≠ .null ∧ p.depth < Json.maxDepth ∧ p.HasShortFloats) →
        Incoming.ofBytes (framed r.line) = [.request r]) ∧
      (r.params = some .null →
        Incoming.ofBytes (framed r.line) = [.request { r with params := none }]) ∧
      ∀ r', .request r' ∈ Incoming.ofBytes (framed r.line) →
        r' = { r with params := r'.params } ∧ r'.isNotification = r.isNotification := by
  have hself := ofLine_line_eq_request_self_iff hr hid
  rw [ofBytes_framed_line_eq]
  refine ⟨?_, fun hshort => ?_, fun hnull => ?_, fun r' hmem => ?_⟩
  · rw [List.singleton_inj]
    exact hself
  · rw [List.singleton_inj, hself]
    intro p hp
    obtain ⟨hne, hdepth, hfloats⟩ := hshort p hp
    exact ⟨hne, hdepth, Json.isReadBack_of_hasShortFloats (hr.params p hp) hfloats⟩
  · rw [List.singleton_inj, ofLine_line_eq_request_iff, request?_members hr hid, hnull]
    rfl
  · have hread := List.mem_singleton.mp hmem
    rw [eq_comm, ofLine_line_eq_request_iff, request?_members hr hid] at hread
    cases hparams : r.params with
    | none =>
      rw [hparams] at hread
      cases hread
      exact ⟨rfl, rfl⟩
    | some p =>
      rw [hparams] at hread
      obtain ⟨p', -, rfl⟩ := Option.map_eq_some_iff.mp hread
      exact ⟨rfl, rfl⟩

/-- A call with a number among its arguments is read back. -/
theorem ofBytes_framed_line_of_call :
    Incoming.ofBytes (framed (line ⟨"2.0", some (.number 7), "tools/call",
        some (.obj [("arguments", .obj [("ratio", .float ⟨4602678819172646912⟩)]),
          ("name", .str "sample")])⟩)) =
      [.request ⟨"2.0", some (.number 7), "tools/call",
        some (.obj [("arguments", .obj [("ratio", .float ⟨4602678819172646912⟩)]),
          ("name", .str "sample")])⟩] := by
  have hratio : (Json.numeralOf (Binary64.written ⟨4602678819172646912⟩)).decimal.IsShort :=
    ⟨by decide, by decide⟩
  refine (ofBytes_framed_line ⟨?_, ?_⟩ (by decide)).2.1 ?_
  · rintro n ⟨⟩
    decide
  · rintro p ⟨⟩
    have hkeys : "arguments" < "name" := by decide
    exact ⟨List.pairwise_pair.mpr hkeys, ⟨List.pairwise_singleton _ _, rfl, trivial⟩, trivial,
      trivial⟩
  · rintro p ⟨⟩
    refine ⟨nofun, by decide, ?_⟩
    exact ⟨trivial, ⟨trivial, hratio, trivial⟩, trivial, trivial⟩

/-- Not every request is read back. Null as the parameters is read as none, lists that lie too deep
within each other are not read, and 31.245270191439438 is read as the next number. With a null id
a request is read as a notification. -/
theorem ofBytes_framed_line_ne :
    (∀ params ∈ [.null, .nested 127, .arr [.float ⟨4629487979381582466⟩]],
      Incoming.ofBytes (framed (line ⟨"2.0", some (.number 1), "ping", some params⟩)) ≠
        [.request ⟨"2.0", some (.number 1), "ping", some params⟩]) ∧
      Incoming.ofBytes (framed (line ⟨"2.0", some .null, "ping", none⟩)) =
        [.request ⟨"2.0", none, "ping", none⟩] := by
  constructor
  · intro params hmem hread
    simp only [List.mem_cons, List.not_mem_nil, or_false] at hmem
    have hparams : params.IsStandard := by
      rcases hmem with rfl | rfl | rfl
      · trivial
      · exact Json.isStandard_nested 127
      · exact ⟨trivial, rfl, trivial⟩
    rw [ofBytes_framed_line_eq, List.singleton_inj,
      ofLine_line_eq_request_self_iff ⟨by rintro n ⟨⟩; decide, by rintro p ⟨⟩; exact hparams⟩
        (by simp)] at hread
    obtain ⟨hnull, hdepth, hfloats⟩ := hread params rfl
    rcases hmem with rfl | rfl | rfl
    · exact hnull rfl
    · rw [Json.depth_nested] at hdepth
      exact absurd hdepth (by decide)
    · have hfloat : Json.FloatReadsBack (.float ⟨4629487979381582466⟩) := hfloats.2.1
      have hvalue : (Json.float ⟨4629487979381582466⟩).document.value? Json.maxDepth =
          some (.float ⟨4629487979381582467⟩) := rfl
      rw [Json.FloatReadsBack, Json.read?_compact, hvalue] at hfloat
      simp at hfloat
  · rw [ofBytes_framed_line_eq, List.singleton_inj, ofLine_line_eq_request_iff]
    rfl

end Request

end PgGateway.Rpc
