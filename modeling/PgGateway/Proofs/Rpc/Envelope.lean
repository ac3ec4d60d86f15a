import PgGateway.Proofs.Outcome
import PgGateway.Proofs.Rpc.Outline

set_option autoImplicit false

/-!
# When a line is a request

A line with an object is a request exactly if its keys have values, the version and the method are
each given once, as strings, and the id and the parameters at most once, so that they can be read.
Whatever is a request or a response has the version once, as a string, and the id at most once.

## Main definitions

* `PgGateway.Rpc.HasEnvelope` — what requests and responses have in common.
* `PgGateway.Rpc.IsRequest` — whether members make a request.
* `PgGateway.Rpc.idOf?` — the id that a document stands for.

## Main results

* `PgGateway.Rpc.isRequest_of_request?` — what is read as a request is one.
* `PgGateway.Rpc.Request.read_obj_eq_ok_iff` — a request has what the members give to its fields.
* `PgGateway.Rpc.exists_request?` — a request is read, with its id.
* `PgGateway.Rpc.hasEnvelope_of_response?` — what is read as a response has an envelope.
-/

namespace PgGateway.Rpc

open Json (Document)
open Shape

/-- What the members of requests and of responses have in common. -/
structure HasEnvelope (ms : List (Option String × Document)) : Prop where
  /-- Every key has a value. -/
  keys : ∀ m ∈ ms, m.1 ≠ none
  /-- The version is given once, as a string. -/
  version : ∃ v, partsOf "jsonrpc" ms = [.string (some v)]
  /-- The id is given at most once. -/
  id : (partsOf "id" ms).length ≤ 1

/-- Whether members make a request, if their id does not prevent that. -/
structure IsRequest (ms : List (Option String × Document)) : Prop extends HasEnvelope ms where
  /-- The method is given once, as a string. -/
  method : ∃ method, partsOf "method" ms = [.string (some method)]
  /-- The parameters are given at most once. -/
  params : (partsOf "params" ms).length ≤ 1
  /-- The parameters have a value. -/
  params_isSome : ∀ d ∈ partsOf "params" ms, (inner d).isSome

/-- The id that a document stands for: a string, or an integer of 64 bits. -/
def idOf? : Document → Option RequestId
  | .string value => value.map .text
  | .number n =>
    match n.value? with
    | some (.int i) =>
      if -Nat.pow 2 63 ≤ i ∧ i ≤ Nat.pow 2 63 - 1 then some (.number i) else none
    | _ => none
  | _ => none

/-- An integer of 64 bits is read as an id. -/
lemma RequestId.read_int {i : Int} (h : -Nat.pow 2 63 ≤ i ∧ i ≤ Nat.pow 2 63 - 1) :
    RequestId.read (.int i) = .ok (.number i) := by
  have hinteger : integer "i64" (-Nat.pow 2 63) (Nat.pow 2 63 - 1) (.int i) = .ok i := by
    rw [integer, if_pos]
    simpa using h
  rw [RequestId.read, oneOf]
  simp only [List.findSome?, mapped, hinteger]
  rfl

/-- A document that stands for an id has a value that is read as this id. -/
lemma exists_inner_of_idOf? {d : Document} {id : RequestId} (h : idOf? d = some id) :
    ∃ j, inner d = some j ∧ Shape.optional RequestId.read j = .ok (some id) := by
  cases d with
  | null | bool | arr | obj => cases h
  | string value =>
    obtain ⟨s, rfl, rfl⟩ := Option.map_eq_some_iff.mp h
    exact ⟨.str s, rfl, rfl⟩
  | number n =>
    rw [idOf?] at h
    split at h
    · next i hi =>
      split at h
      · next hrange =>
        cases h
        refine ⟨.int i, hi, ?_⟩
        rw [Shape.optional, RequestId.read_int hrange]
        · rfl
        · exact nofun
      · cases h
    · cases h

/-! ## What is read -/

variable {ms : List (Option String × Document)}

/-- Only a string can be read as a string. -/
lemma eq_str_of_text {j : Json} {s : String} (h : text j = .ok s) : j = .str s := by
  cases j with
  | str s' => cases h; rfl
  | null | bool | int | float | arr | obj => cases h

/-- The fields of a request have one name each. -/
lemma isPlain_request : Record.IsPlain Request.record.slots :=
  ⟨by simp [Request.record, Field.slot, Field.required, Field.optional], by decide⟩

/-- The fields of a response have one name each. -/
lemma isPlain_response : Record.IsPlain Response.record.slots :=
  ⟨by simp [Response.record, Field.slot, Field.required, Field.optional], by decide⟩

/-- Data that is read from an object by its outline is made of the values that are taken. -/
lemma exists_of_decode? {α : Type} {outline : Outline} {r : Record α} {a : α}
    (h : decode? outline r.read (.obj ms) = some a) :
    ∃ js given, Outline.ofMembers outline ms = some js ∧
      Record.gather r.slots [] js = .ok given ∧ r.build given = .ok a := by
  obtain ⟨j, hj, hread⟩ := Option.bind_eq_some_iff.mp h
  obtain ⟨js, hjs, rfl⟩ := Option.map_eq_some_iff.mp hj
  have hok : r.read (.obj js) = .ok a := by
    cases hresult : r.read (.obj js) with
    | error mismatch =>
      rw [hresult] at hread
      cases hread
    | ok a' =>
      rw [hresult] at hread
      cases hread
      rfl
  obtain ⟨given, hgiven, hbuild⟩ := Record.exists_gather_of_read hok
  exact ⟨js, given, hjs, hgiven, hbuild⟩

section

variable {α : Type} {outline : Outline} {r : Record α} {js : List (String × Json)} {given : Given}
  (hplain : Record.IsPlain r.slots) (hjs : Outline.ofMembers outline ms = some js)
  (hgiven : Record.gather r.slots [] js = .ok given)
include hplain hjs hgiven

/-- A field that must be a string is given once, as a string. -/
lemma partsOf_eq_of_text {name value : String} (hkey : outline.lookup name = some inner)
    (hslot : (Field.required name text).slot ∈ r.slots)
    (hvalue : (Field.required name text).of given = .ok value) :
    partsOf name ms = [.string (some value)] := by
  obtain ⟨j, hj, hread⟩ :=
    Record.exists_value_of_absent_eq_none hplain hgiven hslot rfl hvalue
  have hparts := Outline.map_partsOf hjs hkey
  rw [show valuesOf name js = [j] from hj, eq_str_of_text hread] at hparts
  obtain ⟨d, hd, hinner⟩ := List.map_eq_singleton_iff.mp hparts
  rw [hd, inner_eq_str hinner]

/-- A field is given at most once. -/
lemma length_partsOf_le {β : Type} (f : Shape.Field β) {value : Document → Option Json}
    (hkey : outline.lookup f.name = some value) (hslot : f.slot ∈ r.slots) :
    (partsOf f.name ms).length ≤ 1 := by
  have hparts := congrArg List.length (Outline.map_partsOf hjs hkey)
  rw [List.length_map, List.length_map] at hparts
  rw [hparts]
  exact Record.length_valuesOf_le hplain hgiven hslot

end

/-- What is read as a request has its parts. -/
theorem isRequest_of_request? {r : Request} (h : request? (.obj ms) = some r) : IsRequest ms := by
  obtain ⟨js, given, hjs, hgiven, hbuild⟩ := exists_of_decode? h
  obtain ⟨version, hversion, hbuild⟩ := exists_of_bind_eq_ok hbuild
  obtain ⟨id, -, hbuild⟩ := exists_of_bind_eq_ok hbuild
  obtain ⟨method, hmethod, -⟩ := exists_of_bind_eq_ok hbuild
  refine ⟨⟨Outline.fst_ne_none hjs, ⟨version, ?_⟩, ?_⟩, ⟨method, ?_⟩, ?_, ?_⟩
  · exact partsOf_eq_of_text isPlain_request hjs hgiven rfl (by simp [Request.record]) hversion
  · exact length_partsOf_le isPlain_request hjs hgiven (.optional "id" RequestId.read) rfl
      (by simp [Request.record])
  · exact partsOf_eq_of_text isPlain_request hjs hgiven rfl (by simp [Request.record]) hmethod
  · exact length_partsOf_le isPlain_request hjs hgiven (.optional "params" any) rfl
      (by simp [Request.record])
  · intro d hd
    have hparts : (partsOf "params" ms).map inner = (valuesOf "params" js).map some :=
      Outline.map_partsOf hjs rfl
    have hmem : inner d ∈ (valuesOf "params" js).map some := hparts ▸ List.mem_map_of_mem hd
    obtain ⟨j, -, hj⟩ := List.mem_map.mp hmem
    rw [← hj]
    rfl

/-- Any value fits an optional field for any value. -/
lemma exists_optional_any (j : Json) : ∃ value, Shape.optional any j = .ok value := by
  cases j <;> exact ⟨_, rfl⟩

/-- Keys of the outline of a request have their values within the request. -/
lemma eq_of_lookup_requestOutline {key : String} {value : Document → Option Json}
    (h : requestOutline.lookup key = some value) :
    value = inner ∧ (key = "jsonrpc" ∨ key = "id" ∨ key = "method" ∨ key = "params") := by
  obtain ⟨before, after, houtline, -⟩ := List.lookup_eq_some_iff.mp h
  have hmem : (key, value) ∈ requestOutline := by simp [houtline]
  simp only [requestOutline, List.mem_cons, Prod.mk.injEq, List.not_mem_nil, or_false] at hmem
  rcases hmem with ⟨rfl, rfl⟩ | ⟨rfl, rfl⟩ | ⟨rfl, rfl⟩ | ⟨rfl, rfl⟩ <;> simp

/-- A document that is given once has its value taken once. -/
lemma valuesOf_eq_of_partsOf_eq {outline : Outline} {js : List (String × Json)}
    (hjs : Outline.ofMembers outline ms = some js) {key : String}
    (hkey : outline.lookup key = some inner) {d : Document} (hd : partsOf key ms = [d]) {j : Json}
    (hj : inner d = some j) : valuesOf key js = [j] := by
  have hparts := Outline.map_partsOf hjs hkey
  rw [hd, List.map_singleton, hj, eq_comm, List.map_eq_singleton_iff] at hparts
  obtain ⟨j', hvalues, hj'⟩ := hparts
  rw [hvalues, Option.some.inj hj']

namespace Request

/-- The field of the version. -/
abbrev versionField : Shape.Field String := .required "jsonrpc" text

/-- The field of the id. -/
abbrev idField : Shape.Field (Option RequestId) := .optional "id" RequestId.read

/-- The field of the method. -/
abbrev methodField : Shape.Field String := .required "method" text

/-- The field of the parameters. -/
abbrev paramsField : Shape.Field (Option Json) := .optional "params" any

/-- A request is read from what the members of an object give to its fields. -/
theorem read_obj_eq_ok_iff {js : List (String × Json)} {r : Request} :
    record.read (.obj js) = .ok r ↔
      Record.Gives js versionField r.version ∧ Record.Gives js idField r.id ∧
        Record.Gives js methodField r.method ∧ Record.Gives js paramsField r.params := by
  refine Record.read_obj_eq_ok_iff isPlain_request ?_ fun given hgiven => ?_
  · rintro ⟨hversion, hid, hmethod, hparams⟩ s hs
    simp only [record, List.mem_cons, List.not_mem_nil, or_false] at hs
    rcases hs with rfl | rfl | rfl | rfl
    · exact hversion.fits
    · exact hid.fits
    · exact hmethod.fits
    · exact hparams.fits
  · rw [← Record.of_eq_ok_iff isPlain_request hgiven (by simp [record]),
      ← Record.of_eq_ok_iff isPlain_request hgiven (by simp [record]),
      ← Record.of_eq_ok_iff isPlain_request hgiven (by simp [record]),
      ← Record.of_eq_ok_iff isPlain_request hgiven (by simp [record])]
    constructor
    · intro hr
      obtain ⟨version, hversion, hr⟩ := exists_of_bind_eq_ok hr
      obtain ⟨id, hid, hr⟩ := exists_of_bind_eq_ok hr
      obtain ⟨method, hmethod, hr⟩ := exists_of_bind_eq_ok hr
      obtain ⟨params, hparams, hr⟩ := exists_of_bind_eq_ok hr
      cases hr
      exact ⟨hversion, hid, hmethod, hparams⟩
    · rintro ⟨hversion, hid, hmethod, hparams⟩
      exact bind_eq_ok_iff.mpr ⟨_, hversion, bind_eq_ok_iff.mpr ⟨_, hid,
        bind_eq_ok_iff.mpr ⟨_, hmethod, bind_eq_ok_iff.mpr ⟨_, hparams, rfl⟩⟩⟩⟩

end Request

/-- An object whose members give a request all that it must have, and nothing twice, is read as a
request with the id. -/
lemma exists_read_request {js : List (String × Json)} {version method : String} {j : Json}
    {id : RequestId} (hversion : valuesOf "jsonrpc" js = [.str version])
    (hid : valuesOf "id" js = [j]) (hread : Shape.optional RequestId.read j = .ok (some id))
    (hmethod : valuesOf "method" js = [.str method]) (hparams : (valuesOf "params" js).length ≤ 1) :
    ∃ r, Request.record.read (.obj js) = .ok r ∧ r.id = some id := by
  obtain ⟨params, hgives⟩ : ∃ params, Record.Gives js Request.paramsField params := by
    match hvalues : valuesOf "params" js, hparams with
    | [], _ => exact ⟨none, .inl ⟨hvalues, rfl⟩⟩
    | [value], _ =>
      obtain ⟨params, hvalue⟩ := exists_optional_any value
      exact ⟨params, .inr ⟨value, hvalues, hvalue⟩⟩
  exact ⟨⟨version, some id, method, params⟩, Request.read_obj_eq_ok_iff.mpr
    ⟨.inr ⟨_, hversion, rfl⟩, .inr ⟨_, hid, hread⟩, .inr ⟨_, hmethod, rfl⟩, hgives⟩, rfl⟩

/-- Values are taken from members that make a request. -/
lemma exists_ofMembers_of_isRequest (h : IsRequest ms) {d : Document} (hids : partsOf "id" ms = [d])
    {j : Json} (hj : inner d = some j) : ∃ js, Outline.ofMembers requestOutline ms = some js := by
  refine Outline.exists_ofMembers h.keys fun key value hkey d' hd' => ?_
  obtain ⟨rfl, rfl | rfl | rfl | rfl⟩ := eq_of_lookup_requestOutline hkey
  · obtain ⟨version, hversion⟩ := h.version
    rw [hversion, List.mem_singleton] at hd'
    rw [hd']
    rfl
  · rw [hids, List.mem_singleton] at hd'
    rw [hd', hj]
    rfl
  · obtain ⟨method, hmethod⟩ := h.method
    rw [hmethod, List.mem_singleton] at hd'
    rw [hd']
    rfl
  · exact h.params_isSome d' hd'

/-- Members that make a request with an id are read as a request with this id.

**Proof sketch.** All documents for a request have a value, so values are taken from them
(`exists_ofMembers_of_isRequest`). They are given as often as the documents are, so the request is
read (`exists_read_request`). -/
theorem exists_request? (h : IsRequest ms) {d : Document} (hd : d ∈ partsOf "id" ms)
    {id : RequestId} (hid : idOf? d = some id) :
    ∃ r, request? (.obj ms) = some r ∧ r.id = some id := by
  obtain ⟨j, hj, hread⟩ := exists_inner_of_idOf? hid
  obtain ⟨d', hids⟩ :=
    List.length_eq_one_iff.mp (Nat.le_antisymm h.id (List.length_pos_of_mem hd))
  rw [hids, List.mem_singleton] at hd
  subst hd
  obtain ⟨js, hjs⟩ := exists_ofMembers_of_isRequest h hids hj
  obtain ⟨version, hversion⟩ := h.version
  obtain ⟨method, hmethod⟩ := h.method
  have hparams : (valuesOf "params" js).length ≤ 1 := by
    have hvalues : (partsOf "params" ms).map inner = (valuesOf "params" js).map some :=
      Outline.map_partsOf hjs rfl
    have hlength := congrArg List.length hvalues
    rw [List.length_map, List.length_map] at hlength
    exact hlength ▸ h.params
  obtain ⟨r, hr, hrid⟩ := exists_read_request (valuesOf_eq_of_partsOf_eq hjs rfl hversion rfl)
    (valuesOf_eq_of_partsOf_eq hjs rfl hids hj) hread
    (valuesOf_eq_of_partsOf_eq hjs rfl hmethod rfl) hparams
  refine ⟨r, ?_, hrid⟩
  rw [request?, decode?, Outline.of, hjs]
  change (Request.record.read (.obj js)).toOption = _
  rw [hr]
  rfl

/-- What is read as a response has the version once, as a string, and the id at most once. -/
theorem hasEnvelope_of_response? {r : Response} (h : response? (.obj ms) = some r) :
    HasEnvelope ms := by
  obtain ⟨js, given, hjs, hgiven, hbuild⟩ := exists_of_decode? h
  obtain ⟨version, hversion, -⟩ := exists_of_bind_eq_ok hbuild
  refine ⟨Outline.fst_ne_none hjs, ⟨version, ?_⟩, ?_⟩
  · exact partsOf_eq_of_text isPlain_response hjs hgiven rfl (by simp [Response.record]) hversion
  · exact length_partsOf_le isPlain_response hjs hgiven (.optional "id" RequestId.read) rfl
      (by simp [Response.record])

/-- A line holds what its document holds. -/
lemma Incoming.ofLine_eq {line : String} {d : Document}
    (hline : Document.read? (Text.trim line.toList) = some d) : ofLine line = ofDocument d := by
  have hsome : (Text.trim line.toList).isEmpty = false := by
    cases htext : Text.trim line.toList with
    | nil =>
      rw [htext] at hline
      cases hline
    | cons c text => rfl
  simp only [ofLine, hsome, hline]
  rfl

/-- What cannot be read as a request or as a response is malformed. -/
lemma Incoming.ofDocument_eq_malformed {d : Document} (hrequest : request? d = none)
    (hresponse : response? d = none) : ofDocument d = .malformed := by
  rw [ofDocument, hrequest, hresponse]

end PgGateway.Rpc
