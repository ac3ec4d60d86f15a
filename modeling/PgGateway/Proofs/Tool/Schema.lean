import PgGateway.Proofs.Json.Distinct
import PgGateway.Tool.Schema

set_option autoImplicit false

/-!
# Values that are valid under a schema

What a written schema says about a value, keyword by keyword as JSON Schema has it, and what it
comes to for each shape. Of the keywords those are covered that a written shape can have: `type`,
`enum`, `minimum`, `maximum`, `required`, `properties`, `items` and `oneOf`. Any other, such as a
description, says nothing about a value. An object may have members that a schema does not mention.

## Main definitions

* `PgGateway.Json.Admits` — whether a value is valid under a written schema.

## Main results

* `PgGateway.Json.admits_object` — a schema that is made of keywords says what each of them says.
* `PgGateway.Schema.admits_text`, `PgGateway.Schema.admits_integer`, … — the values that are valid
  under the written form of a shape.
* `PgGateway.Schema.admits_record` — an object is valid if it gives what must be given, and all that
  it gives is valid.
-/

namespace PgGateway

namespace Json

/-- Whether a value has the type of the given name. An integer is written without point and
exponent. -/
def HasType (name : String) : Json → Prop
  | .null => name = "null"
  | .bool _ => name = "boolean"
  | .int _ => name = "integer" ∨ name = "number"
  | .float _ => name = "number"
  | .str _ => name = "string"
  | .arr _ => name = "array"
  | .obj _ => name = "object"

mutual

/-- Whether a value is valid under a written schema: it is what each keyword says. -/
def Admits (schema value : Json) : Prop :=
  match schema with
  | .obj keywords =>
    ∀ keyword content, (_ : (keyword, content) ∈ keywords) → Says content keyword value
  | .bool b => b
  | _ => True
termination_by (sizeOf schema, 0)
decreasing_by
  have hlt := sizeOf_lt_of_mem ‹_›
  simp only [obj.sizeOf_spec]
  exact Prod.Lex.left _ _ (by omega)

/-- Whether a value is what a keyword with the given content says. The bounds are only about
integers, since no other numbers are asked for. -/
def Says (content : Json) (keyword : String) (value : Json) : Prop :=
  match keyword, content with
  | "type", .str name => value.HasType name
  | "enum", .arr options => value ∈ options
  | "minimum", .int least => ∀ n, value = .int n → least ≤ n
  | "maximum", .int greatest => ∀ n, value = .int n → n ≤ greatest
  | "required", .arr names =>
    ∀ ms, value = .obj ms → ∀ name, .str name ∈ names → name ∈ ms.map Prod.fst
  | "properties", .obj properties =>
    ∀ ms, value = .obj ms → ∀ name schema, (_ : (name, schema) ∈ properties) →
      ∀ member, (name, member) ∈ ms → schema.Admits member
  | "items", schema => ∀ items, value = .arr items → ∀ item ∈ items, schema.Admits item
  | "oneOf", .arr alternatives => ∃! i : Fin alternatives.length, alternatives[i].Admits value
  | _, _ => True
termination_by (sizeOf content, 1)
decreasing_by
  · have hlt := sizeOf_lt_of_mem ‹(_, schema) ∈ properties›
    simp only [obj.sizeOf_spec]
    exact Prod.Lex.left _ _ (by omega)
  · exact Prod.Lex.right _ Nat.zero_lt_one
  · have hlt := List.sizeOf_lt_of_mem (List.getElem_mem i.isLt)
    simp only [arr.sizeOf_spec]
    exact Prod.Lex.left _ _ (by simpa using hlt.trans (by omega))

end

/-- A schema that is made of keywords says what each of them says, if none is repeated. -/
theorem admits_object {keywords : List (String × Json)} (hkeywords : (keywords.map Prod.fst).Nodup)
    {value : Json} :
    Admits (.object keywords) value ↔ ∀ k ∈ keywords, k.2.Says k.1 value := by
  rw [object, Admits, Prod.forall]
  exact forall₂_congr fun keyword content => by rw [Keyed.mem_ofList_of_nodup hkeywords]

/-- A description says nothing, and nothing is lost if it stands in the place of another one. -/
lemma admits_object_description {keywords : List (String × Json)} {description : String}
    {value : Json} :
    Admits (.object (("description", .str description) :: keywords)) value ↔
      Admits (.object keywords) value := by
  have hsilent : ∀ content, Says content "description" value := by
    intro content
    cases content <;> simp [Says]
  rw [object, object, Admits, Admits]
  refine forall₂_congr fun keyword content => ?_
  rw [Keyed.mem_ofList, Keyed.mem_ofList, List.reverse_cons, List.lookup_append, List.lookup_cons,
    List.lookup_nil]
  by_cases hkeyword : keyword = "description"
  · simp [hkeyword, hsilent]
  · rw [beq_eq_false_iff_ne.mpr hkeyword, Option.or_none]

end Json

namespace Schema

open Json

variable {value : Json}

/-- Any value is valid under the shape of any value. -/
@[simp] lemma admits_any : any.toJson.Admits value := by
  rw [toJson, written, admits_object (by simp)]
  exact List.forall_mem_nil _

/-- A description does not matter. -/
@[simp] lemma admits_described {description : String} {inner : Schema} :
    (described description inner).toJson.Admits value ↔ inner.toJson.Admits value := by
  rw [toJson, written, admits_object_description, toJson]

/-- What the shapes say that only name a type. -/
lemma admits_object_typed {name : String} :
    (Json.object [typed name]).Admits value ↔ value.HasType name := by
  rw [admits_object (by simp)]
  simp [typed, Says]

/-- The strings. -/
@[simp] lemma admits_text : text.toJson.Admits value ↔ ∃ s, value = .str s := by
  rw [toJson, written, admits_object_typed]
  cases value <;> simp [HasType]

/-- The truth values. -/
@[simp] lemma admits_flag : flag.toJson.Admits value ↔ ∃ b, value = .bool b := by
  rw [toJson, written, admits_object_typed]
  cases value <;> simp [HasType]

/-- The lists. -/
@[simp] lemma admits_list : list.toJson.Admits value ↔ ∃ items, value = .arr items := by
  rw [toJson, written, admits_object_typed]
  cases value <;> simp [HasType]

/-- The objects. -/
@[simp] lemma admits_map : map.toJson.Admits value ↔ ∃ ms, value = .obj ms := by
  rw [toJson, written, admits_object_typed]
  cases value <;> simp [HasType]

/-- Some strings. -/
@[simp] lemma admits_choice {options : List String} :
    (choice options).toJson.Admits value ↔ ∃ s ∈ options, value = .str s := by
  rw [toJson, written, admits_object (by simp [typed])]
  cases value <;> simp [typed, Says, HasType, strings]

/-- The integers within the bounds. -/
@[simp] lemma admits_integer {least greatest : Option Nat} :
    (integer least greatest).toJson.Admits value ↔
      ∃ n, value = .int n ∧ (∀ m ∈ least, (m : Int) ≤ n) ∧ ∀ m ∈ greatest, n ≤ (m : Int) := by
  have hkeywords : ((typed "integer" :: bound "minimum" least ++ bound "maximum" greatest).map
      Prod.fst).Nodup := by
    cases least <;> cases greatest <;> simp [typed, bound]
  rw [toJson, written, admits_object hkeywords]
  cases value <;> cases least <;> cases greatest <;> simp [typed, bound, Says, HasType, nat]

/-- The lists of values of a shape. -/
@[simp] lemma admits_listOf {item : Schema} :
    (listOf item).toJson.Admits value ↔
      ∃ items, value = .arr items ∧ ∀ j ∈ items, item.toJson.Admits j := by
  rw [toJson, written, admits_object (by simp [typed])]
  cases value <;> simp [typed, Says, HasType, toJson]

/-- The values of exactly one of two shapes. -/
@[simp] lemma admits_oneOf {one other : Schema} :
    (oneOf [one, other]).toJson.Admits value ↔
      one.toJson.Admits value ∧ ¬ other.toJson.Admits value ∨
        other.toJson.Admits value ∧ ¬ one.toJson.Admits value := by
  have hunique : (∃! i : Fin 2, [one.toJson, other.toJson][i].Admits value) ↔
      one.toJson.Admits value ∧ ¬ other.toJson.Admits value ∨
        other.toJson.Admits value ∧ ¬ one.toJson.Admits value := by
    simp [ExistsUnique, Fin.exists_fin_two, Fin.forall_fin_two]
  rw [toJson, written, admits_object (by simp), List.forall_mem_singleton, ← hunique, Says]
  rfl

/-- The members that must be given are those of a record that say so. -/
lemma says_requirement {names : List String} :
    (∀ k ∈ requirement names, k.2.Says k.1 value) ↔
      ∀ ms, value = .obj ms → ∀ name ∈ names, name ∈ ms.map Prod.fst := by
  rw [requirement]
  split
  · next hempty =>
    rw [List.isEmpty_iff] at hempty
    simp [hempty]
  · simp [Says, strings]

/-- The schemas of the members of a record, by their names. -/
lemma writtenMembers_eq_map (members : List (String × Bool × Schema)) :
    writtenMembers members = members.map fun m => (m.1, m.2.2.toJson) := by
  induction members with
  | nil => rfl
  | cons m rest ih =>
    obtain ⟨name, must, schema⟩ := m
    rw [writtenMembers, ih, List.map_cons, toJson]

/-- The schema of a record repeats no keyword. -/
lemma nodup_keywords_record (members : List (String × Bool × Schema)) :
    (([typed "object", ("properties", object (writtenMembers members))] ++
      requirement ((members.filter fun m => m.2.1).map Prod.fst)).map Prod.fst).Nodup := by
  rw [requirement]
  split <;> simp [typed]

/-- What is valid under the schema of a record is an object. -/
lemma exists_of_admits_record {members : List (String × Bool × Schema)}
    (h : (record members).toJson.Admits value) : ∃ ms, value = .obj ms := by
  rw [toJson, written, admits_object (nodup_keywords_record members)] at h
  have htype := h (typed "object") (by simp)
  cases value <;> simp [typed, Says, HasType] at htype ⊢

/-- **Valid objects.** An object is valid under the schema of a record if it gives the members that
must be given, and if what it gives for a member is valid under the schema of the member. What else
it gives does not matter.

**Proof sketch.** The written schema consists of the type, the schemas of the members and the names
of those that must be given, each of which says what is stated (`admits_object`). -/
theorem admits_record {members : List (String × Bool × Schema)}
    (hnames : (members.map Prod.fst).Nodup) {ms : List (String × Json)} :
    (record members).toJson.Admits (.obj ms) ↔
      (∀ m ∈ members, m.2.1 = true → m.1 ∈ ms.map Prod.fst) ∧
        ∀ m ∈ members, ∀ given, (m.1, given) ∈ ms → m.2.2.toJson.Admits given := by
  have hproperties : (object (writtenMembers members)).Says "properties" (.obj ms) ↔
      ∀ m ∈ members, ∀ given, (m.1, given) ∈ ms → m.2.2.toJson.Admits given := by
    have hdistinct : ((writtenMembers members).map Prod.fst).Nodup := by
      rwa [writtenMembers_eq_map, List.map_map]
    rw [object, Says]
    constructor
    · intro h m hm given hgiven
      refine h ms rfl m.1 m.2.2.toJson ?_ given hgiven
      rw [Keyed.mem_ofList_of_nodup hdistinct, writtenMembers_eq_map]
      exact List.mem_map_of_mem hm
    · intro h ms' hms name schema hschema given hgiven
      obtain rfl := Json.obj.inj hms
      rw [Keyed.mem_ofList_of_nodup hdistinct, writtenMembers_eq_map] at hschema
      obtain ⟨m, hm, hmember⟩ := List.mem_map.mp hschema
      obtain ⟨rfl, rfl⟩ := Prod.mk.inj hmember
      exact h m hm given hgiven
  have hrequired : (∀ k ∈ requirement ((members.filter fun m => m.2.1).map Prod.fst),
      k.2.Says k.1 (.obj ms)) ↔ ∀ m ∈ members, m.2.1 = true → m.1 ∈ ms.map Prod.fst := by
    rw [says_requirement]
    simp
  have htype : (Json.str "object").Says "type" (.obj ms) := by simp [Says, HasType]
  rw [toJson, written, admits_object (nodup_keywords_record members), List.forall_mem_append,
    hrequired, List.forall_mem_cons, List.forall_mem_singleton, hproperties]
  exact ⟨fun h => ⟨h.2, h.1.2⟩, fun h => ⟨⟨htype, h.2⟩, h.1⟩⟩

end Schema

end PgGateway
