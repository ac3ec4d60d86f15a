import PgGateway.Proofs.Catalog.SingleCall
import PgGateway.Proofs.Text.Cut

set_option autoImplicit false

/-!
# Null in place of arguments

Null is no object, so every tool that reads its arguments refuses it. An empty object is refused for
another reason, for a field that it does not give, or it is accepted where no field has to be given.
Only the tools that do not look at their arguments make no difference between the two.

## Main definitions

* `PgGateway.Catalog.TellsApart` — whether a tool refuses null but not, or for another reason, an
  empty object.
* `PgGateway.Catalog.unreadingNames` — the tools that do not look at their arguments.

## Main results

* `PgGateway.Catalog.tellsApart_or_mem_unreadingNames` — the other tools tell null from an empty
  object.
-/

namespace PgGateway.Catalog

open Shape

/-- Whether a tool refuses null, and either makes a call on an empty object or refuses that for
another reason. -/
def TellsApart (t : Tool) : Prop :=
  ∃ detail, (∀ c, t.act c .null = .fail (.tool (.invalidArguments detail))) ∧
    ∀ c, (t.act c (.obj [])).IsCall ∨
      ∃ other ≠ detail, t.act c (.obj []) = .fail (.tool (.invalidArguments other))

/-- The tools that do not look at their arguments. -/
def unreadingNames : List String :=
  ["pg_list_schemas", "pg_cache_hit_ratio"]

section

variable {α : Type} {group name description : String} {schema : Schema}
  {arguments : Reader α} {plan : α → Except ToolError Action} {type : String}

/-- A missing field is worded otherwise than a value of a wrong kind. -/
lemma message_missingField_ne (field type : String) (found : Json) :
    (Mismatch.missingField field).message ≠ (Mismatch.kind found type).message := by
  have hmissing : (Mismatch.missingField field).message = "missing field `" ++ (field ++ "`") :=
    String.append_assoc
  have hkind : (Mismatch.kind found type).message =
      "invalid type: " ++ (nameOf found ++ ", expected " ++ type) := by
    change "invalid type: " ++ nameOf found ++ ", expected " ++ type = _
    simp only [String.append_assoc]
  rw [hmissing, hkind]
  exact Text.append_ne_append (by decide) _ _

/-- A tool that has to be given a field tells null from an empty object. -/
lemma tellsApart_of_missing {field : String} (hnull : arguments .null = .error (.kind .null type))
    (hempty : arguments (.obj []) = .error (.missingField field)) :
    TellsApart (.reading group name description schema arguments plan) := by
  refine ⟨(Mismatch.kind .null type).message, fun c => ?_, fun c => .inr
    ⟨(Mismatch.missingField field).message, message_missingField_ne field type .null, ?_⟩⟩
  · change Tool.actionOf arguments plan .null = _
    rw [Tool.actionOf, hnull]
  · change Tool.actionOf arguments plan (.obj []) = _
    rw [Tool.actionOf, hempty]

/-- A tool that makes a call without being given a field tells null from an empty object. -/
lemma tellsApart_of_isCall {a : α} {action : Action}
    (hnull : arguments .null = .error (.kind .null type))
    (hempty : arguments (.obj []) = .ok a) (hplan : plan a = .ok action) (hcall : action.IsCall) :
    TellsApart (.reading group name description schema arguments plan) := by
  refine ⟨(Mismatch.kind .null type).message, fun c => ?_, fun c => .inl ?_⟩
  · change Tool.actionOf arguments plan .null = _
    rw [Tool.actionOf, hnull]
  · change (Tool.actionOf arguments plan (.obj [])).IsCall
    rw [Tool.actionOf, hempty]
    simpa only [hplan] using hcall

end

/-- A tool of the catalog either tells null from an empty object or is one of those that do not look
at their arguments. -/
theorem tellsApart_or_mem_unreadingNames {t : Tool} (ht : t ∈ tools) :
    (t.name ∉ unreadingNames ∧ TellsApart t) ∨
      (t.name ∈ unreadingNames ∧ ∀ c given given', t.act c given = t.act c given') := by
  simp only [tools, List.mem_cons, List.not_mem_nil, or_false] at ht
  rcases ht with rfl | rfl | rfl | rfl | rfl | rfl | rfl | rfl | rfl | rfl | rfl | rfl | rfl |
    rfl | rfl | rfl | rfl | rfl | rfl | rfl | rfl | rfl | rfl | rfl | rfl | rfl | rfl | rfl
  -- All but seven tools have to be given a field.
  any_goals exact .inl ⟨by decide, tellsApart_of_missing rfl rfl⟩
  · exact .inl ⟨by decide, tellsApart_of_isCall rfl rfl rfl .ofAnswer⟩
  · exact .inr ⟨by decide, fun _ _ _ => rfl⟩
  · exact .inl ⟨by decide, tellsApart_of_isCall rfl rfl rfl .ofAnswer⟩
  · exact .inl ⟨by decide, tellsApart_of_isCall rfl rfl rfl .ofAnswer⟩
  · exact .inr ⟨by decide, fun _ _ _ => rfl⟩
  · exact .inl ⟨by decide, tellsApart_of_isCall rfl rfl rfl .execute⟩
  · exact .inl ⟨by decide, tellsApart_of_isCall rfl rfl rfl .execute⟩

end PgGateway.Catalog
