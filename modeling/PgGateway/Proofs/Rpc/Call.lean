import PgGateway.Proofs.Outcome
import PgGateway.Proofs.Shape.Reader
import PgGateway.Proofs.Shape.Record
import PgGateway.Rpc.Call

set_option autoImplicit false

/-!
# Parameters of calls

What the arguments of a call of a tool are when its parameters do not give any, and which values are
parameters of a call in code or of a question for help.

## Main definitions

* `PgGateway.Rpc.CodeCall.IsParams`, `PgGateway.Rpc.HelpQuery.IsParams` — whether a value is such
  parameters.

## Main results

* `PgGateway.Rpc.ToolCall.arguments_eq_null` — the arguments are null then.
* `PgGateway.Rpc.CodeCall.exists_read_iff`, `PgGateway.Rpc.HelpQuery.exists_read_iff` — the
  parameters that are read.
-/

namespace PgGateway.Rpc

open Shape

variable {ms : List (String × Json)}

/-- The arguments of a call of a tool are null if its parameters do not have the member. -/
theorem ToolCall.arguments_eq_null {c : ToolCall} (hread : read (.obj ms) = .ok c)
    (hnot : "arguments" ∉ ms.map Prod.fst) : c.arguments = .null := by
  obtain ⟨given, hgiven, hbuild⟩ := Record.exists_gather_of_read hread
  obtain ⟨name, -, hbuild⟩ := exists_of_bind_eq_ok hbuild
  obtain ⟨arguments, harguments, hbuild⟩ := exists_of_bind_eq_ok hbuild
  have hplain : Record.IsPlain
      [(Field.required "name" text).slot, (Field.defaulted "arguments" any .null).slot] :=
    ⟨by simp [Field.slot, Field.required, Field.defaulted], by decide⟩
  rw [Record.of_gather_of_not_mem hplain hgiven (by simp) hnot rfl] at harguments
  cases harguments
  cases hbuild
  rfl

namespace CodeCall

/-- Whether a value is the parameters of a call in code: an object with one path, a string, and at
most one list of arguments, or a list of a path and maybe of a list of arguments. -/
def IsParams : Json → Prop
  | .obj ms =>
    (∃ path, valuesOf "path" ms = [.str path]) ∧
      (valuesOf "args" ms = [] ∨ ∃ arguments, valuesOf "args" ms = [.arr arguments])
  | .arr js => ∃ path, js = [.str path] ∨ ∃ arguments, js = [.str path, .arr arguments]
  | _ => False

/-- The field of the path. -/
abbrev pathField : Shape.Field String := .required "path" text

/-- The field of the arguments. -/
abbrev argumentsField : Shape.Field (List Json) := .defaulted "args" (Shape.list any) []

/-- The fields have one name each. -/
lemma isPlain : Record.IsPlain [pathField.slot, argumentsField.slot] :=
  ⟨by simp [Field.slot, Field.required, Field.defaulted], by decide⟩

/-- A path and arguments make up a call. -/
lemma build_eq_ok_iff {given : Given} {c : CodeCall} :
    (do return ⟨← pathField.of given, ← argumentsField.of given⟩ : Except Mismatch CodeCall) =
        .ok c ↔ pathField.of given = .ok c.path ∧ argumentsField.of given = .ok c.arguments := by
  constructor
  · intro hc
    obtain ⟨path, hpath, hc⟩ := exists_of_bind_eq_ok hc
    obtain ⟨arguments, harguments, hc⟩ := exists_of_bind_eq_ok hc
    cases hc
    exact ⟨hpath, harguments⟩
  · rintro ⟨hpath, harguments⟩
    exact bind_eq_ok_iff.mpr ⟨_, hpath, bind_eq_ok_iff.mpr ⟨_, harguments, rfl⟩⟩

/-- A call in code is read from what the members of an object give to its fields. -/
theorem read_obj_eq_ok_iff {c : CodeCall} :
    read (.obj ms) = .ok c ↔
      Record.Gives ms pathField c.path ∧ Record.Gives ms argumentsField c.arguments := by
  refine Record.read_obj_eq_ok_iff isPlain ?_ fun given hgiven => ?_
  · rintro ⟨hpath, harguments⟩ s hs
    simp only [List.mem_cons, List.not_mem_nil, or_false] at hs
    rcases hs with rfl | rfl
    · exact hpath.fits
    · exact harguments.fits
  · rw [← Record.of_eq_ok_iff isPlain hgiven (by simp),
      ← Record.of_eq_ok_iff isPlain hgiven (by simp)]
    exact build_eq_ok_iff

/-- A list gives a path and maybe a list of arguments if its items fit the fields in order. -/
lemma isParams_of_fitInOrder {js : List Json}
    (h : Record.FitInOrder [pathField.slot, argumentsField.slot] js) : IsParams (.arr js) := by
  match js, h with
  | [], ⟨htrailing, _⟩ => cases htrailing
  | [path], ⟨hpath, _⟩ =>
    obtain ⟨s, hs⟩ := check_slot_iff.mp hpath
    exact ⟨s, .inl (by rw [text_eq_ok_iff.mp hs])⟩
  | [path, arguments], ⟨hpath, harguments, _⟩ =>
    obtain ⟨s, hs⟩ := check_slot_iff.mp hpath
    obtain ⟨js, hjs⟩ := check_slot_iff.mp harguments
    exact ⟨s, .inr ⟨js, by rw [text_eq_ok_iff.mp hs, list_any_eq_ok_iff.mp hjs]⟩⟩
  | _ :: _ :: _ :: _, ⟨_, _, hrest⟩ => cases hrest

/-- **Parameters of a call in code.** A call in code is read exactly from values that are parameters
of one. -/
theorem exists_read_iff (j : Json) : (∃ c, read j = .ok c) ↔ IsParams j := by
  cases j with
  | null | bool | int | float | str => exact iff_of_false (by rintro ⟨c, hc⟩; cases hc) id
  | obj ms =>
    constructor
    · rintro ⟨c, hc⟩
      obtain ⟨hpath, harguments⟩ := read_obj_eq_ok_iff.mp hc
      refine ⟨⟨c.path, ?_⟩, ?_⟩
      · rcases hpath with ⟨-, habsent⟩ | ⟨value, hvalue, hread⟩
        · cases habsent
        · obtain rfl := text_eq_ok_iff.mp hread
          exact hvalue
      · rcases harguments with ⟨hnone, -⟩ | ⟨value, hvalue, hread⟩
        · exact .inl hnone
        · obtain rfl := list_any_eq_ok_iff.mp hread
          exact .inr ⟨c.arguments, hvalue⟩
    · rintro ⟨⟨path, hpath⟩, hnone | ⟨arguments, harguments⟩⟩
      · exact ⟨⟨path, []⟩, read_obj_eq_ok_iff.mpr ⟨.inr ⟨_, hpath, rfl⟩, .inl ⟨hnone, rfl⟩⟩⟩
      · exact ⟨⟨path, arguments⟩, read_obj_eq_ok_iff.mpr
          ⟨.inr ⟨_, hpath, rfl⟩, .inr ⟨_, harguments, list_any_eq_ok_iff.mpr rfl⟩⟩⟩
  | arr js =>
    constructor
    · rintro ⟨c, hc⟩
      exact isParams_of_fitInOrder (Record.read_arr_eq_ok_iff.mp hc).1
    · rintro ⟨path, rfl | ⟨arguments, rfl⟩⟩
      · exact ⟨⟨path, []⟩, rfl⟩
      · have harguments : argumentsField.slot.check (.arr arguments) = .ok () :=
          check_slot_iff.mpr ⟨arguments, list_any_eq_ok_iff.mpr rfl⟩
        exact ⟨⟨path, arguments⟩, Record.read_arr_eq_ok_iff.mpr
          ⟨⟨rfl, harguments, rfl⟩, build_eq_ok_iff.mpr ⟨rfl, list_any_eq_ok_iff.mpr rfl⟩⟩⟩

end CodeCall

namespace HelpQuery

/-- Whether a value is the parameters of a question for help: an object with at most one path, which
is a string or null, or a list of at most such a path. -/
def IsParams : Json → Prop
  | .obj ms =>
    valuesOf "path" ms = [] ∨ ∃ path : Option String, valuesOf "path" ms = [.ofOption .str path]
  | .arr js => js = [] ∨ ∃ path : Option String, js = [.ofOption .str path]
  | _ => False

/-- The field of the path. -/
abbrev pathField : Shape.Field (Option String) := .omissible "path" text

/-- The field has one name. -/
lemma isPlain : Record.IsPlain [pathField.slot] :=
  ⟨by simp [Field.slot, Field.omissible], by decide⟩

/-- A path makes up a question. -/
lemma build_eq_ok_iff {given : Given} {q : HelpQuery} :
    (do return ⟨← pathField.of given⟩ : Except Mismatch HelpQuery) = .ok q ↔
      pathField.of given = .ok q.path := by
  constructor
  · intro hq
    obtain ⟨path, hpath, hq⟩ := exists_of_bind_eq_ok hq
    cases hq
    exact hpath
  · exact fun hpath => bind_eq_ok_iff.mpr ⟨_, hpath, rfl⟩

/-- A question for help is read from what the members of an object give to its field. -/
theorem read_obj_eq_ok_iff {q : HelpQuery} :
    read (.obj ms) = .ok q ↔ Record.Gives ms pathField q.path := by
  refine Record.read_obj_eq_ok_iff isPlain ?_ fun given hgiven => ?_
  · intro hpath s hs
    rw [List.mem_singleton.mp hs]
    exact hpath.fits
  · rw [← Record.of_eq_ok_iff isPlain hgiven (by simp)]
    exact build_eq_ok_iff

/-- **Parameters of a question for help.** A question for help is read exactly from values that are
parameters of one. -/
theorem exists_read_iff (j : Json) : (∃ q, read j = .ok q) ↔ IsParams j := by
  cases j with
  | null | bool | int | float | str => exact iff_of_false (by rintro ⟨q, hq⟩; cases hq) id
  | obj ms =>
    constructor
    · rintro ⟨q, hq⟩
      rcases read_obj_eq_ok_iff.mp hq with ⟨hnone, -⟩ | ⟨value, hvalue, hread⟩
      · exact .inl hnone
      · obtain rfl := optional_text_eq_ok_iff.mp hread
        exact .inr ⟨q.path, hvalue⟩
    · rintro (hnone | ⟨path, hpath⟩)
      · exact ⟨⟨none⟩, read_obj_eq_ok_iff.mpr (.inl ⟨hnone, rfl⟩)⟩
      · exact ⟨⟨path⟩, read_obj_eq_ok_iff.mpr (.inr ⟨_, hpath, optional_text_eq_ok_iff.mpr rfl⟩)⟩
  | arr js =>
    constructor
    · rintro ⟨q, hq⟩
      have hfit : Record.FitInOrder [pathField.slot] js := (Record.read_arr_eq_ok_iff.mp hq).1
      match js, hfit with
      | [], _ => exact .inl rfl
      | [value], ⟨hvalue, _⟩ =>
        obtain ⟨path, hpath⟩ := check_slot_iff.mp hvalue
        exact .inr ⟨path, by rw [optional_text_eq_ok_iff.mp hpath]⟩
      | _ :: _ :: _, ⟨_, hrest⟩ => cases hrest
    · rintro (rfl | ⟨path, rfl⟩)
      · exact ⟨⟨none⟩, rfl⟩
      · cases path <;> exact ⟨⟨_⟩, rfl⟩

end HelpQuery

end PgGateway.Rpc
