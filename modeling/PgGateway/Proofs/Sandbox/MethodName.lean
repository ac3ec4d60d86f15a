import PgGateway.Proofs.Text.Cut
import PgGateway.Sandbox.MethodName
import Mathlib.Data.List.Chain
import Mathlib.Data.Set.Function

set_option autoImplicit false

/-!
# Distinct names of methods

Camel case can be undone where a name had no capitals: every capital stands for an underscore and
the small letter. So the method names of two tools of a group are the same only if the same is left
of the names of the tools without their marks, and tools that have these marks are never called by
the same method name.

## Main definitions

* `PgGateway.Sandbox.IsCamel` — whether no underscore stands before a small letter.
* `PgGateway.Sandbox.snakeCase` — a text with an underscore and a small letter for every capital.
* `PgGateway.Sandbox.nameTail` — the name of a tool without the marks that are dropped.
* `PgGateway.Sandbox.IsMarked` — whether a tool has the marks of all tools and of its group.

## Main results

* `PgGateway.Sandbox.isCamel_camelCase`, `PgGateway.Sandbox.camelCase_eq_self` — a name is in camel
  case after it was put there, and a name in camel case stays as it is.
* `PgGateway.Sandbox.snakeCase_camelCase` — camel case is undone if there were no capitals.
* `PgGateway.Sandbox.methodName_eq_iff` — when two tools of a group have the same method name.
* `PgGateway.Sandbox.methodName_collision_free` — all of this, and that distinct tools with the
  marks of their group have distinct method names.
-/

namespace PgGateway.Sandbox

/-! ## Camel case -/

/-- Whether no underscore of a text stands before a small letter. -/
def IsCamel (s : List Char) : Prop :=
  s.IsChain fun a b => ¬ (a = '_' ∧ isSmallLetter b = true)

/-- The text in which an underscore and the small letter stand for every capital. -/
def snakeCase (s : List Char) : List Char :=
  s.flatMap fun c => if c.isUpper then ['_', c.toLower] else [c]

/-- Whether there is no capital in a text. -/
def HasNoCapital (s : List Char) : Prop :=
  ∀ c ∈ s, c.isUpper = false

instance (s : List Char) : Decidable (HasNoCapital s) :=
  decidable_of_iff (s.all (!·.isUpper) = true) (by simp [HasNoCapital])

/-- The capital of a small letter is a capital, no small letter, and the letter is its small
letter. -/
lemma toUpper_of_isSmallLetter {c : Char} (h : isSmallLetter c = true) :
    c.toUpper.isUpper = true ∧ isSmallLetter c.toUpper = false ∧ c.toUpper.toLower = c := by
  have hnumber : c.toNat ∈ List.range' 97 26 := by
    simp only [isSmallLetter, Bool.and_eq_true, decide_eq_true_eq, Char.le_def,
      UInt32.le_iff_toNat_le] at h
    exact List.mem_range'_1.mpr ⟨h.1, Nat.lt_succ_of_le h.2⟩
  have hletters : ∀ n ∈ List.range' 97 26, (Char.ofNat n).toUpper.isUpper = true ∧
      isSmallLetter (Char.ofNat n).toUpper = false ∧
      (Char.ofNat n).toUpper.toLower = Char.ofNat n := by decide
  rw [← Char.ofNat_toNat c]
  exact hletters _ hnumber

/-- The capital of a small letter is no underscore. -/
lemma toUpper_ne_underscore {c : Char} (h : isSmallLetter c = true) : c.toUpper ≠ '_' := by
  intro heq
  have hupper := (toUpper_of_isSmallLetter h).1
  rw [heq] at hupper
  cases hupper

/-- In camel case a text begins as before, or with a capital. -/
lemma head?_camelCase_cons (b : Char) (s : List Char) :
    ∀ c ∈ (camelCase (b :: s)).head?, c = b ∨ isSmallLetter c = false := by
  cases s with
  | nil => simp [camelCase]
  | cons d s =>
    rw [camelCase]
    split
    · next h =>
      rw [Bool.and_eq_true] at h
      simp [(toUpper_of_isSmallLetter h.2).2.1]
    · simp

/-- **Camel case.** In camel case no underscore stands before a small letter. -/
theorem isCamel_camelCase (s : List Char) : IsCamel (camelCase s) := by
  induction s using camelCase.induct with
  | case1 => exact .nil
  | case2 c => exact .singleton c
  | case3 a b s h ih =>
    rw [camelCase, if_pos h]
    rw [Bool.and_eq_true] at h
    refine List.isChain_cons.mpr ⟨fun c _ => ?_, ih⟩
    exact fun hboth => toUpper_ne_underscore h.2 hboth.1
  | case4 a b s h ih =>
    rw [camelCase, if_neg h]
    refine List.isChain_cons.mpr ⟨fun c hc hboth => ?_, ih⟩
    rcases head?_camelCase_cons b s c hc with rfl | hsmall
    · exact h (by simp [hboth.1, hboth.2])
    · rw [hboth.2] at hsmall
      cases hsmall

/-- A text in camel case stays as it is. -/
theorem camelCase_eq_self {s : List Char} (h : IsCamel s) : camelCase s = s := by
  induction s using camelCase.induct with
  | case1 => rfl
  | case2 c => rfl
  | case3 a b s hpair ih =>
    rw [Bool.and_eq_true, decide_eq_true_eq] at hpair
    exact absurd hpair (List.isChain_cons_cons.mp h).1
  | case4 a b s hpair ih =>
    rw [camelCase, if_neg hpair, ih (List.isChain_cons_cons.mp h).2]

/-- **Camel case undone.** A text without capitals is read back from its camel case.

**Proof sketch.** The capitals in camel case are those that stand for an underscore and a small
letter, since there were no others. -/
theorem snakeCase_camelCase {s : List Char} (h : HasNoCapital s) :
    snakeCase (camelCase s) = s := by
  induction s using camelCase.induct with
  | case1 => rfl
  | case2 c => simp [camelCase, snakeCase, h c List.mem_cons_self]
  | case3 a b s hpair ih =>
    rw [camelCase, if_pos hpair]
    rw [Bool.and_eq_true, decide_eq_true_eq] at hpair
    obtain ⟨rfl, hsmall⟩ := hpair
    obtain ⟨hupper, -, hlower⟩ := toUpper_of_isSmallLetter hsmall
    have hrest := ih fun c hc => h c (by simp [hc])
    rw [snakeCase, List.flatMap_cons, ← snakeCase, hrest, if_pos hupper, hlower]
    rfl
  | case4 a b s hpair ih =>
    have hfirst := h a List.mem_cons_self
    have hrest := ih fun c hc => h c (List.mem_cons_of_mem _ hc)
    rw [camelCase, if_neg hpair, snakeCase, List.flatMap_cons, ← snakeCase, hrest, hfirst]
    rfl

/-- Texts without capitals are distinct in camel case if they are distinct. -/
theorem injOn_camelCase : Set.InjOn camelCase {s | HasNoCapital s} := by
  intro s hs t ht heq
  rw [← snakeCase_camelCase hs, heq, snakeCase_camelCase ht]

/-! ## Marks -/

/-- The name of a tool without the mark of all tools and that of its group, where they are
dropped. -/
def nameTail (tool group : String) : String :=
  String.ofList (withoutGroupMark group (withoutMark toolMark.toList tool.toList))

/-- Whether the name of a tool has the mark of all tools, and behind it the mark of its group and
something else, unless the mark of the group is kept. -/
inductive IsMarked (group : String) : String → Prop
  /-- The mark of the group is kept. -/
  | kept (hkeeps : keepsMark group = true) (rest : String) : IsMarked group (toolMark ++ rest)
  /-- The mark of the group is dropped. -/
  | dropped (hkeeps : keepsMark group = false) {rest : String} (hrest : rest ≠ "") :
    IsMarked group (toolMark ++ groupMark group ++ rest)

/-- The method name is the camel case of what is left without the marks. -/
lemma methodName_eq (tool group : String) :
    methodName tool group = String.ofList (camelCase (nameTail tool group).toList) := by
  rw [methodName, nameTail, String.toList_ofList]

/-- What is left without a mark is a part of the name. -/
lemma mem_of_mem_withoutMark {mark name : List Char} {c : Char} (h : c ∈ withoutMark mark name) :
    c ∈ name := by
  rw [withoutMark] at h
  cases hafter : Text.after? mark name with
  | none => rwa [hafter] at h
  | some rest =>
    rw [hafter] at h
    rw [Text.after?_eq_some.mp hafter]
    exact List.mem_append_right _ h

/-- What is left without the mark of a group is a part of the name. -/
lemma mem_of_mem_withoutGroupMark {group : String} {name : List Char} {c : Char}
    (h : c ∈ withoutGroupMark group name) : c ∈ name := by
  rw [withoutGroupMark] at h
  split at h
  · exact h
  · split at h
    · exact h
    · exact h
    · next rest _ hafter =>
      rw [Text.after?_eq_some.mp hafter]
      exact List.mem_append_right _ h

/-- There is no capital in what is left of a name without capitals. -/
lemma hasNoCapital_nameTail {tool : String} (h : HasNoCapital tool.toList) (group : String) :
    HasNoCapital (nameTail tool group).toList := by
  intro c hc
  rw [nameTail, String.toList_ofList] at hc
  exact h c (mem_of_mem_withoutMark (mem_of_mem_withoutGroupMark hc))

/-- What is left of a name without a mark that it begins with. -/
lemma withoutMark_append (mark rest : List Char) : withoutMark mark (mark ++ rest) = rest := by
  rw [withoutMark, Text.after?_eq_some.mpr rfl, Option.getD_some]

/-- What is left of a tool with the mark of all tools in a group whose mark is kept. -/
lemma nameTail_of_keepsMark {group : String} (h : keepsMark group = true) (rest : String) :
    nameTail (toolMark ++ rest) group = rest := by
  rw [nameTail, String.toList_append, withoutMark_append, withoutGroupMark, if_pos h,
    String.ofList_toList]

/-- What is left of a tool with the marks of all tools and of its group, and with more behind
them. -/
lemma nameTail_of_marks {group rest : String} (h : keepsMark group = false) (hrest : rest ≠ "") :
    nameTail (toolMark ++ groupMark group ++ rest) group = rest := by
  have hafter : Text.after? (groupMark group).toList ((groupMark group ++ rest).toList) =
      some rest.toList := Text.after?_eq_some.mpr String.toList_append
  have hne : rest.toList ≠ [] := by simpa using hrest
  rw [nameTail, String.append_assoc, String.toList_append, withoutMark_append, withoutGroupMark,
    h, if_neg Bool.false_ne_true, hafter]
  split
  · next hcase => cases hcase
  · next hcase => exact absurd (Option.some.inj hcase) hne
  · next hcase => rw [← Option.some.inj hcase, String.ofList_toList]

/-! ## Method names -/

/-- **Equal method names.** Tools of a group without capitals have the same method name exactly if
the same is left of them without the marks. -/
theorem methodName_eq_iff {a b : String} (ha : HasNoCapital a.toList) (hb : HasNoCapital b.toList)
    (group : String) :
    methodName a group = methodName b group ↔ nameTail a group = nameTail b group := by
  rw [methodName_eq, methodName_eq, String.ofList_inj]
  constructor
  · intro heq
    exact String.toList_injective (injOn_camelCase (hasNoCapital_nameTail ha group)
      (hasNoCapital_nameTail hb group) heq)
  · exact fun heq => by rw [heq]

/-- Tools that have the marks of their group are the same if the same is left without the marks. -/
lemma injOn_nameTail (group : String) : Set.InjOn (nameTail · group) {t | IsMarked group t} := by
  intro a ha b hb heq
  dsimp only at heq
  cases ha with
  | kept hkeeps resta =>
    cases hb with
    | kept _ restb =>
      rw [nameTail_of_keepsMark hkeeps, nameTail_of_keepsMark hkeeps] at heq
      rw [heq]
    | dropped hdrops hb => simp [hkeeps] at hdrops
  | dropped hdrops ha =>
    cases hb with
    | kept hkeeps restb => simp [hkeeps] at hdrops
    | dropped _ hb =>
      rw [nameTail_of_marks hdrops ha, nameTail_of_marks hdrops hb] at heq
      rw [heq]

/-- **Method names without collisions.** Camel case stays as it is when it is made again, and it
keeps texts without capitals apart. So tools of a group without capitals have the same method name
exactly if the same is left of them without the marks, and distinct ones that have the marks of the
group have distinct method names. -/
theorem methodName_collision_free :
    (∀ s, camelCase (camelCase s) = camelCase s) ∧
    Set.InjOn camelCase {s | HasNoCapital s} ∧
    ∀ group : String,
      (∀ a b : String, HasNoCapital a.toList → HasNoCapital b.toList →
        (methodName a group = methodName b group ↔ nameTail a group = nameTail b group)) ∧
      Set.InjOn (methodName · group) {t | HasNoCapital t.toList ∧ IsMarked group t} := by
  refine ⟨fun s => camelCase_eq_self (isCamel_camelCase s), injOn_camelCase, fun group =>
    ⟨fun a b ha hb => methodName_eq_iff ha hb group, ?_⟩⟩
  rintro a ⟨ha, hamarked⟩ b ⟨hb, hbmarked⟩ heq
  exact injOn_nameTail group hamarked hbmarked ((methodName_eq_iff ha hb group).mp heq)

/-- Tools that differ by an underscore before another one. -/
theorem methodName_collision_free_of_underscores :
    let a := "pg_json_set_key"
    let b := "pg_json_set__key"
    HasNoCapital a.toList ∧ HasNoCapital b.toList ∧ IsMarked "json" a ∧ IsMarked "json" b ∧
      nameTail a "json" ≠ nameTail b "json" ∧ methodName a "json" ≠ methodName b "json" := by
  intro a b
  have ha : HasNoCapital a.toList := by decide
  have hb : HasNoCapital b.toList := by decide
  have hamarked : IsMarked "json" a := by
    have heq : a = toolMark ++ groupMark "json" ++ "set_key" := by decide +kernel
    rw [heq]
    exact .dropped rfl (by decide)
  have hbmarked : IsMarked "json" b := by
    have heq : b = toolMark ++ groupMark "json" ++ "set__key" := by decide +kernel
    rw [heq]
    exact .dropped rfl (by decide)
  obtain ⟨-, -, hgroup⟩ := methodName_collision_free
  have hne : methodName a "json" ≠ methodName b "json" :=
    (hgroup "json").2.ne ⟨ha, hamarked⟩ ⟨hb, hbmarked⟩ (by decide)
  exact ⟨ha, hb, hamarked, hbmarked, fun heq => hne (((hgroup "json").1 a b ha hb).mpr heq), hne⟩

/-- With a capital a tool can have the method name of another one. -/
example : methodName "pg_json_set_key" "json" = methodName "pg_json_setKey" "json" := by
  decide +kernel

end PgGateway.Sandbox
