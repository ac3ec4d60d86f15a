import PgGateway.Proofs.Json.Compact
import PgGateway.Proofs.Json.ShortFloat
import PgGateway.Proofs.Keyed

set_option autoImplicit false

/-!
# Compact JSON is read back

A value that a text can hold is read back from its compact form within a depth exactly if its lists
and objects do not lie deeper within each other and its floating-point numbers are read back. Those
are scaled with rounding, so not all of them are; those with a short text are.

## Main definitions

* `PgGateway.Json.All` — whether a value and all of its parts have a property.
* `PgGateway.Json.IsStandard` — whether a value is one that a text can hold.
* `PgGateway.Json.IsReadBack` — whether the floating-point numbers of a value are read back.
* `PgGateway.Json.HasShortFloats` — whether they are short.
* `PgGateway.Json.depth` — how many lists and objects lie within each other.

## Main results

* `PgGateway.Json.value?_document_iff` — when a value is that of its document.
* `PgGateway.Json.isReadBack_of_hasShortFloats` — short floating-point numbers are read back.
* `PgGateway.Json.read?_compact_iff` — when a value is read back from its compact form.
-/

namespace PgGateway.Json

mutual

/-- How many lists and objects lie within each other. -/
def depth : Json → Nat
  | .arr items => depthOfItems items + 1
  | .obj members => depthOfMembers members + 1
  | _ => 0

/-- The depth of the deepest item. -/
def depthOfItems : List Json → Nat
  | [] => 0
  | item :: rest => max item.depth (depthOfItems rest)

/-- The depth of the deepest member. -/
def depthOfMembers : List (String × Json) → Nat
  | [] => 0
  | (_, value) :: rest => max value.depth (depthOfMembers rest)

end

mutual

/-- Whether a value and all of its parts have a property. -/
def All (p : Json → Prop) : Json → Prop
  | .arr items => p (.arr items) ∧ AllItems p items
  | .obj members => p (.obj members) ∧ AllMembers p members
  | scalar => p scalar

/-- Whether some items and all of their parts have a property. -/
def AllItems (p : Json → Prop) : List Json → Prop
  | [] => True
  | item :: rest => item.All p ∧ AllItems p rest

/-- Whether the values of some members and all of their parts have a property. -/
def AllMembers (p : Json → Prop) : List (String × Json) → Prop
  | [] => True
  | (_, value) :: rest => value.All p ∧ AllMembers p rest

end

/-- Whether a text can hold a value if it can hold its parts: an integer fits into 64 bits, signed
or unsigned, a floating-point number is finite, and the members of an object stand in the order of
their keys. -/
def FitsText : Json → Prop
  | .int n => -Nat.pow 2 63 ≤ n ∧ n < Nat.pow 2 64
  | .float x => x.isFinite = true
  | .obj members => Keyed.IsSorted members
  | _ => True

/-- Whether a value is one that a text can hold. -/
def IsStandard : Json → Prop :=
  All FitsText

/-- Whether a value is read back from its text if it is a floating-point number. -/
def FloatReadsBack : Json → Prop
  | .float x => read? (float x).compact = some (.float x)
  | _ => True

/-- Whether each floating-point number of a value is read back from its text. -/
def IsReadBack : Json → Prop :=
  All FloatReadsBack

/-- Whether the text of a value is that of a short decimal if it is a floating-point number. -/
def FloatIsShort : Json → Prop
  | .float x => (numeralOf x.written).decimal.IsShort
  | _ => True

/-- Whether each floating-point number of a value is short. -/
def HasShortFloats : Json → Prop :=
  All FloatIsShort

/-- Lists that lie within each other, with null in the innermost. -/
def nested : Nat → Json
  | 0 => .null
  | n + 1 => .arr [nested n]

/-- The lists count as the depth. -/
lemma depth_nested (n : Nat) : (nested n).depth = n := by
  induction n with
  | zero => rfl
  | succ n ih => rw [nested, depth, depthOfItems, depthOfItems, ih, Nat.max_zero]

/-- A text can hold lists that lie within each other. -/
lemma isStandard_nested (n : Nat) : (nested n).IsStandard := by
  induction n with
  | zero => trivial
  | succ n ih => exact ⟨trivial, ih, trivial⟩

/-- A compact form is read as the value of its document. -/
lemma read?_compact (j : Json) : read? j.compact = j.document.value? maxDepth := by
  rw [read?, readWithin?, compact, String.toList_ofList, read?_chars]
  rfl

variable {p q r : Json → Prop}

mutual

/-- A value whose parts have two properties also has a property that they imply. -/
lemma All.imp₂ (h : ∀ {j}, p j → q j → r j) : ∀ {j : Json}, j.All p → j.All q → j.All r
  | .null, hp, hq => h hp hq
  | .bool _, hp, hq => h hp hq
  | .int _, hp, hq => h hp hq
  | .float _, hp, hq => h hp hq
  | .str _, hp, hq => h hp hq
  | .arr _, hp, hq => ⟨h hp.1 hq.1, AllItems.imp₂ h hp.2 hq.2⟩
  | .obj _, hp, hq => ⟨h hp.1 hq.1, AllMembers.imp₂ h hp.2 hq.2⟩

/-- So do items. -/
lemma AllItems.imp₂ (h : ∀ {j}, p j → q j → r j) :
    ∀ {items : List Json}, AllItems p items → AllItems q items → AllItems r items
  | [], _, _ => trivial
  | _ :: _, hp, hq => ⟨All.imp₂ h hp.1 hq.1, AllItems.imp₂ h hp.2 hq.2⟩

/-- So do the values of members. -/
lemma AllMembers.imp₂ (h : ∀ {j}, p j → q j → r j) : ∀ {members : List (String × Json)},
    AllMembers p members → AllMembers q members → AllMembers r members
  | [], _, _ => trivial
  | _ :: _, hp, hq => ⟨All.imp₂ h hp.1 hq.1, AllMembers.imp₂ h hp.2 hq.2⟩

end

/-- Items and all of their parts have a property if each item with its parts has it. -/
lemma allItems_of_forall {items : List Json} (h : ∀ item ∈ items, item.All p) :
    AllItems p items := by
  induction items with
  | nil => trivial
  | cons item rest ih =>
    obtain ⟨hitem, hrest⟩ := List.forall_mem_cons.mp h
    exact ⟨hitem, ih hrest⟩

/-- So do the values of members. -/
lemma allMembers_of_forall {members : List (String × Json)} (h : ∀ m ∈ members, m.2.All p) :
    AllMembers p members := by
  induction members with
  | nil => trivial
  | cons member rest ih =>
    obtain ⟨hmember, hrest⟩ := List.forall_mem_cons.mp h
    exact ⟨hmember, ih hrest⟩

/-- A text can hold a list if it can hold the items. -/
lemma isStandard_arr {items : List Json} (h : ∀ item ∈ items, item.IsStandard) :
    (arr items).IsStandard :=
  ⟨trivial, allItems_of_forall h⟩

/-- A text can hold an object if it can hold the values, and the keys are in order. -/
lemma isStandard_obj {members : List (String × Json)} (hsorted : Keyed.IsSorted members)
    (h : ∀ m ∈ members, m.2.IsStandard) : (obj members).IsStandard :=
  ⟨hsorted, allMembers_of_forall h⟩

/-- **Short numbers.** In a value that a text can hold, short floating-point numbers are read
back. -/
theorem isReadBack_of_hasShortFloats {j : Json} (hj : j.IsStandard) (hshort : j.HasShortFloats) :
    j.IsReadBack := by
  refine All.imp₂ (fun {j} hfits hfloat => ?_) hj hshort
  cases j with
  | float x =>
    have hx : x.isFinite = true := hfits
    rw [FloatReadsBack, read?_compact, document, if_pos hx]
    exact value?_numeralOf_written hx hfloat
  | _ => trivial

/-- The values of some members stand under the same keys. -/
lemma keys_memberValues? (bound : Nat) (members : List (String × Json))
    {ms : List (String × Json)}
    (h : Document.memberValues? bound (memberDocuments members) = some ms) :
    Keyed.keys ms = Keyed.keys members := by
  induction members generalizing ms with
  | nil =>
    rw [memberDocuments, Document.memberValues?] at h
    cases h
    rfl
  | cons member members ih =>
    obtain ⟨key, value⟩ := member
    rw [memberDocuments, Document.memberValues?.eq_def] at h
    dsimp only at h
    split at h
    · next key' first others hkey hfirst hothers =>
      cases hkey
      cases h
      exact congrArg (key :: ·) (ih hothers)
    · cases h

/-- Members in the order of their keys make up the object of the values exactly if they are these
values. -/
lemma map_object_eq_some_iff (bound : Nat) {members : List (String × Json)}
    (hsorted : Keyed.IsSorted members) :
    (Document.memberValues? bound (memberDocuments members)).map object = some (.obj members) ↔
      Document.memberValues? bound (memberDocuments members) = some members := by
  cases hms : Document.memberValues? bound (memberDocuments members) with
  | none => simp
  | some ms =>
    -- The values stand under the keys of the members, so the object has them in the same order.
    have hms' : Keyed.IsSorted ms := by
      rw [Keyed.IsSorted, keys_memberValues? bound members hms]
      exact hsorted
    rw [Option.map_some, object, Keyed.ofList_of_isSorted hms', Option.some_inj, Option.some_inj,
      Json.obj.injEq]

/-- Items have values exactly if the first of them and the others have them. -/
lemma itemValues?_cons_eq_some_iff {bound : Nat} {d : Document} {ds : List Document} {j : Json}
    {js : List Json} : Document.itemValues? bound (d :: ds) = some (j :: js) ↔
      d.value? bound = some j ∧ Document.itemValues? bound ds = some js := by
  rw [Document.itemValues?]
  cases d.value? bound <;> cases Document.itemValues? bound ds <;> simp

/-- Members have values exactly if the first of them and the others have them. -/
lemma memberValues?_cons_eq_some_iff {bound : Nat} {key : String} {d : Document}
    {ds : List (Option String × Document)} {j : Json} {js : List (String × Json)} :
    Document.memberValues? bound ((some key, d) :: ds) = some ((key, j) :: js) ↔
      d.value? bound = some j ∧ Document.memberValues? bound ds = some js := by
  cases hvalue : d.value? bound <;> cases hrest : Document.memberValues? bound ds <;>
    simp [Document.memberValues?, hvalue, hrest]

mutual

/-- **Values.** A value that a text can hold is the value of its document within a depth exactly if
it is no deeper and its floating-point numbers are read back. -/
theorem value?_document_iff (bound : Nat) : ∀ {j : Json}, j.IsStandard →
    (j.document.value? bound = some j ↔ j.depth ≤ bound ∧ j.IsReadBack)
  | .null, _ => by simp [document, Document.value?, depth, IsReadBack, All, FloatReadsBack]
  | .bool b, _ => by simp [document, Document.value?, depth, IsReadBack, All, FloatReadsBack]
  | .int n, h => by
    simp only [IsStandard, All, FitsText] at h
    have hvalue := value?_intText h.1 h.2
    rw [← (isNumeralText_intChars n).numeralOf_eq] at hvalue
    simp [document, Document.value?, depth, IsReadBack, All, FloatReadsBack, hvalue]
  | .float x, h => by
    simp only [IsStandard, All, FitsText] at h
    simp [IsReadBack, All, FloatReadsBack, depth, read?_compact, document, h, Document.value?]
  | .str s, _ => by simp [document, Document.value?, depth, IsReadBack, All, FloatReadsBack]
  | .arr items, h => by
    simp only [IsStandard, All] at h
    cases bound with
    | zero => simp [document, Document.value?, depth]
    | succ bound =>
      have hitems := itemValues?_itemDocuments_iff bound h.2
      simpa [document, Document.value?, depth, IsReadBack, All, FloatReadsBack] using hitems
  | .obj members, h => by
    simp only [IsStandard, All, FitsText] at h
    cases bound with
    | zero => simp [document, Document.value?, depth]
    | succ bound =>
      have hmembers := memberValues?_memberDocuments_iff bound h.2
      rw [← map_object_eq_some_iff bound h.1] at hmembers
      simpa [document, Document.value?, depth, IsReadBack, All, FloatReadsBack] using hmembers

/-- Items are the values of their documents exactly if each of them is that of its own. -/
theorem itemValues?_itemDocuments_iff (bound : Nat) : ∀ {items : List Json},
    AllItems FitsText items →
    (Document.itemValues? bound (itemDocuments items) = some items ↔
      depthOfItems items ≤ bound ∧ AllItems FloatReadsBack items)
  | [], _ => by simp [itemDocuments, Document.itemValues?, depthOfItems, AllItems]
  | item :: rest, h => by
    rw [AllItems] at h
    have hitem := value?_document_iff bound h.1
    have hrest := itemValues?_itemDocuments_iff bound h.2
    rw [itemDocuments, itemValues?_cons_eq_some_iff, hitem, hrest, depthOfItems, AllItems,
      Nat.max_le, IsReadBack]
    tauto

/-- Members have the values of their documents exactly if each of them has that of its own. -/
theorem memberValues?_memberDocuments_iff (bound : Nat) : ∀ {members : List (String × Json)},
    AllMembers FitsText members →
    (Document.memberValues? bound (memberDocuments members) = some members ↔
      depthOfMembers members ≤ bound ∧ AllMembers FloatReadsBack members)
  | [], _ => by simp [memberDocuments, Document.memberValues?, depthOfMembers, AllMembers]
  | (key, value) :: rest, h => by
    rw [AllMembers] at h
    have hvalue := value?_document_iff bound h.1
    have hrest := memberValues?_memberDocuments_iff bound h.2
    rw [memberDocuments, memberValues?_cons_eq_some_iff, hvalue, hrest, depthOfMembers, AllMembers,
      Nat.max_le, IsReadBack]
    tauto

end

/-- **The round trip.** A value that a text can hold is read back from its compact form exactly if
its depth is in the bound and its floating-point numbers are read back. -/
theorem read?_compact_iff {j : Json} (hj : j.IsStandard) :
    read? j.compact = some j ↔ j.depth ≤ maxDepth ∧ j.IsReadBack := by
  rw [read?_compact]
  exact value?_document_iff maxDepth hj

/-- Behind members that have the values of their documents, one more has a value if its document
has one. -/
lemma memberValues?_concat {bound : Nat} {members : List (String × Json)}
    (h : Document.memberValues? bound (memberDocuments members) = some members) (key : String)
    (value : Json) :
    Document.memberValues? bound (memberDocuments (members ++ [(key, value)])) =
      (value.document.value? bound).map fun value' => members ++ [(key, value')] := by
  induction members with
  | nil =>
    rw [List.nil_append, memberDocuments, memberDocuments]
    cases hvalue : value.document.value? bound <;> simp [Document.memberValues?, hvalue]
  | cons member members ih =>
    obtain ⟨firstKey, first⟩ := member
    rw [memberDocuments, memberValues?_cons_eq_some_iff] at h
    rw [List.cons_append, memberDocuments]
    cases hvalue : value.document.value? bound <;>
      simp [Document.memberValues?, h.1, ih h.2, hvalue]

end PgGateway.Json
