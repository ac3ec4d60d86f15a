import PgGateway.Proofs.Sandbox.Convention

set_option autoImplicit false

/-!
# Options

An object behind other arguments may be a value or give members by name. It gives members by name if
it names one of the keys, or if there are already as many arguments as keys. Then it is laid over
what the other arguments make without it. So an empty object at the end makes sure that all others
are values.

## Main definitions

* `PgGateway.Json.IsLaidOver` — whether an object is another one with some members laid over it.

## Main results

* `PgGateway.Sandbox.Convention.bind_concat_object` — options behind arguments of any kind.
* `PgGateway.Sandbox.Convention.bind_isLaidOver` — options are laid over what the others make.
-/

namespace PgGateway

namespace Json

/-- An object that is made of members has under a key the last of these with the key. -/
lemma member?_object (ms : List (String × Json)) (key : String) :
    (Json.object ms).member? key = ms.reverse.lookup key :=
  Keyed.get?_ofList ms key

/-- Whether an object is another one with some members laid over it. -/
structure IsLaidOver (whole : Json) (ms : List (String × Json)) (base : Json) : Prop where
  /-- The other one is an object. -/
  isObject_base : base.isObject = true
  /-- It is an object with its members in the order of their keys. -/
  exists_isSorted : ∃ own, whole = .obj own ∧ Keyed.IsSorted own
  /-- Under a key it has what is laid over, and what the other one has if there is no such. -/
  member? : ∀ key, whole.member? key = ((Json.object ms).member? key).or (base.member? key)

/-- An object that is made of some members and more has the latter laid over the former. -/
lemma isLaidOver_object (own ms : List (String × Json)) :
    IsLaidOver (.object (own ++ ms)) ms (.object own) where
  isObject_base := rfl
  exists_isSorted := ⟨_, rfl, Keyed.isSorted_ofList _⟩
  member? key := by
    rw [member?_object, member?_object, member?_object, List.reverse_append, List.lookup_append]

/-- An object that is made of members with distinct keys has each of them. -/
lemma member?_object_of_nodup {ms : List (String × Json)} (hdistinct : (ms.map Prod.fst).Nodup)
    {entry : String × Json} (hentry : entry ∈ ms) :
    (Json.object ms).member? entry.1 = some entry.2 :=
  (Keyed.get?_ofList_eq_some hdistinct).mpr hentry

end Json

namespace Sandbox.Convention

variable {c : Convention} {method : String} {slots : Slots}

/-- **Options behind arguments.** If an object behind some arguments is options, the arguments stand
for the keys in order, of whatever kind they are, and the members of the object count more. -/
theorem bind_concat_object (hslots : Keyed.get? method c.slots = some slots)
    {values : List Json} (hsome : values ≠ [])
    (hfirst : ∀ first ∈ values.head?, ¬ c.Wraps method first)
    {ms : List (String × Json)} (hoptions : AreOptions slots.keys (values.length + 1) ms) :
    c.bind method (values ++ [.obj ms]) = some (.object (slots.keys.zip values ++ ms)) := by
  apply bind_of_prescribes
  obtain ⟨first, middle, rfl⟩ := List.exists_cons_of_ne_nil hsome
  have hfirst : ¬ c.Wraps method first := hfirst first rfl
  cases slots with
  | single key => exact .single hslots hfirst (.object middle ms)
  | ordered keys => exact .options hslots hfirst hoptions

/-- Several values, one for each key, with an object behind them: the object is options, whatever it
holds. -/
lemma bind_full (hslots : Keyed.get? method c.slots = some slots) (hkeys : slots.keys ≠ [])
    {values : List Json} (hfull : values.length = slots.keys.length)
    (hfirst : ∀ first ∈ values.head?, ¬ c.Wraps method first) (ms : List (String × Json)) :
    c.bind method (values ++ [.obj ms]) = some (.object (slots.keys.zip values ++ ms)) := by
  refine bind_concat_object hslots ?_ hfirst (.inr (by rw [hfull]; exact Nat.lt_succ_self _))
  intro hnone
  rw [hnone, List.length_nil] at hfull
  exact hkeys (List.length_eq_zero_iff.mp hfull.symm)

/-- **Options are laid over what the others make.** Take a method with a single key or with one or
more distinct keys in order.

Behind scalars, an object that names one of the keys, or that has no key left, which is any object
if there is a single key, is laid over what the scalars make without it.

Behind one value for each key, of whatever kind they are, any object is laid over the object that
has the values under their keys. So an empty object has nothing to add, and every value is found
under its key just as it was given.

**Proof sketch.** In both cases the object is options, so what is made are the values under their
keys and then the members of the object (`bind_concat_object`), which is the one laid over the other
(`Json.isLaidOver_object`). Without the object the scalars make the former (`bind_scalars`). -/
theorem bind_isLaidOver (hslots : Keyed.get? method c.slots = some slots)
    (hkeys : slots.keys ≠ []) (hdistinct : slots.keys.Nodup) :
    (∀ (scalars : List Json) (ms : List (String × Json)), scalars ≠ [] →
      (∀ value ∈ scalars, value.IsScalar) →
      (∃ key ∈ slots.keys, key ∈ ms.map Prod.fst) ∨ slots.keys.length ≤ scalars.length →
        ∃ base whole, c.bind method scalars = some base ∧
          c.bind method (scalars ++ [.obj ms]) = some whole ∧ whole.IsLaidOver ms base) ∧
    ∀ (values : List Json), values.length = slots.keys.length →
      (∀ first ∈ values.head?, ¬ c.Wraps method first) →
        (∀ ms, ∃ whole, c.bind method (values ++ [.obj ms]) = some whole ∧
          whole.IsLaidOver ms (.object (slots.keys.zip values))) ∧
        c.bind method (values ++ [.obj []]) = some (.object (slots.keys.zip values)) ∧
        ∀ entry ∈ slots.keys.zip values,
          (Json.object (slots.keys.zip values)).member? entry.1 = some entry.2 := by
  constructor
  · intro scalars ms hsome hscalar hoptions
    have hfirst : ∀ first ∈ scalars.head?, ¬ c.Wraps method first := fun first h =>
      not_wraps_of_isScalar (hscalar first (List.mem_of_mem_head? h))
    exact ⟨_, _, bind_scalars hslots hkeys hsome hscalar,
      bind_concat_object hslots hsome hfirst (hoptions.imp_right Nat.lt_succ_of_le),
      Json.isLaidOver_object _ _⟩
  · intro values hfull hfirst
    refine ⟨fun ms => ⟨_, bind_full hslots hkeys hfull hfirst ms, Json.isLaidOver_object _ _⟩, ?_,
      fun entry hentry => Json.member?_object_of_nodup ?_ hentry⟩
    · rw [bind_full hslots hkeys hfull hfirst, List.append_nil]
    · rwa [List.map_fst_zip hfull.ge]

/-- An object that names the documents to insert is laid over what the collection makes. One that is
itself a document, and has a key of the method, is inserted as it is if an empty object follows. -/
theorem bind_isLaidOver_of_insert :
    (∃ base whole, standard.bind "insert" [.str "notes"] = some base ∧
      standard.bind "insert" [.str "notes", .obj [("documents", .arr [])]] = some whole ∧
      whole.IsLaidOver [("documents", .arr [])] base) ∧
    ∃ parameters,
      standard.bind "insert" [.str "notes", .obj [("collection", .str "drafts")], .obj []] =
        some parameters ∧
      parameters.member? "collection" = some (.str "notes") ∧
      parameters.member? "documents" = some (.obj [("collection", .str "drafts")]) := by
  have hslots : Keyed.get? "insert" standard.slots =
      some (.ordered ["collection", "documents"]) := by
    decide +kernel
  have hfirst : ∀ first ∈ [Json.str "notes", .obj [("collection", .str "drafts")]].head?,
      ¬ standard.Wraps "insert" first := by
    rintro first ⟨⟩ ⟨hlist, -⟩
    cases hlist
  have hlaw := bind_isLaidOver hslots (List.cons_ne_nil _ _) (by decide)
  have hscalar : ∀ value ∈ [Json.str "notes"], value.IsScalar :=
    List.forall_mem_singleton.mpr ⟨rfl, rfl⟩
  have hnames : ∃ key ∈ ["collection", "documents"],
      key ∈ [("documents", Json.arr [])].map Prod.fst := by
    decide
  refine ⟨hlaw.1 [.str "notes"] _ (List.cons_ne_nil _ _) hscalar (.inl hnames), ?_⟩
  obtain ⟨-, hbound, hfound⟩ :=
    hlaw.2 [.str "notes", .obj [("collection", .str "drafts")]] rfl hfirst
  exact ⟨_, hbound, hfound ("collection", .str "notes") (by simp [Slots.keys]),
    hfound ("documents", .obj [("collection", .str "drafts")]) (by simp [Slots.keys])⟩

end Sandbox.Convention

end PgGateway
