set_option autoImplicit false

/-!
# Keyed lists

A finite map from strings, kept as the list of its entries in ascending order of their keys. The
order of strings is that of their code points.

## Main definitions

* `PgGateway.Keyed` — the maps, with `put`, `get?`, `ofList` and `keys`.
-/

namespace PgGateway

/-- The entries of a map in ascending order of their keys. -/
abbrev Keyed (α : Type) := List (String × α)

namespace Keyed

variable {α β : Type}

/-- The map with `value` under `key`, whatever stood there before. -/
def put (key : String) (value : α) : Keyed α → Keyed α
  | [] => [(key, value)]
  | (k, v) :: rest =>
    if key < k then (key, value) :: (k, v) :: rest
    else if key = k then (key, value) :: rest
    else (k, v) :: put key value rest

/-- The value under `key`. -/
def get? (key : String) : Keyed α → Option α
  | [] => none
  | (k, v) :: rest => if k = key then some v else get? key rest

/-- The map with the given entries; the last entry of a key counts. -/
def ofList (entries : List (String × α)) : Keyed α :=
  entries.foldl (fun m (k, v) => put k v m) []

/-- The first map with the entries of the second laid over it. -/
def overlay (base top : Keyed α) : Keyed α :=
  top.foldl (fun m (k, v) => put k v m) base

/-- The keys in ascending order. -/
def keys (m : Keyed α) : List String :=
  m.map Prod.fst

/-- The map with its values replaced by their images. -/
def mapValues (f : α → β) (m : Keyed α) : Keyed β :=
  m.map fun (k, v) => (k, f v)

end Keyed

end PgGateway
