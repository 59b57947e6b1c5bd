/-!
# Entries in key order

A finite map from texts, as a list of pairs in increasing order of their keys. The order of texts
is by code point, which is the order of their UTF-8 bytes.

* `Entries.insert`: puts a value at a key, in place of the one that was there.
* `Entries.find?`: the value at a key.
* `Entries.Sorted`: the order of the keys, which `insert` keeps.
-/

namespace Stencil

/-- Pairs of a key and a value. -/
abbrev Entries (α : Type) := List (String × α)

namespace Entries

variable {α β : Type}

/-- The value at a key. -/
def find? (key : String) : Entries α → Option α
  | [] => none
  | (k, v) :: rest => if k = key then some v else find? key rest

/-- The entries with `value` at `key`. -/
def insert (key : String) (value : α) : Entries α → Entries α
  | [] => [(key, value)]
  | (k, v) :: rest =>
    if key < k then (key, value) :: (k, v) :: rest
    else if k = key then (key, value) :: rest
    else (k, v) :: insert key value rest

/-- The entries of a list of pairs, of which the last one counts at each key. -/
def ofList (pairs : List (String × α)) : Entries α :=
  pairs.foldl (fun entries pair => entries.insert pair.1 pair.2) []

/-- The keys increase. -/
def Sorted (entries : Entries α) : Prop := entries.Pairwise fun a b => a.1 < b.1

theorem find?_insert (key other : String) (value : α) (entries : Entries α) :
    (entries.insert key value).find? other =
      if key = other then some value else entries.find? other := by
  induction entries with
  | nil => simp [insert, find?]
  | cons entry rest ih => grind [insert, find?]

end Entries

end Stencil
