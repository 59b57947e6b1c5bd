import Stencil.Error

/-!
# Registries

A registry holds things under names, in the order in which they were added; no name occurs twice.

* `Registry.names`: the names in order.
* `Registry.insert?`, `erase?`: the registry with one thing more or less.
* `Registry.add`, `remove`: the same, failing with an error that names the kind of things.
-/

namespace Stencil

/-- Things under distinct names, in the order of their addition. -/
structure Registry (α : Type) where
  entries : List (String × α)
  nodup : (entries.map Prod.fst).Nodup

namespace Registry

variable {α : Type}

def empty : Registry α := ⟨[], .nil⟩

instance : Inhabited (Registry α) := ⟨empty⟩

/-- The names in order. -/
def names (r : Registry α) : List String := r.entries.map Prod.fst

/-- The name is taken. -/
def contains (r : Registry α) (name : String) : Bool := decide (name ∈ r.names)

/-- What is held under a name. -/
def find? (r : Registry α) (name : String) : Option α := r.entries.lookup name

/-- The registry with one thing more, at the end; none if its name is taken. -/
def insert? (r : Registry α) (name : String) (a : α) : Option (Registry α) :=
  if h : name ∈ r.names then none
  else some ⟨r.entries ++ [(name, a)], by
    simp only [names] at h
    simp only [List.map_append, List.map_cons, List.map_nil]
    exact List.nodup_append.mpr ⟨r.nodup, by simp, by
      intro x hx y hy
      rw [List.mem_singleton] at hy
      exact fun hxy => h (hy ▸ hxy ▸ hx)⟩⟩

/-- The registry without a name; none if it is not there. -/
def erase? (r : Registry α) (name : String) : Option (Registry α) :=
  if name ∈ r.names then
    some ⟨r.entries.filter fun entry => entry.1 ≠ name,
      r.nodup.sublist (List.filter_sublist.map _)⟩
  else none

/-- The registry with what is held under a name replaced. -/
def replace (r : Registry α) (name : String) (a : α) : Registry α :=
  ⟨r.entries.map fun entry => if entry.1 = name then (entry.1, a) else entry, by
    have : (r.entries.map fun entry => if entry.1 = name then (entry.1, a) else entry).map Prod.fst
        = r.entries.map Prod.fst := by
      rw [List.map_map]
      exact List.map_congr_left fun entry _ => by simp only [Function.comp]; split <;> rfl
    exact this ▸ r.nodup⟩

/-- The registry of a list of named things; of two with one name the first one stays. -/
def ofList (entries : List (String × α)) : Registry α :=
  entries.foldl (fun r entry => (r.insert? entry.1 entry.2).getD r) empty

/-- Adds a thing of some kind, unless its name is taken. -/
def add (kind : String) (r : Registry α) (name : String) (a : α) : Except Error (Registry α) :=
  match r.insert? name a with
  | some r => .ok r
  | none => .error (.duplicateName kind name)

/-- Removes a thing of some kind, if it is there. -/
def remove (kind : String) (r : Registry α) (name : String) : Except Error (Registry α) :=
  match r.erase? name with
  | some r => .ok r
  | none => .error (.notFound kind name)

theorem names_insert? {r s : Registry α} {name : String} {a : α}
    (h : r.insert? name a = some s) : s.names = r.names ++ [name] := by
  unfold insert? at h
  split at h
  · simp at h
  · rw [← Option.some.inj h]; simp [names]

theorem insert?_eq_none_iff {r : Registry α} {name : String} {a : α} :
    r.insert? name a = none ↔ name ∈ r.names := by
  unfold insert?; split <;> simp_all

theorem names_erase? {r s : Registry α} {name : String} (h : r.erase? name = some s) :
    s.names = r.names.filter (· ≠ name) := by
  unfold erase? at h
  split at h
  · rw [← Option.some.inj h]; simp only [names, List.filter_map]; rfl
  · simp at h

theorem erase?_eq_none_iff {r : Registry α} {name : String} :
    r.erase? name = none ↔ name ∉ r.names := by
  unfold erase?; split <;> simp_all

theorem names_replace (r : Registry α) (name : String) (a : α) :
    (r.replace name a).names = r.names := by
  simp only [names, replace, List.map_map]
  exact List.map_congr_left fun entry _ => by simp only [Function.comp]; split <;> rfl

end Registry

end Stencil
