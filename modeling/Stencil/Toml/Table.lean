import Stencil.Json

/-!
# Tables of a TOML document

The tables of a document while it is read. A table is opened by its header, or implied by the header
of a table below it, or by a key with dots; what may still be added to it depends on this.

* `Item`: a value, a table or an array of tables at a key.
* `descend?`: changes the table at the end of a path, making the tables on the way.
* `addPair?`, `openTable?`, `openElement?`: the effect of a line.
* `Item.toJson`: what a document means.
-/

namespace Stencil.Toml

/-- How a table came to be. -/
inductive Origin where
  /-- By a header of its own. -/
  | header
  /-- By a header of a table below it. -/
  | implied
  /-- By a key with dots. -/
  | dotted
  deriving DecidableEq

/-- What a table holds at a key. -/
inductive Item where
  | value (v : Json)
  | table (origin : Origin) (entries : List (String × Item))
  /-- An array of tables, the last one first. -/
  | tables (elements : List (List (String × Item)))

/-- Changes the table at the end of a path. Missing tables on the way are made with the origin
`fresh`; a path with dots does not lead through a table that has a header. -/
def descend? (fresh : Origin) (change : Origin → Entries Item → Option (Entries Item)) :
    List String → Origin → Entries Item → Option (Entries Item)
  | [], origin, entries => change origin entries
  | key :: path, _, entries =>
    match entries.find? key with
    | none =>
      (descend? fresh change path fresh []).map fun inner => entries.insert key (.table fresh inner)
    | some (.table origin inner) =>
      if fresh = .dotted ∧ origin = .header then none
      else
        (descend? fresh change path origin inner).map fun inner =>
          entries.insert key (.table origin inner)
    | some (.tables (last :: before)) =>
      (descend? fresh change path .header last).map fun last =>
        entries.insert key (.tables (last :: before))
    | some _ => none

/-- Adds a value at a key with dots to a table. All but the last part of the key lead through tables
that keys with dots have made. -/
def addPair? (path : List String) (key : String) (v : Json) :
    Origin → Entries Item → Option (Entries Item) :=
  descend? .dotted (fun origin entries =>
    if decide (origin = .dotted) = path.isEmpty then none
    else if (entries.find? key).isSome then none
    else some (entries.insert key (.value v))) path

/-- Opens the table at a path, which no header has opened before. -/
def openTable? (path : List String) (key : String) : Origin → Entries Item → Option (Entries Item) :=
  descend? .implied (fun _ entries =>
    match entries.find? key with
    | none => some (entries.insert key (.table .header []))
    | some (.table .implied inner) => some (entries.insert key (.table .header inner))
    | some _ => none) path

/-- Adds an empty table to the array of tables at a path. -/
def openElement? (path : List String) (key : String) :
    Origin → Entries Item → Option (Entries Item) :=
  descend? .implied (fun _ entries =>
    match entries.find? key with
    | none => some (entries.insert key (.tables [[]]))
    | some (.tables elements) => some (entries.insert key (.tables ([] :: elements)))
    | some _ => none) path

mutual

/-- The meaning of an item. -/
def Item.toJson : Item → Json
  | .value v => v
  | .table _ entries => .object (entriesToJson entries)
  | .tables elements => .array (elementsToJson elements).reverse
termination_by structural item => item

/-- The meanings of the items of a table. -/
def entriesToJson : List (String × Item) → List (String × Json)
  | [] => []
  | (key, item) :: rest => (key, item.toJson) :: entriesToJson rest
termination_by structural entries => entries

/-- The meanings of the elements of an array of tables. -/
def elementsToJson : List (List (String × Item)) → List Json
  | [] => []
  | entries :: rest => .object (entriesToJson entries) :: elementsToJson rest
termination_by structural elements => elements

end

end Stencil.Toml
