import Stencil.Number.Binary64
import Stencil.Entries

/-!
# JSON values

`merge base overlay` is `overlay` with the parts of `base` that it leaves open: objects are merged key by
key, at every depth, and any other value replaces what was there.
-/

namespace Stencil

open Number

/-- A JSON value. An integer is in the range of 64 bits with or without a sign, any other number is
finite, and the keys of an object increase. -/
inductive Json where
  | null
  | bool (b : Bool)
  | integer (i : Int)
  | real (x : Binary64)
  | text (s : String)
  | array (items : List Json)
  | object (entries : List (String × Json))
  deriving Inhabited

namespace Json

mutual

/-- The second value over the first one. -/
def merge : Json → Json → Json
  | object base, object overlay => object (mergeEntries base overlay)
  | _, overlay => overlay
termination_by structural _ overlay => overlay

/-- The entries of the second object over those of the first one. -/
def mergeEntries (base : List (String × Json)) : List (String × Json) → List (String × Json)
  | [] => base
  | (key, v) :: rest =>
    let merged := match Entries.find? key base with
      | some b => merge b v
      | none => v
    mergeEntries (Entries.insert key merged base) rest
termination_by structural overlay => overlay

end

end Json

end Stencil
