import Stencil.Value

/-!
# Data as values

`Embeds α` says how data of a type becomes a value. A list becomes a new sequence, and an absent
option `null`. A 64-bit word or a size, which have no sign, keep their bits, so that the upper half of
the range becomes negative.
-/

namespace Stencil

open Number

/-- Data of type `α` can be given to a template. -/
class Embeds (α : Type) where
  embed : α → StateM Store Value

export Embeds (embed)

instance : Embeds Value := ⟨pure⟩
instance : Embeds String := ⟨fun s => pure (.text s)⟩
instance : Embeds Char := ⟨fun c => pure (.text (String.singleton c))⟩
instance : Embeds Bool := ⟨fun b => pure (.bool b)⟩
instance : Embeds Int32 := ⟨fun i => pure (.integer i.toInt64)⟩
instance : Embeds Int64 := ⟨fun i => pure (.integer i)⟩
instance : Embeds UInt32 := ⟨fun n => pure (.integer (.ofNat n.toNat))⟩
instance : Embeds UInt64 := ⟨fun n => pure (.integer n.toInt64)⟩
instance : Embeds USize := ⟨fun n => pure (.integer n.toUInt64.toInt64)⟩
instance : Embeds Binary64 := ⟨fun x => pure (.real x)⟩

instance {α : Type} [Embeds α] : Embeds (Option α) where
  embed
    | some a => embed a
    | none => pure .null

instance {α : Type} [Embeds α] : Embeds (List α) where
  embed items := do Store.newSequence (← items.mapM embed)

/-- A list of keys and data becomes a mapping; the last datum counts at each key. -/
def embedEntries {α : Type} [Embeds α] (pairs : List (String × α)) : StateM Store Value := do
  let held ← pairs.mapM fun (key, a) => do pure (key, ← embed a)
  pure (.keyed (Entries.ofList held))

end Stencil
