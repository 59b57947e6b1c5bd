import Stencil.Engine
import Stencil.Settings

/-!
# The use of an engine

* `Engine.ofSettings`: the engine that settings describe.
* `Template`, `Template.formatWith`: data whose text is a template for an engine.
-/

namespace Stencil

namespace Engine

/-- Adds the built-in formatters with these names in order. -/
def addBuiltins (e : Engine) : List String → Except Error Engine
  | [] => .ok e
  | name :: rest => do
    let f ← Formatter.builtin name
    let e ← e.addFormatter f
    e.addBuiltins rest

/-- The engine that settings describe. -/
def ofSettings (s : Settings) : Except Error Engine := do
  let e ← empty.addBuiltins s.formatters
  pure (e.setMulti s.multi)

end Engine

/-- Data whose text can serve as a template. -/
class Template (α : Type) where
  /-- The text of the template; that of a value depends on the sequences. -/
  text : Heap → α → String

instance : Template String := ⟨fun _ s => s⟩
instance : Template Int64 := ⟨fun _ i => Number.int64Text i⟩
instance : Template Value := ⟨fun heap v => v.display heap⟩

/-- The text of a template of any kind. -/
def Template.formatWith {α : Type} [Template α] (template : α) (e : Engine) (args : List Value) :
    Action String := do
  e.format (Template.text (← get).heap template) args

end Stencil
