import Stencil.Brace.Indexing
import Stencil.Brace.Path
import Stencil.Brace.Token
import Stencil.Percent
import Stencil.Value.Json

/-!
# Brace templates

Placeholders are replaced by values from left to right. The value of a placeholder may pass through
a transformer, and its default text is shown.

* `Transformer`, `builtinTransformers`: what a transformer is, and those that there are at first.
* `Brace.evaluate`: the value of a placeholder.
* `Brace.render`: the text of tokens.
* `Brace.format`: the template with its placeholders replaced.
-/

namespace Stencil

/-! ## Transformers -/

/-- What a transformer does to a value. -/
abbrev Transformer := Value → Action Value

/-- The JSON text of a value; none for what has no JSON form. -/
def jsonTransformer : Transformer := fun v => do
  match v with
  | .undefined | .callable _ => pure .undefined
  | v => pure (.text (v.toJson (← get).heap).toText)

/-- The transformers that a brace formatter has at first. -/
def builtinTransformers : List (String × Transformer) := [("json", jsonTransformer)]

namespace Brace

open Number

/-! ## Templates -/

/-- What earlier placeholders of a template decide. -/
structure Progress where
  mode : IndexingMode
  /-- The argument that the next placeholder without a key takes. -/
  next : Nat

namespace Progress

def start : Progress := ⟨.undefined, 0⟩

end Progress

/-- The value of a placeholder. -/
def evaluate (transformers : Registry Transformer) (args : List Value) (progress : Progress)
    (key : List Char) (transformer : Option (List Char)) : Action (Value × Progress) := do
  let mode ← ofExcept (progress.mode.observe key.isEmpty)
  let path := if key.isEmpty then numeral 10 progress.next else key
  let next := if key.isEmpty then progress.next + 1 else progress.next
  let v ← resolve path args
  match transformer with
  | none => pure (v, ⟨mode, next⟩)
  | some name =>
    match transformers.find? (String.ofList name) with
    | none => throw (.unknownTransformer (String.ofList name))
    | some transform => do pure (← transform v, ⟨mode, next⟩)

/-- The text of tokens, with the values of the placeholders. -/
def render (transformers : Registry Transformer) (args : List Value) :
    Progress → List Token → Action (List Char)
  | _, [] => pure []
  | progress, .literal c :: rest => do pure (c :: (← render transformers args progress rest))
  | progress, .brace c :: rest => do pure (c :: (← render transformers args progress rest))
  | progress, .placeholder key transformer :: rest => do
    let (v, progress) ← evaluate transformers args progress key transformer
    let shown := (v.display (← get).heap).toList
    pure (shown ++ (← render transformers args progress rest))

/-- The template with its placeholders replaced by values. -/
def format (transformers : Registry Transformer) (template : String) (args : List Value) :
    Action Formatted := do
  let tokens := Token.scan template.toList
  if tokens.any Token.isSpecial then
    pure ⟨true, String.ofList (← render transformers args .start tokens)⟩
  else pure ⟨false, template⟩

end Brace

end Stencil
