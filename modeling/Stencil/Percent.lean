import Stencil.Directive.Builtin
import Stencil.Registry

/-!
# Percent templates

The directives of a template take the arguments one by one, from left to right. The first rule of a
registry that recognises a directive replaces it; a directive that no rule recognises stays, and its
argument is dropped. What a rule puts in place of a directive is not searched again.

* `Percent.fill`: the rest of the work on a line that has been read up to some point.
* `Percent.format`: the template with its directives replaced.
-/

namespace Stencil

/-- The outcome of formatting: whether anything of the template was recognised, and the text. -/
structure Formatted where
  matched : Bool
  output : String
  deriving DecidableEq, Repr

namespace Percent

/-- The first rule that recognises a body, with its captures. -/
def firstRule? (rules : Registry DirectiveRule) (body : String) :
    Option (DirectiveRule × List (Option String)) :=
  rules.entries.findSome? fun entry =>
    (entry.2.recognize body).map fun captures => (entry.2, captures)

/-- The byte offset at which reading goes on after the directive that ends at `stop` in `line` has
been replaced: as far from the end of the new line as `stop` was from the end of the old one. -/
def resumeAt (stop : Nat) (line new : List Char) : Nat :=
  min (stop + Text.byteLength new - Text.byteLength line) (Text.byteLength new)

/-- Replaces the directives of `rest` by the arguments; `done` is the part of the line that has been
read. Gives the line, and whether a rule has been applied. -/
def fill (rules : Registry DirectiveRule) :
    (done rest : List Char) → (matched : Bool) → List Value → Action (List Char × Bool)
  | done, rest, matched, [] => pure (done ++ rest, matched)
  | done, rest, matched, arg :: args =>
    match Directive.next? rest with
    | none => pure (done ++ rest, matched)
    | some cut => do
      let body := String.ofList cut.body
      match firstRule? rules body with
      | none => fill rules (done ++ cut.before ++ '%' :: cut.body) cut.after matched args
      | some (rule, captures) =>
        let line := done ++ rest
        let start := Text.byteLength (done ++ cut.before)
        let stop := start + 1 + Text.byteLength cut.body
        let new := (← rule.substitute ⟨body, start, stop, captures⟩ (String.ofList line) arg).toList
        let parts := Text.cutBytes new (resumeAt stop line new)
        fill rules parts.1 parts.2 true args

/-- The template with its directives replaced by the arguments. -/
def format (rules : Registry DirectiveRule) (template : String) (args : List Value) :
    Action Formatted := do
  let (line, matched) ← fill rules [] template.toList false args
  pure ⟨matched, String.ofList line⟩

end Percent

end Stencil
