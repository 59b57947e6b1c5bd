import Stencil.Brace

/-!
# Formatters

A formatter is a grammar of templates: percent templates with a registry of directive rules, brace
templates with a registry of transformers, or a grammar of the user's own.

* `Formatter.format`: the outcome of a template.
* `addDirectiveRule`, `addTransformer` and so on: changes to the registries, which other formatters
  do not support.
-/

namespace Stencil

/-- A grammar of templates. -/
inductive Formatter where
  | percent (rules : Registry DirectiveRule)
  | brace (transformers : Registry Transformer)
  | custom (name : String) (format : String → List Value → Action Formatted)

namespace Formatter

/-- The name of the formatter of percent templates. -/
def percentName : String := "CStyleFormatter"

/-- The name of the formatter of brace templates. -/
def braceName : String := "PyStyleFormatter"

/-- The percent formatter with the built-in rules. -/
def percentDefault : Formatter := percent (.ofList builtinRules)

/-- The brace formatter with the built-in transformers. -/
def braceDefault : Formatter := brace (.ofList builtinTransformers)

/-- The name under which an engine holds a formatter. -/
def name : Formatter → String
  | percent _ => percentName
  | brace _ => braceName
  | custom name _ => name

/-- The outcome of a template. -/
def format : Formatter → String → List Value → Action Formatted
  | percent rules => Percent.format rules
  | brace transformers => Brace.format transformers
  | custom _ format => format

/-- The built-in formatter with a name. -/
def builtin (name : String) : Except Error Formatter :=
  if name = braceName then .ok braceDefault
  else if name = percentName then .ok percentDefault
  else .error (.configuration (.unknownFormatter name))

/-! ## Directive rules -/

/-- What an error calls a directive rule. -/
def ruleKind : String := "Format parser"

/-- The error of a formatter without directive rules. -/
def noRules (f : Formatter) : Error := .unsupported f.name "directive parsers"

def supportsDirectiveRules : Formatter → Bool
  | percent _ => true
  | _ => false

/-- Adds a rule behind those that there are. -/
def addDirectiveRule (f : Formatter) (name : String) (rule : DirectiveRule) :
    Except Error Formatter :=
  match f with
  | percent rules => percent <$> rules.add ruleKind name rule
  | f => .error f.noRules

def hasDirectiveRule (f : Formatter) (name : String) : Except Error Bool :=
  match f with
  | percent rules => .ok (rules.contains name)
  | f => .error f.noRules

def removeDirectiveRule (f : Formatter) (name : String) : Except Error Formatter :=
  match f with
  | percent rules => percent <$> rules.remove ruleKind name
  | f => .error f.noRules

/-- The names of the directive rules in the order in which they are tried. -/
def ruleNames : Formatter → List String
  | percent rules => rules.names
  | _ => []

/-! ## Transformers -/

/-- What an error calls a transformer. -/
def transformerKind : String := "Transformer"

/-- The error of a formatter without transformers. -/
def noTransformers (f : Formatter) : Error := .unsupported f.name "transformers"

def supportsTransformers : Formatter → Bool
  | brace _ => true
  | _ => false

/-- Adds a transformer under a name. -/
def addTransformer (f : Formatter) (name : String) (transformer : Transformer) :
    Except Error Formatter :=
  match f with
  | brace transformers => brace <$> transformers.add transformerKind name transformer
  | f => .error f.noTransformers

def hasTransformer (f : Formatter) (name : String) : Except Error Bool :=
  match f with
  | brace transformers => .ok (transformers.contains name)
  | f => .error f.noTransformers

def removeTransformer (f : Formatter) (name : String) : Except Error Formatter :=
  match f with
  | brace transformers => brace <$> transformers.remove transformerKind name
  | f => .error f.noTransformers

/-- The names of the transformers in increasing order. -/
def transformerNames : Formatter → List String
  | brace transformers => transformers.names.mergeSort fun a b => decide (a ≤ b)
  | _ => []

end Formatter

end Stencil
