import Stencil.Formatter
import Stencil.Proofs.Registry

/-!
# The registries of formatters

Percent formatters have a registry of directive rules, brace formatters one of transformers. Both are
changed in the same ways, and both refuse the same changes.

* `Extension`: a thing of either kind, under whose kind the operations are those of that registry.
* `Extends`: a formatter after an addition or a removal.
* `addExtension_of_mem`, `addExtension_of_not_mem` and so on: each operation in each of its cases.
* `transformerNames_pairwise`, `mem_transformerNames`: the order in which transformers are listed.
-/

namespace Stencil.Formatter

open Registry

/-- The kinds of things that a formatter can hold in a registry. -/
inductive ExtensionKind where
  | rule
  | transformer
  deriving DecidableEq, Repr

/-- What errors call the things of a kind. -/
def ExtensionKind.label : ExtensionKind → String
  | rule => ruleKind
  | transformer => transformerKind

/-- A thing that a formatter can hold in a registry. -/
inductive Extension where
  | rule (r : DirectiveRule)
  | transformer (t : Transformer)

def Extension.kind : Extension → ExtensionKind
  | rule _ => .rule
  | transformer _ => .transformer

/-- The formatter has a registry for a kind. -/
def supports (f : Formatter) : ExtensionKind → Bool
  | .rule => f.supportsDirectiveRules
  | .transformer => f.supportsTransformers

/-- The error of a formatter without a registry for a kind. -/
def unsupported (f : Formatter) : ExtensionKind → Error
  | .rule => f.noRules
  | .transformer => f.noTransformers

/-- Adds a rule or a transformer. -/
def addExtension (f : Formatter) (name : String) : Extension → Except Error Formatter
  | .rule r => f.addDirectiveRule name r
  | .transformer t => f.addTransformer name t

def hasExtension (f : Formatter) (kind : ExtensionKind) (name : String) : Except Error Bool :=
  match kind with
  | .rule => f.hasDirectiveRule name
  | .transformer => f.hasTransformer name

def removeExtension (f : Formatter) (kind : ExtensionKind) (name : String) :
    Except Error Formatter :=
  match kind with
  | .rule => f.removeDirectiveRule name
  | .transformer => f.removeTransformer name

/-- The names in the registry for a kind, in the order in which they were added. -/
def extensionNames (f : Formatter) (kind : ExtensionKind) : List String :=
  match f, kind with
  | percent rules, .rule => rules.names
  | brace transformers, .transformer => transformers.names
  | _, _ => []

variable {f g : Formatter} {kind : ExtensionKind} {name : String} {x : Extension}

theorem ruleNames_eq (f : Formatter) : f.ruleNames = f.extensionNames .rule := by
  cases f <;> rfl

theorem transformerNames_eq (f : Formatter) :
    f.transformerNames = (f.extensionNames .transformer).mergeSort fun a b => decide (a ≤ b) := by
  cases f <;> simp only [transformerNames, extensionNames, List.mergeSort_nil]

theorem extensionNames_nodup (f : Formatter) (kind : ExtensionKind) :
    (f.extensionNames kind).Nodup := by
  cases f with
  | percent rules => cases kind with
    | rule => exact rules.nodup
    | transformer => exact .nil
  | brace transformers => cases kind with
    | rule => exact .nil
    | transformer => exact transformers.nodup
  | custom _ _ => exact .nil

theorem mem_transformerNames :
    name ∈ f.transformerNames ↔ name ∈ f.extensionNames .transformer := by
  rw [transformerNames_eq, List.mem_mergeSort]

/-- The names of the transformers stand in strictly increasing order. -/
theorem transformerNames_pairwise (f : Formatter) : f.transformerNames.Pairwise (· < ·) := by
  have hsorted : f.transformerNames.Pairwise fun a b => decide (a ≤ b) = true := by
    rw [transformerNames_eq]
    refine List.pairwise_mergeSort (fun a b c hab hbc => ?_) (fun a b => ?_) _
    · exact decide_eq_true (String.le_trans (of_decide_eq_true hab) (of_decide_eq_true hbc))
    · simpa using String.le_total a b
  have hnodup : f.transformerNames.Nodup := by
    rw [transformerNames_eq]
    exact (List.mergeSort_perm _ _).nodup_iff.mpr (extensionNames_nodup f .transformer)
  refine (hsorted.and hnodup).imp fun ⟨hle, hne⟩ => ?_
  exact String.not_le.mp fun hge => hne (String.le_antisymm (of_decide_eq_true hle) hge)

/-! ## The operations -/

/-- The second formatter is the first one after an event in the registry for a kind. -/
structure Extends (f : Formatter) (kind : ExtensionKind) (event : Event) (g : Formatter) : Prop where
  name : g.name = f.name
  supports : g.supports = f.supports
  names : ∀ other, g.extensionNames other =
    if other = kind then listed (f.extensionNames other) [event] else f.extensionNames other

theorem extends_percent {rules rules' : Registry DirectiveRule} {event : Event}
    (h : rules'.names = listed rules.names [event]) :
    (percent rules).Extends .rule event (percent rules') where
  name := rfl
  supports := rfl
  names other := by
    cases other with
    | rule => rw [if_pos rfl]; exact h
    | transformer => rfl

theorem extends_brace {transformers transformers' : Registry Transformer} {event : Event}
    (h : transformers'.names = listed transformers.names [event]) :
    (brace transformers).Extends .transformer event (brace transformers') where
  name := rfl
  supports := rfl
  names other := by
    cases other with
    | rule => rfl
    | transformer => rw [if_pos rfl]; exact h

theorem addExtension_of_not_supports (h : f.supports x.kind = false) (name : String) :
    f.addExtension name x = .error (f.unsupported x.kind) := by
  cases x <;> cases f <;> first | rfl | cases h

theorem hasExtension_of_not_supports (h : f.supports kind = false) (name : String) :
    f.hasExtension kind name = .error (f.unsupported kind) := by
  cases kind <;> cases f <;> first | rfl | cases h

theorem removeExtension_of_not_supports (h : f.supports kind = false) (name : String) :
    f.removeExtension kind name = .error (f.unsupported kind) := by
  cases kind <;> cases f <;> first | rfl | cases h

theorem hasExtension_of_supports (h : f.supports kind = true) (name : String) :
    f.hasExtension kind name = .ok (decide (name ∈ f.extensionNames kind)) := by
  cases kind <;> cases f <;> first | rfl | cases h

theorem addExtension_of_mem (h : name ∈ f.extensionNames x.kind) :
    f.addExtension name x = .error (.duplicateName x.kind.label name) := by
  cases f with
  | percent rules => cases x with
    | rule r => simp only [addExtension, addDirectiveRule, add_of_mem h r]; rfl
    | transformer t => cases h
  | brace transformers => cases x with
    | rule r => cases h
    | transformer t => simp only [addExtension, addTransformer, add_of_mem h t]; rfl
  | custom _ _ => cases h

theorem addExtension_of_not_mem (hs : f.supports x.kind = true)
    (h : name ∉ f.extensionNames x.kind) :
    ∃ g, f.addExtension name x = .ok g ∧ f.Extends x.kind (.added name) g := by
  cases f with
  | percent rules => cases x with
    | rule r =>
      obtain ⟨rules', hinsert, hadd⟩ := add_of_not_mem ruleKind h r
      refine ⟨percent rules', ?_, extends_percent (names_eq_listed_added hinsert)⟩
      simp only [addExtension, addDirectiveRule, hadd]
      rfl
    | transformer t => cases hs
  | brace transformers => cases x with
    | rule r => cases hs
    | transformer t =>
      obtain ⟨transformers', hinsert, hadd⟩ := add_of_not_mem transformerKind h t
      refine ⟨brace transformers', ?_, extends_brace (names_eq_listed_added hinsert)⟩
      simp only [addExtension, addTransformer, hadd]
      rfl
  | custom _ _ => cases x <;> cases hs

theorem removeExtension_of_not_mem (hs : f.supports kind = true) (h : name ∉ f.extensionNames kind) :
    f.removeExtension kind name = .error (.notFound kind.label name) := by
  cases f with
  | percent rules => cases kind with
    | rule => simp only [removeExtension, removeDirectiveRule, remove_of_not_mem h]; rfl
    | transformer => cases hs
  | brace transformers => cases kind with
    | rule => cases hs
    | transformer => simp only [removeExtension, removeTransformer, remove_of_not_mem h]; rfl
  | custom _ _ => cases kind <;> cases hs

theorem removeExtension_of_mem (h : name ∈ f.extensionNames kind) :
    ∃ g, f.removeExtension kind name = .ok g ∧ f.Extends kind (.removed name) g := by
  cases f with
  | percent rules => cases kind with
    | rule =>
      obtain ⟨rules', herase, hremove⟩ := remove_of_mem ruleKind h
      refine ⟨percent rules', ?_, extends_percent (names_eq_listed_removed herase)⟩
      simp only [removeExtension, removeDirectiveRule, hremove]
      rfl
    | transformer => cases h
  | brace transformers => cases kind with
    | rule => cases h
    | transformer =>
      obtain ⟨transformers', herase, hremove⟩ := remove_of_mem transformerKind h
      refine ⟨brace transformers', ?_, extends_brace (names_eq_listed_removed herase)⟩
      simp only [removeExtension, removeTransformer, hremove]
      rfl
  | custom _ _ => cases h

/-- An addition that succeeds adds. -/
theorem extends_of_addExtension (h : f.addExtension name x = .ok g) :
    f.Extends x.kind (.added name) g := by
  cases hs : f.supports x.kind with
  | false => rw [addExtension_of_not_supports hs] at h; cases h
  | true =>
    by_cases hmem : name ∈ f.extensionNames x.kind
    · rw [addExtension_of_mem hmem] at h; cases h
    · obtain ⟨g', hadd, hextends⟩ := addExtension_of_not_mem hs hmem
      obtain rfl := Except.ok.inj (h.symm.trans hadd)
      exact hextends

/-- A removal that succeeds removes. -/
theorem extends_of_removeExtension (h : f.removeExtension kind name = .ok g) :
    f.Extends kind (.removed name) g := by
  by_cases hmem : name ∈ f.extensionNames kind
  · obtain ⟨g', hremove, hextends⟩ := removeExtension_of_mem hmem
    obtain rfl := Except.ok.inj (h.symm.trans hremove)
    exact hextends
  · cases hs : f.supports kind with
    | false => rw [removeExtension_of_not_supports hs] at h; cases h
    | true => rw [removeExtension_of_not_mem hs hmem] at h; cases h

end Stencil.Formatter
