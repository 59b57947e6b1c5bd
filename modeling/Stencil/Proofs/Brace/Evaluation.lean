import Stencil.Brace
import Stencil.Proofs.Action
import Stencil.Proofs.Brace.Resolution
import Stencil.Proofs.Registry

/-!
# The evaluation of placeholders

A placeholder is checked against the way of indexing so far, its path is resolved, and its
transformer is applied, in this order. A failure of the first or the last of them ends it.

* `indexing`, `IndexingMode.Allows`: the way in which a key chooses its argument, and when it may.
* `Leads`: the argument and the path that a placeholder stands for.
* `Transforms`: what a transformer makes of a value.
* `Evaluates`: the rules put together; `Evaluates.run_evaluate` and `exists_evaluates` say that this is what
  `evaluate` does.
* `Progress.path`, `transform`: the steps of `evaluate`, which `run_evaluate_of_allows` and
  `run_evaluate_of_not_allows` take its runs apart into.
-/

namespace Stencil.Brace

open Number

/-! ## The rules -/

/-- The way in which a placeholder with this key chooses its argument. -/
def indexing : List Char → IndexingMode
  | [] => .implicit
  | _ :: _ => .explicit

/-- After this mode a placeholder may use that way. -/
def IndexingMode.Allows (mode next : IndexingMode) : Prop := mode = undefined ∨ mode = next

/-- The progress behind a placeholder that its mode allows. -/
def Progress.advance (progress : Progress) (key : List Char) : Progress :=
  ⟨indexing key, if key.isEmpty then progress.next + 1 else progress.next⟩

/-- `Leads next key index path`: a placeholder with this key stands for the argument with the number `index`
and for the path that leads on from it. Without a key it is the argument `next` itself. -/
inductive Leads (next : Nat) : List Char → Nat → List (List Char) → Prop
  | next : Leads next [] next []
  | key {key first rest index path} : key ≠ [] → Text.IsSplit '.' (first :: rest) key →
      Selects first rest index path → Leads next key index path

/-- `Transforms transformers v store transformer result after`: the value stays without a transformer, and
otherwise becomes what the transformer with this name makes of it, which must be registered. -/
inductive Transforms (transformers : Registry Transformer) (v : Value) (store : Store) :
    Option (List Char) → Except Error Value → Store → Prop
  | none : Transforms transformers v store none (.ok v) store
  | unknown {name} : String.ofList name ∉ transformers.names →
      Transforms transformers v store (some name) (.error (.unknownTransformer (String.ofList name)))
        store
  | applied {name f result after} : (String.ofList name, f) ∈ transformers.entries →
      (f v).run store = (result, after) → Transforms transformers v store (some name) result after

/-- `Evaluates transformers args progress store key transformer result after`: in `store`, a placeholder has
the value `result`, or it fails. A placeholder of another way than those before it fails before anything of it
is resolved. -/
inductive Evaluates (transformers : Registry Transformer) (args : List Value) (progress : Progress)
    (store : Store) (key : List Char) (transformer : Option (List Char)) :
    Except Error Value → Store → Prop
  | conflict : ¬ progress.mode.Allows (indexing key) →
      Evaluates transformers args progress store key transformer
        (.error (.indexingConflict progress.mode.name (indexing key).name)) store
  | value {index path v resolved result after} : progress.mode.Allows (indexing key) →
      Leads progress.next key index path → Resolves args index path store v resolved →
      Transforms transformers v resolved transformer result after →
      Evaluates transformers args progress store key transformer result after

/-! ## Paths -/

/-- The path of a placeholder: its key, or the number of the next argument. -/
def Progress.path (progress : Progress) (key : List Char) : List Char :=
  if key.isEmpty then numeral 10 progress.next else key

/-- The path of a placeholder selects what the placeholder stands for. -/
theorem Leads.selects {progress : Progress} {key : List Char} {index : Nat} {path : List (List Char)}
    (h : Leads progress.next key index path) :
    ∃ first rest, Text.splitOn '.' (progress.path key) = first :: rest ∧ Selects first rest index path := by
  cases h with
  | next =>
    obtain ⟨ds, hspells, hds⟩ := (ofNumeral?_eq_some_iff (by decide)).mp (ofNumeral?_numeral progress.next)
    have hsplit : Text.IsSplit '.' [numeral 10 progress.next] (numeral 10 progress.next) := {
      ne_nil := List.cons_ne_nil _ _
      not_mem := List.forall_mem_singleton.mpr fun hdot =>
        absurd (isDigit_of_mem_numeral hdot) (by decide)
      joined := List.intercalate_singleton }
    refine ⟨_, _, (Text.isSplit_iff.mp hsplit).symm, ?_⟩
    have hselects : Selects (numeral 10 progress.next) [] (ofDigits 10 ds) [] := .number hspells
    rwa [hds] at hselects
  | key hkey hsplit hselects =>
    refine ⟨_, _, ?_, hselects⟩
    rw [Progress.path, if_neg (by simpa using hkey), Text.isSplit_iff.mp hsplit]

theorem exists_leads (next : Nat) (key : List Char) : ∃ index path, Leads next key index path := by
  cases key with
  | nil => exact ⟨_, _, .next⟩
  | cons c key =>
    cases hsplit : Text.splitOn '.' (c :: key) with
    | nil => exact absurd hsplit (Text.splitOn_ne_nil '.' _)
    | cons first rest =>
      obtain ⟨index, path, hselects⟩ := exists_selects first rest
      exact ⟨index, path, .key (List.cons_ne_nil c key) (Text.isSplit_iff.mpr hsplit.symm) hselects⟩

/-! ## Transformers -/

/-- Applies the transformer of a placeholder, if it has one. -/
def transform (transformers : Registry Transformer) : Option (List Char) → Value → Action Value
  | none, v => pure v
  | some name, v =>
    match transformers.find? (String.ofList name) with
    | none => throw (.unknownTransformer (String.ofList name))
    | some f => f v

variable {transformers : Registry Transformer} {args : List Value} {progress : Progress}
  {key : List Char} {transformer : Option (List Char)} {store : Store}

theorem transforms_iff {v : Value} {result : Except Error Value} {after : Store} :
    Transforms transformers v store transformer result after ↔
      (transform transformers transformer v).run store = (result, after) := by
  constructor
  · intro h
    cases h with
    | none => rfl
    | unknown hname => rw [transform, Registry.find?_eq_none_iff.mpr hname, Action.run_throw]
    | applied hf hrun => rw [transform, Registry.find?_eq_some_iff.mpr hf, hrun]
  · intro h
    cases transformer with
    | none => cases h; exact .none
    | some name =>
      rw [transform] at h
      cases hfind : transformers.find? (String.ofList name) with
      | none =>
        rw [hfind] at h
        cases h
        exact .unknown (Registry.find?_eq_none_iff.mp hfind)
      | some f =>
        rw [hfind] at h
        exact .applied (Registry.find?_eq_some_iff.mp hfind) h

/-- The JSON text of a value changes nothing, and there always is one. -/
theorem run_jsonTransformer (v : Value) (store : Store) :
    ∃ w, (jsonTransformer v).run store = (.ok w, store) := by
  cases v <;> exact ⟨_, rfl⟩

theorem find?_builtinTransformers {name : String} {f : Transformer}
    (h : (Registry.ofList builtinTransformers).find? name = some f) : f = jsonTransformer := by
  have hentries : (Registry.ofList builtinTransformers).entries = builtinTransformers := rfl
  rw [Registry.find?, hentries, builtinTransformers, List.lookup_cons] at h
  split at h
  · exact (Option.some.inj h).symm
  · cases h

/-! ## Runs -/

theorem ofEmpty_isEmpty (key : List Char) : IndexingMode.ofEmpty key.isEmpty = indexing key := by
  cases key <;> rfl

theorem observe_of_allows {mode : IndexingMode} (h : mode.Allows (indexing key)) :
    mode.observe key.isEmpty = .ok (indexing key) := by
  rw [← ofEmpty_isEmpty] at h ⊢
  exact if_pos h

theorem observe_of_not_allows {mode : IndexingMode} (h : ¬ mode.Allows (indexing key)) :
    mode.observe key.isEmpty = .error (.indexingConflict mode.name (indexing key).name) := by
  rw [← ofEmpty_isEmpty] at h ⊢
  exact if_neg h

/-- A placeholder of the other way fails at once: nothing of it is resolved. -/
theorem run_evaluate_of_not_allows (h : ¬ progress.mode.Allows (indexing key)) :
    (evaluate transformers args progress key transformer).run store =
      (.error (.indexingConflict progress.mode.name (indexing key).name), store) := by
  rw [evaluate, observe_of_not_allows h]
  rfl

/-- A placeholder of an allowed way has the value that its transformer makes of that of its path. -/
theorem run_evaluate_of_allows (h : progress.mode.Allows (indexing key))
    {v : Value} {resolved : Store}
    (hresolve : (resolve (progress.path key) args).run store = (v, resolved)) :
    (evaluate transformers args progress key transformer).run store =
      ((fun w => (w, progress.advance key)) <$> transform transformers transformer v).run resolved := by
  rw [evaluate, observe_of_allows h]
  have hrun := Action.run_lift hresolve
  rw [Progress.path] at hrun
  simp only [Action.ofExcept_ok, pure_bind]
  rw [Action.run_bind_ok hrun]
  cases transformer with
  | none => rfl
  | some name =>
    simp only [transform]
    cases transformers.find? (String.ofList name) with
    | none => rfl
    | some f => rw [map_eq_pure_bind]; rfl

/-- What a placeholder comes to by the rules is what `evaluate` gives, with the progress behind it. -/
theorem Evaluates.run_evaluate {result : Except Error Value} {after : Store}
    (h : Evaluates transformers args progress store key transformer result after) :
    (evaluate transformers args progress key transformer).run store =
      (result.map fun v => (v, progress.advance key), after) := by
  cases h with
  | conflict hallows => exact run_evaluate_of_not_allows hallows
  | value hallows hleads hresolves htransforms =>
    obtain ⟨first, rest, hsplit, hselects⟩ := hleads.selects
    rw [run_evaluate_of_allows hallows (hresolves.run_resolve hsplit hselects), Action.run_map,
      transforms_iff.mp htransforms]

/-- Every placeholder has a value or fails. -/
theorem exists_evaluates (transformers : Registry Transformer) (args : List Value) (progress : Progress)
    (store : Store) (key : List Char) (transformer : Option (List Char)) :
    ∃ result after, Evaluates transformers args progress store key transformer result after := by
  by_cases hallows : progress.mode.Allows (indexing key)
  · obtain ⟨index, path, hleads⟩ := exists_leads progress.next key
    obtain ⟨v, resolved, hresolves⟩ := exists_resolves args index path store
    exact ⟨_, _, .value hallows hleads hresolves (transforms_iff.mpr rfl)⟩
  · exact ⟨_, _, .conflict hallows⟩

end Stencil.Brace
