import Mathlib.Data.List.Basic
import Stencil.Proofs.Brace.Evaluation
import Stencil.Proofs.Brace.Grammar

/-!
# One way of indexing in a template

The first placeholder of a template decides how all of them choose their arguments.

* `indexings`: the ways of the placeholders of a template.
* `TransformerFails`: the transformer of a placeholder is the first thing that fails.
* `Shown.mode_eq`: the mode is the way of the last placeholder that has been shown.
* `Renders.transformerFails`: with one way only, nothing but a transformer fails.
* `format_indexing`: templates with two ways of indexing, and with one.
* `format_indexing_foreign`: a transformer that fails with the conflict itself.
-/

namespace Stencil.Brace

/-- The ways in which placeholders choose their arguments. -/
def indexings (parts : List Part) : List IndexingMode := parts.filterMap Part.indexing?

/-- `TransformerFails transformers args store parts e after`: the parts are shown up to a placeholder
whose path is resolved, but whose transformer is not registered or fails on the value. -/
inductive TransformerFails (transformers : Registry Transformer) (args : List Value)
    (store : Store) : List Part → Error → Store → Prop
  | intro {front texts progress shown key index path name v resolved e after back} :
      Shown transformers args .start store front texts progress shown →
      progress.mode.Allows (indexing key) → Leads progress.next key index path →
      Resolves args index path shown v resolved →
      Transforms transformers v resolved (some name) (.error e) after →
      TransformerFails transformers args store (front ++ .placeholder key (some name) :: back) e
        after

variable {transformers : Registry Transformer} {args : List Value}

@[simp] theorem indexings_nil : indexings [] = [] := rfl

@[simp] theorem indexings_text (cs : List Char) (parts : List Part) :
    indexings (.text cs :: parts) = indexings parts := rfl

@[simp] theorem indexings_placeholder (key : List Char) (transformer : Option (List Char))
    (parts : List Part) :
    indexings (.placeholder key transformer :: parts) =
      indexing key :: indexings parts := rfl

@[simp] theorem indexings_append (front back : List Part) :
    indexings (front ++ back) = indexings front ++ indexings back := List.filterMap_append

/-- Every placeholder is implicit or explicit. -/
theorem ne_undefined_of_mem_indexings {parts : List Part} {mode : IndexingMode}
    (h : mode ∈ indexings parts) : mode ≠ .undefined := by
  obtain ⟨part, -, hpart⟩ := List.mem_filterMap.mp h
  cases part with
  | text cs => cases hpart
  | placeholder key transformer =>
    obtain rfl := Option.some.inj hpart
    cases key <;> exact fun h => IndexingMode.noConfusion h

/-- The mode is the way of the last placeholder that has been shown. -/
theorem Shown.mode_eq {progress progress' : Progress} {store store' : Store} {parts : List Part}
    {texts : List (List Char)}
    (h : Shown transformers args progress store parts texts progress' store') :
    progress'.mode = (indexings parts).getLastD progress.mode := by
  induction h with
  | nil => rfl
  | text _ ih => exact ih
  | placeholder _ _ ih =>
    rw [ih, indexings_placeholder, List.getLastD_cons]
    rfl

/-- After placeholders of one way the mode is that way, or there are none. -/
theorem Shown.mode_eq_or {progress : Progress} {store store' : Store} {parts : List Part}
    {texts : List (List Char)} {mode : IndexingMode}
    (h : Shown transformers args .start store parts texts progress store')
    (hmode : ∀ other ∈ indexings parts, other = mode) :
    indexings parts = [] ∧ progress.mode = .undefined ∨ progress.mode = mode := by
  rw [h.mode_eq]
  rcases List.eq_nil_or_concat' (indexings parts) with hnil | ⟨earlier, last, hlast⟩
  · rw [hnil]
    exact .inl ⟨rfl, rfl⟩
  · rw [hlast, List.getLastD_concat]
    exact .inr (hmode last (by rw [hlast]; simp))

/-- With one way of indexing, nothing but a transformer fails. -/
theorem Renders.transformerFails {store after : Store} {parts : List Part} {e : Error}
    {mode : IndexingMode} (h : Renders transformers args store parts (.error e) after)
    (hmode : ∀ other ∈ indexings parts, other = mode) :
    TransformerFails transformers args store parts e after := by
  cases h with
  | @failed front texts progress shown key transformer _ _ back hshown hfail =>
    rw [indexings_append, indexings_placeholder] at hmode
    have hcurrent := hshown.mode_eq_or fun other ho => hmode other (List.mem_append_left _ ho)
    have hallows : progress.mode.Allows (indexing key) := by
      rw [hmode (indexing key) (by simp)]
      exact hcurrent.imp_left And.right
    cases hfail with
    | conflict hconflict => exact absurd hallows hconflict
    | value _ hleads hresolves htransforms =>
      -- Without a transformer there is a value.
      cases transformer with
      | none => cases htransforms
      | some name => exact .intro hshown hallows hleads hresolves htransforms

/-- A transformer that fails ends the rendering, whatever follows. -/
theorem TransformerFails.renders {store after : Store} {front : List Part} {e : Error}
    (h : TransformerFails transformers args store front e after) (back : List Part) :
    Renders transformers args store (front ++ back) (.error e) after := by
  cases h with
  | intro hshown hallows hleads hresolves htransforms =>
    rw [List.append_assoc, List.cons_append]
    exact .failed hshown (.value hallows hleads hresolves htransforms)

/-- At the first placeholder of the other way the rendering ends: with the conflict, unless a
transformer has failed before. -/
theorem renders_switch (transformers : Registry Transformer) (args : List Value) {front : List Part}
    {key : List Char} (transformer : Option (List Char)) (back : List Part) {mode : IndexingMode}
    (hmem : mode ∈ indexings front) (hmode : ∀ other ∈ indexings front, other = mode)
    (hswitch : indexing key ≠ mode) (store : Store) :
    (∃ texts progress shown, Shown transformers args .start store front texts progress shown ∧
      Renders transformers args store (front ++ .placeholder key transformer :: back)
        (.error (.indexingConflict mode.name (indexing key).name)) shown) ∨
    ∃ e after, TransformerFails transformers args store front e after ∧
      Renders transformers args store (front ++ .placeholder key transformer :: back) (.error e)
        after := by
  obtain ⟨result, after, h⟩ := exists_renders transformers args front store
  cases result with
  | error e =>
    have hfails := h.transformerFails hmode
    exact .inr ⟨e, after, hfails, hfails.renders _⟩
  | ok texts =>
    cases h with
    | @shown _ _ progress _ hshown =>
      -- There is a placeholder before, so the mode is its way.
      have hcurrent : progress.mode = mode := (hshown.mode_eq_or hmode).resolve_left
        fun hnil => List.ne_nil_of_mem hmem hnil.1
      have hallows : ¬ progress.mode.Allows (indexing key) := by
        rw [hcurrent]
        rintro (hundefined | hsame)
        · exact ne_undefined_of_mem_indexings hmem hundefined
        · exact hswitch hsame.symm
      have hconflict : Evaluates transformers args progress after key transformer
          (.error (.indexingConflict progress.mode.name (indexing key).name)) after := .conflict hallows
      rw [hcurrent] at hconflict
      exact .inl ⟨texts, progress, after, hshown, .failed hshown hconflict⟩

/-- A placeholder of another way than `mode` has a first one of the kind. -/
theorem exists_other {parts : List Part} {mode other : IndexingMode} (hmem : other ∈ indexings parts)
    (hne : other ≠ mode) :
    ∃ front key transformer back, parts = front ++ .placeholder key transformer :: back ∧
      (∀ other ∈ indexings front, other = mode) ∧ indexing key ≠ mode := by
  induction parts with
  | nil => cases hmem
  | cons part parts ih =>
    cases part with
    | text cs =>
      obtain ⟨front, key, transformer, back, rfl, hfront, hkey⟩ := ih hmem
      exact ⟨.text cs :: front, key, transformer, back, rfl, hfront, hkey⟩
    | placeholder key transformer =>
      by_cases hmode : indexing key = mode
      · have hmem : other ∈ indexings parts :=
          (List.mem_cons.mp hmem).resolve_left fun h => hne (h.trans hmode)
        obtain ⟨front, key', transformer', back, rfl, hfront, hkey⟩ := ih hmem
        refine ⟨.placeholder key transformer :: front, key', transformer', back, rfl, ?_, hkey⟩
        rw [indexings_placeholder, List.forall_mem_cons]
        exact ⟨hmode, hfront⟩
      · exact ⟨[], key, transformer, parts, rfl, by simp, hmode⟩

/-- With two ways of indexing there is a first placeholder of the other way than those before. -/
theorem exists_switch {parts : List Part} (himplicit : .implicit ∈ indexings parts)
    (hexplicit : .explicit ∈ indexings parts) :
    ∃ front key transformer back mode, parts = front ++ .placeholder key transformer :: back ∧
      mode ∈ indexings front ∧ (∀ other ∈ indexings front, other = mode) ∧
      indexing key ≠ mode := by
  obtain ⟨mode, rest, hfirst⟩ := List.exists_cons_of_ne_nil (List.ne_nil_of_mem himplicit)
  have hother : ∃ other ∈ indexings parts, other ≠ mode := by
    by_cases hmode : mode = .implicit
    · exact ⟨.explicit, hexplicit, by rw [hmode]; decide⟩
    · exact ⟨.implicit, himplicit, Ne.symm hmode⟩
  obtain ⟨other, hmem, hne⟩ := hother
  obtain ⟨front, key, transformer, back, rfl, hfront, hkey⟩ := exists_other hmem hne
  refine ⟨front, key, transformer, back, mode, rfl, ?_, hfront, hkey⟩
  -- The first way is that of a placeholder of `front`, for the next one has another.
  rw [indexings_append, indexings_placeholder] at hfirst
  cases hways : indexings front with
  | nil =>
    rw [hways] at hfirst
    exact absurd (List.cons.inj hfirst).1 hkey
  | cons first ways =>
    rw [hways] at hfirst
    rw [← (List.cons.inj hfirst).1]
    exact List.mem_cons_self

/-- A transformer that fails is not registered, or fails itself. -/
theorem TransformerFails.cause {store after : Store} {parts : List Part} {e : Error}
    (h : TransformerFails transformers args store parts e after) :
    (∃ name, transformers.find? name = none ∧ e = .unknownTransformer name) ∨
    ∃ name f v resolved, transformers.find? name = some f ∧
      (f v).run resolved = (.error e, after) := by
  cases h with
  | intro _ _ _ _ htransforms =>
    cases htransforms with
    | unknown hname => exact .inl ⟨_, Registry.find?_eq_none_iff.mpr hname, rfl⟩
    | applied hf hrun => exact .inr ⟨_, _, _, _, Registry.find?_eq_some_iff.mpr hf, hrun⟩

/-- **Indexing.** A template with placeholders of both ways fails. Up to the first placeholder of the
other way than the first one either a transformer fails, which is the failure of the template; or all is
shown, and then it is the conflict between the two ways, with the store as those before have left it, so
that nothing of that placeholder has been resolved.

A template with placeholders of one way fails in a transformer only: with the conflict never, unless a
transformer brings it along. -/
theorem format_indexing (transformers : Registry Transformer) (template : String)
    (args : List Value) (store : Store) :
    let parts := (Token.scan template.toList).map Token.part
    let run := (format transformers template args).run store
    (.implicit ∈ indexings parts → .explicit ∈ indexings parts →
      ∃ front key transformer back mode, parts = front ++ .placeholder key transformer :: back ∧
        mode ∈ indexings front ∧ (∀ other ∈ indexings front, other = mode) ∧
        indexing key ≠ mode ∧
        ((∃ texts progress shown,
            Shown transformers args .start store front texts progress shown ∧
            run = (.error (.indexingConflict mode.name (indexing key).name),
              shown)) ∨
          ∃ e after, TransformerFails transformers args store front e after ∧
            run = (.error e, after))) ∧
    ∀ mode, (∀ other ∈ indexings parts, other = mode) →
      (∀ e after, run = (.error e, after) →
        TransformerFails transformers args store parts e after) ∧
      ((∀ name f, transformers.find? name = some f → ∀ v store current next,
          ((f v).run store).1 ≠ .error (.indexingConflict current next)) →
        ∀ current next, run.1 ≠ .error (.indexingConflict current next)) := by
  intro parts run
  have hrun : ∀ {e after}, Renders transformers args store parts (.error e) after →
      run = (.error e, after) := fun h => run_format rfl h
  refine ⟨fun himplicit hexplicit => ?_, fun mode hmode => ?_⟩
  · obtain ⟨front, key, transformer, back, mode, hparts, hmem, hfront, hswitch⟩ :=
      exists_switch himplicit hexplicit
    refine ⟨front, key, transformer, back, mode, hparts, hmem, hfront, hswitch, ?_⟩
    rcases renders_switch transformers args transformer back hmem hfront hswitch store with
      ⟨texts, progress, shown, hshown, h⟩ | ⟨e, after, hfails, h⟩
    · exact .inl ⟨texts, progress, shown, hshown, hrun (hparts ▸ h)⟩
    · exact .inr ⟨e, after, hfails, hrun (hparts ▸ h)⟩
  · have hfails : ∀ e after, run = (.error e, after) →
        TransformerFails transformers args store parts e after := by
      intro e after h
      obtain ⟨result, after', hrenders⟩ := exists_renders transformers args parts store
      have hresult := (run_format rfl hrenders).symm.trans h
      cases result with
      | ok texts => cases (Prod.mk.inj hresult).1
      | error e' =>
        cases hresult
        exact hrenders.transformerFails hmode
    refine ⟨hfails, fun hown current next h => ?_⟩
    -- A conflict would be the error of a transformer, which a name that is not registered does not give.
    rcases (hfails _ run.2 (Prod.ext h rfl)).cause with
      ⟨name, -, he⟩ | ⟨name, f, v, resolved, hfind, hf⟩
    · cases he
    · exact hown name f hfind v resolved current next (by rw [hf])

/-- Doubled braces around a number are no explicit placeholder. Behind an explicit placeholder they
keep no implicit one from failing, and the element that the first one has removed stays removed. -/
theorem format_indexing_escapes :
    let transformers : Registry Transformer := .ofList builtinTransformers
    let template := "\x7b|json\x7d\x7b\x7b0\x7d\x7d\x7b\x7d"
    (∀ other ∈ indexings ((Token.scan template.toList).map Token.part), other = .implicit) ∧
      (∀ name f, transformers.find? name = some f → ∀ v store current next,
        ((f v).run store).1 ≠ .error (.indexingConflict current next)) ∧
      ((format transformers template [.null]).run .empty).1 ≠
        .error (.indexingConflict "implicit" "explicit") ∧
      (format transformers "\x7b0.pop\x7d\x7b\x7b\x7b\x7d" [.sequence ⟨0⟩]).run ⟨⟨#[[.null]]⟩, #[]⟩ =
        (.error (.indexingConflict "explicit" "implicit"), ⟨⟨#[[]]⟩, #[]⟩) := by
  intro transformers template
  have hmode : ∀ other ∈ indexings ((Token.scan template.toList).map Token.part),
      other = .implicit := by decide +kernel
  have hown : ∀ name f, transformers.find? name = some f → ∀ v store current next,
      ((f v).run store).1 ≠ .error (.indexingConflict current next) := by
    intro name f hfind v store current next h
    obtain rfl := find?_builtinTransformers hfind
    obtain ⟨w, hw⟩ := run_jsonTransformer v store
    rw [hw] at h
    cases h
  have hscan : Token.scan "\x7b0.pop\x7d\x7b\x7b\x7b\x7d".toList =
      [.placeholder ['0', '.', 'p', 'o', 'p'] none, .brace '\x7b', .placeholder [] none] := by
    decide +kernel
  refine ⟨hmode, hown, ?_, ?_⟩
  · exact ((format_indexing transformers template [.null] .empty).2 .implicit hmode).2 hown _ _
  · rw [format, hscan]
    rfl

/-- A transformer of the user can fail with the conflict as well, and then it is the error of a template with
explicit placeholders only. A name that is not registered ends a template before the placeholder of the other
way is reached, although no transformer has been applied. -/
theorem format_indexing_foreign :
    let transformers : Registry Transformer :=
      .ofList [("bad", fun _ => throw (.indexingConflict "explicit" "implicit"))]
    (∀ other ∈ indexings ((Token.scan "\x7b0|bad\x7d".toList).map Token.part), other = .explicit) ∧
      (format transformers "\x7b0|bad\x7d" [.null]).run .empty =
        (.error (.indexingConflict "explicit" "implicit"), .empty) ∧
      indexings ((Token.scan "\x7b|nope\x7d\x7b0\x7d".toList).map Token.part) = [.implicit, .explicit] ∧
      transformers.find? "nope" = none ∧
      (format transformers "\x7b|nope\x7d\x7b0\x7d" [.null]).run .empty =
        (.error (.unknownTransformer "nope"), .empty) := by
  intro transformers
  have hbad : Token.scan "\x7b0|bad\x7d".toList = [.placeholder ['0'] (some ['b', 'a', 'd'])] := by
    decide +kernel
  have hnope : Token.scan "\x7b|nope\x7d\x7b0\x7d".toList =
      [.placeholder [] (some ['n', 'o', 'p', 'e']), .placeholder ['0'] none] := by
    decide +kernel
  refine ⟨?_, ?_, ?_, rfl, ?_⟩
  · rw [hbad]
    decide
  · rw [format, hbad]
    rfl
  · rw [hnope]
    rfl
  · have hinvokes : Invokes .null .empty .null .empty := .value fun _ h => by cases h
    exact run_format hnope (.failed .nil
      (.value (.inl rfl) .next (.walked rfl (by decide) hinvokes .done) (.unknown (by decide))))

end Stencil.Brace
