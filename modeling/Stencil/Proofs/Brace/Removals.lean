import Stencil.Proofs.Brace.Evaluation
import Stencil.Proofs.Brace.Grammar
import Stencil.Proofs.Brace.Resolution

/-!
# What brace templates remove from sequences

The paths of a template can remove elements from sequences that other arguments, and the caller, share.

* `walkSteps`, `resolveSteps`, `renderPaths`, `formatPaths`: the steps that a path, a placeholder and a
  template take, in the order in which they take them.
* `walk_linked`, `render_linked`: nothing else changes a sequence.
* `walkSteps_last`: no step follows one that finds nothing.
* `format_removals`: every element of a sequence is removed once at most, from the end that it is at.
-/

namespace Stencil.Brace

/-- The steps of a walk: it looks up one member after the other, until one is missing. -/
def walkSteps : Value → List (List Char) → Store → List Step
  | _, [], _ => []
  | v, segment :: rest, store =>
    Step.of v (String.ofList segment) store ::
      match (v.member? (String.ofList segment)).run store with
      | (some next, after) => walkSteps next rest after
      | (none, _) => []

/-- The steps of a path. -/
def resolveSteps (key : List Char) (args : List Value) (store : Store) : List Step :=
  match (splitPath key).1.bind (args[·]?) with
  | none => []
  | some arg =>
    let run := arg.invoked.run store
    walkSteps run.1 (splitPath key).2 run.2

/-- The steps of the paths that rendering tokens resolves, path by path. -/
def renderPaths (transformers : Registry Transformer) (args : List Value) :
    Progress → List Token → Store → List (List Step)
  | _, [], _ => []
  | progress, .literal _ :: rest, store => renderPaths transformers args progress rest store
  | progress, .brace _ :: rest, store => renderPaths transformers args progress rest store
  | progress, .placeholder key transformer :: rest, store =>
    match progress.mode.observe key.isEmpty with
    | .error _ => []
    | .ok _ =>
      resolveSteps (progress.path key) args store ::
        match (evaluate transformers args progress key transformer).run store with
        | (.ok (_, progress), after) => renderPaths transformers args progress rest after
        | (.error _, _) => []

/-- The steps of the paths of a template, path by path. -/
def formatPaths (transformers : Registry Transformer) (template : String) (args : List Value)
    (store : Store) : List (List Step) :=
  renderPaths transformers args .start (Token.scan template.toList) store

/-! ## One path -/

/-- Behind the look-up of a member its call changes no sequence. -/
theorem member?_keeps {store : Store} (hquiet : store.Quiet) (v : Value) (name : String) :
    (Step.of v name store).after.Keeps ((v.member? name).run store).2.heap ∧
      ((v.member? name).run store).2.Quiet := by
  rcases hrun : (v.heldMember? name).run store with ⟨found, after⟩
  have hcallables := v.callables_heldMember? name store
  have hafter : after.Quiet := by
    rw [hrun] at hcallables
    rw [Store.Quiet, hcallables]
    exact hquiet
  rw [run_member?, Step.of, hrun]
  cases found with
  | none => exact ⟨.refl _, hafter⟩
  | some found => exact ⟨(hafter.invoked found).heap, (hafter.invoked found).quiet⟩

/-- Walking takes its steps, and changes no sequence otherwise. -/
theorem walk_linked {store : Store} (hquiet : store.Quiet) (v : Value)
    (segments : List (List Char)) :
    Linked store.heap (walkSteps v segments store) ((walk v segments).run store).2.heap ∧
      ((walk v segments).run store).2.Quiet := by
  induction segments generalizing v store with
  | nil => exact ⟨.refl _, hquiet⟩
  | cons segment rest ih =>
    obtain ⟨hkeeps, hafter⟩ := member?_keeps hquiet v (String.ofList segment)
    rw [walk, StateT.run_bind, walkSteps]
    rcases hrun : (v.member? (String.ofList segment)).run store with ⟨_ | next, after⟩
    · rw [hrun] at hkeeps hafter
      exact ⟨⟨.refl _, hkeeps⟩, hafter⟩
    · rw [hrun] at hkeeps hafter
      obtain ⟨hlinked, hquiet⟩ := ih hafter next
      exact ⟨⟨.refl _, hlinked.of_keeps hkeeps⟩, hquiet⟩

/-- A path is left at the first member that is missing. -/
theorem walkSteps_last {v : Value} {segments : List (List Char)} {store : Store}
    {earlier later : List Step} {s : Step}
    (hsteps : walkSteps v segments store = earlier ++ s :: later) (hfound : s.found = none) :
    later = [] := by
  induction segments generalizing v store earlier with
  | nil => simp [walkSteps] at hsteps
  | cons segment rest ih =>
    rw [walkSteps] at hsteps
    rcases List.cons_eq_append_iff.mp hsteps with ⟨rfl, hs⟩ | ⟨earlier, rfl, htail⟩
    · obtain ⟨rfl, rfl⟩ := List.cons.inj hs
      have hheld : ((v.heldMember? (String.ofList segment)).run store).1 = none := hfound
      rw [run_member?]
      rcases hrun : (v.heldMember? (String.ofList segment)).run store with ⟨_ | found, after⟩
      · rfl
      · rw [hrun] at hheld
        cases hheld
    · split at htail
      · exact ih htail
      · simp at htail

theorem walkSteps_sound {v : Value} {segments : List (List Char)} {store : Store} :
    ∀ s ∈ walkSteps v segments store, s.Sound := by
  induction segments generalizing v store with
  | nil => simp [walkSteps]
  | cons segment rest ih =>
    rw [walkSteps, List.forall_mem_cons]
    refine ⟨Step.sound_of .., ?_⟩
    split
    · exact ih
    · simp

theorem resolveSteps_of_none {key : List Char} {args : List Value}
    (h : (splitPath key).1.bind (args[·]?) = none) (store : Store) :
    resolveSteps key args store = [] := by
  rw [resolveSteps, h]

theorem resolveSteps_of_some {key : List Char} {args : List Value} {arg v : Value}
    {store called : Store} (h : (splitPath key).1.bind (args[·]?) = some arg)
    (hcall : arg.invoked.run store = (v, called)) :
    resolveSteps key args store = walkSteps v (splitPath key).2 called := by
  rw [resolveSteps, h]
  simp only [hcall]

/-- Resolving a path takes its steps, and changes no sequence otherwise. -/
theorem resolve_linked {store : Store} (hquiet : store.Quiet) (key : List Char)
    (args : List Value) :
    Linked store.heap (resolveSteps key args store) ((resolve key args).run store).2.heap ∧
      ((resolve key args).run store).2.Quiet := by
  cases harg : (splitPath key).1.bind (args[·]?) with
  | none =>
    rw [resolveSteps_of_none harg, run_resolve_of_none harg]
    exact ⟨.refl _, hquiet⟩
  | some arg =>
    rcases hcall : arg.invoked.run store with ⟨v, called⟩
    have hkeeps := hquiet.invoked arg
    rw [hcall] at hkeeps
    obtain ⟨hlinked, hafter⟩ := walk_linked hkeeps.quiet v (splitPath key).2
    rw [resolveSteps_of_some harg hcall, run_resolve_of_some harg hcall]
    exact ⟨hlinked.of_keeps hkeeps.heap, hafter⟩

/-- A path is a walk from some value in some store, if an argument is there at all. -/
theorem resolveSteps_eq (key : List Char) (args : List Value) (store : Store) :
    ∃ v segments after, resolveSteps key args store = walkSteps v segments after := by
  cases harg : (splitPath key).1.bind (args[·]?) with
  | none => exact ⟨.null, [], store, resolveSteps_of_none harg store⟩
  | some arg => exact ⟨_, _, _, resolveSteps_of_some harg rfl⟩

/-! ## All paths of a template -/

variable {transformers : Registry Transformer} {args : List Value}

theorem transform_keeps (hquiet : ∀ name f, transformers.find? name = some f → f.Quiet)
    {store : Store} (hstore : store.Quiet) (transformer : Option (List Char)) (v : Value) :
    store.Keeps ((transform transformers transformer v).run store).2 := by
  cases transformer with
  | none => exact hstore.keeps
  | some name =>
    rw [transform]
    cases hfind : transformers.find? (String.ofList name) with
    | none => exact hstore.keeps
    | some f => exact hquiet _ f hfind v store hstore

/-- Evaluating a placeholder of an allowed way takes the steps of its path. -/
theorem evaluate_linked (args : List Value)
    (hquiet : ∀ name f, transformers.find? name = some f → f.Quiet) {progress : Progress}
    {key : List Char} (hallows : progress.mode.Allows (indexing key)) {store : Store}
    (hstore : store.Quiet) (transformer : Option (List Char)) :
    Linked store.heap (resolveSteps (progress.path key) args store)
        ((evaluate transformers args progress key transformer).run store).2.heap ∧
      ((evaluate transformers args progress key transformer).run store).2.Quiet := by
  obtain ⟨hlinked, hresolved⟩ := resolve_linked hstore (progress.path key) args
  rcases hresolve : (resolve (progress.path key) args).run store with ⟨v, resolved⟩
  rw [hresolve] at hlinked hresolved
  have hkeeps := transform_keeps hquiet hresolved transformer v
  rw [run_evaluate_of_allows hallows hresolve, Action.run_map]
  refine ⟨?_, hkeeps.quiet⟩
  rw [← List.append_nil (resolveSteps _ _ _)]
  exact hlinked.append hkeeps.heap

theorem renderPaths_of_not_allows {progress : Progress} {key : List Char}
    (h : ¬ progress.mode.Allows (indexing key)) (transformer : Option (List Char))
    (rest : List Token) (store : Store) :
    renderPaths transformers args progress (.placeholder key transformer :: rest) store = [] := by
  rw [renderPaths, observe_of_not_allows h]

theorem renderPaths_of_allows {progress : Progress} {key : List Char}
    (h : progress.mode.Allows (indexing key)) (transformer : Option (List Char))
    (rest : List Token) (store : Store) :
    renderPaths transformers args progress (.placeholder key transformer :: rest) store =
      resolveSteps (progress.path key) args store ::
        match (evaluate transformers args progress key transformer).run store with
        | (.ok (_, progress), after) => renderPaths transformers args progress rest after
        | (.error _, _) => [] := by
  rw [renderPaths, observe_of_allows h]

/-- Rendering takes the steps of its paths, and changes no sequence otherwise, also where it fails. -/
theorem render_linked (hquiet : ∀ name f, transformers.find? name = some f → f.Quiet)
    (progress : Progress) (tokens : List Token) {store : Store} (hstore : store.Quiet) :
    Linked store.heap (renderPaths transformers args progress tokens store).flatten
      ((render transformers args progress tokens).run store).2.heap := by
  induction tokens generalizing progress store with
  | nil => exact .refl _
  | cons token tokens ih =>
    cases token with
    | literal c =>
      rw [render_text rfl, Action.run_map]
      exact ih progress hstore
    | brace c =>
      rw [render_text rfl, Action.run_map]
      exact ih progress hstore
    | placeholder key transformer =>
      -- A placeholder of the other way takes no step, and nothing behind it is reached.
      by_cases hallows : progress.mode.Allows (indexing key)
      · obtain ⟨hlinked, hafter⟩ := evaluate_linked args hquiet hallows hstore transformer
        rw [renderPaths_of_allows hallows, List.flatten_cons]
        rcases heval : (evaluate transformers args progress key transformer).run store with
          ⟨e | ⟨v, progress'⟩, after⟩
        · rw [heval] at hlinked
          rw [render, Action.run_bind_error heval, List.flatten_nil, List.append_nil]
          exact hlinked
        · rw [heval] at hlinked hafter
          rw [run_render_placeholder rfl heval, Action.run_map]
          exact hlinked.append (ih progress' hafter)
      · rw [renderPaths_of_not_allows hallows, render,
          Action.run_bind_error (run_evaluate_of_not_allows hallows)]
        exact .refl _

/-- Every path of a template is a walk. -/
theorem mem_renderPaths {progress : Progress} {tokens : List Token} {store : Store}
    {path : List Step} (h : path ∈ renderPaths transformers args progress tokens store) :
    ∃ v segments after, path = walkSteps v segments after := by
  induction tokens generalizing progress store with
  | nil => cases h
  | cons token tokens ih =>
    cases token with
    | literal c => exact ih h
    | brace c => exact ih h
    | placeholder key transformer =>
      by_cases hallows : progress.mode.Allows (indexing key)
      · rw [renderPaths_of_allows hallows] at h
        rcases List.mem_cons.mp h with rfl | h
        · exact resolveSteps_eq ..
        · split at h
          · exact ih h
          · cases h
      · rw [renderPaths_of_not_allows hallows] at h
        cases h

/-- Formatting leaves the store that rendering its tokens leaves. -/
theorem run_format_store (template : String) (store : Store) :
    ((format transformers template args).run store).2 =
      ((render transformers args .start (Token.scan template.toList)).run store).2 := by
  obtain ⟨result, after, h⟩ := exists_renders transformers args
    ((Token.scan template.toList).map Token.part) store
  rw [run_format rfl h, h.run_render]

/-- **Removals.** Let callables and transformers change no sequence themselves. Then a call, whether it
fails or not, changes sequences in the steps of its paths only.

Before the call a sequence holds, in this order, what `shift` has given of it, what it holds after the
call, and what `pop` has given of it, the last of it first. The same is true from each step on, so that it
holds of sequences that have come up during the call as well. From an empty sequence the two give
`undefined` and remove nothing, no other step changes anything, and a path ends where a member is missing:
what it has removed until then stays removed. -/
theorem format_removals (transformers : Registry Transformer) (template : String)
    (args : List Value) (store : Store)
    (hquiet : ∀ name f, transformers.find? name = some f → Transformer.Quiet f)
    (hstore : store.Quiet) :
    let paths := formatPaths transformers template args store
    let after := ((format transformers template args).run store).2.heap
    Linked store.heap paths.flatten after ∧
    (∀ id, id.index < store.heap.size →
      store.heap.elements id = paths.flatten.filterMap (Step.shifted? id) ++ after.elements id ++
        (paths.flatten.filterMap (Step.popped? id)).reverse) ∧
    (∀ earlier s later, paths.flatten = earlier ++ s :: later →
      ∀ id, id.index < s.before.size →
        s.before.elements id = (s :: later).filterMap (Step.shifted? id) ++ after.elements id ++
          ((s :: later).filterMap (Step.popped? id)).reverse) ∧
    (∀ s ∈ paths.flatten,
      (∀ id, s.Removes id → s.before.elements id = [] →
        s.found = some .undefined ∧ s.after = s.before) ∧
      ((∀ id, ¬ s.Removes id) → s.after = s.before)) ∧
    ∀ path ∈ paths, ∀ earlier s later, path = earlier ++ s :: later → s.found = none →
      later = [] := by
  intro paths after
  -- All else follows from two facts: the heaps of the steps hang together, and each step is sound.
  have hlinked : Linked store.heap paths.flatten after := by
    show Linked _ _ ((format transformers template args).run store).2.heap
    rw [run_format_store]
    exact render_linked hquiet .start _ hstore
  have hsound : ∀ s ∈ paths.flatten, s.Sound := by
    intro s hs
    obtain ⟨path, hpath, hs⟩ := List.mem_flatten.mp hs
    obtain ⟨v, segments, store', rfl⟩ := mem_renderPaths hpath
    exact walkSteps_sound s hs
  refine ⟨hlinked, fun id hid => hlinked.elements_eq hsound hid, fun earlier s later hsteps id hid => ?_,
    fun s hs => ⟨(hsound s hs).empty, (hsound s hs).same⟩,
    fun path hpath earlier s later hsteps => ?_⟩
  · rw [hsteps] at hlinked hsound
    exact hlinked.from_step.elements_eq (fun s h => hsound s (List.mem_append_right _ h)) hid
  · obtain ⟨v, segments, store', rfl⟩ := mem_renderPaths hpath
    exact walkSteps_last hsteps

/-- Two arguments share a sequence, which a template empties from both ends, also on a path that leads
nowhere. -/
theorem format_removals_shared :
    let transformers : Registry Transformer := .ofList builtinTransformers
    let template := "\x7b0.pop\x7d\x7b1.xs.shift\x7d\x7b1.pop\x7d\x7b0.pop.nope\x7d\x7b0.pop|json\x7d"
    let args := [.sequence ⟨0⟩, .keyed [("pop", .callable ⟨0⟩), ("xs", .sequence ⟨0⟩)]]
    let items : List Value := [.integer 1, .integer 2, .integer 3]
    let store : Store := ⟨⟨#[items]⟩, #[.counter 5]⟩
    let steps := (formatPaths transformers template args store).flatten
    (∀ name f, transformers.find? name = some f → Transformer.Quiet f) ∧ store.Quiet ∧
      steps.filterMap (Step.shifted? ⟨0⟩) = [.integer 1] ∧
      steps.filterMap (Step.popped? ⟨0⟩) = [.integer 3, .integer 2] ∧
      items = [.integer 1] ++
        ((format transformers template args).run store).2.heap.elements ⟨0⟩ ++
          [.integer 2, .integer 3] := by
  intro transformers template args items store steps
  have hquiet : ∀ name f, transformers.find? name = some f → Transformer.Quiet f := by
    intro name f hfind v store hstore
    obtain rfl := find?_builtinTransformers hfind
    obtain ⟨w, hrun⟩ := run_jsonTransformer v store
    rw [hrun]
    exact hstore.keeps
  have hstore : store.Quiet := by
    intro f hf n heap
    obtain rfl : f = .counter 5 := by simpa [store] using hf
    exact .refl heap
  have hscan : Token.scan template.toList =
      [.placeholder "0.pop".toList none, .placeholder "1.xs.shift".toList none,
        .placeholder "1.pop".toList none, .placeholder "0.pop.nope".toList none,
        .placeholder "0.pop".toList (some "json".toList)] := by decide +kernel
  have hshifted : steps.filterMap (Step.shifted? ⟨0⟩) = [.integer 1] := by
    show (formatPaths transformers template args store).flatten.filterMap _ = _
    rw [formatPaths, hscan]
    rfl
  have hpopped : steps.filterMap (Step.popped? ⟨0⟩) = [.integer 3, .integer 2] := by
    show (formatPaths transformers template args store).flatten.filterMap _ = _
    rw [formatPaths, hscan]
    rfl
  have hitems := (format_removals transformers template args store hquiet hstore).2.1 ⟨0⟩ (by decide)
  rw [hshifted, hpopped] at hitems
  exact ⟨hquiet, hstore, hshifted, hpopped, hitems⟩

end Stencil.Brace
