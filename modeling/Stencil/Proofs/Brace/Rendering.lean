import Stencil.Proofs.Brace.Evaluation

/-!
# The rendering of brace templates

A brace template is a list of parts: texts and placeholders.

* `Part.indexing?`: the way in which a part chooses its argument.
* `Shown`: the parts are gone through from left to right, and every placeholder has a value. It is
  evaluated once, in the store that the parts before it have left.
* `Renders`: the parts are all shown, or they are shown up to the first placeholder that fails.
* `exists_renders`: one of the two is the case.
* `Shown.run_render_append`, `Renders.run_render`: this is what `Brace.render` does.
-/

namespace Stencil.Brace

/-- A part of a brace template. -/
inductive Part where
  /-- A text that stands for itself. -/
  | text (cs : List Char)
  | placeholder (key : List Char) (transformer : Option (List Char))

/-- The way in which a placeholder chooses its argument. -/
def Part.indexing? : Part → Option IndexingMode
  | text _ => none
  | placeholder key _ => some (indexing key)

/-- A placeholder that is not explicit has no key. -/
theorem key_eq_nil {key : List Char} {transformer : Option (List Char)}
    (h : (Part.placeholder key transformer).indexing? ≠ some .explicit) : key = [] := by
  cases key with
  | nil => rfl
  | cons c key => exact absurd rfl h

/-- What a token is a part of the output as: a doubled brace is one brace. -/
def Token.part : Token → Part
  | literal c => .text [c]
  | brace c => .text [c]
  | placeholder key transformer => .placeholder key transformer

/-- `Shown transformers args progress store parts texts progress' store'`: every part is shown as its
text; `progress` and `store` are those before the first part, `progress'` and `store'` those after the
last one. -/
inductive Shown (transformers : Registry Transformer) (args : List Value) :
    Progress → Store → List Part → List (List Char) → Progress → Store → Prop
  | nil {progress store} : Shown transformers args progress store [] [] progress store
  | text {progress store cs rest texts progress' store'} :
      Shown transformers args progress store rest texts progress' store' →
      Shown transformers args progress store (.text cs :: rest) (cs :: texts) progress' store'
  | placeholder {progress store key transformer v store₁ rest texts progress' store'} :
      Evaluates transformers args progress store key transformer (.ok v) store₁ →
      Shown transformers args (progress.advance key) store₁ rest texts progress' store' →
      Shown transformers args progress store (.placeholder key transformer :: rest)
        ((v.display store₁.heap).toList :: texts) progress' store'

/-- `Renders transformers args store parts result after`: from the start of a template and in `store`,
rendering `parts` comes to `result`, which is one text for each part or an error, and leaves the store
`after`. -/
inductive Renders (transformers : Registry Transformer) (args : List Value) (store : Store) :
    List Part → Except Error (List (List Char)) → Store → Prop
  | shown {parts texts progress after} :
      Shown transformers args .start store parts texts progress after →
      Renders transformers args store parts (.ok texts) after
  | failed {front texts progress store₁ key transformer e after back} :
      Shown transformers args .start store front texts progress store₁ →
      Evaluates transformers args progress store₁ key transformer (.error e) after →
      Renders transformers args store (front ++ .placeholder key transformer :: back) (.error e)
        after

variable {transformers : Registry Transformer} {args : List Value}

theorem Shown.append {progress progress₁ progress' : Progress} {store store₁ store' : Store}
    {front back : List Part} {texts texts' : List (List Char)}
    (h : Shown transformers args progress store front texts progress₁ store₁)
    (h' : Shown transformers args progress₁ store₁ back texts' progress' store') :
    Shown transformers args progress store (front ++ back) (texts ++ texts') progress' store' := by
  induction h with
  | nil => exact h'
  | text _ ih => exact .text (ih h')
  | placeholder heval _ ih => exact .placeholder heval (ih h')

/-- The parts are all shown, or a first placeholder fails. -/
theorem shown_or_failed (parts : List Part) (progress : Progress) (store : Store) :
    (∃ texts progress' store',
      Shown transformers args progress store parts texts progress' store') ∨
    ∃ front texts progress₁ store₁ key transformer e after back,
      parts = front ++ .placeholder key transformer :: back ∧
      Shown transformers args progress store front texts progress₁ store₁ ∧
      Evaluates transformers args progress₁ store₁ key transformer (.error e) after := by
  induction parts generalizing progress store with
  | nil => exact .inl ⟨_, _, _, .nil⟩
  | cons part rest ih =>
    cases part with
    | text cs =>
      rcases ih progress store with ⟨_, _, _, h⟩ | ⟨front, _, _, _, _, _, _, _, _, rfl, h, hfail⟩
      · exact .inl ⟨_, _, _, .text h⟩
      · exact .inr ⟨.text cs :: front, _, _, _, _, _, _, _, _, rfl, .text h, hfail⟩
    | placeholder key transformer =>
      obtain ⟨e | v, store₁, heval⟩ :=
        exists_evaluates transformers args progress store key transformer
      · exact .inr ⟨[], _, _, _, _, _, _, _, rest, rfl, .nil, heval⟩
      rcases ih (progress.advance key) store₁ with
        ⟨_, _, _, h⟩ | ⟨front, _, _, _, _, _, _, _, _, rfl, h, hfail⟩
      · exact .inl ⟨_, _, _, .placeholder heval h⟩
      · exact .inr ⟨.placeholder key transformer :: front, _, _, _, _, _, _, _, _, rfl,
          .placeholder heval h, hfail⟩

/-- Rendering comes to a result. -/
theorem exists_renders (transformers : Registry Transformer) (args : List Value) (parts : List Part)
    (store : Store) : ∃ result after, Renders transformers args store parts result after := by
  rcases shown_or_failed parts .start store with
    ⟨_, _, _, h⟩ | ⟨_, _, _, _, _, _, _, _, _, rfl, h, hfail⟩
  · exact ⟨_, _, .shown h⟩
  · exact ⟨_, _, .failed h hfail⟩

theorem render_text {token : Token} {cs : List Char} (h : token.part = .text cs)
    (progress : Progress) (rest : List Token) :
    render transformers args progress (token :: rest) =
      (cs ++ ·) <$> render transformers args progress rest := by
  cases token with
  | literal c => cases h; rw [render, bind_pure_comp]; rfl
  | brace c => cases h; rw [render, bind_pure_comp]; rfl
  | placeholder key transformer => cases h

theorem run_render_placeholder {token : Token} {key : List Char} {transformer : Option (List Char)}
    (h : token.part = .placeholder key transformer) {progress progress₁ : Progress}
    {store store₁ : Store} {v : Value}
    (heval : (evaluate transformers args progress key transformer).run store =
      (.ok (v, progress₁), store₁)) (rest : List Token) :
    (render transformers args progress (token :: rest)).run store =
      (((v.display store₁.heap).toList ++ ·) <$> render transformers args progress₁ rest).run
        store₁ := by
  cases token with
  | literal c => cases h
  | brace c => cases h
  | placeholder key transformer =>
    cases h
    rw [render, Action.run_bind_ok heval]
    dsimp only
    rw [Action.run_bind_ok (Action.run_get _), bind_pure_comp]

/-- After tokens that are shown, `render` goes on with those behind them. -/
theorem Shown.run_render_append {front : List Token} {progress progress' : Progress}
    {store store' : Store} {texts : List (List Char)}
    (h : Shown transformers args progress store (front.map Token.part) texts progress' store')
    (back : List Token) :
    (render transformers args progress (front ++ back)).run store =
      ((texts.flatten ++ ·) <$> render transformers args progress' back).run store' := by
  induction front generalizing progress store texts with
  | nil => cases h; simp
  | cons token front ih =>
    rw [List.map_cons] at h
    cases hpart : token.part with
    | text cs =>
      rw [hpart] at h
      cases h with
      | text h =>
        rw [List.cons_append, render_text hpart, Action.run_map, ih h, ← Action.run_map,
          Functor.map_map]
        simp
    | placeholder key transformer =>
      rw [hpart] at h
      cases h with
      | placeholder heval h =>
        rw [List.cons_append, run_render_placeholder hpart heval.run_evaluate, Action.run_map, ih h,
          ← Action.run_map, Functor.map_map]
        simp

/-- What rendering the parts of tokens comes to is what `render` does. -/
theorem Renders.run_render {tokens : List Token} {store after : Store}
    {result : Except Error (List (List Char))}
    (h : Renders transformers args store (tokens.map Token.part) result after) :
    (render transformers args .start tokens).run store = (result.map List.flatten, after) := by
  generalize hparts : tokens.map Token.part = parts at h
  cases h with
  | shown h =>
    subst hparts
    have hrun := h.run_render_append []
    rw [List.append_nil, render, Action.run_map, Action.run_pure] at hrun
    simpa [Except.map] using hrun
  | failed h hfail =>
    -- The tokens split where the parts do, at the placeholder that fails.
    obtain ⟨front, back, rfl, rfl, hback⟩ := List.map_eq_append_iff.mp hparts
    obtain ⟨token, back, rfl, htoken, rfl⟩ := List.map_eq_cons_iff.mp hback
    cases token with
    | literal c => cases htoken
    | brace c => cases htoken
    | placeholder key transformer =>
      cases htoken
      rw [h.run_render_append, Action.run_map, render, Action.run_bind_error hfail.run_evaluate]
      rfl

end Stencil.Brace
