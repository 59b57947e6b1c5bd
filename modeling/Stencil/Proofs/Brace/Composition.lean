import Stencil.Proofs.Brace.Grammar

/-!
# Templates put together from pieces

A piece is a text, which may hold any characters, or a placeholder. Printing doubles the braces of
the texts. The reader finds the pieces again, whatever braces stand next to each other (`scan_print`),
so formatting a printed template renders the pieces (`format_print`).
-/

namespace Stencil.Brace

open Number

/-- A placeholder that can be written down: no character of it is taken for the end of a part. -/
structure Placeholder where
  key : List Char
  transformer : Option (List Char)
  key_plain : ∀ c ∈ key, c ≠ '\x7b' ∧ c ≠ '\x7d' ∧ c ≠ '|'
  transformer_plain : ∀ name ∈ transformer, name ≠ [] ∧ '\x7d' ∉ name

/-- A piece of a template. -/
inductive Piece where
  | text (cs : List Char)
  | placeholder (p : Placeholder)

/-- The characters that are doubled. -/
def isBrace (c : Char) : Bool := c == '\x7b' || c == '\x7d'

namespace Placeholder

/-- What stands between the braces. -/
def content (p : Placeholder) : List Char :=
  match p.transformer with
  | none => p.key
  | some name => p.key ++ '|' :: name

end Placeholder

namespace Piece

/-- A piece as it is written in a template. -/
def print : Piece → List Char
  | text cs => cs.flatMap fun c => if isBrace c then [c, c] else [c]
  | placeholder p => '\x7b' :: (p.content ++ ['\x7d'])

/-- The part of the output that a piece stands for. -/
def part : Piece → Part
  | text cs => .text cs
  | placeholder p => .placeholder p.key p.transformer

/-- The tokens of a printed piece. -/
def tokens : Piece → List Token
  | text cs => cs.map fun c => if isBrace c then .brace c else .literal c
  | placeholder p => [.placeholder p.key p.transformer]

/-- A piece that is not written as it is. -/
def isSpecial : Piece → Bool
  | text cs => cs.any isBrace
  | placeholder _ => true

end Piece

/-- The template that consists of pieces. -/
def print (pieces : List Piece) : String := String.ofList (pieces.flatMap Piece.print)

/-! ## Reading printed pieces -/

theorem isBrace_iff {c : Char} : isBrace c = true ↔ c = '\x7b' ∨ c = '\x7d' := by
  simp [isBrace]

theorem Placeholder.splits (p : Placeholder) : Splits p.content p.key p.transformer := by
  have hbar : '|' ∉ p.key := fun h => (p.key_plain _ h).2.2 rfl
  rw [content]
  cases htransformer : p.transformer with
  | none => exact .noBar hbar
  | some name => exact .bar hbar (p.transformer_plain name htransformer).1

theorem Placeholder.close_not_mem (p : Placeholder) : '\x7d' ∉ p.content := by
  have hkey : '\x7d' ∉ p.key := fun h => (p.key_plain _ h).2.1 rfl
  rw [content]
  cases htransformer : p.transformer with
  | none => exact hkey
  | some name =>
    have hname := (p.transformer_plain name htransformer).2
    simp [hkey, hname]

/-- No second opening brace follows that of a placeholder. -/
theorem Placeholder.head?_ne_open (p : Placeholder) : p.content.head? ≠ some '\x7b' := by
  intro h
  rw [content] at h
  cases hkey : p.key with
  | nil => cases htransformer : p.transformer <;> simp [hkey, htransformer] at h
  | cons c key =>
    have hc := (p.key_plain c (hkey ▸ List.mem_cons_self)).1
    cases htransformer : p.transformer <;> simp [hkey, htransformer] at h <;> exact hc h

theorem scan_print_text (cs rest : List Char) :
    Token.scan ((Piece.text cs).print ++ rest) = (Piece.text cs).tokens ++ Token.scan rest := by
  induction cs with
  | nil => rfl
  | cons c cs ih =>
    simp only [Piece.print, Piece.tokens] at ih ⊢
    rw [List.flatMap_cons, List.map_cons, List.append_assoc, List.cons_append, ← ih]
    by_cases hc : isBrace c = true
    · rw [if_pos hc, if_pos hc]
      exact scan_brace (isBrace_iff.mp hc) _
    · rw [if_neg hc, if_neg hc]
      have hbrace := mt isBrace_iff.mpr hc
      exact scan_literal (fun h => hbrace h.1) fun h => hbrace (.inl h.1)

/-- The reader finds a printed piece again in front of any text. -/
theorem scan_print_piece (piece : Piece) (rest : List Char) :
    Token.scan (piece.print ++ rest) = piece.tokens ++ Token.scan rest := by
  cases piece with
  | text cs => exact scan_print_text cs rest
  | placeholder p =>
    have h := scan_placeholder p.head?_ne_open p.close_not_mem p.splits rest
    simpa [Piece.print, Piece.tokens] using h

/-- The reader finds the pieces of a printed template again. -/
theorem scan_print (pieces : List Piece) :
    Token.scan (pieces.flatMap Piece.print) = pieces.flatMap Piece.tokens := by
  induction pieces with
  | nil => rw [List.flatMap_nil, Token.scan, List.flatMap_nil]
  | cons piece pieces ih => rw [List.flatMap_cons, scan_print_piece, ih, List.flatMap_cons]

theorem any_isSpecial_tokens (pieces : List Piece) :
    (pieces.flatMap Piece.tokens).any Token.isSpecial = pieces.any Piece.isSpecial := by
  induction pieces with
  | nil => rfl
  | cons piece pieces ih =>
    rw [List.flatMap_cons, List.any_append, List.any_cons, ih]
    cases piece with
    | text cs =>
      have hspecial : ∀ c, (if isBrace c = true then Token.brace c else .literal c).isSpecial =
          isBrace c := by
        intro c
        by_cases hc : isBrace c = true <;> simp [hc, Token.isSpecial]
      simp only [Piece.tokens, Piece.isSpecial, List.any_map, Function.comp_def, hspecial]
    | placeholder p => rfl

/-! ## Rendering printed pieces -/

variable {transformers : Registry Transformer} {args : List Value}

/-- The characters of a text are shown one by one. -/
theorem shown_text_tokens (transformers : Registry Transformer) (args : List Value)
    (cs : List Char) (progress : Progress) (store : Store) :
    Shown transformers args progress store ((Piece.text cs).tokens.map Token.part)
      (cs.map fun c => [c]) progress store := by
  induction cs with
  | nil => exact .nil
  | cons c cs ih =>
    rw [Piece.tokens, List.map_cons, List.map_cons]
    by_cases hc : isBrace c = true
    · rw [if_pos hc]; exact .text ih
    · rw [if_neg hc]; exact .text ih

/-- Texts are shown as they are. -/
theorem shown_texts (transformers : Registry Transformer) (args : List Value)
    (texts : List (List Char)) (progress : Progress) (store : Store) :
    Shown transformers args progress store ((texts.map Piece.text).map Piece.part) texts progress
      store := by
  induction texts with
  | nil => exact .nil
  | cons cs texts ih => exact .text ih

/-- The tokens of printed pieces are shown as the pieces are. -/
theorem Shown.tokens {pieces : List Piece} {progress progress' : Progress} {store store' : Store}
    {texts : List (List Char)}
    (h : Shown transformers args progress store (pieces.map Piece.part) texts progress' store') :
    ∃ texts', texts'.flatten = texts.flatten ∧
      Shown transformers args progress store ((pieces.flatMap Piece.tokens).map Token.part) texts'
        progress' store' := by
  -- A text piece is several tokens, one for each character, and a placeholder is one.
  induction pieces generalizing progress store texts with
  | nil => cases h; exact ⟨[], rfl, .nil⟩
  | cons piece pieces ih =>
    rw [List.flatMap_cons, List.map_append]
    cases piece with
    | text cs =>
      cases h with
      | text h =>
        obtain ⟨texts', htexts, h⟩ := ih h
        refine ⟨_, ?_, (shown_text_tokens transformers args cs progress store).append h⟩
        rw [List.flatten_append, htexts, List.flatten_cons, ← List.flatMap_def,
          List.flatMap_singleton']
    | placeholder p =>
      cases h with
      | placeholder heval h =>
        obtain ⟨texts', htexts, h⟩ := ih h
        exact ⟨_, by rw [List.flatten_cons, List.flatten_cons, htexts], .placeholder heval h⟩

/-- Rendering the tokens of printed pieces comes to what rendering the pieces comes to. -/
theorem Renders.tokens {pieces : List Piece} {store after : Store}
    {result : Except Error (List (List Char))}
    (h : Renders transformers args store (pieces.map Piece.part) result after) :
    ∃ result', result'.map List.flatten = result.map List.flatten ∧
      Renders transformers args store ((pieces.flatMap Piece.tokens).map Token.part) result'
        after := by
  generalize hparts : pieces.map Piece.part = parts at h
  cases h with
  | shown h =>
    subst hparts
    obtain ⟨texts', htexts, h⟩ := h.tokens
    exact ⟨.ok texts', congrArg Except.ok htexts, .shown h⟩
  | failed h hfail =>
    obtain ⟨front, back, rfl, rfl, hback⟩ := List.map_eq_append_iff.mp hparts
    obtain ⟨piece, back, rfl, hpiece, rfl⟩ := List.map_eq_cons_iff.mp hback
    cases piece with
    | text cs => cases hpiece
    | placeholder p =>
      cases hpiece
      obtain ⟨texts', -, h⟩ := h.tokens
      refine ⟨_, rfl, ?_⟩
      rw [List.flatMap_append, List.flatMap_cons, List.map_append, List.map_append]
      exact .failed h hfail

/-- **Composition.** Formatting a printed template renders the pieces from left to right. Each placeholder is
evaluated by the rules (`Evaluates`), in the store that those before it have left, and the first failure ends
it. Texts come out as they are. -/
theorem format_print (transformers : Registry Transformer) (args : List Value) :
    (∀ (pieces : List Piece) (store : Store),
      (∃ result after, Renders transformers args store (pieces.map Piece.part) result after) ∧
      ∀ result after, Renders transformers args store (pieces.map Piece.part) result after →
        (format transformers (print pieces) args).run store =
          (result.map fun texts => ⟨pieces.any Piece.isSpecial, String.ofList texts.flatten⟩,
            after)) ∧
    ∀ (texts : List (List Char)) (store : Store),
      (format transformers (print (texts.map .text)) args).run store =
        (.ok ⟨texts.any (·.any isBrace), String.ofList texts.flatten⟩, store) := by
  have hrun : ∀ (pieces : List Piece) (store : Store) result after,
      Renders transformers args store (pieces.map Piece.part) result after →
        (format transformers (print pieces) args).run store =
          (result.map fun texts => ⟨pieces.any Piece.isSpecial, String.ofList texts.flatten⟩,
            after) := by
    intro pieces store result after h
    obtain ⟨result', hresult, h⟩ := h.tokens
    have hscan : Token.scan (print pieces).toList = pieces.flatMap Piece.tokens := by
      rw [print, String.toList_ofList, scan_print]
    rw [run_format hscan h, any_isSpecial_tokens, map_flatten, hresult, ← map_flatten]
  refine ⟨fun pieces store => ⟨exists_renders transformers args _ store, hrun pieces store⟩,
    fun texts store => ?_⟩
  rw [hrun _ _ _ _ (.shown (shown_texts transformers args texts .start store)), List.any_map]
  rfl

/-- A value that is popped between literal braces, a callable with a transformer, and a transformer that is not
registered, behind which nothing is popped. -/
theorem format_print_braces :
    let transformers : Registry Transformer := .ofList builtinTransformers
    let args := [.sequence ⟨0⟩, .callable ⟨0⟩]
    let pop : Piece := .placeholder ⟨['0', '.', 'p', 'o', 'p'], none, by simp, by simp⟩
    let call : Piece := .placeholder ⟨['1'], some ['j', 's', 'o', 'n'], by simp, by simp⟩
    let nope : Piece := .placeholder ⟨['1'], some ['n', 'o', 'p', 'e'], by simp, by simp⟩
    let store : Store := ⟨⟨#[[.text "a", .text "b"]]⟩, #[.constant (.text "c")]⟩
    let called : Callable := { Callable.constant (.text "c") with calls := 1 }
    print [.text ['\x7b'], pop, .text ['\x7d'], call, pop] =
        "\x7b\x7b\x7b0.pop\x7d\x7d\x7d\x7b1|json\x7d\x7b0.pop\x7d" ∧
      (format transformers (print [.text ['\x7b'], pop, .text ['\x7d'], call, pop]) args).run store =
        (.ok ⟨true, "\x7bb\x7d\"c\"a"⟩, ⟨⟨#[[]]⟩, #[called]⟩) ∧
      (format transformers (print [pop, nope, pop]) args).run store =
        (.error (.unknownTransformer "nope"), ⟨⟨#[[.text "a"]]⟩, #[called]⟩) := by
  intro transformers args pop call nope store called
  have hspells : ∀ d < 10, Spells 10 [d] [Nat.digitChar d] := fun d hd =>
    spells_map (List.cons_ne_nil d []) (by simpa using hd)
  have hpop : ∀ next, Leads next ['0', '.', 'p', 'o', 'p'] 0 [['p', 'o', 'p']] := fun next =>
    .key (by decide) (Text.isSplit_iff.mpr (by decide)) (.number (hspells 0 (by decide)))
  have hone : ∀ next, Leads next ['1'] 1 [] := fun next =>
    .key (by decide) (Text.isSplit_iff.mpr (by decide)) (.number (hspells 1 (by decide)))
  have hshared : ∀ store, Invokes (.sequence ⟨0⟩) store (.sequence ⟨0⟩) store := fun _ => .value nofun
  have htext : ∀ s store, Invokes (.text s) store (.text s) store := fun _ _ => .value nofun
  -- What the placeholders resolve to, each in the store that the one before it has left.
  have hfirst : Resolves args 0 [['p', 'o', 'p']] store (.text "b") ⟨⟨#[[.text "a"]]⟩, store.callables⟩ :=
    .walked rfl (by decide) (hshared _) (.found (.sequence rfl) (htext _ _) .done)
  have hsecond : Resolves args 0 [['p', 'o', 'p']] ⟨⟨#[[.text "a"]]⟩, #[called]⟩ (.text "a")
      ⟨⟨#[[]]⟩, #[called]⟩ :=
    .walked rfl (by decide) (hshared _) (.found (.sequence rfl) (htext _ _) .done)
  have hcall : Invokes (.callable ⟨0⟩) ⟨⟨#[[.text "a"]]⟩, store.callables⟩ (.text "c")
      ⟨⟨#[[.text "a"]]⟩, #[called]⟩ := invokes_iff.mpr rfl
  have hcalled : Resolves args 1 [] ⟨⟨#[[.text "a"]]⟩, store.callables⟩ (.text "c")
      ⟨⟨#[[.text "a"]]⟩, #[called]⟩ :=
    .walked rfl (by decide) hcall .done
  have hjson : Transforms transformers (.text "c") ⟨⟨#[[.text "a"]]⟩, #[called]⟩
      (some ['j', 's', 'o', 'n']) (.ok (.text "\"c\"")) ⟨⟨#[[.text "a"]]⟩, #[called]⟩ :=
    .applied (List.mem_singleton_self _) rfl
  have hnope : Transforms transformers (.text "c") ⟨⟨#[[.text "a"]]⟩, #[called]⟩
      (some ['n', 'o', 'p', 'e']) (.error (.unknownTransformer "nope")) ⟨⟨#[[.text "a"]]⟩, #[called]⟩ :=
    .unknown (by decide)
  obtain ⟨hformat, -⟩ := format_print transformers args
  have hshown := (hformat [.text ['\x7b'], pop, .text ['\x7d'], call, pop] store).2 _ _ (.shown
    (.text (.placeholder (.value (.inl rfl) (hpop _) hfirst .none)
      (.text (.placeholder (.value (.inr rfl) (hone _) hcalled hjson)
        (.placeholder (.value (.inr rfl) (hpop _) hsecond .none) .nil))))))
  have hfailed := (hformat [pop, nope, pop] store).2 _ _ (.failed
    (.placeholder (.value (.inl rfl) (hpop _) hfirst .none) .nil)
    (.value (.inr rfl) (hone _) hcalled hnope))
  refine ⟨rfl, hshown.trans ?_, hfailed.trans ?_⟩
  · have hdisplay : ∀ s heap, (Value.text s).display heap = s := fun _ _ => String.ofList_toList
    simp only [Except.map, hdisplay]
    rfl
  · rfl

end Stencil.Brace
