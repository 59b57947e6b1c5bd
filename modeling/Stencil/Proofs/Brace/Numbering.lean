import Stencil.Proofs.Brace.Evaluation
import Stencil.Proofs.Brace.Grammar
import Stencil.Proofs.Number.Numeral

/-!
# Numbered placeholders

A placeholder without a key takes the next argument. Writing the numbers of the arguments into such
placeholders makes an explicit template of an implicit one.

* `Token.number`, `numbered`: tokens and templates with their placeholders numbered from zero on.
* `Scans.number`: the reader finds the numbered placeholders, and nothing else has changed.
* `run_render_number`: they are rendered like those without a number.
* `format_numbered`: the two templates do the same.
-/

namespace Stencil.Brace

open Number

/-- Tokens whose placeholders have their numbers as keys, counted from `k`. -/
def Token.number : Nat → List Token → List Token
  | _, [] => []
  | k, .placeholder _ transformer :: rest =>
    .placeholder (numeral 10 k) transformer :: number (k + 1) rest
  | k, .literal c :: rest => .literal c :: number k rest
  | k, .brace c :: rest => .brace c :: number k rest

/-- The template with a number in each of its placeholders. -/
def numbered (template : String) : String :=
  String.ofList ((Token.number 0 (Token.scan template.toList)).flatMap Token.source)

/-! ## Reading the numbers -/

theorem not_mem_numeral {c : Char} (h : c.isDigit = false) (k : Nat) : c ∉ numeral 10 k := fun hc =>
  absurd (isDigit_of_mem_numeral hc) (by rw [h]; decide)

/-- Numbering changes no first character of a template. -/
theorem head?_source_number (k : Nat) (tokens : List Token) :
    ((Token.number k tokens).flatMap Token.source).head? =
      (tokens.flatMap Token.source).head? := by
  cases tokens with
  | nil => rfl
  | cons token tokens =>
    cases token with
    | literal c => rfl
    | brace c => rfl
    | placeholder key transformer => cases transformer <;> rfl

/-- Numbering neither adds nor removes a closing brace. -/
theorem close_mem_source_number (k : Nat) (tokens : List Token) :
    '\x7d' ∈ (Token.number k tokens).flatMap Token.source ↔
      '\x7d' ∈ tokens.flatMap Token.source := by
  induction tokens generalizing k with
  | nil => rfl
  | cons token tokens ih =>
    cases token with
    | literal c => simp only [Token.number, List.flatMap_cons, List.mem_append, ih]
    | brace c => simp only [Token.number, List.flatMap_cons, List.mem_append, ih]
    | placeholder key transformer =>
      have hclose : ∀ key, '\x7d' ∈ (Token.placeholder key transformer).source := by
        intro key
        cases transformer <;> simp [Token.source]
      simp only [Token.number, List.flatMap_cons, List.mem_append, hclose, true_or]

/-- A number in front of a transformer, or by itself, is a key. -/
theorem Splits.number {content : List Char} {transformer : Option (List Char)}
    (h : Splits content [] transformer) (k : Nat) :
    Splits (numeral 10 k ++ content) (numeral 10 k) transformer := by
  have hbar := not_mem_numeral (c := '|') rfl k
  generalize hkey : ([] : List Char) = key at h
  cases h with
  | noBar => rw [← hkey, List.append_nil]; exact .noBar hbar
  | lastBar => simp at hkey
  | bar _ hname => rw [← hkey, List.nil_append]; exact .bar hbar hname

/-- The reader finds the numbers in the placeholders, and all other tokens as they were. -/
theorem Scans.number {cs : List Char} {tokens : List Token} (h : Scans cs tokens)
    (himplicit : ∀ token ∈ tokens, token.part.indexing? ≠ some .explicit) (k : Nat) :
    Scans ((Token.number k tokens).flatMap Token.source) (Token.number k tokens) := by
  induction h generalizing k with
  | nil => exact .nil
  | brace hc _ ih => exact .brace hc (ih (fun token ht => himplicit token (.tail _ ht)) k)
  | @placeholder content key transformer rest tokens _ hclose hsplit _ ih =>
    obtain rfl := key_eq_nil (himplicit _ List.mem_cons_self)
    have hopen : (numeral 10 k ++ content).head? ≠ some '\x7b' := by
      rw [List.head?_append, List.head?_eq_some_head (numeral_ne_nil 10 k), Option.some_or]
      exact fun h => not_mem_numeral rfl k (Option.some.inj h ▸ List.head_mem _)
    have hclose : '\x7d' ∉ numeral 10 k ++ content := by
      rw [List.mem_append, not_or]
      exact ⟨not_mem_numeral rfl k, hclose⟩
    have h := Scans.placeholder hopen hclose (hsplit.number k)
      (ih (fun token ht => himplicit token (.tail _ ht)) (k + 1))
    rw [Token.number, List.flatMap_cons, (hsplit.number k).source_eq]
    simpa using h
  | literal hdouble hopen hscans ih =>
    rw [← hscans.source_eq, ← head?_source_number k] at hdouble
    rw [← hscans.source_eq, ← close_mem_source_number k] at hopen
    exact .literal hdouble hopen (ih (fun token ht => himplicit token (.tail _ ht)) k)

/-! ## Rendering the numbers -/

variable {transformers : Registry Transformer} {args : List Value}

theorem any_isSpecial_number (k : Nat) (tokens : List Token) :
    (Token.number k tokens).any Token.isSpecial = tokens.any Token.isSpecial := by
  induction tokens generalizing k with
  | nil => rfl
  | cons token tokens ih =>
    cases token with
    | literal c => simp only [Token.number, List.any_cons, ih]
    | brace c => simp only [Token.number, List.any_cons, ih]
    | placeholder key transformer => rfl

/-- A template without placeholders has nothing to number. -/
theorem number_eq_of_not_special {tokens : List Token} (h : tokens.any Token.isSpecial = false)
    (k : Nat) : Token.number k tokens = tokens := by
  induction tokens generalizing k with
  | nil => rfl
  | cons token tokens ih =>
    rw [List.any_cons, Bool.or_eq_false_iff] at h
    cases token with
    | literal c => rw [Token.number, ih h.2]
    | brace c => cases h.1
    | placeholder key transformer => cases h.1

/-- A numbered placeholder has the value that the counter gives to one without a key. -/
theorem run_evaluate_number (transformers : Registry Transformer) (args : List Value) {p q : Progress}
    (hp : p.mode.Allows .implicit) (hq : q.mode.Allows .explicit)
    (transformer : Option (List Char)) (store : Store) :
    ∃ (result : Except Error Value) (after : Store),
      (evaluate transformers args p [] transformer).run store =
        (result.map fun v => (v, ⟨.implicit, p.next + 1⟩), after) ∧
      (evaluate transformers args q (numeral 10 p.next) transformer).run store =
        (result.map fun v => (v, ⟨.explicit, q.next⟩), after) := by
  have hkey : (numeral 10 p.next).isEmpty = false := by simp [numeral_ne_nil]
  have hindexing : indexing (numeral 10 p.next) = .explicit := by rw [← ofEmpty_isEmpty, hkey]; rfl
  have hpath : q.path (numeral 10 p.next) = p.path [] := by
    rw [Progress.path, hkey, Progress.path]; rfl
  have hadvance : q.advance (numeral 10 p.next) = ⟨.explicit, q.next⟩ := by
    rw [Progress.advance, hkey, hindexing]; rfl
  rcases hresolve : (resolve (p.path []) args).run store with ⟨v, resolved⟩
  rcases hrun : (transform transformers transformer v).run resolved with ⟨result, after⟩
  refine ⟨result, after, ?_, ?_⟩
  · rw [run_evaluate_of_allows hp hresolve, Action.run_map, hrun]
    rfl
  · rw [run_evaluate_of_allows (by rwa [hindexing]) (hpath ▸ hresolve), Action.run_map, hrun, hadvance]

/-- **The counter and the numbers.** As long as the counter of the one template is the number of the
next placeholder of the other, both are rendered alike. -/
theorem run_render_number (transformers : Registry Transformer) (args : List Value)
    {tokens : List Token} (himplicit : ∀ token ∈ tokens, token.part.indexing? ≠ some .explicit)
    {p q : Progress} (hp : p.mode.Allows .implicit) (hq : q.mode.Allows .explicit) (store : Store) :
    (render transformers args q (Token.number p.next tokens)).run store =
      (render transformers args p tokens).run store := by
  induction tokens generalizing p q store with
  | nil => rfl
  | cons token tokens ih =>
    have himplicit' := fun token ht => himplicit token (List.mem_cons_of_mem _ ht)
    cases token with
    | literal c =>
      rw [Token.number, render_text rfl, render_text rfl, Action.run_map, Action.run_map,
        ih himplicit' hp hq]
    | brace c =>
      rw [Token.number, render_text rfl, render_text rfl, Action.run_map, Action.run_map,
        ih himplicit' hp hq]
    | placeholder key transformer =>
      obtain rfl := key_eq_nil (himplicit _ List.mem_cons_self)
      obtain ⟨result, after, hrunp, hrunq⟩ :=
        run_evaluate_number transformers args hp hq transformer store
      rw [Token.number]
      cases result with
      | error e => rw [render, render, Action.run_bind_error hrunp, Action.run_bind_error hrunq]
      | ok v =>
        rw [run_render_placeholder rfl hrunp, run_render_placeholder rfl hrunq,
          Action.run_map, Action.run_map]
        rw [ih himplicit' (p := ⟨.implicit, p.next + 1⟩) (.inr rfl) (.inr rfl)]

/-- **Implicit and explicit indexing.** Let no placeholder of a template have a key. Writing the numbers
of the placeholders into them, counted from zero on, changes no other token; and whatever the arguments
and the transformers are, the numbered template comes to the same result and leaves the same store. -/
theorem format_numbered (template : String)
    (himplicit : ∀ token ∈ Token.scan template.toList, token.part.indexing? ≠ some .explicit) :
    (Token.scan template.toList).flatMap Token.source = template.toList ∧
    Token.scan (numbered template).toList = Token.number 0 (Token.scan template.toList) ∧
    ∀ (transformers : Registry Transformer) (args : List Value) (store : Store),
      (format transformers (numbered template) args).run store =
        (format transformers template args).run store := by
  have hscans := scans_scan template.toList
  have hnumbered : Token.scan (numbered template).toList =
      Token.number 0 (Token.scan template.toList) := by
    rw [numbered, String.toList_ofList]
    exact scan_eq_iff.mpr (hscans.number himplicit 0)
  refine ⟨hscans.source_eq, hnumbered, fun transformers args store => ?_⟩
  rw [format, format, hnumbered, any_isSpecial_number]
  cases hspecial : (Token.scan template.toList).any Token.isSpecial with
  | true =>
    have hrun := run_render_number transformers args himplicit (p := .start) (q := .start)
      (.inl rfl) (.inl rfl) store
    rw [if_pos rfl, if_pos rfl, Action.run_bind, Action.run_bind, ← hrun]
    rfl
  | false =>
    have hsame : numbered template = template := by
      rw [numbered, number_eq_of_not_special hspecial, hscans.source_eq, String.ofList_toList]
    rw [hsame]
    rfl

/-- A placeholder between literal braces, and one with a transformer but without an argument. -/
theorem format_numbered_escapes :
    let template := "\x7b\x7b\x7b\x7d\x7d\x7d\x7b|json\x7d"
    (∀ token ∈ Token.scan template.toList, token.part.indexing? ≠ some .explicit) ∧
      numbered template = "\x7b\x7b\x7b0\x7d\x7d\x7d\x7b1|json\x7d" ∧
      (format (.ofList builtinTransformers) template [.text "a"]).run .empty =
        (.ok ⟨true, "\x7ba\x7d\"\""⟩, .empty) := by
  intro template
  have himplicit : ∀ token ∈ Token.scan template.toList,
      token.part.indexing? ≠ some .explicit := by decide +kernel
  have htext : numbered template = "\x7b\x7b\x7b0\x7d\x7d\x7d\x7b1|json\x7d" := by decide +kernel
  have hscan : Token.scan "\x7b\x7b\x7b0\x7d\x7d\x7d\x7b1|json\x7d".toList =
      [.brace '\x7b', .placeholder ['0'] none, .brace '\x7d',
        .placeholder ['1'] (some ['j', 's', 'o', 'n'])] := by decide +kernel
  refine ⟨himplicit, htext, ?_⟩
  rw [← (format_numbered template himplicit).2.2, htext, format, hscan]
  rfl

end Stencil.Brace
