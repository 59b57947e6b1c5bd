import Stencil.Proofs.Brace.Grammar

/-!
# When a brace template matches

* `HasBraces`: what a text has to have in it, without reading it token by token.
* `Scans.any_isSpecial_iff`: a text has it exactly if one of its tokens is a doubled brace or a placeholder.
* `matched_iff_hasBraces`, `format_eq_of_not_hasBraces`: what `format` reports.
-/

namespace Stencil.Brace

/-- Two braces of one kind stand next to each other, or a closing brace stands somewhere behind an opening
one. -/
def HasBraces (cs : List Char) : Prop :=
  ['\x7b', '\x7b'] <:+: cs ∨ ['\x7d', '\x7d'] <:+: cs ∨ ['\x7b', '\x7d'].Sublist cs

instance (cs : List Char) : Decidable (HasBraces cs) :=
  inferInstanceAs (Decidable (['\x7b', '\x7b'] <:+: cs ∨ ['\x7d', '\x7d'] <:+: cs ∨
    ['\x7b', '\x7d'].Sublist cs))

theorem pair_prefix_iff {b c : Char} {rest : List Char} :
    [b, b] <+: c :: rest ↔ b = c ∧ rest.head? = some b := by
  cases rest <;> simp [eq_comm]

/-- A character that stands for itself adds nothing. -/
theorem hasBraces_cons_iff {c : Char} {rest : List Char}
    (hdouble : ¬ ((c = '\x7b' ∨ c = '\x7d') ∧ rest.head? = some c))
    (hopen : ¬ (c = '\x7b' ∧ '\x7d' ∈ rest)) : HasBraces (c :: rest) ↔ HasBraces rest := by
  have hpair : ∀ b, b = '\x7b' ∨ b = '\x7d' → ([b, b] <:+: c :: rest ↔ [b, b] <:+: rest) := by
    intro b hb
    rw [List.infix_cons_iff, pair_prefix_iff, or_iff_right]
    rintro ⟨rfl, hhead⟩
    exact hdouble ⟨hb, hhead⟩
  have hsublist : ['\x7b', '\x7d'].Sublist (c :: rest) ↔ ['\x7b', '\x7d'].Sublist rest := by
    rw [List.sublist_cons_iff, or_iff_left]
    rintro ⟨more, hmore, hsub⟩
    obtain ⟨rfl, rfl⟩ := List.cons.inj hmore
    exact hopen ⟨rfl, List.singleton_sublist.mp hsub⟩
  rw [HasBraces, HasBraces, hpair _ (.inl rfl), hpair _ (.inr rfl), hsublist]

/-- A text has a token other than a character that stands for itself exactly if it has such braces. -/
theorem Scans.any_isSpecial_iff {cs : List Char} {tokens : List Token} (h : Scans cs tokens) :
    tokens.any Token.isSpecial = true ↔ HasBraces cs := by
  induction h with
  | nil => decide
  | @brace c rest tokens hc _ _ =>
    have hpair : [c, c] <:+: c :: c :: rest := (List.prefix_append [c, c] rest).isInfix
    refine iff_of_true rfl ?_
    rcases hc with rfl | rfl
    · exact .inl hpair
    · exact .inr (.inl hpair)
  | @placeholder content key transformer rest tokens _ _ _ _ _ =>
    have hclose : ['\x7d'].Sublist (content ++ '\x7d' :: rest) :=
      List.singleton_sublist.mpr (by simp)
    exact iff_of_true rfl (.inr (.inr (hclose.cons_cons _)))
  | literal hdouble hopen _ ih =>
    rw [hasBraces_cons_iff hdouble hopen, ← ih]
    rfl

variable {template : String}

/-- A call that succeeds reports a match exactly if the template has such braces. -/
theorem matched_iff_hasBraces {transformers : Registry Transformer} {args : List Value}
    {store after : Store} {formatted : Formatted}
    (h : (format transformers template args).run store = (.ok formatted, after)) :
    formatted.matched = true ↔ HasBraces template.toList := by
  obtain ⟨result, after', hrenders⟩ := exists_renders transformers args
    ((Token.scan template.toList).map Token.part) store
  rw [run_format rfl hrenders] at h
  cases result with
  | error e => cases h
  | ok texts =>
    cases h
    exact (scans_scan template.toList).any_isSpecial_iff

/-- Without such braces a template is left as it is, and nothing else happens. -/
theorem format_eq_of_not_hasBraces (h : ¬ HasBraces template.toList) (transformers : Registry Transformer)
    (args : List Value) : format transformers template args = pure ⟨false, template⟩ := by
  rw [← (scans_scan template.toList).any_isSpecial_iff] at h
  rw [format]
  exact if_neg h

example : ¬ HasBraces "a \x7d b \x7b c".toList := by decide +kernel

end Stencil.Brace
