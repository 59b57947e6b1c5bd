import Stencil.Proofs.Percent.Dispatch
import Stencil.Proofs.Percent.Offsets

/-!
# When a percent template matches

A rule can put any line in place of the one that it is given, and reading goes on there. Whether a template
matches does not depend on that: it is decided by the template itself.

* `bodies`: the bodies of the directives of a text.
* `Recognizes`: a rule recognises one of the directives that have an argument.
* `formatFrom_of_not_recognizes`: until a directive is recognised nothing happens.
* `matched_of_formatFrom`: after that the template matches, whatever follows.
* `matched_iff_recognizes`, `format_eq_of_not_recognizes`: what `format` reports.
-/

namespace Stencil.Percent

/-- The body of a fragment that is a directive. -/
def bodyOf? : Fragment → Option String
  | .other _ => none
  | .found m => some (bodyOf m)

/-- The bodies of the directives of a text, from left to right. -/
def bodies (cs : List Char) : List String := (directivePattern.cut cs).filterMap bodyOf?

/-- A rule recognises one of the directives of a text that come in the first `count` places. -/
def Recognizes (rules : Registry DirectiveRule) (count : Nat) (cs : List Char) : Prop :=
  ∃ body ∈ (bodies cs).take count, ∃ entry ∈ rules.entries, (entry.2.recognize body).isSome = true

instance (rules : Registry DirectiveRule) (count : Nat) (cs : List Char) :
    Decidable (Recognizes rules count cs) :=
  inferInstanceAs (Decidable (∃ body ∈ (bodies cs).take count, ∃ entry ∈ rules.entries,
    (entry.2.recognize body).isSome = true))

/-! ## Directives from left to right -/

variable {rules : Registry DirectiveRule} {cs done rest : List Char} {count : Nat} {matched : Bool}
  {args : List Value}

theorem bodies_of_next?_none (h : Directive.next? cs = none) : bodies cs = [] := by
  rw [bodies, cut_of_next?_none h, List.filterMap_map]
  exact List.filterMap_eq_nil_iff.mpr fun _ _ => rfl

theorem bodies_of_next? {cut : Directive.Cut} (h : Directive.next? cs = some cut) :
    bodies cs = String.ofList cut.body :: bodies cut.after := by
  have hbefore : (cut.before.map Fragment.other).filterMap bodyOf? = [] := by
    rw [List.filterMap_map]
    exact List.filterMap_eq_nil_iff.mpr fun _ _ => rfl
  rw [bodies, cut_of_next? h, List.filterMap_append, hbefore]
  rfl

/-- A body has a rule exactly if one of the rules recognises it. -/
theorem firstRule?_isSome_iff {body : String} :
    (firstRule? rules body).isSome = true ↔
      ∃ entry ∈ rules.entries, (entry.2.recognize body).isSome = true := by
  rw [firstRule?, List.findSome?_isSome_iff]
  simp only [Option.isSome_map]

theorem not_recognizes_zero : ¬ Recognizes rules 0 cs := by
  rintro ⟨body, hbody, -⟩
  cases hbody

theorem not_recognizes_of_next?_none (h : Directive.next? cs = none) :
    ¬ Recognizes rules count cs := by
  rintro ⟨body, hbody, -⟩
  rw [bodies_of_next?_none h, List.take_nil] at hbody
  cases hbody

/-- The first directive is recognised, or one of those behind it. -/
theorem recognizes_succ_iff {cut : Directive.Cut} (h : Directive.next? cs = some cut) :
    Recognizes rules (count + 1) cs ↔
      (firstRule? rules (String.ofList cut.body)).isSome = true ∨ Recognizes rules count cut.after := by
  rw [Recognizes, bodies_of_next? h, List.take_succ_cons, List.exists_mem_cons_iff, firstRule?_isSome_iff,
    Recognizes]

/-! ## The loop -/

/-- As long as no directive is recognised, nothing happens. -/
theorem formatFrom_of_not_recognizes (h : ¬ Recognizes rules args.length rest) (done : List Char)
    (matched : Bool) :
    formatFrom rules done rest matched args = pure ⟨matched, String.ofList (done ++ rest)⟩ := by
  induction args generalizing done rest with
  | nil => rfl
  | cons arg args ih =>
    cases hnext : Directive.next? rest with
    | none => rw [formatFrom_nothing hnext]
    | some cut =>
      rw [List.length_cons, recognizes_succ_iff hnext, not_or, Option.not_isSome_iff_eq_none] at h
      rw [formatFrom_unknown hnext h.1, ih h.2, ← line_eq done hnext]

/-- A directive that is recognised makes a match, and a match stays, whatever the rules make of the line. -/
theorem matched_of_formatFrom {store after : Store} {formatted : Formatted}
    (h : matched = true ∨ Recognizes rules args.length rest)
    (hrun : (formatFrom rules done rest matched args).run store = (.ok formatted, after)) :
    formatted.matched = true := by
  induction args generalizing done rest matched store with
  | nil =>
    cases hrun
    exact h.resolve_right not_recognizes_zero
  | cons arg args ih =>
    cases hnext : Directive.next? rest with
    | none =>
      rw [formatFrom_nothing hnext] at hrun
      cases hrun
      exact h.resolve_right (not_recognizes_of_next?_none hnext)
    | some cut =>
      rw [List.length_cons, recognizes_succ_iff hnext] at h
      cases hrule : firstRule? rules (String.ofList cut.body) with
      | none =>
        rw [formatFrom_unknown hnext hrule] at hrun
        rw [hrule, Option.isSome_none, or_iff_right Bool.false_ne_true] at h
        exact ih h hrun
      | some found =>
        obtain ⟨rule, captures⟩ := found
        rw [formatFrom_directive hnext hrule] at hrun
        dsimp only at hrun
        -- The rule makes another line, but reading goes on with a match.
        rcases hnew : (rule.substitute (handed done cut captures) (String.ofList (done ++ rest)) arg).run
          store with ⟨e | new, replaced⟩
        · rw [Action.run_bind_error hnew] at hrun
          cases hrun
        · rw [Action.run_bind_ok hnew] at hrun
          exact ih (.inl rfl) hrun

variable {template : String}

/-- If no directive with an argument is recognised, a template is left as it is, and nothing else happens. -/
theorem format_eq_of_not_recognizes (h : ¬ Recognizes rules args.length template.toList) :
    format rules template args = pure ⟨false, template⟩ := by
  have hformat : format rules template args = _ := formatFrom_of_not_recognizes h [] false
  rw [hformat, List.nil_append, String.ofList_toList]

/-- A call that succeeds reports a match exactly if a directive with an argument is recognised. -/
theorem matched_iff_recognizes {store after : Store} {formatted : Formatted}
    (h : (format rules template args).run store = (.ok formatted, after)) :
    formatted.matched = true ↔ Recognizes rules args.length template.toList := by
  constructor
  · intro hmatched
    by_contra hnot
    rw [format_eq_of_not_recognizes hnot] at h
    cases h
    cases hmatched
  · intro hrecognizes
    rw [format] at h
    exact matched_of_formatFrom (.inr hrecognizes) h

end Stencil.Percent
