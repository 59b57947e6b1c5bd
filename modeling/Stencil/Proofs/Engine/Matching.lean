import Stencil.Proofs.Brace.Matching
import Stencil.Proofs.Percent.Matching
import Stencil.Proofs.Engine.Chain

/-!
# When a template matches

The formatters of brace and percent templates report a match exactly if the template has something in it
that they take, and a template without it is left as it is: its formatter neither fails nor calls anything.

* `Formatter.Untouched`: the formatter leaves the template as it is and does nothing else.
* `Formatter.MatchesIff`: a formatter matches exactly the templates with some property.
* `run_of_untouched`: a chain of formatters that leave the template as it is.
* `format_matched`: the templates that the two formatters match, and the default engine on the others.
-/

namespace Stencil

namespace Formatter

/-- The formatter leaves a template as it is: no match, no error and no effect. -/
def Untouched (f : Formatter) (template : String) (args : List Value) : Prop :=
  ∀ store, (f.format template args).run store = (.ok ⟨false, template⟩, store)

/-- A formatter matches a template with some arguments exactly if `condition` holds. -/
structure MatchesIff (f : Formatter) (template : String) (args : List Value) (condition : Prop) : Prop where
  /-- A call that succeeds reports a match exactly under the condition. -/
  matched_iff : ∀ store formatted after,
    (f.format template args).run store = (.ok formatted, after) → (formatted.matched = true ↔ condition)
  /-- Without a match the output is the template. -/
  output_eq : ∀ store formatted after,
    (f.format template args).run store = (.ok formatted, after) → formatted.matched = false →
      formatted.output = template
  /-- Without the condition every call succeeds. -/
  untouched : ¬ condition → f.Untouched template args

variable {f : Formatter} {template : String} {args : List Value} {condition : Prop}

theorem untouched_of_format_eq (h : f.format template args = pure ⟨false, template⟩) :
    f.Untouched template args := by
  intro store
  rw [h]
  rfl

/-- A call without a match is one without the condition, and there the template is untouched. -/
theorem MatchesIff.of_untouched
    (hmatched : ∀ store formatted after,
      (f.format template args).run store = (.ok formatted, after) → (formatted.matched = true ↔ condition))
    (huntouched : ¬ condition → f.Untouched template args) : f.MatchesIff template args condition where
  matched_iff := hmatched
  output_eq store formatted after hrun hfalse := by
    have hnot : ¬ condition := by
      intro hcondition
      rw [(hmatched store formatted after hrun).mpr hcondition] at hfalse
      contradiction
    rw [huntouched hnot store] at hrun
    cases hrun
    rfl
  untouched := huntouched

end Formatter

namespace Engine

variable {template : String} {args : List Value}

/-- A chain of formatters that leave the template as it is does so too, in either mode. -/
theorem run_of_untouched {entries : List (String × Formatter)}
    (h : ∀ entry ∈ entries, entry.2.Untouched template args) (multi : Bool) (store : Store) :
    (run multi args entries template).run store = (.ok template, store) := by
  induction entries with
  | nil => rfl
  | cons entry entries ih =>
    obtain ⟨name, f⟩ := entry
    have hf := h (name, f) List.mem_cons_self store
    rw [run, Action.run_bind_ok hf]
    exact ih fun entry hentry => h entry (List.mem_cons_of_mem _ hentry)

/-- **Which templates match.** A brace formatter, whatever its transformers, reports a match exactly if the
template has doubled braces or a closing brace behind an opening one. A percent formatter, whatever its
rules and whatever they make of the line, reports one exactly if a rule recognises one of the directives
that have an argument. If the report is no match, the output is the template, and no call on such a template
fails. So the default engine returns a template that neither of the two matches, in either mode. -/
theorem format_matched (template : String) (args : List Value) :
    (∀ transformers,
      (Formatter.brace transformers).MatchesIff template args (Brace.HasBraces template.toList)) ∧
    (∀ rules, (Formatter.percent rules).MatchesIff template args
      (Percent.Recognizes rules args.length template.toList)) ∧
    (¬ Brace.HasBraces template.toList →
      ¬ Percent.Recognizes (.ofList builtinRules) args.length template.toList →
      ∀ multi store, ((default.setMulti multi).format template args).run store = (.ok template, store)) := by
  have hbrace : ∀ transformers,
      (Formatter.brace transformers).MatchesIff template args (Brace.HasBraces template.toList) := by
    intro transformers
    refine .of_untouched (fun _ _ _ hrun => Brace.matched_iff_hasBraces hrun) fun hnot => ?_
    exact Formatter.untouched_of_format_eq (Brace.format_eq_of_not_hasBraces hnot transformers args)
  have hpercent : ∀ rules, (Formatter.percent rules).MatchesIff template args
      (Percent.Recognizes rules args.length template.toList) := by
    intro rules
    refine .of_untouched (fun _ _ _ hrun => Percent.matched_iff_recognizes hrun) fun hnot => ?_
    exact Formatter.untouched_of_format_eq (Percent.format_eq_of_not_recognizes hnot)
  refine ⟨hbrace, hpercent, fun hbraces hdirectives multi store => ?_⟩
  -- Neither formatter of the default chain changes the text, so each is given the template itself.
  have hentries : (default.setMulti multi).formatters.entries =
      [(Formatter.braceName, .braceDefault), (Formatter.percentName, .percentDefault)] := rfl
  rw [format, hentries]
  refine run_of_untouched (fun entry hentry => ?_) multi store
  simp only [List.mem_cons, List.not_mem_nil, or_false] at hentry
  rcases hentry with rfl | rfl
  · exact (hbrace _).untouched hbraces
  · exact (hpercent _).untouched hdirectives

end Engine

end Stencil
