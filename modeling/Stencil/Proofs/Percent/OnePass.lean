import Stencil.Percent
import Stencil.Proofs.Action
import Stencil.Proofs.Pattern

/-!
# Percent templates in one pass

`Percent.format` works on a line that changes at every step, and finds its place again by byte
offsets. For rules that put a text in place of the directive (`DirectiveRule.Splices`) it does what
one pass over the untouched template does (`onePass`): the template is cut at its directives, the
directives take the arguments in order, and what a rule inserts is not looked at again.

* `first?_directive`, `cut_of_next?`: the reader of directives finds what the pattern
  `%[.#0-9-]*[a-zA-Z]` matches.
* `splice_eq`, `cutBytes_resumeAt`: one substitution, and the place where reading goes on.
* `fill_eq`: the invariant. What has been read stays, and the rest of the line is a part of the
  template.
* `builtinRules_splice`: the built-in rules are of this kind.
-/

namespace Stencil

/-- The rule puts a text in place of the directive. The text, or the failure to give one, depends on
the body of the directive and the argument. -/
def DirectiveRule.Splices (rule : DirectiveRule) (text : String → Value → Action String) : Prop :=
  ∀ (d : Directive) (line : String) (arg : Value), rule.recognize d.body = some d.captures →
    rule.substitute d line arg = d.splice line <$> text d.body arg

namespace Percent

/-! ## The reference -/

/-- `[.#0-9-]` -/
def flagClass (c : Char) : Bool := c == '.' || c == '#' || c.isDigit || c == '-'

/-- `%[.#0-9-]*[a-zA-Z]`, with all but the `%` in group 1. -/
def directivePattern : Pattern :=
  .seq (.single '%') (.group 1 (.seq (.most flagClass) (.char Char.isAlpha)))

/-- The fragments of a template with the directives replaced, and whether one has been. Directives
take the arguments in order; `text` gives the text of the rule with a name for a body and an
argument. -/
def replaceFragments (rules : Registry DirectiveRule)
    (text : String → String → Value → Action String) :
    List Fragment → List Value → Action (List Char × Bool)
  | [], _ => pure ([], false)
  | .found m :: rest, arg :: args => do
    let body := String.ofList ((m.group 1).getD [])
    match rules.entries.find? fun entry => (entry.2.recognize body).isSome with
    | some entry =>
      let inserted ← text entry.1 body arg
      let (output, _) ← replaceFragments rules text rest args
      pure (inserted.toList ++ output, true)
    | none =>
      let (output, matched) ← replaceFragments rules text rest args
      pure (m.text ++ output, matched)
  | fragment :: rest, args => do
    let (output, matched) ← replaceFragments rules text rest args
    pure (fragment.source ++ output, matched)

/-- The template with its directives replaced, in one pass. -/
def onePass (rules : Registry DirectiveRule) (text : String → String → Value → Action String)
    (template : String) (args : List Value) : Action Formatted := do
  let (output, matched) ←
    replaceFragments rules text (directivePattern.cut template.toList) args
  pure ⟨matched, String.ofList output⟩

/-! ## Cutting at directives -/

theorem flagClass_eq : flagClass = Directive.isFlag := by
  funext c
  simp only [flagClass, Directive.isFlag, Bool.or_assoc, Bool.or_comm c.isDigit]

theorem isAlpha_of_isDigit {c : Char} (h : c.isDigit = true) : c.isAlpha = false := by
  have hdigit : c.toNat ≤ 57 := (Char.isDigit_iff_toNat.mp h).2
  have hupper : c.isUpper = false := by
    refine decide_eq_false fun hc => ?_
    have hle : 65 ≤ c.toNat := UInt32.le_iff_toNat_le.mp hc.1
    omega
  have hlower : c.isLower = false := by
    show (decide (97 ≤ c.toNat) && decide (c.toNat ≤ 122)) = false
    rw [decide_eq_false (by omega), Bool.false_and]
  show (c.isUpper || c.isLower) = false
  rw [hupper, hlower, Bool.or_false]

theorem isAlpha_of_flagClass {c : Char} (h : flagClass c = true) : c.isAlpha = false := by
  simp only [flagClass, Bool.or_eq_true, beq_iff_eq] at h
  rcases h with ((rfl | rfl) | h) | rfl
  · rfl
  · rfl
  · exact isAlpha_of_isDigit h
  · rfl

/-- The pattern matches where the reader of directives finds a body. -/
theorem first?_directive (c : Char) (rest : List Char) :
    directivePattern.first? (c :: rest) =
      (if c = '%' then Directive.bodyAt? rest else none).map fun parts =>
        ⟨'%' :: parts.1, [(1, parts.1)], parts.2⟩ := by
  by_cases hc : c = '%'
  · subst hc
    have hways : directivePattern.ways ('%' :: rest) =
        ((Pattern.seq (.most flagClass) (.char Char.isAlpha)).ways rest).map fun m =>
          ⟨'%' :: m.text, (1, m.text) :: m.groups, m.rest⟩ :=
      (List.append_nil _).trans List.map_map
    rw [Pattern.first?, hways, Pattern.ways_most_char @isAlpha_of_flagClass, flagClass_eq,
      if_pos rfl, Directive.bodyAt?]
    rcases rest.dropWhile Directive.isFlag with _ | ⟨letter, after⟩
    · rfl
    · by_cases hl : letter.isAlpha = true <;> simp [hl]
  · have hways : directivePattern.ways (c :: rest) = [] := by
      simp [directivePattern, Pattern.ways_seq_single hc]
    rw [Pattern.first?, hways, if_neg hc]
    rfl

/-- A text without directives is cut into characters. -/
theorem cut_of_next?_none {cs : List Char} (h : Directive.next? cs = none) :
    directivePattern.cut cs = cs.map .other := by
  induction cs with
  | nil => exact Pattern.cut_nil _
  | cons c rest ih =>
    simp only [Directive.next?] at h
    split at h
    · cases h
    · rename_i hbody
      have hfirst : directivePattern.first? (c :: rest) = none := by
        rw [first?_directive, hbody]; rfl
      rw [Pattern.cut_cons_none hfirst, ih (Option.map_eq_none_iff.mp h), List.map_cons]

/-- A text with a directive is cut at its first one. -/
theorem cut_of_next? {cs : List Char} {cut : Directive.Cut} (h : Directive.next? cs = some cut) :
    directivePattern.cut cs = cut.before.map .other ++
      .found ⟨'%' :: cut.body, [(1, cut.body)], cut.after⟩ :: directivePattern.cut cut.after := by
  induction cs generalizing cut with
  | nil => cases h
  | cons c rest ih =>
    simp only [Directive.next?] at h
    split at h
    · rename_i body after hbody
      cases h
      have hfirst : directivePattern.first? (c :: rest) = some ⟨'%' :: body, [(1, body)], after⟩ := by
        rw [first?_directive, hbody]; rfl
      exact Pattern.cut_cons_some hfirst (List.cons_ne_nil _ _)
    · rename_i hbody
      obtain ⟨inner, hinner, rfl⟩ := Option.map_eq_some_iff.mp h
      have hfirst : directivePattern.first? (c :: rest) = none := by
        rw [first?_directive, hbody]; rfl
      rw [Pattern.cut_cons_none hfirst, ih hinner, List.map_cons, List.cons_append]

/-! ## Replacing fragments -/

section Fragments

variable {rules : Registry DirectiveRule} {text : String → String → Value → Action String}

/-- Without arguments nothing is replaced. -/
theorem replaceFragments_no_args (fragments : List Fragment) :
    replaceFragments rules text fragments [] = pure (fragments.flatMap Fragment.source, false) := by
  induction fragments with
  | nil => rfl
  | cons fragment rest ih =>
    cases fragment <;> simp only [replaceFragments, ih, pure_bind, List.flatMap_cons]

/-- Characters outside directives stay. -/
theorem replaceFragments_other_append (cs : List Char) (fragments : List Fragment)
    (args : List Value) :
    replaceFragments rules text (cs.map .other ++ fragments) args =
      (fun result => (cs ++ result.1, result.2)) <$> replaceFragments rules text fragments args := by
  induction cs with
  | nil => simp
  | cons c cs ih =>
    simp [List.map_cons, replaceFragments, Fragment.source, ih]

theorem firstRule?_eq_none {body : String} (h : firstRule? rules body = none) :
    rules.entries.find? (fun entry => (entry.2.recognize body).isSome) = none := by
  rw [firstRule?, List.findSome?_eq_none_iff] at h
  rw [List.find?_eq_none]
  intro entry hentry
  simpa using h entry hentry

theorem firstRule?_eq_some {body : String} {rule : DirectiveRule}
    {captures : List (Option String)} (h : firstRule? rules body = some (rule, captures)) :
    rule.recognize body = some captures ∧ ∃ entry ∈ rules.entries, entry.2 = rule ∧
      rules.entries.find? (fun entry => (entry.2.recognize body).isSome) = some entry := by
  rw [firstRule?] at h
  generalize rules.entries = entries at h ⊢
  induction entries with
  | nil => cases h
  | cons entry rest ih =>
    rw [List.findSome?_cons] at h
    cases hrec : entry.2.recognize body with
    | none =>
      rw [hrec] at h
      obtain ⟨hcap, found, hmem, heq, hfind⟩ := ih h
      refine ⟨hcap, found, List.mem_cons_of_mem _ hmem, heq, ?_⟩
      rw [List.find?_cons_of_neg (by simp [hrec]), hfind]
    | some caps =>
      rw [hrec] at h
      cases h
      exact ⟨hrec, entry, List.mem_cons_self, rfl, List.find?_cons_of_pos (by simp [hrec])⟩

end Fragments

/-! ## One substitution -/

/-- A directive is replaced between what stands before and after it. -/
theorem splice_eq (before body after : List Char) (captures : List (Option String))
    (text : String) :
    Directive.splice ⟨String.ofList body, Text.byteLength before,
        Text.byteLength before + 1 + Text.byteLength body, captures⟩
      (String.ofList (before ++ '%' :: (body ++ after))) text =
        String.ofList (before ++ text.toList ++ after) := by
  have hstop : Text.splitBytes? (before ++ '%' :: (body ++ after))
      (Text.byteLength before + 1 + Text.byteLength body) =
        some (before ++ '%' :: body, after) := by
    have h := Text.splitBytes?_byteLength (before ++ '%' :: body) after
    have hsize : '%'.utf8Size = 1 := rfl
    rw [Text.byteLength_append, Text.byteLength_cons, hsize, ← Nat.add_assoc] at h
    simpa using h
  simp only [Directive.splice, String.toList_ofList, Text.splitBytes?_byteLength, hstop]

/-- Reading goes on behind the text that has been inserted. -/
theorem cutBytes_resumeAt (old new after : List Char) :
    Text.cutBytes (new ++ after) (resumeAt (Text.byteLength old) (old ++ after) (new ++ after)) =
      (new, after) := by
  have hresume : resumeAt (Text.byteLength old) (old ++ after) (new ++ after) =
      Text.byteLength new := by
    simp only [resumeAt, Text.byteLength_append]; omega
  rw [hresume, Text.cutBytes_byteLength]

/-- One substitution, with what is done after it: the text that the rule gives ends up between what
has been read and the rest of the line. -/
theorem substitute_bind {β : Type} {rule : DirectiveRule} {text : String → Value → Action String}
    (h : rule.Splices text) {body : List Char} {captures : List (Option String)}
    (hcap : rule.recognize (String.ofList body) = some captures) (before after : List Char)
    (arg : Value) (next : List Char × List Char → Action β) :
    (do
      let new ← rule.substitute ⟨String.ofList body, Text.byteLength before,
        Text.byteLength before + 1 + Text.byteLength body, captures⟩
        (String.ofList (before ++ '%' :: (body ++ after))) arg
      next (Text.cutBytes new.toList (resumeAt (Text.byteLength before + 1 + Text.byteLength body)
        (before ++ '%' :: (body ++ after)) new.toList))) =
      (do
        let inserted ← text (String.ofList body) arg
        next (before ++ inserted.toList, after)) := by
  rw [h _ _ _ hcap, bind_map_left]
  refine bind_congr fun inserted => congrArg next ?_
  have hstop : Text.byteLength before + 1 + Text.byteLength body =
      Text.byteLength (before ++ '%' :: body) := by
    rw [Text.byteLength_append, Text.byteLength_cons, Nat.add_assoc]; rfl
  have hline : before ++ '%' :: (body ++ after) = before ++ '%' :: body ++ after := by simp
  rw [splice_eq, String.toList_ofList, hstop, hline, cutBytes_resumeAt]

/-- **The invariant of `fill`.** What has been read stays, and the rest of the line, which is still as
in the template, is replaced fragment by fragment. -/
theorem fill_eq {rules : Registry DirectiveRule} {text : String → String → Value → Action String}
    (h : ∀ entry ∈ rules.entries, entry.2.Splices (text entry.1)) (done rest : List Char)
    (matched : Bool) (args : List Value) :
    fill rules done rest matched args =
      (fun result => (done ++ result.1, matched || result.2)) <$>
        replaceFragments rules text (directivePattern.cut rest) args := by
  -- Each argument takes one directive, so the induction is on the arguments; when they are used up,
  -- what is left of the template is not touched.
  induction args generalizing done rest matched with
  | nil =>
    rw [replaceFragments_no_args, Pattern.cut_source, fill, map_pure, Bool.or_false]
  | cons arg args ih =>
    rw [fill]
    cases hnext : Directive.next? rest with
    | none =>
      rw [cut_of_next?_none hnext, ← List.append_nil (rest.map _), replaceFragments_other_append]
      simp [replaceFragments]
    | some cut =>
      rw [cut_of_next? hnext, replaceFragments_other_append]
      dsimp only
      cases hrule : firstRule? rules (String.ofList cut.body) with
      | none =>
        simp only [replaceFragments]
        simp [Match.group, firstRule?_eq_none hrule, ih]
      | some found =>
        obtain ⟨rule, captures⟩ := found
        obtain ⟨hcap, entry, hmem, rfl, hfind⟩ := firstRule?_eq_some hrule
        have hline : done ++ rest = done ++ cut.before ++ '%' :: (cut.body ++ cut.after) := by
          rw [List.append_assoc, ← Directive.next?_eq hnext]
        dsimp only
        rw [hline, substitute_bind (h entry hmem) hcap (done ++ cut.before) cut.after arg
          fun parts => fill rules parts.1 parts.2 true args]
        simp [replaceFragments, Match.group, hfind, ih]

/-! ## The built-in rules -/

/-- The text of a built-in rule for a body and an argument. -/
def builtinText (recognize : String → Option (List (Option String))) (text : Directive.TextOf)
    (body : String) (arg : Value) : Action String := do
  ofExcept (String.ofList <$>
    text ⟨body, 0, 0, (recognize body).getD []⟩ (← get).heap arg)

/-- A built-in rule whose text does not depend on where the directive stands puts that text in place
of the directive. -/
theorem builtin_splices {recognize : String → Option (List (Option String))}
    {text : Directive.TextOf}
    (h : ∀ d heap arg, text d heap arg = text { d with start := 0, stop := 0 } heap arg) :
    (DirectiveRule.builtin recognize text).Splices (builtinText recognize text) := by
  intro d line arg hcap
  have hd : (⟨d.body, 0, 0, (recognize d.body).getD []⟩ : Directive) =
      { d with start := 0, stop := 0 } := by
    have hcap : recognize d.body = some d.captures := hcap
    rw [hcap]; rfl
  simp only [DirectiveRule.builtin, DirectiveRule.ofText, builtinText, hd, h d, map_bind,
    bind_pure_comp]

/-- All built-in rules put a text in place of the directive. -/
theorem builtinRules_splice : ∀ entry ∈ builtinRules, ∃ text, entry.2.Splices text := by
  simp only [builtinRules, List.forall_mem_cons]
  refine ⟨?_, ?_, ?_, ?_, ?_, ?_, ?_, ?_, ?_, ?_, ?_, by simp⟩ <;>
    exact ⟨_, builtin_splices fun _ _ _ => rfl⟩

/-! ## The main result -/

/-- **One pass.** Let every rule of a registry put a text in place of the directive, as the built-in
rules do. Then replacing the directives of a changing line one by one is the same as replacing the
directives of the template in one pass: with the same output, the same failure and the same store. -/
theorem format_eq_onePass :
    (∀ entry ∈ builtinRules, ∃ text, entry.2.Splices text) ∧
    ∀ (rules : Registry DirectiveRule) (text : String → String → Value → Action String),
      (∀ entry ∈ rules.entries, entry.2.Splices (text entry.1)) →
      ∀ (template : String) (args : List Value),
        format rules template args = onePass rules text template args := by
  refine ⟨builtinRules_splice, fun rules text h template args => ?_⟩
  rw [format, onePass, fill_eq h]
  simp

/-- The text `a%` is not read again, although a `d` follows it. -/
theorem onePass_inserted_percent :
    let recognize := Directive.recognizeLetter ['d', 's']
    let rules : Registry DirectiveRule :=
      .ofList [("string-int-parser", .builtin recognize Directive.plainText)]
    let text := fun _ : String => builtinText recognize Directive.plainText
    (∀ entry ∈ rules.entries, entry.2.Splices (text entry.1)) ∧
      format rules "%sd" [.text "a%", .integer 7] =
        onePass rules text "%sd" [.text "a%", .integer 7] ∧
      (onePass rules text "%sd" [.text "a%", .integer 7]).run Store.empty =
        (.ok ⟨true, "a%d"⟩, Store.empty) := by
  intro recognize rules text
  have h : ∀ entry ∈ rules.entries, entry.2.Splices (text entry.1) := by
    intro entry hentry
    rw [List.mem_singleton.mp hentry]
    exact builtin_splices fun _ _ _ => rfl
  have heq := format_eq_onePass.2 rules text h "%sd" [.text "a%", .integer 7]
  refine ⟨h, heq, ?_⟩
  rw [← heq]
  rfl

end Percent

end Stencil
