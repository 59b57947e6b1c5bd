import Mathlib.Data.List.Nodup
import Stencil.Formatter
import Stencil.Proofs.Directive.Form
import Stencil.Proofs.Percent.OnePass

/-!
# The order of the built-in rules

The first rule that recognises a directive replaces it. No body is recognised by two of the built-in
rules, so their order does not matter. Without some of them, the directives that were theirs stay as they
are, each with its argument dropped, and all others are replaced as before.

* `entry_unique`: at most one built-in rule recognises a body.
* `find?_without`: which rule takes a directive when some of the rules are left out.
* `retire`: the template with some of its directives taken for plain text, and the other arguments.
* `replaceFragments_without`: leaving out rules is retiring their directives.
* `format_builtin`: the main result.
-/

namespace Stencil.Percent

/-! ## One rule for a body -/

/-- At most one built-in rule recognises a body. -/
theorem entry_unique {a b : String × DirectiveRule} (ha : a ∈ builtinRules) (hb : b ∈ builtinRules)
    {body : String} (hbody : (a.2.recognize body).isSome = true)
    (hbody' : (b.2.recognize body).isSome = true) : a = b := by
  have hnames : (builtinRules.map Prod.fst).Nodup := by decide
  obtain ⟨form, pattern, hform, ha'⟩ := Directive.exists_builtinForm a ha
  obtain ⟨form', pattern', hform', hb'⟩ := Directive.exists_builtinForm b hb
  have hname : a.1 = b.1 :=
    Directive.eq_of_hasForm hform hform' ((ha' body).1.mp hbody) ((hb' body).1.mp hbody')
  exact List.inj_on_of_nodup_map hnames ha hb hname

/-- The built-in rule that recognises a body is found in every list of built-in rules that has it. -/
theorem find?_of_mem {entries : List (String × DirectiveRule)} (hentries : entries ⊆ builtinRules)
    {entry : String × DirectiveRule} (hmem : entry ∈ entries) {body : String}
    (hbody : (entry.2.recognize body).isSome = true) :
    entries.find? (fun entry => (entry.2.recognize body).isSome) = some entry := by
  cases hfound : entries.find? fun entry => (entry.2.recognize body).isSome with
  | none => exact absurd hbody (List.find?_eq_none.mp hfound entry hmem)
  | some other =>
    have hother := hentries (List.mem_of_find?_eq_some hfound)
    have hbody' := List.find?_some hfound
    rw [entry_unique hother (hentries hmem) hbody' hbody]

/-- The built-in rules in their order. -/
def builtin : Registry DirectiveRule := .ofList builtinRules

theorem entries_builtin : builtin.entries = builtinRules := rfl

/-- A body that a built-in rule recognises is a directive of this rule. -/
theorem firstRule?_builtin {entry : String × DirectiveRule} (hmem : entry ∈ builtinRules)
    {body : String} {captures : List (Option String)}
    (hcap : entry.2.recognize body = some captures) :
    firstRule? builtin body = some (entry.2, captures) := by
  have hfind := find?_of_mem (List.Subset.refl builtinRules) hmem (Option.isSome_of_eq_some hcap)
  cases h : firstRule? builtin body with
  | none =>
    have hnone := firstRule?_eq_none h
    rw [entries_builtin, hfind] at hnone
    cases hnone
  | some found =>
    obtain ⟨hcap', other, -, hrule, hfind'⟩ := firstRule?_eq_some h
    rw [entries_builtin, hfind] at hfind'
    obtain rfl := Option.some.inj hfind'
    rw [hrule, hcap'] at hcap
    rw [hrule, ← Option.some.inj hcap]

/-- A template that is one directive of a built-in rule becomes the text that the rule gives, and fails as
the rule does. -/
theorem run_format_directive {name : String} {recognize : String → Option (List (Option String))}
    {text : Directive.TextOf} (hmem : (name, .builtin recognize text) ∈ builtinRules)
    (hplace : ∀ d heap arg, text d heap arg = text { d with start := 0, stop := 0 } heap arg)
    {body : List Char} (hnext : Directive.next? ('%' :: body) = some ⟨[], body, []⟩)
    {captures : List (Option String)} (hcap : recognize (String.ofList body) = some captures)
    (arg : Value) (store : Store) :
    (format builtin (String.ofList ('%' :: body)) [arg]).run store =
      ((text ⟨String.ofList body, 0, 0, captures⟩ store.heap arg).map fun cs => ⟨true, String.ofList cs⟩,
        store) := by
  have hrule := firstRule?_builtin hmem hcap
  have hrun : (builtinText recognize text (String.ofList body) arg).run store =
      ((text ⟨String.ofList body, 0, 0, captures⟩ store.heap arg).map String.ofList, store) := by
    rw [builtinText, Action.run_bind_ok (Action.run_get store), hcap, Option.getD_some]
    rcases text ⟨String.ofList body, 0, 0, captures⟩ store.heap arg with e | cs <;> rfl
  have hbind := substitute_bind (builtin_splices hplace) hcap [] [] arg
    fun parts => fill builtin parts.1 parts.2 true []
  -- The line is read up to its one directive, and then from behind what stands for it, where nothing is left.
  have hfill : fill builtin [] ('%' :: body) false [arg] = (do
      let inserted ← builtinText recognize text (String.ofList body) arg
      fill builtin ([] ++ inserted.toList) [] true []) := by
    rw [fill, hnext]
    simp only [hrule]
    rw [← hbind]
    simp only [List.nil_append, List.append_nil]
  rw [format, String.toList_ofList, hfill, bind_assoc]
  rcases htext : text ⟨String.ofList body, 0, 0, captures⟩ store.heap arg with e | cs <;> rw [htext] at hrun
  · rw [Action.run_bind_error hrun]
    rfl
  · rw [Action.run_bind_ok hrun]
    simp [fill, Except.map]

/-- One of the named built-in rules recognises the body. -/
def isOf (names : List String) (body : String) : Bool :=
  builtinRules.any fun entry => names.contains entry.1 && (entry.2.recognize body).isSome

/-- The rules are the built-in ones without the named ones, in any order. -/
def IsWithout (names : List String) (rules : Registry DirectiveRule) : Prop :=
  rules.entries.Perm (builtinRules.filter fun entry => !names.contains entry.1)

section

variable {names : List String} {rules : Registry DirectiveRule}

theorem IsWithout.mem_iff (h : IsWithout names rules) {entry : String × DirectiveRule} :
    entry ∈ rules.entries ↔ entry ∈ builtinRules ∧ entry.1 ∉ names := by
  rw [List.Perm.mem_iff h, List.mem_filter]
  simp

/-- A directive of a rule that is left out has no rule, and any other has the rule that it had. -/
theorem IsWithout.find? (h : IsWithout names rules) (body : String) :
    rules.entries.find? (fun entry => (entry.2.recognize body).isSome) =
      if isOf names body then none
      else builtin.entries.find? fun entry => (entry.2.recognize body).isSome := by
  have hsub : rules.entries ⊆ builtinRules := fun entry hentry => (h.mem_iff.mp hentry).1
  split
  · rename_i hof
    obtain ⟨entry, hentry, hof⟩ := List.any_eq_true.mp hof
    obtain ⟨hname, hbody⟩ := Bool.and_eq_true_iff.mp hof
    rw [List.find?_eq_none]
    intro other hother hbody'
    -- No two rules recognise one body, so leaving one out uncovers no other.
    have hsame := entry_unique (hsub hother) hentry hbody' hbody
    exact (h.mem_iff.mp hother).2 (hsame ▸ List.contains_iff_mem.mp hname)
  · rename_i hof
    rw [entries_builtin]
    cases hfound : builtinRules.find? fun entry => (entry.2.recognize body).isSome with
    | none =>
      rw [List.find?_eq_none] at hfound ⊢
      exact fun entry hentry => hfound entry (hsub hentry)
    | some entry =>
      have hmem := List.mem_of_find?_eq_some hfound
      have hbody := List.find?_some hfound
      refine find?_of_mem hsub (h.mem_iff.mpr ⟨hmem, fun hname => hof ?_⟩) hbody
      exact List.any_eq_true.mpr ⟨entry, hmem,
        Bool.and_eq_true_iff.mpr ⟨List.contains_iff_mem.mpr hname, hbody⟩⟩

end

/-! ## Directives taken for plain text -/

/-- The body of a directive that has been found. -/
def bodyOf (m : Match) : String := String.ofList ((m.group 1).getD [])

/-- The fragments of a template with some of its directives taken for plain text, and the arguments
without theirs. Directives take the arguments in order. -/
def retire (retired : String → Bool) : List Fragment → List Value → List Fragment × List Value
  | .found m :: rest, arg :: args =>
    let (fragments, kept) := retire retired rest args
    if retired (bodyOf m) then (m.text.map .other ++ fragments, kept)
    else (.found m :: fragments, arg :: kept)
  | .other c :: rest, args =>
    let (fragments, kept) := retire retired rest args
    (.other c :: fragments, kept)
  | fragments, args => (fragments, args)

/-- The bodies of the directives that take an argument. -/
def takers : List Fragment → List Value → List String
  | .found m :: rest, _ :: args => bodyOf m :: takers rest args
  | .other _ :: rest, args => takers rest args
  | _, _ => []

/-- Without directives to retire everything stays. -/
theorem retire_eq_self {retired : String → Bool} (fragments : List Fragment) (args : List Value)
    (h : ∀ body ∈ takers fragments args, retired body = false) :
    retire retired fragments args = (fragments, args) := by
  fun_induction retire retired fragments args with
  | case1 m rest arg args fragments kept hrest hretired ih =>
    exact absurd hretired (by rw [h _ List.mem_cons_self]; exact Bool.false_ne_true)
  | case2 m rest arg args fragments kept hrest hretired ih =>
    rw [hrest] at ih
    obtain ⟨rfl, rfl⟩ := Prod.mk.inj (ih fun body hbody => h body (List.mem_cons_of_mem _ hbody))
    rfl
  | case3 c rest args fragments kept hrest ih =>
    rw [hrest] at ih
    obtain ⟨rfl, rfl⟩ := Prod.mk.inj (ih h)
    rfl
  | case4 => rfl

/-- Without some of the rules, their directives are plain text, and no argument is theirs. -/
theorem replaceFragments_without {names : List String} {rules : Registry DirectiveRule}
    (h : IsWithout names rules) (text : String → String → Value → Action String)
    (fragments : List Fragment) (args : List Value) :
    replaceFragments rules text fragments args =
      replaceFragments builtin text (retire (isOf names) fragments args).1
        (retire (isOf names) fragments args).2 := by
  -- The cases of `retire`: a directive that is left out, one that is kept, a character, and nothing to do.
  fun_induction retire (isOf names) fragments args with
  | case1 m rest arg args fragments kept hrest hretired ih =>
    rw [hrest] at ih
    have hnone := h.find? (bodyOf m)
    rw [if_pos hretired] at hnone
    rw [replaceFragments_other_append, ← ih]
    simp only [replaceFragments]
    rw [bodyOf] at hnone
    rw [hnone]
    rfl
  | case2 m rest arg args fragments kept hrest hretired ih =>
    rw [hrest] at ih
    have hsame := h.find? (bodyOf m)
    rw [if_neg hretired] at hsame
    simp only [replaceFragments]
    rw [bodyOf] at hsame
    rw [hsame, ih]
  | case3 c rest args fragments kept hrest ih =>
    rw [hrest] at ih
    simp only [replaceFragments, ih]
  | case4 fragments args hfound hother =>
    cases fragments with
    | nil => rfl
    | cons fragment rest =>
      cases fragment with
      | other c => exact absurd rfl (hother c rest)
      | found m =>
        cases args with
        | nil => rw [replaceFragments_no_args, replaceFragments_no_args]
        | cons arg args => exact (hfound m rest arg args rfl rfl).elim

/-! ## The main result -/

/-- The texts that the built-in rules put in place of directives, by the names of the rules. -/
theorem exists_builtinTexts : ∃ text : String → String → Value → Action String,
    ∀ entry ∈ builtinRules, entry.2.Splices (text entry.1) := by
  have hnames : (builtinRules.map Prod.fst).Nodup := by decide
  have hname : ∀ name, ∃ text : String → Value → Action String,
      ∀ entry ∈ builtinRules, entry.1 = name → entry.2.Splices text := by
    intro name
    by_cases hname : ∃ entry ∈ builtinRules, entry.1 = name
    · obtain ⟨entry, hentry, rfl⟩ := hname
      obtain ⟨text, htext⟩ := builtinRules_splice entry hentry
      refine ⟨text, fun other hother heq => ?_⟩
      rw [List.inj_on_of_nodup_map hnames hother hentry heq]
      exact htext
    · exact ⟨fun _ _ => pure "", fun entry hentry heq => absurd ⟨entry, hentry, heq⟩ hname⟩
  obtain ⟨text, htext⟩ := Classical.axiomOfChoice hname
  exact ⟨text, fun entry hentry => htext entry.1 entry hentry rfl⟩

theorem IsWithout.splices {names : List String} {rules : Registry DirectiveRule}
    (h : IsWithout names rules) {text : String → String → Value → Action String}
    (htext : ∀ entry ∈ builtinRules, entry.2.Splices (text entry.1)) :
    ∀ entry ∈ rules.entries, entry.2.Splices (text entry.1) :=
  fun entry hentry => htext entry (h.mem_iff.mp hentry).1

/-- The template with its directives replaced by the built-in rules, from its fragments. -/
def formatFragments (text : String → String → Value → Action String) (fragments : List Fragment)
    (args : List Value) : Action Formatted := do
  let (output, matched) ← replaceFragments builtin text fragments args
  pure ⟨matched, String.ofList output⟩

theorem IsWithout.format_eq {names : List String} {rules : Registry DirectiveRule}
    (h : IsWithout names rules) {text : String → String → Value → Action String}
    (htext : ∀ entry ∈ builtinRules, entry.2.Splices (text entry.1)) (template : String)
    (args : List Value) :
    format rules template args =
      formatFragments text (retire (isOf names) (directivePattern.cut template.toList) args).1
        (retire (isOf names) (directivePattern.cut template.toList) args).2 := by
  rw [format, fill_eq (h.splices htext), formatFragments, replaceFragments_without h]
  simp

theorem isOf_nil (body : String) : isOf [] body = false :=
  List.any_eq_false.mpr (by simp)

/-- **The order of the built-in rules.** Every built-in rule recognises the bodies that its pattern
matches, and no two recognise the same body. So in any order they give the same result, with the same
failures and the same stores. Without some of the rules, the result is that of the template in which
their directives are plain text, with the arguments of these directives dropped: it is as with all the
rules, unless one of these directives takes an argument. -/
theorem format_builtin :
    (∀ entry ∈ builtinRules, ∃ form pattern, (entry.1, form, pattern) ∈ Directive.builtinForms ∧
      ∀ body, (entry.2.recognize body).isSome = true ↔ pattern.MatchesAll body.toList) ∧
    (∀ body, ∀ a ∈ builtinRules, ∀ b ∈ builtinRules, (a.2.recognize body).isSome = true →
      (b.2.recognize body).isSome = true → a = b) ∧
    (∀ rules : Registry DirectiveRule, rules.entries.Perm builtinRules →
      ∀ template args, format rules template args = format builtin template args) ∧
    ∃ text : String → String → Value → Action String,
      (∀ entry ∈ builtinRules, entry.2.Splices (text entry.1)) ∧
      ∀ (names : List String) (rules : Registry DirectiveRule), IsWithout names rules →
        ∀ (template : String) (args : List Value),
          let fragments := directivePattern.cut template.toList
          format rules template args =
            formatFragments text (retire (isOf names) fragments args).1
              (retire (isOf names) fragments args).2 ∧
          ((∀ body ∈ takers fragments args, isOf names body = false) →
            format rules template args = format builtin template args) := by
  obtain ⟨text, htext⟩ := exists_builtinTexts
  have hall : ∀ rules : Registry DirectiveRule, rules.entries.Perm builtinRules →
      IsWithout [] rules := fun rules h => by
    rw [IsWithout, List.filter_eq_self.mpr (by simp)]
    exact h
  -- Nothing is retired for the built-in rules themselves.
  have hself : ∀ {rules : Registry DirectiveRule}, IsWithout [] rules → ∀ template args,
      format rules template args = formatFragments text (directivePattern.cut template.toList) args := by
    intro rules h template args
    rw [h.format_eq htext, retire_eq_self _ _ fun body _ => isOf_nil body]
  have hbuiltin := hself (hall builtin (.refl _))
  refine ⟨fun entry hentry => ?_, fun body a ha b hb => entry_unique ha hb, fun rules h template args =>
    (hself (hall rules h) template args).trans (hbuiltin template args).symm, text, htext,
    fun names rules h template args => ⟨h.format_eq htext template args, fun htakers => ?_⟩⟩
  · obtain ⟨form, pattern, hform, hrec⟩ := Directive.exists_builtinForm entry hentry
    exact ⟨form, pattern, hform, fun body => (hrec body).1.trans (hrec body).2.symm⟩
  · rw [hbuiltin, h.format_eq htext, retire_eq_self _ _ htakers]

/-- The rules in reverse, and without the rule of `%f`, give `%d` the same text. -/
theorem format_builtin_reversed :
    let reversed : Registry DirectiveRule := .ofList builtinRules.reverse
    let rules : Registry DirectiveRule :=
      .ofList (builtinRules.filter fun entry => !(["float-parser"].contains entry.1))
    reversed.entries.Perm builtinRules ∧ IsWithout ["float-parser"] rules ∧
      (∀ body ∈ takers (directivePattern.cut "%d %f".toList) [.integer 7],
        isOf ["float-parser"] body = false) ∧
      format reversed "%d %f" [.integer 7] = format builtin "%d %f" [.integer 7] ∧
      format rules "%d %f" [.integer 7] = format builtin "%d %f" [.integer 7] := by
  intro reversed rules
  have hreversed : reversed.entries.Perm builtinRules := List.reverse_perm builtinRules
  have hrules : IsWithout ["float-parser"] rules := .refl _
  have htakers : ∀ body ∈ takers (directivePattern.cut "%d %f".toList) [.integer 7],
      isOf ["float-parser"] body = false := by
    decide +kernel
  obtain ⟨-, -, hperm, text, -, hwithout⟩ := format_builtin
  exact ⟨hreversed, hrules, htakers, hperm reversed hreversed _ _,
    (hwithout _ rules hrules _ _).2 htakers⟩

end Stencil.Percent
