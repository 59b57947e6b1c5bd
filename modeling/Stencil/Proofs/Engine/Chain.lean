import Mathlib.Data.List.Basic
import Stencil.Engine
import Stencil.Proofs.Action

/-!
# The calls of an engine

An engine calls formatters. `IsTrace` says which calls those of a template are, from the whole list of
them: whom they call, with which text and in which store, and where the list ends.

* `Call`: a call of a formatter with its outcome and the store that it leaves.
* `textAfter`, `storeAfter`, `outcomeOf`: what a list of calls comes to.
* `IsTrace`: the calls are those of a chain on a template.
* `isTrace_cons`: the first call, and the calls of the rest of the chain on what it leaves.
* `format_trace`: there is one trace, and `Engine.format` comes to what its calls come to.
-/

namespace Stencil.Engine

/-- The formatters of an engine, in the order in which they were added. -/
def chain (e : Engine) : List Formatter := e.formatters.entries.map Prod.snd

/-- A call of a formatter: what it is given, and what comes of it. -/
structure Call where
  formatter : Formatter
  input : String
  before : Store
  outcome : Except Error Formatted
  after : Store

/-- The output of a call that matches. -/
def Call.output? (c : Call) : Option String :=
  match c.outcome with
  | .ok formatted => if formatted.matched then some formatted.output else none
  | .error _ => none

/-- The error of a call that fails. -/
def Call.error? (c : Call) : Option Error :=
  match c.outcome with
  | .ok _ => none
  | .error e => some e

/-- No formatter is called after this call: it fails, or it matches and one match is enough. -/
def Call.ends (multi : Bool) (c : Call) : Bool :=
  c.error?.isSome || (!multi && c.output?.isSome)

/-- The text after some calls: the output of the last one that matches, or else the template. -/
def textAfter (template : String) (calls : List Call) : String :=
  (calls.filterMap Call.output?).getLastD template

/-- The store after some calls: the one that the last of them leaves. -/
def storeAfter (store : Store) (calls : List Call) : Store := (calls.map Call.after).getLastD store

/-- What some calls come to: the first error, or else the text after them. -/
def outcomeOf (template : String) (calls : List Call) : Except Error String :=
  match calls.findSome? Call.error? with
  | some e => .error e
  | none => .ok (textAfter template calls)

/-- The calls are those of a chain on a template. -/
structure IsTrace (multi : Bool) (args : List Value) (chain : List Formatter) (template : String)
    (store : Store) (calls : List Call) : Prop where
  /-- The formatters of the chain are called in order, each once, up to one of them. -/
  front : calls.map Call.formatter <+: chain
  /-- A formatter is given the text and the store after the calls before it. -/
  given : ∀ earlier c later, calls = earlier ++ c :: later →
    c.input = textAfter template earlier ∧ c.before = storeAfter store earlier
  /-- Its outcome is what it gives there. -/
  gives : ∀ c ∈ calls, (c.formatter.format c.input args).run c.before = (c.outcome, c.after)
  /-- A call that ends the run is the last one. -/
  last : ∀ earlier c later, calls = earlier ++ c :: later → c.ends multi = true → later = []
  /-- The run goes on until the chain is through or a call ends it. -/
  complete : calls.map Call.formatter = chain ∨ ∃ c ∈ calls, c.ends multi = true

variable {multi : Bool} {args : List Value} {chain : List Formatter} {text : String} {store : Store}
  {calls : List Call}

@[simp] theorem textAfter_nil (text : String) : textAfter text [] = text := rfl

@[simp] theorem storeAfter_nil (store : Store) : storeAfter store [] = store := rfl

@[simp] theorem storeAfter_cons (store : Store) (c : Call) (calls : List Call) :
    storeAfter store (c :: calls) = storeAfter c.after calls := by
  simp only [storeAfter, List.map_cons, List.getLastD_cons]

@[simp] theorem textAfter_cons (text : String) (c : Call) (calls : List Call) :
    textAfter text (c :: calls) = textAfter (c.output?.getD text) calls := by
  unfold textAfter
  cases h : c.output? with
  | none => rw [List.filterMap_cons_none h]; rfl
  | some output => rw [List.filterMap_cons_some h, List.getLastD_cons]; rfl

theorem outcomeOf_cons {c : Call} (h : c.error? = none) (text : String) (calls : List Call) :
    outcomeOf text (c :: calls) = outcomeOf (c.output?.getD text) calls := by
  simp only [outcomeOf, List.findSome?_cons, h, textAfter_cons]

/-- A call that does not end the run succeeds. -/
theorem Call.error?_of_ends_eq_false {c : Call} (h : c.ends multi = false) : c.error? = none := by
  rw [Call.ends, Bool.or_eq_false_iff] at h
  exact Option.not_isSome_iff_eq_none.mp (by rw [h.1]; decide)

/-- If one match is enough, a call that does not end the run does not match. -/
theorem Call.output?_of_ends_eq_false {c : Call} (h : c.ends false = false) : c.output? = none := by
  rw [Call.ends, Bool.or_eq_false_iff] at h
  exact Option.not_isSome_iff_eq_none.mp (by simpa using h.2)

/-! ## The first call -/

/-- The call of a formatter with a text, in a store. -/
def Call.of (args : List Value) (f : Formatter) (text : String) (store : Store) : Call :=
  let run := (f.format text args).run store
  ⟨f, text, store, run.1, run.2⟩

/-- The first call of a trace is that of the first formatter on the template. -/
theorem IsTrace.eq_of_cons {f : Formatter} {c : Call} {later : List Call}
    (h : IsTrace multi args (f :: chain) text store (c :: later)) : c = Call.of args f text store := by
  obtain ⟨hf, -⟩ := List.cons_prefix_cons.mp h.front
  obtain ⟨hinput, hbefore⟩ := h.given [] c later rfl
  have hgives := h.gives c List.mem_cons_self
  obtain ⟨formatter, input, before, outcome, after⟩ := c
  simp only [textAfter_nil, storeAfter_nil] at hf hinput hbefore hgives
  subst hf hinput hbefore
  rw [Call.of, hgives]

/-- The calls behind one that does not end the run are those of the rest of the chain. -/
theorem IsTrace.tail {f : Formatter} {c : Call} {later : List Call}
    (h : IsTrace multi args (f :: chain) text store (c :: later)) (hc : c.ends multi = false) :
    IsTrace multi args chain (c.output?.getD text) c.after later where
  front := (List.cons_prefix_cons.mp h.front).2
  given earlier d rest hlater := by
    have := h.given (c :: earlier) d rest (by rw [hlater, List.cons_append])
    rwa [textAfter_cons, storeAfter_cons] at this
  gives d hd := h.gives d (List.mem_cons_of_mem c hd)
  last earlier d rest hlater := h.last (c :: earlier) d rest (by rw [hlater, List.cons_append])
  complete := by
    rcases h.complete with hall | ⟨d, hd, hends⟩
    · exact .inl (List.cons.inj hall).2
    · rcases List.mem_cons.mp hd with rfl | hd
      · rw [hc] at hends; cases hends
      · exact .inr ⟨d, hd, hends⟩

/-- A first call that ends the run is a trace. -/
theorem isTrace_singleton {f : Formatter} (h : (Call.of args f text store).ends multi = true) :
    IsTrace multi args (f :: chain) text store [Call.of args f text store] where
  front := List.cons_prefix_cons.mpr ⟨rfl, List.nil_prefix⟩
  given earlier d rest hcalls := by
    obtain ⟨rfl, hd⟩ := List.singleton_eq_append_iff.mp hcalls |>.resolve_right (by simp)
    obtain ⟨rfl, rfl⟩ := List.cons.inj hd
    exact ⟨rfl, rfl⟩
  gives d hd := by rw [List.mem_singleton.mp hd]; rfl
  last earlier d rest hcalls _ := by
    obtain ⟨rfl, hd⟩ := List.singleton_eq_append_iff.mp hcalls |>.resolve_right (by simp)
    exact (List.cons.inj hd).2
  complete := .inr ⟨_, List.mem_singleton_self _, h⟩

/-- Before the trace of a chain, a first call that does not end the run. -/
theorem IsTrace.cons {f : Formatter} {later : List Call}
    (hc : (Call.of args f text store).ends multi = false)
    (h : IsTrace multi args chain ((Call.of args f text store).output?.getD text)
      (Call.of args f text store).after later) :
    IsTrace multi args (f :: chain) text store (Call.of args f text store :: later) where
  front := List.cons_prefix_cons.mpr ⟨rfl, h.front⟩
  given earlier d rest hcalls := by
    rcases List.cons_eq_append_iff.mp hcalls with ⟨rfl, hd⟩ | ⟨earlier, rfl, hlater⟩
    · obtain ⟨rfl, rfl⟩ := List.cons.inj hd
      exact ⟨rfl, rfl⟩
    · rw [textAfter_cons, storeAfter_cons]
      exact h.given earlier d rest hlater
  gives d hd := by
    rcases List.mem_cons.mp hd with rfl | hd
    · rfl
    · exact h.gives d hd
  last earlier d rest hcalls hends := by
    rcases List.cons_eq_append_iff.mp hcalls with ⟨rfl, hd⟩ | ⟨earlier, rfl, hlater⟩
    · obtain ⟨rfl, rfl⟩ := List.cons.inj hd
      rw [hc] at hends; cases hends
    · exact h.last earlier d rest hlater hends
  complete := by
    rcases h.complete with hall | ⟨d, hd, hends⟩
    · exact .inl (by rw [List.map_cons, hall]; rfl)
    · exact .inr ⟨d, List.mem_cons_of_mem _ hd, hends⟩

theorem isTrace_nil : IsTrace multi args [] text store calls ↔ calls = [] := by
  constructor
  · intro h
    exact List.map_eq_nil_iff.mp (List.prefix_nil.mp h.front)
  · rintro rfl
    exact ⟨List.prefix_refl _, by simp, by simp, by simp, .inl rfl⟩

/-- The calls of a chain are that of its first formatter on the template and, unless it ends the run,
those of the rest of the chain on what it leaves. -/
theorem isTrace_cons {f : Formatter} :
    IsTrace multi args (f :: chain) text store calls ↔
      ∃ later, calls = Call.of args f text store :: later ∧
        if (Call.of args f text store).ends multi then later = []
        else IsTrace multi args chain ((Call.of args f text store).output?.getD text)
          (Call.of args f text store).after later := by
  constructor
  · intro h
    cases calls with
    | nil => rcases h.complete with hall | ⟨_, hd, _⟩ <;> contradiction
    | cons c later =>
      obtain rfl := h.eq_of_cons
      refine ⟨later, rfl, ?_⟩
      split
      · next hends => exact h.last [] _ later rfl hends
      · next hends => exact h.tail (Bool.eq_false_iff.mpr hends)
  · rintro ⟨later, rfl, h⟩
    split at h
    · next hends => rw [h]; exact isTrace_singleton hends
    · next hends => exact h.cons (Bool.eq_false_iff.mpr hends)

/-! ## Runs -/

/-- There is one trace. -/
theorem existsUnique_isTrace (multi : Bool) (args : List Value) (chain : List Formatter)
    (text : String) (store : Store) : ∃! calls, IsTrace multi args chain text store calls := by
  induction chain generalizing text store with
  | nil => exact ⟨[], isTrace_nil.mpr rfl, fun _ => isTrace_nil.mp⟩
  | cons f chain ih =>
    cases hends : (Call.of args f text store).ends multi with
    | true =>
      refine ⟨_, isTrace_singleton hends, fun calls h => ?_⟩
      obtain ⟨later, rfl, hlater⟩ := isTrace_cons.mp h
      rw [if_pos hends] at hlater
      rw [hlater]
    | false =>
      obtain ⟨later, hlater, hunique⟩ := ih _ _
      refine ⟨_, hlater.cons hends, fun calls h => ?_⟩
      obtain ⟨later', rfl, hlater'⟩ := isTrace_cons.mp h
      rw [if_neg (Bool.eq_false_iff.mp hends)] at hlater'
      rw [hunique later' hlater']

/-- What an engine does with the first formatter of a chain is its call. -/
theorem run_run_cons (multi : Bool) (args : List Value) (name : String) (f : Formatter)
    (rest : List (String × Formatter)) (text : String) (store : Store) :
    (run multi args ((name, f) :: rest) text).run store =
      if (Call.of args f text store).ends multi then
        (outcomeOf text [Call.of args f text store], (Call.of args f text store).after)
      else (run multi args rest ((Call.of args f text store).output?.getD text)).run
        (Call.of args f text store).after := by
  rw [run]
  rcases hf : (f.format text args).run store with ⟨e | ⟨matched, output⟩, after⟩
  · have hc : Call.of args f text store = ⟨f, text, store, .error e, after⟩ := by rw [Call.of, hf]
    rw [Action.run_bind_error hf, hc]
    rfl
  · have hc : Call.of args f text store = ⟨f, text, store, .ok ⟨matched, output⟩, after⟩ := by
      rw [Call.of, hf]
    rw [Action.run_bind_ok hf, hc]
    cases matched <;> cases multi <;> rfl

/-- Running a chain comes to what the calls of its trace come to. -/
theorem IsTrace.run_eq {entries : List (String × Formatter)}
    (h : IsTrace multi args (entries.map Prod.snd) text store calls) :
    (run multi args entries text).run store = (outcomeOf text calls, storeAfter store calls) := by
  induction entries generalizing text store calls with
  | nil =>
    obtain rfl := isTrace_nil.mp h
    rfl
  | cons entry entries ih =>
    obtain ⟨name, f⟩ := entry
    obtain ⟨later, rfl, hlater⟩ := isTrace_cons.mp h
    rw [run_run_cons, storeAfter_cons]
    cases hends : (Call.of args f text store).ends multi with
    | true =>
      rw [if_pos hends] at hlater
      rw [if_pos rfl, hlater, storeAfter_nil]
    | false =>
      rw [if_neg (Bool.eq_false_iff.mp hends)] at hlater
      rw [if_neg Bool.false_ne_true, ih hlater,
        outcomeOf_cons (Call.error?_of_ends_eq_false hends)]

/-! ## The two modes -/

/-- No call before another one ends the run. -/
theorem IsTrace.ends_earlier (h : IsTrace multi args chain text store calls)
    {earlier later : List Call} {c : Call} (hcalls : calls = earlier ++ c :: later) :
    ∀ d ∈ earlier, d.ends multi = false := by
  intro d hd
  obtain ⟨front, back, rfl⟩ := List.append_of_mem hd
  refine Bool.eq_false_iff.mpr fun hends => ?_
  have hsplit : calls = front ++ d :: (back ++ c :: later) := by
    rw [hcalls, List.append_assoc, List.cons_append]
  exact List.append_ne_nil_of_right_ne_nil _ (List.cons_ne_nil c later)
    (h.last front d _ hsplit hends)

theorem textAfter_of_output?_eq_none (h : ∀ c ∈ calls, c.output? = none) :
    textAfter text calls = text := by
  rw [textAfter, List.filterMap_eq_nil_iff.mpr h]
  rfl

/-- If one match is enough, every formatter is given the template, and those before it do not match. -/
theorem IsTrace.input_eq (h : IsTrace false args chain text store calls)
    {earlier later : List Call} {c : Call} (hcalls : calls = earlier ++ c :: later) :
    c.input = text ∧ ∀ d ∈ earlier, d.output? = none := by
  have hearlier : ∀ d ∈ earlier, d.output? = none := fun d hd =>
    Call.output?_of_ends_eq_false (h.ends_earlier hcalls d hd)
  obtain ⟨hinput, -⟩ := h.given earlier c later hcalls
  rw [textAfter_of_output?_eq_none hearlier] at hinput
  exact ⟨hinput, hearlier⟩

/-- If one match is enough, the text after the calls is the output of the first one that matches. -/
theorem IsTrace.textAfter_eq (h : IsTrace false args chain text store calls) :
    textAfter text calls = (calls.findSome? Call.output?).getD text := by
  rcases List.eq_nil_or_concat' calls with rfl | ⟨earlier, c, rfl⟩
  · rfl
  obtain ⟨-, hearlier⟩ := h.input_eq rfl
  rw [textAfter, List.filterMap_append, List.filterMap_eq_nil_iff.mpr hearlier, List.nil_append,
    List.findSome?_append, List.findSome?_eq_none_iff.mpr hearlier, Option.none_or]
  cases hc : c.output? with
  | none => rw [List.filterMap_cons_none hc, List.findSome?_cons, hc]; rfl
  | some output => rw [List.filterMap_cons_some hc, List.findSome?_cons, hc]; rfl

/-- If every formatter is to run, only an error keeps one from being called. -/
theorem IsTrace.error_or_all (h : IsTrace true args chain text store calls) :
    (∃ e, outcomeOf text calls = .error e) ∨ calls.map Call.formatter = chain := by
  rcases h.complete with hall | ⟨c, hc, hends⟩
  · exact .inr hall
  · rw [Call.ends, Bool.not_true, Bool.false_and, Bool.or_false] at hends
    obtain ⟨e, he⟩ := Option.isSome_iff_exists.mp
      (List.findSome?_isSome_iff.mpr ⟨c, hc, hends⟩)
    exact .inl ⟨e, by rw [outcomeOf, he]⟩

/-- **The calls of an engine.** The calls of a template are determined, and formatting comes to their
first error, or else to the output of the last one that matches, or to the template if none does; it
leaves the store that the last call leaves. No formatter is called behind one that fails.

If one match is enough, all formatters are given the template itself, none is called behind one that
matches, and so the first output that matches is the result. Otherwise they are all called, or an
error is the result. Whatever other formatters there are behind a call that ends the run does not
matter. -/
theorem format_trace (e : Engine) (template : String) (args : List Value) (store : Store) :
    ∃ calls,
      (∀ calls', IsTrace e.multi args e.chain template store calls' ↔ calls' = calls) ∧
      (e.format template args).run store = (outcomeOf template calls, storeAfter store calls) ∧
      (∀ earlier c later, calls = earlier ++ c :: later → ∀ d ∈ earlier, d.error? = none) ∧
      (e.multi = false →
        textAfter template calls = (calls.findSome? Call.output?).getD template ∧
        ∀ earlier c later, calls = earlier ++ c :: later →
          c.input = template ∧ ∀ d ∈ earlier, d.output? = none) ∧
      (e.multi = true →
        (∃ error, outcomeOf template calls = .error error) ∨ calls.map Call.formatter = e.chain) ∧
      ∀ e' : Engine, e'.multi = e.multi → calls.map Call.formatter <+: e'.chain →
        (∃ c ∈ calls, c.ends e.multi = true) →
        (e'.format template args).run store = (e.format template args).run store := by
  obtain ⟨calls, h, hunique⟩ := existsUnique_isTrace e.multi args e.chain template store
  refine ⟨calls, fun calls' => ⟨hunique calls', fun heq => heq ▸ h⟩, h.run_eq, ?_, ?_, ?_, ?_⟩
  · intro earlier c later hcalls d hd
    exact Call.error?_of_ends_eq_false (h.ends_earlier hcalls d hd)
  · intro hmulti
    rw [hmulti] at h
    exact ⟨h.textAfter_eq, fun earlier c later hcalls => h.input_eq hcalls⟩
  · intro hmulti
    rw [hmulti] at h
    exact h.error_or_all
  · intro e' hmulti hfront hends
    -- These calls are a trace of the other chain too, since one of them ends the run.
    have h' : IsTrace e'.multi args e'.chain template store calls := by
      rw [hmulti]
      exact { h with front := hfront, complete := .inr hends }
    exact h'.run_eq.trans h.run_eq.symm

/-- A formatter that answers with a changed text but does not match, one that matches and takes an element of an
argument, and one that fails. If one match is enough, the last one is not called. Otherwise it is given the
output of the one that matches, and what that has taken stays taken. -/
theorem format_trace_custom :
    let skip : Formatter := .custom "skip" fun s _ => pure ⟨false, s ++ "?"⟩
    let take : Formatter := .custom "take" fun s _ => do
      let _ ← Store.shift ⟨0⟩
      pure ⟨true, s ++ "!"⟩
    let refuse : Formatter := .custom "refuse" fun s _ => throw (.serialization s)
    let formatters : Registry Formatter := ⟨[("skip", skip), ("take", take), ("refuse", refuse)], by decide⟩
    let store : Store := ⟨⟨#[[.null, .null]]⟩, #[]⟩
    let taken : Store := ⟨⟨#[[.null]]⟩, #[]⟩
    (format ⟨formatters, false⟩ "t" [.sequence ⟨0⟩]).run store = (.ok "t!", taken) ∧
      (format ⟨formatters, true⟩ "t" [.sequence ⟨0⟩]).run store = (.error (.serialization "t!"), taken) := by
  intro skip take refuse formatters store taken
  have hskip : ∀ multi, (Call.of [.sequence ⟨0⟩] skip "t" store).ends multi = false := by decide
  -- The calls with one match, and those with all formatters.
  have hsingle : IsTrace false [.sequence ⟨0⟩] [skip, take, refuse] "t" store
      [Call.of [.sequence ⟨0⟩] skip "t" store, Call.of [.sequence ⟨0⟩] take "t" store] :=
    .cons (hskip false) (isTrace_singleton (by decide))
  have hmulti : IsTrace true [.sequence ⟨0⟩] [skip, take, refuse] "t" store
      [Call.of [.sequence ⟨0⟩] skip "t" store, Call.of [.sequence ⟨0⟩] take "t" store,
        Call.of [.sequence ⟨0⟩] refuse "t!" taken] :=
    .cons (hskip true) (.cons (by decide) (isTrace_singleton (by decide)))
  obtain ⟨_, hcalls, hrun, -⟩ := format_trace ⟨formatters, false⟩ "t" [.sequence ⟨0⟩] store
  rw [← (hcalls _).mp hsingle] at hrun
  obtain ⟨_, hcalls', hrun', -⟩ := format_trace ⟨formatters, true⟩ "t" [.sequence ⟨0⟩] store
  rw [← (hcalls' _).mp hmulti] at hrun'
  exact ⟨hrun, hrun'⟩

end Stencil.Engine
