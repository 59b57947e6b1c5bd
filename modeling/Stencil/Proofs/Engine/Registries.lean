import Stencil.Proofs.Engine.Chain
import Stencil.Proofs.Formatter
import Stencil.Setup

/-!
# The registries of an engine over time

The chain of an engine is a registry of formatters, and these hold registries of their own, which are
reached through the chain. A history is what has been done to an engine, with the answers.

* `Operation`, `Answer`: what is done to an engine or asked of it, and what comes back.
* `Operation.run`: an operation that fails leaves the engine as it is.
* `answer`: the answers, from the names that are present.
* `history`, `after`: a run of operations.
* `HeldSince`: a formatter, and the part of a history in which the chain holds it.
* `IsAfter`: what a history says about the engine at its end.
* `isAfter_history`: it says so for every run.
-/

namespace Stencil.Engine

open Registry Formatter

/-! ## Operations -/

/-- What can be done to an engine or asked of it. -/
inductive Operation where
  | addFormatter (f : Formatter)
  | removeFormatter (name : String)
  | hasFormatter (name : String)
  | formatter (name : String)
  | setMulti (multi : Bool)
  | addExtension (on name : String) (x : Extension)
  | hasExtension (on : String) (kind : ExtensionKind) (name : String)
  | removeExtension (on : String) (kind : ExtensionKind) (name : String)

/-- What comes back from an operation. -/
inductive Answer where
  | done
  | holds (b : Bool)
  | found (f : Option Formatter)
  /-- The chain does not hold the formatter whose registry is meant. -/
  | absent
  | failed (error : Error)

/-- The answer to a change of an engine, and the engine that it leaves. -/
def changed (e : Engine) : Except Error Engine → Answer × Engine
  | .ok e' => (.done, e')
  | .error error => (.failed error, e)

/-- The answer to a change of a formatter of the chain, and the engine that it leaves. -/
def updated (e : Engine) (on : String) (change : Formatter → Except Error Formatter) :
    Answer × Engine :=
  match e.updateFormatter on change with
  | some result => e.changed result
  | none => (.absent, e)

/-- The answer of a formatter of the chain to a question. -/
def asked (e : Engine) (on : String) (question : Formatter → Except Error Bool) : Answer :=
  match (e.formatter? on).map question with
  | some (.ok b) => .holds b
  | some (.error error) => .failed error
  | none => .absent

/-- The answer to an operation, and the engine that it leaves. -/
def Operation.run (e : Engine) : Operation → Answer × Engine
  | addFormatter f => e.changed (e.addFormatter f)
  | removeFormatter name => e.changed (e.removeFormatter name)
  | hasFormatter name => (.holds (e.hasFormatter name), e)
  | formatter name => (.found (e.formatter? name), e)
  | setMulti multi => (.done, e.setMulti multi)
  | addExtension on name x => e.updated on fun f => f.addExtension name x
  | hasExtension on kind name => (e.asked on fun f => f.hasExtension kind name, e)
  | removeExtension on kind name => e.updated on fun f => f.removeExtension kind name

/-! ## Histories -/

/-- Operations with their answers, the first one in front. -/
abbrev History := List (Operation × Answer)

/-- What a run of operations does and answers. -/
def history (e : Engine) : List Operation → History
  | [] => []
  | op :: ops => (op, (op.run e).1) :: history (op.run e).2 ops

/-- The engine at the end of a run of operations. -/
def after (e : Engine) : List Operation → Engine
  | [] => e
  | op :: ops => after (op.run e).2 ops

/-- What an operation does to the names of the chain; it does nothing unless it succeeds. -/
def chainEvent? : Operation × Answer → Option Event
  | (.addFormatter f, .done) => some (.added f.name)
  | (.removeFormatter name, .done) => some (.removed name)
  | _ => none

/-- What an operation does to the names in a registry of a formatter. -/
def extensionEvent? (on : String) (kind : ExtensionKind) : Operation × Answer → Option Event
  | (.addExtension there name x, .done) =>
    if there = on ∧ x.kind = kind then some (.added name) else none
  | (.removeExtension there other name, .done) =>
    if there = on ∧ other = kind then some (.removed name) else none
  | _ => none

/-- What has happened to the chain. -/
def chainEvents (past : History) : List Event := past.filterMap chainEvent?

/-- What has happened to the extensions of one kind that the formatter `on` has. -/
def extensionEvents (on : String) (kind : ExtensionKind) (past : History) : List Event :=
  past.filterMap (extensionEvent? on kind)

/-- The chain of an engine has come to hold a formatter, and has held it during the later part of a
history. -/
inductive HeldSince (e : Engine) : History → Formatter → History → Prop where
  | initial {past : History} {f : Formatter} (mem : f ∈ e.chain)
      (kept : .removed f.name ∉ chainEvents past) : HeldSince e past f past
  | added {earlier later : History} {f : Formatter} (kept : .removed f.name ∉ chainEvents later) :
      HeldSince e (earlier ++ (.addFormatter f, .done) :: later) f later

/-! ## What a history says -/

/-- The formatter of the chain with a name. -/
def called (e : Engine) (name : String) : Option Formatter :=
  e.chain.find? fun f => decide (f.name = name)

/-- The answer of an operation on a formatter of the chain. -/
def answerOn (e : Engine) (on : String) (kind : ExtensionKind) (answer : List String → Answer) :
    Answer :=
  match e.called on with
  | none => .absent
  | some f =>
    if f.supports kind then answer (f.extensionNames kind) else .failed (f.unsupported kind)

/-- The answer to an operation, from the names that are present. -/
def answer (e : Engine) : Operation → Answer
  | .addFormatter f =>
    if f.name ∈ e.formatterNames then .failed (.duplicateName formatterKind f.name) else .done
  | .removeFormatter name =>
    if name ∈ e.formatterNames then .done else .failed (.notFound formatterKind name)
  | .hasFormatter name => .holds (decide (name ∈ e.formatterNames))
  | .formatter name => .found (e.called name)
  | .setMulti _ => .done
  | .addExtension on name x => e.answerOn on x.kind fun names =>
    if name ∈ names then .failed (.duplicateName x.kind.label name) else .done
  | .hasExtension on kind name => e.answerOn on kind fun names => .holds (decide (name ∈ names))
  | .removeExtension on kind name => e.answerOn on kind fun names =>
    if name ∈ names then .done else .failed (.notFound kind.label name)

/-- The second formatter is what a history has made of the first one. -/
structure Evolved (f : Formatter) (past : History) (g : Formatter) : Prop where
  name : g.name = f.name
  supports : g.supports = f.supports
  /-- Rules are listed in the order in which they have been added. -/
  ruleNames : g.ruleNames = listed f.ruleNames (extensionEvents f.name .rule past)
  distinct : g.ruleNames.Nodup
  /-- Transformers are listed in increasing order, without repetition. -/
  sorted : g.transformerNames.Pairwise (· < ·)
  mem_transformerNames : ∀ name, name ∈ g.transformerNames ↔
    name ∈ listed f.transformerNames (extensionEvents f.name .transformer past)

/-- The second engine is what a history has made of the first one. -/
structure IsAfter (e : Engine) (past : History) (now : Engine) : Prop where
  /-- The formatters of the chain are listed under their names. -/
  names : now.formatterNames = now.chain.map Formatter.name
  distinct : now.formatterNames.Nodup
  /-- They are listed in the order in which they have been added. -/
  order : now.formatterNames = listed e.formatterNames (chainEvents past)
  /-- A formatter that the chain has held since some time is in it, as the history has made it. -/
  held : ∀ f later, HeldSince e past f later → ∃ g ∈ now.chain, Evolved f later g
  /-- No other formatter is in the chain. -/
  origin : ∀ g ∈ now.chain, ∃ f later, HeldSince e past f later ∧ Evolved f later g
  /-- Operations fail when a name is taken or missing, or there is no registry for it. -/
  answers : ∀ op : Operation, (op.run now).1 = now.answer op
  /-- An operation that fails, or only asks, changes nothing. -/
  unchanged : ∀ op : Operation, (op.run now).1 ≠ .done → (op.run now).2 = now

/-! ## Engines that hold formatters under their names -/

/-- Every formatter of the chain is held under its own name. -/
def Named (e : Engine) : Prop := ∀ entry ∈ e.formatters.entries, entry.2.name = entry.1

variable {e e' : Engine} {f g : Formatter} {on name : String} {kind : ExtensionKind}

theorem named_empty : empty.Named := fun entry h => by cases h

theorem named_default : Engine.default.Named := by
  have h : Engine.default.formatters.entries =
      [(braceName, braceDefault), (percentName, percentDefault)] := rfl
  unfold Named
  rw [h]
  simp [name, braceDefault, percentDefault]

namespace Named

theorem name_of_formatter? (h : e.Named) (hf : e.formatter? on = some f) : f.name = on :=
  h (on, f) (find?_eq_some_iff.mp hf)

theorem mem_chain_iff (h : e.Named) : f ∈ e.chain ↔ e.formatter? f.name = some f := by
  rw [formatter?, find?_eq_some_iff, chain, List.mem_map]
  constructor
  · rintro ⟨⟨name, f⟩, hentry, rfl⟩
    obtain rfl : f.name = name := h _ hentry
    exact hentry
  · exact fun hentry => ⟨_, hentry, rfl⟩

theorem formatterNames_eq (h : e.Named) : e.formatterNames = e.chain.map Formatter.name := by
  rw [formatterNames, names, chain, List.map_map]
  exact List.map_congr_left fun entry hentry => (h entry hentry).symm

theorem called_eq (h : e.Named) (on : String) : e.called on = e.formatter? on := by
  have hsound {f : Formatter} (hf : e.called on = some f) : e.formatter? on = some f := by
    rw [called] at hf
    obtain rfl : f.name = on := by simpa using List.find?_some hf
    exact h.mem_chain_iff.mp (List.mem_of_find?_eq_some hf)
  rcases hcalled : e.called on with _ | f
  · refine (find?_eq_none_iff.mpr fun hmem => ?_).symm
    obtain ⟨f, hf⟩ := mem_names_iff.mp hmem
    obtain rfl := h.name_of_formatter? hf
    have := List.find?_eq_none.mp hcalled f (h.mem_chain_iff.mpr hf)
    simp at this
  · exact (hsound hcalled).symm

end Named

/-! ## One operation -/

theorem run_addFormatter_of_mem (h : f.name ∈ e.formatterNames) :
    (Operation.addFormatter f).run e = (.failed (.duplicateName formatterKind f.name), e) := by
  rw [Operation.run, addFormatter, add_of_mem h]
  rfl

theorem run_addFormatter_of_not_mem (h : f.name ∉ e.formatterNames) :
    ∃ formatters, e.formatters.insert? f.name f = some formatters ∧
      (Operation.addFormatter f).run e = (.done, { e with formatters }) := by
  obtain ⟨formatters, hinsert, hadd⟩ := add_of_not_mem formatterKind h f
  exact ⟨formatters, hinsert, by rw [Operation.run, addFormatter, hadd]; rfl⟩

theorem run_removeFormatter_of_not_mem (h : name ∉ e.formatterNames) :
    (Operation.removeFormatter name).run e = (.failed (.notFound formatterKind name), e) := by
  rw [Operation.run, removeFormatter, remove_of_not_mem h]
  rfl

theorem run_removeFormatter_of_mem (h : name ∈ e.formatterNames) :
    ∃ formatters, e.formatters.erase? name = some formatters ∧
      (Operation.removeFormatter name).run e = (.done, { e with formatters }) := by
  obtain ⟨formatters, herase, hremove⟩ := remove_of_mem formatterKind h
  exact ⟨formatters, herase, by rw [Operation.run, removeFormatter, hremove]; rfl⟩

variable {change : Formatter → Except Error Formatter}

theorem updated_of_absent (h : e.formatter? on = none) : e.updated on change = (.absent, e) := by
  rw [updated, updateFormatter, h]
  rfl

theorem updated_of_error {error : Error} (h : e.formatter? on = some f)
    (hchange : change f = .error error) : e.updated on change = (.failed error, e) := by
  rw [updated, updateFormatter, h, Option.map_some, hchange]
  rfl

theorem updated_of_ok (h : e.formatter? on = some f) (hchange : change f = .ok g) :
    e.updated on change = (.done, { e with formatters := e.formatters.replace on g }) := by
  rw [updated, updateFormatter, h, Option.map_some, hchange]
  rfl

/-- What an operation can do, as it reads in a history, and the engine that it leaves. -/
inductive Step (e : Engine) : Operation × Answer → Engine → Prop where
  /-- The registries stay as they are. -/
  | still {x : Operation × Answer} {e' : Engine} (same : e'.formatters = e.formatters)
      (chain : chainEvent? x = none) (extensions : ∀ on kind, extensionEvent? on kind x = none) :
      Step e x e'
  | added {f : Formatter} {formatters : Registry Formatter}
      (insert : e.formatters.insert? f.name f = some formatters) :
      Step e (.addFormatter f, .done) { e with formatters }
  | removed {name : String} {formatters : Registry Formatter}
      (erase : e.formatters.erase? name = some formatters) :
      Step e (.removeFormatter name, .done) { e with formatters }
  /-- A formatter of the chain is extended, or loses an extension, in its place. -/
  | extended {x : Operation × Answer} {on : String} {kind : ExtensionKind} {event : Event}
      {f g : Formatter} (held : e.formatter? on = some f) (becomes : f.Extends kind event g)
      (chain : chainEvent? x = none)
      (extensions : ∀ there other, extensionEvent? there other x =
        if on = there ∧ kind = other then some event else none) :
      Step e x { e with formatters := e.formatters.replace on g }

/-- An operation that does not succeed does nothing. -/
theorem Step.of_failed {op : Operation} {answer : Answer} (h : answer ≠ .done) :
    Step e (op, answer) e := by
  refine .still rfl ?_ fun on kind => ?_
  all_goals cases op <;> cases answer <;> first | rfl | exact absurd rfl h

/-- A change of a formatter of the chain is a step, if all it can do is to extend the formatter or to take an
extension away. -/
theorem Step.of_updated {op : Operation} {event : Event}
    (hchange : ∀ f g, change f = .ok g → f.Extends kind event g) (hchain : chainEvent? (op, .done) = none)
    (hextensions : ∀ there other, extensionEvent? there other (op, .done) =
      if on = there ∧ kind = other then some event else none) :
    Step e (op, (e.updated on change).1) (e.updated on change).2 := by
  rcases hf : e.formatter? on with _ | f
  · rw [updated_of_absent hf]
    exact .of_failed nofun
  · rcases hresult : change f with error | g
    · rw [updated_of_error hf hresult]
      exact .of_failed nofun
    · rw [updated_of_ok hf hresult]
      exact .extended hf (hchange f g hresult) hchain hextensions

theorem step_run (e : Engine) (op : Operation) : Step e (op, (op.run e).1) (op.run e).2 := by
  cases op with
  | addFormatter f =>
    by_cases h : f.name ∈ e.formatterNames
    · rw [run_addFormatter_of_mem h]
      exact .of_failed nofun
    · obtain ⟨formatters, hinsert, hrun⟩ := run_addFormatter_of_not_mem h
      rw [hrun]
      exact .added hinsert
  | removeFormatter name =>
    by_cases h : name ∈ e.formatterNames
    · obtain ⟨formatters, herase, hrun⟩ := run_removeFormatter_of_mem h
      rw [hrun]
      exact .removed herase
    · rw [run_removeFormatter_of_not_mem h]
      exact .of_failed nofun
  | hasFormatter name => exact .of_failed nofun
  | formatter name => exact .of_failed nofun
  | setMulti multi => exact .still rfl rfl fun _ _ => rfl
  | addExtension on name x =>
    exact .of_updated (fun _ _ => extends_of_addExtension) rfl fun _ _ => rfl
  | hasExtension on kind name => exact .still rfl rfl fun _ _ => rfl
  | removeExtension on kind name =>
    exact .of_updated (fun _ _ => extends_of_removeExtension) rfl fun _ _ => rfl

/-- The answer to an operation on a formatter is that of the formatter, if there is one. -/
theorem Named.answerOn_eq (h : e.Named) (on : String) (kind : ExtensionKind)
    (answer : List String → Answer) :
    e.answerOn on kind answer =
      match e.formatter? on with
      | none => .absent
      | some f =>
        if f.supports kind then answer (f.extensionNames kind) else .failed (f.unsupported kind) := by
  rw [answerOn, h.called_eq]

/-- The answer to a change of a formatter, from the names in the registry that is changed. -/
theorem Named.updated_fst (h : e.Named) (on : String) {answer : List String → Answer}
    (hunsupported : ∀ f, f.supports kind = false → change f = .error (f.unsupported kind))
    (hsupported : ∀ f, f.supports kind = true →
      ((∃ g, change f = .ok g) ∧ answer (f.extensionNames kind) = .done) ∨
        ∃ error, change f = .error error ∧ answer (f.extensionNames kind) = .failed error) :
    (e.updated on change).1 = e.answerOn on kind answer := by
  rw [h.answerOn_eq]
  rcases hf : e.formatter? on with _ | f
  · rw [updated_of_absent hf]
  · cases hs : f.supports kind with
    | false =>
      rw [updated_of_error hf (hunsupported f hs)]
      simp [hs]
    | true =>
      rcases hsupported f hs with ⟨⟨g, hchange⟩, hanswer⟩ | ⟨error, hchange, hanswer⟩
      · rw [updated_of_ok hf hchange]
        simp [hs, hanswer]
      · rw [updated_of_error hf hchange]
        simp [hs, hanswer]

theorem Named.run_fst (h : e.Named) (op : Operation) : (op.run e).1 = e.answer op := by
  -- The chain answers for formatters, and the formatter of the name for its own registry.
  cases op with
  | addFormatter f =>
    rw [answer]
    by_cases hmem : f.name ∈ e.formatterNames
    · rw [run_addFormatter_of_mem hmem, if_pos hmem]
    · obtain ⟨formatters, -, hrun⟩ := run_addFormatter_of_not_mem hmem
      rw [hrun, if_neg hmem]
  | removeFormatter name =>
    rw [answer]
    by_cases hmem : name ∈ e.formatterNames
    · obtain ⟨formatters, -, hrun⟩ := run_removeFormatter_of_mem hmem
      rw [hrun, if_pos hmem]
    · rw [run_removeFormatter_of_not_mem hmem, if_neg hmem]
  | hasFormatter name => rfl
  | formatter name => rw [answer, h.called_eq]; rfl
  | setMulti multi => rfl
  | addExtension on name x =>
    rw [answer, Operation.run]
    refine h.updated_fst on (fun f hs => addExtension_of_not_supports hs name) fun f hs => ?_
    by_cases hmem : name ∈ f.extensionNames x.kind
    · exact .inr ⟨_, addExtension_of_mem hmem, if_pos hmem⟩
    · obtain ⟨g, hadd, -⟩ := addExtension_of_not_mem hs hmem
      exact .inl ⟨⟨g, hadd⟩, if_neg hmem⟩
  | hasExtension on kind name =>
    rw [answer, h.answerOn_eq, Operation.run, asked]
    rcases hf : e.formatter? on with _ | f
    · rfl
    · cases hs : f.supports kind with
      | false => simp [hasExtension_of_not_supports hs name, hs]
      | true => simp [hasExtension_of_supports hs name, hs]
  | removeExtension on kind name =>
    rw [answer, Operation.run]
    refine h.updated_fst on (fun f hs => removeExtension_of_not_supports hs name) fun f hs => ?_
    by_cases hmem : name ∈ f.extensionNames kind
    · obtain ⟨g, hremove, -⟩ := removeExtension_of_mem hmem
      exact .inl ⟨⟨g, hremove⟩, if_pos hmem⟩
    · exact .inr ⟨_, removeExtension_of_not_mem hs hmem, if_neg hmem⟩

theorem changed_snd_of_ne_done {result : Except Error Engine} (h : (e.changed result).1 ≠ .done) :
    (e.changed result).2 = e := by
  cases result with
  | ok e' => exact absurd rfl h
  | error error => rfl

theorem updated_snd_of_ne_done (h : (e.updated on change).1 ≠ .done) :
    (e.updated on change).2 = e := by
  unfold updated at h ⊢
  split
  · next result hresult =>
    rw [hresult] at h
    exact changed_snd_of_ne_done h
  · rfl

/-- An operation that does not succeed leaves the engine as it is. -/
theorem run_snd_of_ne_done {op : Operation} (h : (op.run e).1 ≠ .done) : (op.run e).2 = e := by
  cases op with
  | addFormatter f => exact changed_snd_of_ne_done h
  | removeFormatter name => exact changed_snd_of_ne_done h
  | hasFormatter name => rfl
  | formatter name => rfl
  | setMulti multi => exact absurd rfl h
  | addExtension on name x => exact updated_snd_of_ne_done h
  | hasExtension on kind name => rfl
  | removeExtension on kind name => exact updated_snd_of_ne_done h

/-! ## What a step keeps -/

variable {x : Operation × Answer}

theorem chainEvents_singleton (x : Operation × Answer) : chainEvents [x] = (chainEvent? x).toList := by
  rw [chainEvents, List.filterMap_cons]
  cases chainEvent? x <;> rfl

theorem extensionEvents_singleton (on : String) (kind : ExtensionKind) (x : Operation × Answer) :
    extensionEvents on kind [x] = (extensionEvent? on kind x).toList := by
  rw [extensionEvents, List.filterMap_cons]
  cases extensionEvent? on kind x <;> rfl

theorem chainEvents_cons (x : Operation × Answer) (past : History) :
    chainEvents (x :: past) = chainEvents [x] ++ chainEvents past :=
  List.filterMap_append (l := [x])

theorem extensionEvents_cons (on : String) (kind : ExtensionKind) (x : Operation × Answer)
    (past : History) :
    extensionEvents on kind (x :: past) =
      extensionEvents on kind [x] ++ extensionEvents on kind past :=
  List.filterMap_append (l := [x])

/-- The registries of the second formatter are those of the first one after a history. -/
structure Follows (f : Formatter) (past : History) (g : Formatter) : Prop where
  name : g.name = f.name
  supports : g.supports = f.supports
  names : ∀ kind, g.extensionNames kind =
    listed (f.extensionNames kind) (extensionEvents f.name kind past)

theorem Follows.nil (f : Formatter) : Follows f [] f := ⟨rfl, rfl, fun _ => (listed_nil _).symm⟩

/-- Nothing happens to the registries of a formatter. -/
theorem Follows.of_none (h : ∀ kind, extensionEvent? f.name kind x = none) : Follows f [x] f where
  name := rfl
  supports := rfl
  names kind := by rw [extensionEvents_singleton, h, Option.toList_none, listed_nil]

theorem Follows.cons {f' : Formatter} {past : History} (h : Follows f [x] f')
    (hpast : Follows f' past g) : Follows f (x :: past) g where
  name := hpast.name.trans h.name
  supports := hpast.supports.trans h.supports
  names kind := by
    rw [hpast.names, h.names, h.name, extensionEvents_cons f.name kind x past, listed_append]

theorem Follows.evolved {past : History} (h : Follows f past g) : Evolved f past g where
  name := h.name
  supports := h.supports
  ruleNames := by rw [ruleNames_eq, ruleNames_eq, h.names]
  distinct := by rw [ruleNames_eq]; exact extensionNames_nodup g .rule
  sorted := transformerNames_pairwise g
  mem_transformerNames name := by
    rw [mem_transformerNames, h.names, mem_listed, mem_listed, mem_transformerNames]

namespace Step

theorem formatterNames (h : Step e x e') :
    e'.formatterNames = listed e.formatterNames (chainEvents [x]) := by
  rw [chainEvents_singleton]
  cases h with
  | still same chain _ =>
    rw [chain, Option.toList_none, listed_nil, Engine.formatterNames, same]
    rfl
  | added insert => exact names_eq_listed_added insert
  | removed erase => exact names_eq_listed_removed erase
  | extended held becomes chain _ =>
    rw [chain, Option.toList_none, listed_nil]
    exact names_replace _ _ _

theorem named (h : Step e x e') (hn : e.Named) : e'.Named := by
  intro entry hentry
  cases h with
  | still same _ _ => exact hn entry (same ▸ hentry)
  | added insert =>
    rw [entries_insert? insert] at hentry
    rcases List.mem_append.mp hentry with hentry | hentry
    · exact hn entry hentry
    · rw [List.mem_singleton.mp hentry]
  | removed erase =>
    rw [entries_erase? erase] at hentry
    exact hn entry (List.mem_of_mem_filter hentry)
  | extended held becomes _ _ =>
    obtain ⟨entry, hmem, rfl⟩ := List.mem_map.mp hentry
    split
    · next heq => rw [heq, becomes.name, hn.name_of_formatter? held]
    · exact hn entry hmem

theorem formatter?_added (h : Step e (.addFormatter f, .done) e') : e'.formatter? f.name = some f := by
  generalize hx : (Operation.addFormatter f, Answer.done) = x at h
  cases h with
  | still _ chain _ => rw [← hx] at chain; cases chain
  | added insert =>
    cases hx
    exact find?_insert?_self insert
  | removed _ => cases hx
  | extended _ _ chain _ => rw [← hx] at chain; cases chain

/-- A formatter of the chain that is not removed stays in it, and follows what happens to it. -/
theorem follows (h : Step e x e') (hn : e.Named) (hf : e.formatter? on = some f)
    (hkept : .removed on ∉ chainEvents [x]) : ∃ g, e'.formatter? on = some g ∧ Follows f [x] g := by
  obtain rfl := hn.name_of_formatter? hf
  cases h with
  | still same _ extensions =>
    exact ⟨f, by rw [formatter?, same]; exact hf, .of_none (extensions f.name)⟩
  | added insert => exact ⟨f, find?_insert?_of_find? insert hf, .of_none fun _ => rfl⟩
  | @removed name _ erase =>
    have hne : f.name ≠ name := by
      rintro rfl
      exact hkept (List.mem_singleton.mpr rfl)
    exact ⟨f, (find?_erase? erase hne).trans hf, .of_none fun _ => rfl⟩
  | @extended _ on kind event f₁ g held becomes _ extensions =>
    -- Only the registry of the formatter with this name changes, and in it only the names of the kind.
    by_cases hon : on = f.name
    · subst hon
      obtain rfl : f = f₁ := Option.some.inj (hf.symm.trans held)
      refine ⟨g, find?_replace_self (mem_names_iff.mpr ⟨f, hf⟩) g, becomes.name, becomes.supports, ?_⟩
      intro other
      rw [extensionEvents_singleton, extensions, becomes.names]
      by_cases hkind : other = kind
      · subst hkind
        rw [if_pos rfl, if_pos ⟨rfl, rfl⟩, Option.toList_some]
      · rw [if_neg hkind, if_neg fun h => hkind h.2.symm, Option.toList_none, listed_nil]
    · refine ⟨f, (find?_replace_of_ne (Ne.symm hon) g).trans hf, .of_none fun other => ?_⟩
      rw [extensions, if_neg fun h => hon h.1]

end Step

/-! ## The engines of settings -/

theorem Named.addFormatter (hn : e.Named) (h : e.addFormatter f = .ok e') : e'.Named := by
  have hstep := step_run e (.addFormatter f)
  rw [Operation.run, h] at hstep
  exact hstep.named hn

theorem Named.addBuiltins {builtins : List String} (hn : e.Named)
    (h : e.addBuiltins builtins = .ok e') : e'.Named := by
  induction builtins generalizing e with
  | nil => exact Except.ok.inj h ▸ hn
  | cons name rest ih =>
    obtain ⟨f, -, h⟩ := Action.exists_of_bind_eq_ok h
    obtain ⟨e₁, hadd, h⟩ := Action.exists_of_bind_eq_ok h
    exact ih (hn.addFormatter hadd) h

/-- The engine that settings describe holds its formatters under their names. -/
theorem named_ofSettings {s : Settings} (h : ofSettings s = .ok e) : e.Named := by
  obtain ⟨e₁, hchain, h⟩ := Action.exists_of_bind_eq_ok h
  obtain rfl := Except.ok.inj h
  have hnamed : e₁.Named := named_empty.addBuiltins hchain
  exact hnamed

/-! ## Runs -/

variable {ops : List Operation}

theorem formatterNames_after (e : Engine) (ops : List Operation) :
    (e.after ops).formatterNames = listed e.formatterNames (chainEvents (e.history ops)) := by
  induction ops generalizing e with
  | nil => exact (listed_nil _).symm
  | cons op ops ih =>
    rw [after, ih, history, chainEvents_cons, listed_append, (step_run e op).formatterNames]

theorem Named.after (h : e.Named) (ops : List Operation) : (e.after ops).Named := by
  induction ops generalizing e with
  | nil => exact h
  | cons op ops ih => exact ih ((step_run e op).named h)

/-- A formatter of the chain that is never removed stays in it, and follows the history. -/
theorem Named.follows (h : e.Named) (hf : e.formatter? on = some f)
    (hkept : .removed on ∉ chainEvents (e.history ops)) :
    ∃ g, (e.after ops).formatter? on = some g ∧ Follows f (e.history ops) g := by
  induction ops generalizing e f with
  | nil => exact ⟨f, hf, .nil f⟩
  | cons op ops ih =>
    rw [history, chainEvents_cons, List.mem_append, not_or] at hkept
    obtain ⟨f', hf', hfirst⟩ := (step_run e op).follows h hf hkept.1
    obtain ⟨g, hg, hrest⟩ := ih ((step_run e op).named h) hf' hkept.2
    exact ⟨g, hg, hfirst.cons hrest⟩

/-- The engine after an operation of a history, and the rest of the run. -/
theorem exists_of_history_eq {op : Operation} {answer : Answer} {earlier later : History}
    (hn : e.Named) (h : e.history ops = earlier ++ (op, answer) :: later) :
    ∃ e₁ e₂ ops₂, Step e₁ (op, answer) e₂ ∧ e₂.Named ∧ e₂.history ops₂ = later ∧
      e₂.after ops₂ = e.after ops := by
  induction earlier generalizing e ops with
  | nil => cases ops with
    | nil => cases h
    | cons first ops =>
      obtain ⟨hop, hlater⟩ := List.cons.inj h
      obtain ⟨rfl, rfl⟩ := Prod.mk.inj hop
      exact ⟨e, _, ops, step_run e first, (step_run e first).named hn, hlater, rfl⟩
  | cons entry earlier ih => cases ops with
    | nil => cases h
    | cons first ops =>
      exact ih (e := (first.run e).2) ((step_run e first).named hn) (List.cons.inj h).2

/-- A formatter that the chain has held since some time is in it at the end. -/
theorem HeldSince.mem_chain {later : History} (h : HeldSince e (e.history ops) f later)
    (hn : e.Named) : ∃ g ∈ (e.after ops).chain, Evolved f later g := by
  generalize hpast : e.history ops = past at h
  cases h with
  | initial mem kept =>
    rw [← hpast] at kept ⊢
    obtain ⟨g, hg, hfollows⟩ := hn.follows (hn.mem_chain_iff.mp mem) kept
    rw [← hfollows.name] at hg
    exact ⟨g, (hn.after ops).mem_chain_iff.mpr hg, hfollows.evolved⟩
  | added kept =>
    obtain ⟨e₁, e₂, ops₂, hstep, hn₂, rfl, hafter⟩ := exists_of_history_eq hn hpast
    obtain ⟨g, hg, hfollows⟩ := hn₂.follows hstep.formatter?_added kept
    rw [← hfollows.name] at hg
    rw [← hafter]
    exact ⟨g, (hn₂.after ops₂).mem_chain_iff.mpr hg, hfollows.evolved⟩

/-- A name that is listed at the end is that of a formatter which the chain has held since some
time. -/
theorem exists_heldSince (hn : e.Named) (h : name ∈ (e.after ops).formatterNames) :
    ∃ f later, f.name = name ∧ HeldSince e (e.history ops) f later := by
  rw [formatterNames_after, mem_listed] at h
  rcases h with ⟨hmem, hkept⟩ | ⟨before, behind, hevents, hkept⟩
  · obtain ⟨f, hf⟩ := mem_names_iff.mp hmem
    obtain rfl := hn.name_of_formatter? hf
    exact ⟨f, _, rfl, .initial (hn.mem_chain_iff.mpr hf) hkept⟩
  · obtain ⟨front, rest, hpast, -, hrest⟩ := List.filterMap_eq_append_iff.mp hevents
    obtain ⟨still, ⟨op, answer⟩, later, rfl, -, hop, rfl⟩ := List.filterMap_eq_cons_iff.mp hrest
    have hadded : ∃ f : Formatter, f.name = name ∧ (op, answer) = (.addFormatter f, .done) := by
      unfold chainEvent? at hop
      split at hop
      · next f heq => exact ⟨f, Event.added.inj (Option.some.inj hop), heq⟩
      · cases hop
      · cases hop
    obtain ⟨f, rfl, heq⟩ := hadded
    rw [heq, ← List.append_assoc] at hpast
    exact ⟨f, later, rfl, hpast ▸ .added hkept⟩

/-- **Registries over a run.** The engine at the end of a run of operations is what the history of the
run says. -/
theorem isAfter_history (h : e.Named) (ops : List Operation) :
    IsAfter e (e.history ops) (e.after ops) where
  names := (h.after ops).formatterNames_eq
  distinct := (e.after ops).formatters.nodup
  order := formatterNames_after e ops
  held f later hheld := hheld.mem_chain h
  origin g hg := by
    have hnow := h.after ops
    have hmem : g.name ∈ (e.after ops).formatterNames :=
      mem_names_iff.mpr ⟨g, hnow.mem_chain_iff.mp hg⟩
    obtain ⟨f, later, hname, hheld⟩ := exists_heldSince h hmem
    obtain ⟨g', hg', hevolved⟩ := hheld.mem_chain h
    -- the chain holds one formatter of the name
    have hsame : g'.name = g.name := hevolved.name.trans hname
    obtain rfl : g' = g := by
      have hfound := hnow.mem_chain_iff.mp hg'
      rw [hsame, hnow.mem_chain_iff.mp hg] at hfound
      exact (Option.some.inj hfound).symm
    exact ⟨f, later, hheld, hevolved⟩
  answers op := (h.after ops).run_fst op
  unchanged op hop := run_snd_of_ne_done hop

/-- A formatter that is removed and added again is behind the other one, with new registries. -/
theorem isAfter_history_readded :
    let ops : List Operation := [
      .addFormatter .percentDefault, .removeFormatter braceName, .addFormatter (.brace .empty),
      .addExtension braceName "upper" (.transformer pure), .hasExtension braceName .rule "upper"]
    let now := Engine.default.after ops
    Engine.default.Named ∧ IsAfter Engine.default (Engine.default.history ops) now ∧
      chainEvents (Engine.default.history ops) = [.removed braceName, .added braceName] ∧
      now.formatterNames = [percentName, braceName] ∧
      now.chain.map Formatter.transformerNames = [[], ["upper"]] :=
  ⟨named_default, isAfter_history named_default _, by decide +kernel, by decide +kernel,
    by decide +kernel⟩

end Stencil.Engine
