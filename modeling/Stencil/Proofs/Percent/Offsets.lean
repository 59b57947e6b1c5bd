import Stencil.Percent
import Stencil.Proofs.Action
import Stencil.Proofs.Text.Boundary

/-!
# Byte offsets of percent templates

`Percent.fill` keeps what has been read apart from the rest of the line. Here is the loop with what it
computes by byte offsets: it goes on at an offset, cuts directives out of the line between offsets, and
searches for a boundary in a line that a rule has made. A rule may make any line at all.

* `Percent.trace`: the turns of the loop, which gives up at an offset that is no position in its line.
* `Percent.look?_eq`, `Percent.trace_follows`: the invariant. The offset is the length of what has been read.
* `Percent.trace_inBounds`: the loop never gives up, does what `Percent.format` does, and stays within its
  lines.
-/

namespace Stencil

/-! ## Directives -/

namespace Directive

/-- A body is flags and a letter. -/
def IsBody (cs : List Char) : Prop :=
  ∃ flags letter, cs = flags ++ [letter] ∧ (∀ c ∈ flags, isFlag c = true) ∧ letter.isAlpha = true

theorem isBody_of_bodyAt? {cs body after : List Char} (h : bodyAt? cs = some (body, after)) :
    IsBody body := by
  rw [bodyAt?] at h
  split at h
  · split at h
    · rename_i letter rest _ hletter
      cases h
      exact ⟨_, letter, rfl, List.all_eq_true.mp List.all_takeWhile, hletter⟩
    · cases h
  · cases h

theorem isBody_of_next? {cs : List Char} {cut : Cut} (h : next? cs = some cut) : IsBody cut.body := by
  induction cs generalizing cut with
  | nil => cases h
  | cons c rest ih =>
    rw [next?] at h
    split at h
    · rename_i body after hbody
      cases h
      split at hbody
      · exact isBody_of_bodyAt? hbody
      · cases hbody
    · obtain ⟨inner, hinner, rfl⟩ := Option.map_eq_some_iff.mp h
      have hbody : IsBody inner.body := ih hinner
      exact hbody

/-- The directive is in the line, from offset `cursor` on: `%` and a body stand between its two offsets. -/
structure Delimits (d : Directive) (line : List Char) (cursor : Nat) : Prop where
  slice_eq : Text.sliceBytes? line d.start d.stop = some ('%' :: d.body.toList)
  isBody : IsBody d.body.toList
  cursor_le : cursor ≤ d.start
  start_boundary : Text.IsBoundary line d.start
  stop_boundary : Text.IsBoundary line d.stop

end Directive

namespace Percent

/-! ## The loop by byte offsets -/

/-- What the loop finds in a line. -/
inductive Found where
  /-- There is no directive. -/
  | nothing
  /-- No rule recognises the directive, which ends at this offset. -/
  | unknown (stop : Nat)
  /-- A rule recognises the directive. -/
  | directive (rule : DirectiveRule) (d : Directive)

/-- What the loop finds in the line from the offset `cursor` on; none if it cuts the line at an offset that
is no position in it. -/
def look? (rules : Registry DirectiveRule) (line : List Char) (cursor : Nat) : Option Found := do
  let (_, rest) ← Text.splitBytes? line cursor
  match Directive.next? rest with
  | none => pure .nothing
  | some cut =>
    let start := cursor + Text.byteLength cut.before
    let stop := start + 1 + Text.byteLength cut.body
    let body := String.ofList (← Text.sliceBytes? line (start + 1) stop)
    match firstRule? rules body with
    | none => pure (.unknown stop)
    | some (rule, captures) => pure (.directive rule ⟨body, start, stop, captures⟩)

/-- One turn of the loop. -/
structure Turn where
  /-- The line at its start. -/
  line : List Char
  /-- The offset from which it looks for a directive. -/
  cursor : Nat
  arg : Value
  /-- The directive for which a rule is asked to make a new line. -/
  handed : Option Directive
  /-- The line that the rule has made, and the offset at which the loop goes on in it. -/
  resumed : Option (List Char × Nat)

/-- The turns of the loop, and what it comes to: a result and the store that it leaves, or nothing if it
has to give up. -/
structure Trace where
  turns : List Turn
  outcome : Option (Except Error Formatted × Store)

/-- A turn before others. -/
def Trace.after (turn : Turn) (trace : Trace) : Trace := { trace with turns := turn :: trace.turns }

/-- The loop from a line and an offset on. -/
def trace (rules : Registry DirectiveRule) :
    (line : List Char) → (cursor : Nat) → (matched : Bool) → List Value → Store → Trace
  | line, _, matched, [], store => ⟨[], some (.ok ⟨matched, String.ofList line⟩, store)⟩
  | line, cursor, matched, arg :: args, store =>
    match look? rules line cursor with
    | none => ⟨[⟨line, cursor, arg, none, none⟩], none⟩
    | some .nothing =>
      ⟨[⟨line, cursor, arg, none, none⟩], some (.ok ⟨matched, String.ofList line⟩, store)⟩
    | some (.unknown stop) =>
      (trace rules line stop matched args store).after ⟨line, cursor, arg, none, none⟩
    | some (.directive rule d) =>
      match (rule.substitute d (String.ofList line) arg).run store with
      | (.error e, store) => ⟨[⟨line, cursor, arg, some d, none⟩], some (.error e, store)⟩
      | (.ok replaced, store) =>
        let new := replaced.toList
        match Text.nextBoundary? new (resumeAt d.stop line new) with
        | none => ⟨[⟨line, cursor, arg, some d, none⟩], none⟩
        | some next =>
          (trace rules new next true args store).after ⟨line, cursor, arg, some d, some (new, next)⟩

/-- All offsets of the turn are positions in its lines. -/
structure Turn.InBounds (turn : Turn) : Prop where
  cursor_le : turn.cursor ≤ Text.byteLength turn.line
  cursor_boundary : Text.IsBoundary turn.line turn.cursor
  handed : ∀ d, turn.handed = some d → d.Delimits turn.line turn.cursor
  resumed : ∀ new next, turn.resumed = some (new, next) →
    next ≤ Text.byteLength new ∧ Text.IsBoundary new next

/-! ## The invariant -/

variable {rules : Registry DirectiveRule}

/-- A line, cut at the first directive of its rest. -/
theorem line_eq (done : List Char) {rest : List Char} {cut : Directive.Cut}
    (h : Directive.next? rest = some cut) :
    done ++ rest = done ++ cut.before ++ '%' :: cut.body ++ cut.after := by
  rw [Directive.next?_eq h]
  simp only [List.append_assoc, List.cons_append]

theorem stop_eq (front body : List Char) :
    Text.byteLength front + 1 + Text.byteLength body = Text.byteLength (front ++ '%' :: body) := by
  rw [Text.byteLength_append, Text.byteLength_cons, Nat.add_assoc]
  rfl

/-- The first directive after what has been read, as it is handed to a rule. -/
def handed (done : List Char) (cut : Directive.Cut) (captures : List (Option String)) : Directive where
  body := String.ofList cut.body
  start := Text.byteLength (done ++ cut.before)
  stop := Text.byteLength (done ++ cut.before ++ '%' :: cut.body)
  captures

/-- It is a directive of the line. -/
theorem delimits_handed (done : List Char) {rest : List Char} {cut : Directive.Cut}
    (h : Directive.next? rest = some cut) (captures : List (Option String)) :
    (handed done cut captures).Delimits (done ++ rest) (Text.byteLength done) := by
  have hslice : Text.sliceBytes? (done ++ rest) (handed done cut captures).start
      (handed done cut captures).stop = some ('%' :: cut.body) := by
    rw [line_eq done h]
    exact Text.sliceBytes?_append ..
  obtain ⟨hstart, hstop⟩ := Text.isBoundary_of_sliceBytes? hslice
  have hbody : (handed done cut captures).body.toList = cut.body := String.toList_ofList
  refine ⟨?_, ?_, ?_, hstart, hstop⟩
  · rw [hbody]
    exact hslice
  · rw [hbody]
    exact Directive.isBody_of_next? h
  · show Text.byteLength done ≤ Text.byteLength (done ++ cut.before)
    rw [Text.byteLength_append]
    exact Nat.le_add_right ..

/-- A turn that starts at the length of what has been read. -/
theorem inBounds_turn (done rest : List Char) (arg : Value) {handed : Option Directive}
    {resumed : Option (List Char × Nat)}
    (hhanded : ∀ d, handed = some d → d.Delimits (done ++ rest) (Text.byteLength done))
    (hresumed : ∀ new next, resumed = some (new, next) → Text.IsBoundary new next) :
    Turn.InBounds ⟨done ++ rest, Text.byteLength done, arg, handed, resumed⟩ := by
  have hcursor := Text.isBoundary_byteLength done rest
  exact ⟨hcursor.le, hcursor, hhanded, fun new next h => ⟨(hresumed new next h).le, hresumed new next h⟩⟩

/-- At the length of what has been read, the loop finds the first directive of the rest. -/
theorem look?_eq (done rest : List Char) :
    look? rules (done ++ rest) (Text.byteLength done) = some
      (match Directive.next? rest with
      | none => .nothing
      | some cut =>
        match firstRule? rules (String.ofList cut.body) with
        | none => .unknown (Text.byteLength (done ++ cut.before ++ '%' :: cut.body))
        | some (rule, captures) => .directive rule (handed done cut captures)) := by
  rw [look?, Text.splitBytes?_byteLength]
  show (match Directive.next? rest with | none => _ | some cut => _) = _
  cases hnext : Directive.next? rest with
  | none => rfl
  | some cut =>
    have hslice : Text.sliceBytes? (done ++ rest) (Text.byteLength (done ++ cut.before) + 1)
        (Text.byteLength (done ++ cut.before ++ '%' :: cut.body)) = some cut.body := by
      have hbody : Text.byteLength (done ++ cut.before) + 1 =
          Text.byteLength (done ++ cut.before ++ ['%']) := stop_eq _ []
      rw [line_eq done hnext, hbody, List.append_cons (done ++ cut.before)]
      exact Text.sliceBytes?_append ..
    dsimp only
    rw [← Text.byteLength_append, stop_eq, hslice]
    simp only [Option.bind_eq_bind, Option.bind_some]
    cases firstRule? rules (String.ofList cut.body) <;> rfl

/-- What `format` does from some point on. -/
def formatFrom (rules : Registry DirectiveRule) (done rest : List Char) (matched : Bool)
    (args : List Value) : Action Formatted := do
  let (line, matched) ← fill rules done rest matched args
  pure ⟨matched, String.ofList line⟩

section

variable {done rest : List Char} {matched : Bool} {arg : Value} {args : List Value}

theorem formatFrom_nothing (h : Directive.next? rest = none) :
    formatFrom rules done rest matched (arg :: args) =
      pure ⟨matched, String.ofList (done ++ rest)⟩ := by
  rw [formatFrom, fill, h, pure_bind]

theorem formatFrom_unknown {cut : Directive.Cut} (h : Directive.next? rest = some cut)
    (hrule : firstRule? rules (String.ofList cut.body) = none) :
    formatFrom rules done rest matched (arg :: args) =
      formatFrom rules (done ++ cut.before ++ '%' :: cut.body) cut.after matched args := by
  rw [formatFrom, fill, h]
  simp only [hrule]
  rfl

theorem formatFrom_directive {cut : Directive.Cut} (h : Directive.next? rest = some cut)
    {rule : DirectiveRule} {captures : List (Option String)}
    (hrule : firstRule? rules (String.ofList cut.body) = some (rule, captures)) :
    formatFrom rules done rest matched (arg :: args) = (do
      let d := handed done cut captures
      let new ← rule.substitute d (String.ofList (done ++ rest)) arg
      let parts := Text.cutBytes new.toList (resumeAt d.stop (done ++ rest) new.toList)
      formatFrom rules parts.1 parts.2 true args) := by
  rw [formatFrom, fill, h]
  simp only [hrule, bind_assoc, stop_eq]
  rfl

end

/-- The loop does what the action does, and stays within its lines. The turns are for the first arguments. -/
structure Trace.Follows (trace : Trace) (action : Action Formatted) (args : List Value)
    (store : Store) : Prop where
  outcome_eq : trace.outcome = some (action.run store)
  args_prefix : trace.turns.map Turn.arg <+: args
  inBounds : ∀ turn ∈ trace.turns, turn.InBounds

theorem Trace.Follows.after {trace : Trace} {action action' : Action Formatted} {args : List Value}
    {store store' : Store} (h : trace.Follows action' args store') {turn : Turn}
    (hturn : turn.InBounds) (hrun : action.run store = action'.run store') :
    (trace.after turn).Follows action (turn.arg :: args) store where
  outcome_eq := hrun ▸ h.outcome_eq
  args_prefix := List.cons_prefix_cons.mpr ⟨rfl, h.args_prefix⟩
  inBounds := List.forall_mem_cons.mpr ⟨hturn, h.inBounds⟩

theorem Trace.Follows.last {turn : Turn} (hturn : turn.InBounds) {action : Action Formatted}
    {store : Store} {result : Except Error Formatted × Store} (hrun : action.run store = result)
    (args : List Value) :
    Trace.Follows ⟨[turn], some result⟩ action (turn.arg :: args) store where
  outcome_eq := congrArg some hrun.symm
  args_prefix := List.cons_prefix_cons.mpr ⟨rfl, List.nil_prefix⟩
  inBounds := List.forall_mem_singleton.mpr hturn

/-- **The invariant of the loop.** Its offset is the length of what `fill` has read. -/
theorem trace_follows (done rest : List Char) (matched : Bool) (args : List Value) (store : Store) :
    (trace rules (done ++ rest) (Text.byteLength done) matched args store).Follows
      (formatFrom rules done rest matched args) args store := by
  -- Every turn takes an argument. Where the line is read from moves, so both parts of it are general.
  induction args generalizing done rest matched store with
  | nil => exact ⟨rfl, List.nil_prefix, nofun⟩
  | cons arg args ih =>
    have hquiet : Turn.InBounds ⟨done ++ rest, Text.byteLength done, arg, none, none⟩ :=
      inBounds_turn done rest arg nofun nofun
    rw [trace, look?_eq]
    cases hnext : Directive.next? rest with
    | none =>
      rw [formatFrom_nothing hnext]
      exact .last hquiet rfl args
    | some cut =>
      dsimp only
      cases hrule : firstRule? rules (String.ofList cut.body) with
      | none =>
        have hrest := ih (done ++ cut.before ++ '%' :: cut.body) cut.after matched store
        rw [← line_eq done hnext] at hrest
        exact hrest.after hquiet (by rw [formatFrom_unknown hnext hrule])
      | some found =>
        obtain ⟨rule, captures⟩ := found
        have hdelimits := delimits_handed done hnext captures
        rw [formatFrom_directive hnext hrule]
        dsimp only
        -- A rule may do anything with the directive. What is kept of it is that it delimits a part of the line.
        generalize handed done cut captures = d at hdelimits ⊢
        have hhanded : ∀ d', some d = some d' → d'.Delimits (done ++ rest) (Text.byteLength done) :=
          fun d' hd => Option.some.inj hd ▸ hdelimits
        rcases hrun : (rule.substitute d (String.ofList (done ++ rest)) arg).run store with
          ⟨e | replaced, after⟩
        · have hturn : Turn.InBounds ⟨done ++ rest, Text.byteLength done, arg, some d, none⟩ :=
            inBounds_turn done rest arg hhanded nofun
          exact .last hturn (Action.run_bind_error hrun) args
        · -- The offset to go on from is moved up to a boundary, and this is where `fill` cuts the new line.
          have hresume : resumeAt d.stop (done ++ rest) replaced.toList ≤
              Text.byteLength replaced.toList := Nat.min_le_right ..
          obtain ⟨front, back, hnew, hcut, hfound⟩ := Text.exists_nextBoundary? hresume
          have hboundary : Text.IsBoundary replaced.toList (Text.byteLength front) :=
            hnew ▸ Text.isBoundary_byteLength front back
          have hturn : Turn.InBounds ⟨done ++ rest, Text.byteLength done, arg, some d,
              some (replaced.toList, Text.byteLength front)⟩ := by
            refine inBounds_turn done rest arg hhanded ?_
            rintro _ _ ⟨⟩
            exact hboundary
          have hrest := ih front back true after
          rw [← hnew] at hrest
          dsimp only
          rw [hfound]
          exact hrest.after hturn (by rw [Action.run_bind_ok hrun, hcut])

/-- **In bounds.** Whatever lines the rules make, no offset of the loop is inside a character or past the end
of its line, so that the loop never gives up, and it does what `format` does. At every turn it goes on
from a position in the line, every directive that a rule is handed stands in the line from there on, and
the search for a boundary ends within the new line. A turn hands over one directive at most, and the
turns are for the first arguments, in order. -/
theorem trace_inBounds (rules : Registry DirectiveRule) (template : String) (args : List Value)
    (store : Store) :
    let loop := trace rules template.toList 0 false args store
    loop.outcome = some ((format rules template args).run store) ∧
    (∀ turn ∈ loop.turns, turn.InBounds) ∧
    loop.turns.map Turn.arg <+: args ∧ loop.turns.length ≤ args.length := by
  intro loop
  have h : loop.Follows (format rules template args) args store :=
    trace_follows [] template.toList false args store
  refine ⟨h.outcome_eq, h.inBounds, h.args_prefix, ?_⟩
  have hlength := h.args_prefix.length_le
  rwa [List.length_map] at hlength

end Percent

end Stencil
