import Stencil.Brace.Path
import Stencil.Proofs.Entries
import Stencil.Proofs.Number.Numeral
import Stencil.Proofs.Text.Split
import Stencil.Proofs.Value.Sequence

/-!
# The resolution of paths

A path starts at an argument and goes on from member to member.

* `Selects`: the argument at which a path starts, and the segments that lead on from it.
* `Looks`, `Invokes`: the member that a segment finds, and what it gives if it is called.
* `Walks`: the rules by which segments are followed. A missing member is the end of a path.
* `Resolves`: the value that a path comes to.
* `Walks.run_walk`, `Resolves.run_resolve`: this is what `walk` and `resolve` do.
* `Store.Called`, `Walks.called`: a callable is called as often as it is found.
* `resolve_path`: what a key resolves to.
-/

namespace Stencil

/-! ## Calls -/

/-- The value is the callable with this number. -/
def Value.isCallable (id : CallableId) : Value → Bool
  | callable other => decide (other = id)
  | _ => false

/-- The values have been called, each callable among them as often as it occurs. -/
def Store.Called (store : Store) (values : List Value) (after : Store) : Prop :=
  ∀ id : CallableId, after.callables[id.index]? =
    (store.callables[id.index]?).map fun f => { f with calls := f.calls + values.countP (·.isCallable id) }

namespace Store

variable {store after called : Store} {values more : List Value}

theorem called_nil (h : after.callables = store.callables) : store.Called [] after := by
  intro id
  rw [h, List.countP_nil]
  simp

theorem Called.append (h : store.Called values called) (h' : called.Called more after) :
    store.Called (values ++ more) after := by
  intro id
  rw [h' id, h id, Option.map_map, List.countP_append]
  simp only [Function.comp_def, Nat.add_assoc]

/-- A value is called once, if it is callable. -/
theorem called_invoked (v : Value) (store : Store) : store.Called [v] (v.invoked.run store).2 := by
  intro id
  cases v with
  | callable other =>
    show (Store.call other store).2.callables[id.index]? = _
    rw [Store.call]
    cases hf : store.callables[other.index]? with
    | none =>
      by_cases hother : other = id
      · simp [← hother, hf]
      · simp [Value.isCallable, hother]
    | some f =>
      by_cases hother : other = id
      · subst hother
        obtain ⟨hlt, heq⟩ := Array.getElem?_eq_some_iff.mp hf
        simp [Value.isCallable, hlt, heq]
      · have hne : other.index ≠ id.index := fun h => hother (by cases other; cases id; simp_all)
        simp [Value.isCallable, hother, hne]
  | _ => exact called_nil rfl id

end Store

namespace Brace

open Number

/-! ## The rules -/

/-- The segments of a path, the first one apart, select an argument by its number, and lead on from it. A
numeral in front is the number; otherwise it is the first argument, and all segments lead on. -/
inductive Selects (first : List Char) (rest : List (List Char)) : Nat → List (List Char) → Prop
  | number {ds} : Spells 10 ds first → Selects first rest (ofDigits 10 ds) rest
  | first : (∀ ds, ¬ Spells 10 ds first) → Selects first rest 0 (first :: rest)

/-- `Looks v name store found after`: looking the member `name` of `v` up finds `found`, which has not been
called yet. A mapping has the first entry with this key. What sequences and texts have is in their tables, and
nothing else has members. -/
inductive Looks : Value → String → Store → Option Value → Store → Prop
  | entry {front back name member store} : name ∉ front.map Prod.fst →
      Looks (.keyed (front ++ (name, member) :: back)) name store (some member) store
  | noEntry {entries name store} : name ∉ entries.map Prod.fst →
      Looks (.keyed entries) name store none store
  | sequence {id name store found after} :
      (Value.sequenceMember? id name).run store = (found, after) →
      Looks (.sequence id) name store found after
  | text {s name store} : Looks (.text s) name store (Value.textMember? s name) store
  | other {v name store} : (∀ entries, v ≠ .keyed entries) → (∀ id, v ≠ .sequence id) →
      (∀ s, v ≠ .text s) → Looks v name store none store

/-- `Invokes v store next after`: a callable is called, and what its call gives is not called again. Any other
value is what it is. -/
inductive Invokes : Value → Store → Value → Store → Prop
  | value {v store} : (∀ id, v ≠ .callable id) → Invokes v store v store
  | called {id store f} : store.callables[id.index]? = some f →
      Invokes (.callable id) store (f.behaviour f.calls store.heap).1
        ⟨(f.behaviour f.calls store.heap).2,
          store.callables.setIfInBounds id.index { f with calls := f.calls + 1 }⟩
  | missing {id store} : store.callables[id.index]? = none →
      Invokes (.callable id) store .undefined store

/-- What following segments comes to. -/
structure Walked where
  /-- The members that are found, before they are called. -/
  members : List Value
  /-- The value behind the last segment; none if a member is missing. -/
  value : Option Value
  after : Store

/-- `Walks v segments store walked`: from `v` in `store`, following `segments` comes to `walked`. A member
is looked up in the value and the store that the segment before it has left, and it is called when it is
found. No segment behind a missing member is followed. -/
inductive Walks : Value → List (List Char) → Store → Walked → Prop
  | done {v store} : Walks v [] store ⟨[], some v, store⟩
  | missing {v segment rest store} : Looks v (String.ofList segment) store none store →
      Walks v (segment :: rest) store ⟨[], none, store⟩
  | found {v segment rest store member looked next called walked} :
      Looks v (String.ofList segment) store (some member) looked →
      Invokes member looked next called →
      Walks next rest called walked →
      Walks v (segment :: rest) store { walked with members := member :: walked.members }

/-- `Resolves args index path store v after`: from the argument with the number `index`, which is called if it
is callable, `path` leads to `v`. It is the empty text if the argument or a member is missing. An argument
whose number has more than 64 bits is missing. -/
inductive Resolves (args : List Value) (index : Nat) (path : List (List Char)) (store : Store) :
    Value → Store → Prop
  | noArgument : args.length ≤ index ∨ 2 ^ 64 ≤ index →
      Resolves args index path store (.text "") store
  | walked {arg v called walked} : args[index]? = some arg → index < 2 ^ 64 →
      Invokes arg store v called → Walks v path called walked →
      Resolves args index path store (walked.value.getD (.text "")) walked.after

/-! ## Look-ups and calls -/

section

variable {v next : Value} {name : String} {store after : Store} {found : Option Value}

/-- What is looked up by the rules is what `heldMember?` finds. -/
theorem looks_iff : Looks v name store found after ↔ (v.heldMember? name).run store = (found, after) := by
  have hkeyed : ∀ entries, ((Value.keyed entries).heldMember? name).run store =
      (Entries.find? name entries, store) := fun _ => rfl
  constructor
  · intro h
    cases h with
    | entry hfront => rw [hkeyed, Entries.find?_append_cons hfront]
    | noEntry hentries => rw [hkeyed, Entries.find?_eq_none_iff.mpr hentries]
    | sequence hrun => exact hrun
    | text => rfl
    | other hkeyed hsequence htext =>
      cases v with
      | keyed entries => exact absurd rfl (hkeyed entries)
      | sequence id => exact absurd rfl (hsequence id)
      | text s => exact absurd rfl (htext s)
      | _ => rfl
  · intro h
    cases v with
    | keyed entries =>
      rw [hkeyed] at h
      obtain ⟨hfound, rfl⟩ := Prod.mk.inj h
      -- The entry that is found is the first one with its key.
      cases found with
      | none => exact .noEntry (Entries.find?_eq_none_iff.mp hfound)
      | some member =>
        obtain ⟨front, back, rfl, hfront⟩ := Entries.exists_of_find?_eq_some hfound
        exact .entry hfront
    | sequence id => exact .sequence h
    | text s => cases h; exact .text
    | _ => cases h; exact .other nofun nofun nofun

/-- What is called by the rules is what `invoked` gives. -/
theorem invokes_iff : Invokes v store next after ↔ v.invoked.run store = (next, after) := by
  have hcall : ∀ id, (Value.callable id).invoked.run store = Store.call id store := fun _ => rfl
  constructor
  · intro h
    cases h with
    | value hv =>
      cases v with
      | callable id => exact absurd rfl (hv id)
      | _ => rfl
    | called hf => rw [hcall, Store.call, hf]
    | missing hf => rw [hcall, Store.call, hf]
  · intro h
    cases v with
    | callable id =>
      rw [hcall, Store.call] at h
      cases hf : store.callables[id.index]? with
      | none => rw [hf] at h; cases h; exact .missing hf
      | some f => rw [hf] at h; cases h; exact .called hf
    | _ =>
      cases h
      refine .value fun id hid => ?_
      cases hid

end

/-! ## Walks -/

section

variable {v : Value} {segments : List (List Char)} {store : Store} {walked : Walked}

theorem run_member? (v : Value) (name : String) (store : Store) :
    (v.member? name).run store =
      match (v.heldMember? name).run store with
      | (some found, after) => (some (found.invoked.run after).1, (found.invoked.run after).2)
      | (none, after) => (none, after) := by
  rw [Value.member?, StateT.run_bind]
  rcases (v.heldMember? name).run store with ⟨_ | found, after⟩ <;> rfl

/-- Looking a missing member up changes nothing. -/
theorem Looks.eq_of_none {name : String} {after : Store} (h : Looks v name store none after) :
    after = store := by
  rcases v.heldMember?_cases name store with ⟨id, removed, items, -, -, -, hrun⟩ | ⟨hsame, -⟩
  · rw [looks_iff.mp h] at hrun
    cases hrun
  · rw [looks_iff.mp h] at hsame
    exact hsame

/-- What is walked by the rules is what `walk` does. -/
theorem Walks.run_walk (h : Walks v segments store walked) :
    (walk v segments).run store = (walked.value, walked.after) := by
  induction h with
  | done => rfl
  | missing hlook =>
    rw [walk, StateT.run_bind, run_member?, looks_iff.mp hlook]
    rfl
  | found hlook hcall _ ih =>
    rw [walk, StateT.run_bind, run_member?, looks_iff.mp hlook]
    dsimp only
    rw [invokes_iff.mp hcall, ← ih]
    rfl

/-- Segments are followed in one way. -/
theorem existsUnique_walks (v : Value) (segments : List (List Char)) (store : Store) :
    ∃! walked, Walks v segments store walked := by
  induction segments generalizing v store with
  | nil => exact ⟨_, .done, fun other h => by cases h; rfl⟩
  | cons segment rest ih =>
    rcases hlook : (v.heldMember? (String.ofList segment)).run store with ⟨_ | member, looked⟩
    · obtain rfl := (looks_iff.mpr hlook).eq_of_none
      refine ⟨_, .missing (looks_iff.mpr hlook), fun other h => ?_⟩
      cases h with
      | missing _ => rfl
      | found hlook' _ _ =>
        rw [looks_iff, hlook] at hlook'
        cases hlook'
    · rcases hcall : member.invoked.run looked with ⟨next, called⟩
      obtain ⟨walked, hwalked, hunique⟩ := ih next called
      refine ⟨_, .found (looks_iff.mpr hlook) (invokes_iff.mpr hcall) hwalked, fun other h => ?_⟩
      -- Another walk looks the same member up and calls it with the same outcome.
      cases h with
      | missing hlook' =>
        rw [looks_iff, hlook] at hlook'
        cases hlook'
      | found hlook' hcall' h' =>
        rw [looks_iff, hlook] at hlook'
        cases hlook'
        rw [invokes_iff, hcall] at hcall'
        cases hcall'
        rw [hunique _ h']

/-- There is a value at the end exactly if every segment has found a member. -/
theorem Walks.isSome_iff (h : Walks v segments store walked) :
    walked.members.length ≤ segments.length ∧
      (walked.value.isSome = true ↔ walked.members.length = segments.length) := by
  induction h with
  | done => simp
  | missing _ => simp
  | found _ _ _ ih => simpa using ih

/-- The members that are found are called, and nothing else is. -/
theorem Walks.called (h : Walks v segments store walked) :
    store.Called walked.members walked.after := by
  induction h with
  | done => exact Store.called_nil rfl
  | missing _ => exact Store.called_nil rfl
  | @found v segment rest store member looked next called walked hlook hcall _ ih =>
    have hlooked : store.Called [] looked := by
      have hcallables := v.callables_heldMember? (String.ofList segment) store
      rw [looks_iff.mp hlook] at hcallables
      exact Store.called_nil hcallables
    have hcalled := Store.called_invoked member looked
    rw [invokes_iff.mp hcall] at hcalled
    exact (hlooked.append hcalled).append ih

end

/-! ## Paths -/

section

variable {key first : List Char} {rest path : List (List Char)} {index : Nat} {args : List Value}
  {store : Store}

theorem isIndex_iff : isIndex first = true ↔ ∃ ds, Spells 10 ds first := by
  rw [exists_spells_iff, isIndex, Bool.and_eq_true, List.all_eq_true]
  simp

theorem exists_selects (first : List Char) (rest : List (List Char)) :
    ∃ index path, Selects first rest index path := by
  by_cases h : ∃ ds, Spells 10 ds first
  · obtain ⟨ds, hds⟩ := h
    exact ⟨_, _, .number hds⟩
  · exact ⟨_, _, .first (not_exists.mp h)⟩

/-- A key is split into the number of an argument, if it has not too many bits, and the segments that lead
on from it. -/
theorem Selects.splitPath_eq (hkey : Text.splitOn '.' key = first :: rest)
    (h : Selects first rest index path) :
    splitPath key = ((some index).filter (· < 2 ^ 64), path) := by
  rw [splitPath, hkey]
  cases h with
  | number hds =>
    have hnumber := (ofNumeral?_eq_some_iff (by decide)).mpr ⟨_, hds, rfl⟩
    simp only [if_pos (isIndex_iff.mpr ⟨_, hds⟩), hnumber]
  | first hds =>
    have hindex : ¬ isIndex first = true := fun hindex => not_exists.mpr hds (isIndex_iff.mp hindex)
    simp only [if_neg hindex]
    rfl

/-- The argument that a key selects. -/
theorem Selects.argument_eq (hkey : Text.splitOn '.' key = first :: rest)
    (h : Selects first rest index path) (args : List Value) :
    (splitPath key).1.bind (args[·]?) = if index < 2 ^ 64 then args[index]? else none := by
  rw [h.splitPath_eq hkey, Option.filter]
  by_cases hindex : index < 2 ^ 64
  · simp only [hindex, decide_true, if_true, Option.bind_some]
  · simp only [hindex, decide_false, Bool.false_eq_true, if_false, Option.bind_none]

theorem run_resolve_of_none (h : (splitPath key).1.bind (args[·]?) = none) (store : Store) :
    (resolve key args).run store = (.text "", store) := by
  rw [resolve]
  generalize splitPath key = parts at h ⊢
  obtain ⟨index, segments⟩ := parts
  dsimp only at h ⊢
  rw [h]
  rfl

theorem run_resolve_of_some {arg v : Value} {called : Store}
    (h : (splitPath key).1.bind (args[·]?) = some arg) (hcall : arg.invoked.run store = (v, called)) :
    (resolve key args).run store =
      (((walk v (splitPath key).2).run called).1.getD (.text ""),
        ((walk v (splitPath key).2).run called).2) := by
  rw [resolve]
  generalize splitPath key = parts at h ⊢
  obtain ⟨index, segments⟩ := parts
  dsimp only at h ⊢
  rw [h]
  dsimp only
  rw [StateT.run_bind, hcall]
  rfl

/-- What a path resolves to by the rules is what `resolve` gives for a key that selects it. -/
theorem Resolves.run_resolve (hkey : Text.splitOn '.' key = first :: rest)
    (hselects : Selects first rest index path) {v : Value} {after : Store}
    (h : Resolves args index path store v after) : (resolve key args).run store = (v, after) := by
  cases h with
  | noArgument hindex =>
    refine run_resolve_of_none ?_ store
    rw [hselects.argument_eq hkey]
    split
    · exact List.getElem?_eq_none (by omega)
    · rfl
  | @walked arg _ _ _ harg hindex hcall hwalks =>
    have harg : (splitPath key).1.bind (args[·]?) = some arg := by
      rw [hselects.argument_eq hkey, if_pos hindex, harg]
    rw [run_resolve_of_some harg (invokes_iff.mp hcall), hselects.splitPath_eq hkey, hwalks.run_walk]

/-- Every path comes to a value. -/
theorem exists_resolves (args : List Value) (index : Nat) (path : List (List Char)) (store : Store) :
    ∃ v after, Resolves args index path store v after := by
  by_cases hindex : args.length ≤ index ∨ 2 ^ 64 ≤ index
  · exact ⟨_, _, .noArgument hindex⟩
  · rw [not_or, Nat.not_le, Nat.not_le] at hindex
    rcases hcall : args[index].invoked.run store with ⟨v, called⟩
    obtain ⟨walked, hwalks, -⟩ := existsUnique_walks v path called
    exact ⟨_, _, .walked (List.getElem?_eq_getElem hindex.1) hindex.2 (invokes_iff.mpr hcall) hwalks⟩

/-- A key without a number in front is a path into the first argument. -/
theorem resolve_zero (hkey : Text.splitOn '.' key = first :: rest) (h : ∀ ds, ¬ Spells 10 ds first)
    (args : List Value) : resolve ('0' :: '.' :: key) args = resolve key args := by
  have hzero : Text.splitOn '.' ('0' :: '.' :: key) = ['0'] :: first :: rest := by
    rw [← hkey]
    rfl
  have hspells : Spells 10 [0] ['0'] := spells_map (by decide) (by decide)
  have hselects : Selects ['0'] (first :: rest) 0 (first :: rest) := .number hspells
  rw [resolve, resolve, hselects.splitPath_eq hzero, (Selects.first h).splitPath_eq hkey]

/-- **Paths.** A key has segments in one way. They select an argument: that with the number that its first
segment spells, which may have zeros in front, or else the first one, as if `0.` stood in front of the key.
If there is no such argument, or the number has more than 64 bits, then the key resolves to the empty
text, and nothing is looked up or called.

Otherwise the argument, called if it is callable, is walked from by the remaining segments, in the only way
that the rules allow. If all of them find a member, the key resolves to the value behind the last one. If
one of them does not, it resolves to the empty text, in the store that this segment was looked up in. The
argument and the members that have been found are called once each, and nothing else is called. -/
theorem resolve_path (key : List Char) (args : List Value) (store : Store) :
    ∃ first rest index path,
      (∀ segments, Text.IsSplit '.' segments key ↔ segments = first :: rest) ∧
      Selects first rest index path ∧
      ((∀ ds, ¬ Spells 10 ds first) → resolve ('0' :: '.' :: key) args = resolve key args) ∧
      (args.length ≤ index ∨ 2 ^ 64 ≤ index → (resolve key args).run store = (.text "", store)) ∧
      ∀ arg, args[index]? = some arg → index < 2 ^ 64 →
        ∃ v called walked,
          Invokes arg store v called ∧
          (∀ other, Walks v path called other ↔ other = walked) ∧
          (resolve key args).run store = (walked.value.getD (.text ""), walked.after) ∧
          (walked.value.isSome = true ↔ walked.members.length = path.length) ∧
          store.Called (arg :: walked.members) walked.after := by
  cases hkey : Text.splitOn '.' key with
  | nil => exact absurd hkey (Text.splitOn_ne_nil '.' key)
  | cons first rest =>
    obtain ⟨index, path, hselects⟩ := exists_selects first rest
    refine ⟨first, rest, index, path, fun segments => ?_, hselects,
      fun hfirst => resolve_zero hkey hfirst args, fun hindex => ?_, fun arg harg hindex => ?_⟩
    · rw [Text.isSplit_iff, hkey]
    · exact (Resolves.noArgument hindex).run_resolve hkey hselects
    · rcases hcall : arg.invoked.run store with ⟨v, called⟩
      obtain ⟨walked, hwalks, hunique⟩ := existsUnique_walks v path called
      have hinvokes := invokes_iff.mpr hcall
      have hrun := (Resolves.walked harg hindex hinvokes hwalks).run_resolve hkey hselects
      have hcalled := Store.called_invoked arg store
      rw [hcall] at hcalled
      exact ⟨v, called, walked, hinvokes, fun other => ⟨hunique other, fun h => h ▸ hwalks⟩, hrun,
        hwalks.isSome_iff.2, hcalled.append hwalks.called⟩

/-- A mapping is entered by its key, also one that a callable gives, which is called once. -/
theorem resolve_path_keyed :
    let user : Value := .keyed [("id", .integer 7), ("name", .text "Ann")]
    let args : List Value := [.null, .keyed [("pop", .null), ("user", .callable ⟨0⟩)]]
    (resolve "01.user.name".toList args).run ⟨.empty, #[.constant user]⟩ =
      (.text "Ann", ⟨.empty, #[{ Callable.constant user with calls := 1 }]⟩) := by
  intro user args
  obtain ⟨first, rest, index, path, hsplit, hselects, -, -, hwalk⟩ :=
    resolve_path "01.user.name".toList args ⟨.empty, #[.constant user]⟩
  have hparts := (hsplit [['0', '1'], ['u', 's', 'e', 'r'], ['n', 'a', 'm', 'e']]).mp
    (Text.isSplit_iff.mpr (by decide))
  obtain ⟨rfl, rfl⟩ := List.cons.inj hparts
  have hone : ofNumeral? 10 ['0', '1'] = some 1 := by decide
  cases hselects with
  | first hds =>
    obtain ⟨ds, hspells, -⟩ := (ofNumeral?_eq_some_iff (by decide)).mp hone
    exact absurd hspells (hds ds)
  | number hds =>
    have hindex := (ofNumeral?_eq_some_iff (by decide)).mpr ⟨_, hds, rfl⟩
    rw [hone] at hindex
    rw [← Option.some.inj hindex] at hwalk
    obtain ⟨v, called, walked, hinvokes, hwalks, hrun, -⟩ := hwalk _ rfl (by decide)
    rw [invokes_iff] at hinvokes
    cases hinvokes
    have huser : Looks (.keyed ([("pop", .null)] ++ [("user", .callable ⟨0⟩)])) "user"
        ⟨.empty, #[.constant user]⟩ (some (.callable ⟨0⟩)) ⟨.empty, #[.constant user]⟩ :=
      .entry (by decide)
    have hname : Looks (.keyed ([("id", .integer 7)] ++ [("name", .text "Ann")])) "name"
        ⟨.empty, #[{ Callable.constant user with calls := 1 }]⟩ (some (.text "Ann"))
        ⟨.empty, #[{ Callable.constant user with calls := 1 }]⟩ :=
      .entry (by decide)
    obtain rfl := (hwalks _).mp (.found huser (.called rfl) (.found hname (.value nofun) .done))
    exact hrun

/-- Nothing is popped behind a missing member. -/
example : (resolve "00.nope.pop".toList [.sequence ⟨0⟩]).run ⟨⟨#[[.null]]⟩, #[]⟩ =
    (.text "", ⟨⟨#[[.null]]⟩, #[]⟩) := rfl

end

end Brace

end Stencil
