import Mathlib.Data.List.Basic
import Stencil.Proofs.Action
import Stencil.Brace
import Stencil.Value.Member

/-!
# What happens to shared sequences

A step looks up a member of a value. Two members of a sequence remove an element of it, and nothing
else changes any sequence.

* `Heap.Keeps`, `Store.Keeps`: all sequences keep their elements, while new ones may appear.
* `Callable.Quiet`, `Store.Quiet`, `Transformer.Quiet`: functions that change no sequence themselves.
* `Value.heldMember?_cases`: everything that a look-up can do.
* `Step`, `Step.of`, `Step.removed?`: a step with what it finds, and the element that it removes.
* `Step.Sound`: what a step does to the sequences; `Step.sound_of` shows it of every step.
* `Linked`, `Linked.elements_eq`: steps after each other, and the elements that they leave.
-/

namespace Stencil

/-! ## Sequences that stay as they are -/

/-- Every sequence is still there with the same elements. -/
structure Heap.Keeps (heap heap' : Heap) : Prop where
  size_le : heap.size ≤ heap'.size
  elements_eq : ∀ id : SequenceId, id.index < heap.size → heap'.elements id = heap.elements id

namespace Heap

theorem Keeps.refl (heap : Heap) : heap.Keeps heap := ⟨Nat.le_refl _, fun _ _ => rfl⟩

theorem Keeps.trans {heap heap₁ heap₂ : Heap} (h : heap.Keeps heap₁) (h' : heap₁.Keeps heap₂) :
    heap.Keeps heap₂ where
  size_le := Nat.le_trans h.size_le h'.size_le
  elements_eq id hid :=
    (h'.elements_eq id (Nat.lt_of_lt_of_le hid h.size_le)).trans (h.elements_eq id hid)

@[simp] theorem size_write (heap : Heap) (id : SequenceId) (items : List Value) :
    (heap.write id items).size = heap.size := by
  simp [size, write]

/-- Elements that are written back change nothing. -/
@[simp] theorem write_elements (heap : Heap) (id : SequenceId) :
    heap.write id (heap.elements id) = heap := by
  refine congrArg Heap.mk (Array.ext_getElem? fun i => ?_)
  rw [elements, Array.getElem?_setIfInBounds]
  split
  · next hi =>
    subst hi
    split
    · next hlt =>
      rw [Array.getElem?_eq_getElem hlt]
      rfl
    · next hlt => rw [Array.getElem?_eq_none (Nat.not_lt.mp hlt)]
  · rfl

/-- Only a sequence that is there has elements. -/
theorem index_lt_of_elements_ne_nil {heap : Heap} {id : SequenceId} (h : heap.elements id ≠ []) :
    id.index < heap.size := by
  refine Nat.lt_of_not_ge fun hid => h ?_
  rw [elements, Array.getElem?_eq_none hid]
  rfl

end Heap

/-- A function that changes no sequence; it may make new ones. -/
def Callable.Quiet (f : Callable) : Prop := ∀ n (heap : Heap), heap.Keeps (f.behaviour n heap).2

/-- No callable changes a sequence. -/
def Store.Quiet (store : Store) : Prop := ∀ f ∈ store.callables, f.Quiet

/-- The sequences are kept, and the callables change none later on. -/
structure Store.Keeps (store store' : Store) : Prop where
  heap : Heap.Keeps store.heap store'.heap
  quiet : store'.Quiet

/-- A transformer that changes no sequence, unless a callable does. -/
def Transformer.Quiet (f : Transformer) : Prop :=
  ∀ v (store : Store), store.Quiet → store.Keeps ((f v).run store).2

namespace Store

theorem Quiet.keeps {store : Store} (h : store.Quiet) : store.Keeps store := ⟨.refl _, h⟩

theorem Keeps.trans {store store₁ store₂ : Store} (h : store.Keeps store₁) (h' : store₁.Keeps store₂) :
    store.Keeps store₂ :=
  ⟨h.heap.trans h'.heap, h'.quiet⟩

theorem Quiet.call {store : Store} (h : store.Quiet) (id : CallableId) :
    store.Keeps ((Store.call id).run store).2 := by
  show store.Keeps (Store.call id store).2
  rw [Store.call]
  cases hf : store.callables[id.index]? with
  | none => exact h.keeps
  | some f =>
    have hquiet : f.Quiet := h f (Array.mem_of_getElem? hf)
    refine ⟨hquiet f.calls store.heap, fun g hg => ?_⟩
    rcases Array.mem_or_eq_of_mem_setIfInBounds hg with hg | rfl
    · exact h g hg
    · exact fun n => hquiet n

theorem Quiet.invoked {store : Store} (h : store.Quiet) (v : Value) :
    store.Keeps ((Value.invoked v).run store).2 := by
  cases v with
  | callable id => exact h.call id
  | _ => exact h.keeps

/-! ## The two removals -/

variable {store : Store} {id : SequenceId}

theorem run_pop_nil (h : store.heap.elements id = []) :
    (pop id).run store = (.undefined, store) := by
  simp only [pop, StateT.run_bind, StateT.run_get, pure_bind, h]
  rfl

theorem run_pop_concat {front : List Value} {v : Value}
    (h : store.heap.elements id = front ++ [v]) :
    (pop id).run store = (v, { store with heap := store.heap.write id front }) := by
  simp only [pop, StateT.run_bind, StateT.run_get, pure_bind, h, List.getLast?_concat,
    List.dropLast_concat]
  rfl

theorem run_shift_nil (h : store.heap.elements id = []) :
    (shift id).run store = (.undefined, store) := by
  simp only [shift, StateT.run_bind, StateT.run_get, pure_bind, h]
  rfl

theorem run_shift_cons {v : Value} {rest : List Value} (h : store.heap.elements id = v :: rest) :
    (shift id).run store = (v, { store with heap := store.heap.write id rest }) := by
  simp only [shift, StateT.run_bind, StateT.run_get, pure_bind, h]
  rfl

/-- The last element is removed, if there is one. -/
theorem run_pop (id : SequenceId) (store : Store) : (pop id).run store =
    ((store.heap.elements id).getLast?.getD .undefined,
      { store with heap := store.heap.write id (store.heap.elements id).dropLast }) := by
  rcases List.eq_nil_or_concat' (store.heap.elements id) with hitems | ⟨front, v, hitems⟩
  · have hwrite := store.heap.write_elements id
    rw [hitems] at hwrite
    rw [run_pop_nil hitems, hitems, List.dropLast_nil, hwrite]
    rfl
  · rw [run_pop_concat hitems, hitems, List.dropLast_concat, List.getLast?_concat]
    rfl

/-- The first element is removed, if there is one. -/
theorem run_shift (id : SequenceId) (store : Store) : (shift id).run store =
    ((store.heap.elements id).head?.getD .undefined,
      { store with heap := store.heap.write id (store.heap.elements id).tail }) := by
  cases hitems : store.heap.elements id with
  | nil =>
    have hwrite := store.heap.write_elements id
    rw [hitems] at hwrite
    rw [run_shift_nil hitems, List.tail_nil, hwrite]
    rfl
  | cons v rest =>
    rw [run_shift_cons hitems]
    rfl

/-- No other member of a sequence changes anything. -/
theorem run_sequenceMember?_of_ne {name : String} (hpop : name ≠ "pop") (hshift : name ≠ "shift")
    (id : SequenceId) (store : Store) :
    ((Value.sequenceMember? id name).run store).2 = store := by
  simp only [Value.sequenceMember?, StateT.run_bind, StateT.run_get, pure_bind]
  split
  · rfl
  · split <;> first | rfl | contradiction

end Store

/-- The name of a member that removes an element of a sequence. -/
def IsRemover (name : String) : Prop := name = "pop" ∨ name = "shift"

/-- What a look-up does: it removes an element at one end of a sequence, or it changes nothing. A
sequence from which it can remove nothing gives `undefined`. -/
theorem Value.heldMember?_cases (v : Value) (name : String) (store : Store) :
    (∃ id removed items, v = .sequence id ∧ IsRemover name ∧
      store.heap.elements id = (if name = "shift" then removed :: items else items ++ [removed]) ∧
      (v.heldMember? name).run store =
        (some removed, { store with heap := store.heap.write id items })) ∨
    ((v.heldMember? name).run store).2 = store ∧
      ∀ id, v = .sequence id → IsRemover name →
        store.heap.elements id = [] ∧ ((v.heldMember? name).run store).1 = some .undefined := by
  cases v with
  | sequence id =>
    -- Two names remove an element if there is one; any other name only reads.
    by_cases hpop : name = "pop"
    · subst hpop
      have hrun : ((sequence id).heldMember? "pop").run store =
        (some ((Store.pop id).run store).1, ((Store.pop id).run store).2) := rfl
      rw [hrun]
      rcases List.eq_nil_or_concat' (store.heap.elements id) with hitems | ⟨front, v, hitems⟩
      · rw [Store.run_pop_nil hitems]
        exact .inr ⟨rfl, fun other h _ => by cases h; exact ⟨hitems, rfl⟩⟩
      · rw [Store.run_pop_concat hitems]
        exact .inl ⟨id, v, front, rfl, .inl rfl, hitems, rfl⟩
    by_cases hshift : name = "shift"
    · subst hshift
      have hrun : ((sequence id).heldMember? "shift").run store =
        (some ((Store.shift id).run store).1, ((Store.shift id).run store).2) := rfl
      rw [hrun]
      cases hitems : store.heap.elements id with
      | nil =>
        rw [Store.run_shift_nil hitems]
        exact .inr ⟨rfl, fun other h _ => by cases h; exact ⟨hitems, rfl⟩⟩
      | cons v rest =>
        rw [Store.run_shift_cons hitems]
        exact .inl ⟨id, v, rest, rfl, .inr rfl, hitems, rfl⟩
    · exact .inr ⟨Store.run_sequenceMember?_of_ne hpop hshift id store,
        fun other _ hname => absurd hname (not_or.mpr ⟨hpop, hshift⟩)⟩
  | _ => exact .inr ⟨rfl, nofun⟩

/-- A look-up leaves the callables as they are. -/
theorem Value.callables_heldMember? (v : Value) (name : String) (store : Store) :
    ((v.heldMember? name).run store).2.callables = store.callables := by
  rcases v.heldMember?_cases name store with ⟨id, removed, items, -, -, -, hrun⟩ | ⟨hsame, -⟩
  · rw [hrun]
  · rw [hsame]

/-! ## Steps -/

/-- The look-up of a member, with the sequences before and after it. -/
structure Step where
  value : Value
  name : String
  before : Heap
  /-- The member, before it is called. -/
  found : Option Value
  after : Heap

namespace Step

/-- The look-up of the member of a value in a store. -/
def of (v : Value) (name : String) (store : Store) : Step :=
  let run := (v.heldMember? name).run store
  ⟨v, name, store.heap, run.1, run.2.heap⟩

/-- The step is one of the two that remove an element of a sequence. -/
def Removes (s : Step) (id : SequenceId) : Prop := s.value = .sequence id ∧ IsRemover s.name

/-- What the step named `remover` gives of a sequence that has elements: the one that it removes. -/
def removed? (remover : String) (id : SequenceId) (s : Step) : Option Value :=
  match s.value with
  | .sequence other =>
    if other = id ∧ s.name = remover ∧ s.before.elements id ≠ [] then s.found else none
  | _ => none

/-- The element that a step removes from the front of a sequence. -/
def shifted? : SequenceId → Step → Option Value := removed? "shift"

/-- The element that a step removes from the end of a sequence. -/
def popped? : SequenceId → Step → Option Value := removed? "pop"

/-- What a step does to the sequences. -/
structure Sound (s : Step) : Prop where
  /-- Only the two removals change anything. -/
  same : (∀ id, ¬ s.Removes id) → s.after = s.before
  /-- There is nothing to remove from an empty sequence. -/
  empty : ∀ id, s.Removes id → s.before.elements id = [] →
    s.found = some .undefined ∧ s.after = s.before
  size_eq : s.after.size = s.before.size
  /-- What is removed is at the ends of what was there. -/
  split : ∀ id, s.before.elements id =
    (s.shifted? id).toList ++ s.after.elements id ++ (s.popped? id).toList

theorem removed?_eq_none {remover : String} {id : SequenceId} {s : Step}
    (h : s.value = .sequence id → s.name ≠ remover ∨ s.before.elements id = []) :
    s.removed? remover id = none := by
  rw [removed?]
  split
  · next other hvalue =>
    rw [if_neg]
    rintro ⟨rfl, hname, helements⟩
    exact (h hvalue).elim (· hname) helements
  · rfl

theorem removed?_eq_found {remover : String} {id : SequenceId} {s : Step}
    (hvalue : s.value = .sequence id) (hname : s.name = remover)
    (helements : s.before.elements id ≠ []) : s.removed? remover id = s.found := by
  rw [removed?, hvalue]
  exact if_pos ⟨rfl, hname, helements⟩

/-- A step that changes nothing, because it is no removal or there is nothing to remove. -/
theorem Sound.of_same {s : Step} (hafter : s.after = s.before)
    (hremoves : ∀ id, s.Removes id → s.before.elements id = [] ∧ s.found = some .undefined) :
    s.Sound where
  same _ := hafter
  empty id h _ := ⟨(hremoves id h).2, hafter⟩
  size_eq := by rw [hafter]
  split id := by
    have hnone : ∀ remover, IsRemover remover → s.removed? remover id = none := by
      intro remover hremover
      refine removed?_eq_none fun hvalue => or_iff_not_imp_left.mpr fun hname => ?_
      rw [← not_not.mp hname] at hremover
      exact (hremoves id ⟨hvalue, hremover⟩).1
    rw [shifted?, popped?, hnone _ (.inl rfl), hnone _ (.inr rfl), hafter]
    simp

/-- The removal of an element at one end. -/
theorem Sound.of_write {heap : Heap} {id : SequenceId} {remover : String} {v : Value}
    {items : List Value} (hremover : IsRemover remover)
    (helements : heap.elements id = if remover = "shift" then v :: items else items ++ [v]) :
    (Step.mk (.sequence id) remover heap (some v) (heap.write id items)).Sound := by
  have hne : heap.elements id ≠ [] := by
    rw [helements]
    split <;> simp
  refine ⟨fun h => absurd ⟨rfl, hremover⟩ (h id), ?_, Heap.size_write .., fun other => ?_⟩
  · rintro other ⟨hvalue, -⟩ hempty
    cases hvalue
    exact absurd hempty hne
  -- As a variable the step fits the lemmas on what a step has removed.
  generalize hs : Step.mk (.sequence id) remover heap (some v) (heap.write id items) = s
  obtain rfl : s.before = heap := by rw [← hs]
  have hafter : s.after = s.before.write id items := by rw [← hs]
  have hvalue : s.value = .sequence id := by rw [← hs]
  by_cases hother : id = other
  · subst hother
    have hfound : s.removed? remover id = some v := by
      rw [removed?_eq_found hvalue (by rw [← hs]) hne, ← hs]
    have hnone : ∀ name, name ≠ remover → s.removed? name id = none := fun name hname =>
      removed?_eq_none fun _ => .inl (by rw [← hs]; exact hname.symm)
    rw [shifted?, popped?, hafter,
      Heap.elements_write_self _ _ (Heap.index_lt_of_elements_ne_nil hne), helements]
    rcases hremover with rfl | rfl
    · rw [hfound, hnone "shift" (by decide)]
      rfl
    · rw [hfound, hnone "pop" (by decide), List.append_assoc, Option.toList_none, List.append_nil]
      rfl
  · have hnone : ∀ name, s.removed? name other = none := fun name =>
      removed?_eq_none fun h => absurd (Value.sequence.inj (hvalue.symm.trans h)) hother
    rw [shifted?, popped?, hnone, hnone, hafter, Heap.elements_write_of_ne _ _ hother]
    simp

/-- Every step is sound. -/
theorem sound_of (v : Value) (name : String) (store : Store) : (of v name store).Sound := by
  rcases v.heldMember?_cases name store with
    ⟨id, removed, items, rfl, hname, hitems, hrun⟩ | ⟨hsame, hempty⟩
  · have hof : of (.sequence id) name store =
        ⟨.sequence id, name, store.heap, some removed, store.heap.write id items⟩ := by
      rw [of, hrun]
    rw [hof]
    exact .of_write hname hitems
  · exact .of_same (congrArg Store.heap hsame) fun id h => hempty id h.1 h.2

end Step

/-! ## Steps after each other -/

/-- The steps lead from the one heap to the other, and nothing but them changes a sequence. -/
def Linked : Heap → List Step → Heap → Prop
  | heap, [], heap' => heap.Keeps heap'
  | heap, s :: rest, heap' => heap.Keeps s.before ∧ Linked s.after rest heap'

namespace Linked

variable {heap heap₁ heap₂ : Heap} {steps later : List Step}

theorem of_keeps (h : heap.Keeps heap₁) (h' : Linked heap₁ steps heap₂) :
    Linked heap steps heap₂ := by
  cases steps with
  | nil => exact h.trans h'
  | cons s steps => exact ⟨h.trans h'.1, h'.2⟩

theorem append (h : Linked heap steps heap₁) (h' : Linked heap₁ later heap₂) :
    Linked heap (steps ++ later) heap₂ := by
  induction steps generalizing heap with
  | nil => exact h'.of_keeps h
  | cons s steps ih => exact ⟨h.1, ih h.2⟩

/-- The steps from one of them on. -/
theorem from_step {earlier : List Step} {s : Step} (h : Linked heap (earlier ++ s :: later) heap₁) :
    Linked s.before (s :: later) heap₁ := by
  induction earlier generalizing heap with
  | nil => exact ⟨.refl _, h.2⟩
  | cons s' earlier ih => exact ih h.2

/-- **Nothing is lost and nothing is there twice.** The elements of a sequence are those that steps have
removed from its front, those that are left, and those that steps have removed from its end, the last of
them first. -/
theorem elements_eq (h : Linked heap steps heap₁) (hsound : ∀ s ∈ steps, s.Sound) {id : SequenceId}
    (hid : id.index < heap.size) :
    heap.elements id = steps.filterMap (Step.shifted? id) ++ heap₁.elements id ++
      (steps.filterMap (Step.popped? id)).reverse := by
  induction steps generalizing heap with
  | nil => simp [(show heap.Keeps heap₁ from h).elements_eq id hid]
  | cons s steps ih =>
    obtain ⟨hkeeps, hlinked⟩ := h
    have hs := hsound s List.mem_cons_self
    have hid' : id.index < s.after.size := by
      rw [hs.size_eq]
      exact Nat.lt_of_lt_of_le hid hkeeps.size_le
    rw [← hkeeps.elements_eq id hid, hs.split id,
      ih hlinked (fun s h => hsound s (List.mem_cons_of_mem _ h)) hid', List.filterMap_cons,
      List.filterMap_cons]
    cases s.shifted? id <;> cases s.popped? id <;> simp

end Linked

end Stencil
