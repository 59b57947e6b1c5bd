import Stencil.Proofs.Number.Exact
import Stencil.Proofs.Value.Unfolding

/-!
# Equality of values

Equality is symmetric. It is transitive as long as no integer is rounded: an integer beyond `2 ^ 53` equals
the number that it is rounded to, and so may another integer.

* `Tree.equals_comm`: equality is symmetric.
* `Tree.Clash`: at some place of three values, two different integers stand beside one number.
* `Tree.equals_iff_not_clash`: of two values that equal a third one, only those that clash differ.
* `Tree.IntegersExact`, `Tree.not_clash`: integers that are not rounded do not clash.
-/

namespace Stencil

open Number

namespace Tree

/-! ## Symmetry -/

mutual

theorem equals_comm : ∀ a b : Tree, a.equals b = b.equals a
  | sequence i as, b => by
    cases b with
    | sequence j bs => rw [equals, equals, equalsItems_comm as bs, Bool.beq_comm]
    | _ => rfl
  | keyed as, b => by
    cases b with
    | keyed bs => rw [equals, equals, equalsEntries_comm as bs]
    | _ => rfl
  | real x, b => by
    cases b with
    | real y => exact Binary64.equals_comm x y
    | _ => rfl
  | bool x, b => by
    cases b with
    | bool y => exact Bool.beq_comm
    | _ => rfl
  | integer i, b => by
    cases b with
    | integer j => exact Bool.beq_comm
    | _ => rfl
  | text s, b => by
    cases b with
    | text t => exact Bool.beq_comm
    | _ => rfl
  | callable i, b => by
    cases b with
    | callable j => exact Bool.beq_comm
    | _ => rfl
  | null, b | undefined, b => by cases b <;> rfl

theorem equalsItems_comm : ∀ as bs : List Tree, equalsItems as bs = equalsItems bs as
  | [], [] | [], _ :: _ | _ :: _, [] => rfl
  | a :: as, b :: bs => by rw [equalsItems, equalsItems, equals_comm a b, equalsItems_comm as bs]

theorem equalsEntries_comm :
    ∀ as bs : List (String × Tree), equalsEntries as bs = equalsEntries bs as
  | [], [] | [], _ :: _ | _ :: _, [] => rfl
  | (i, a) :: as, (j, b) :: bs => by
    rw [equalsEntries, equalsEntries, equals_comm a b, equalsEntries_comm as bs, Bool.beq_comm]

end

/-- A value that is no number and holds no other value. -/
def isAtom : Tree → Bool
  | integer _ | real _ | sequence _ _ | keyed _ => false
  | _ => true

/-- Such a value equals no other one. -/
theorem eq_of_equals {a b : Tree} (ha : a.isAtom = true) (h : a.equals b = true) : a = b := by
  cases a with
  | null | undefined =>
    cases b <;> first | rfl | cases h
  | bool x =>
    cases b with
    | bool y => exact congrArg bool (beq_iff_eq.mp h)
    | _ => cases h
  | text s =>
    cases b with
    | text t => exact congrArg text (beq_iff_eq.mp h)
    | _ => cases h
  | callable i =>
    cases b with
    | callable j => exact congrArg callable (beq_iff_eq.mp h)
    | _ => cases h
  | integer _ | real _ | sequence _ _ | keyed _ => cases ha

/-! ## Integers that are rounded to one number -/

mutual

/-- At some place, the first tree and the third one have different integers, and the second tree has the
number that both integers are rounded to. -/
def Clash : Tree → Tree → Tree → Prop
  | integer i, real x, integer k =>
    i ≠ k ∧ (Binary64.ofInt i.toInt).equals x = true ∧ (Binary64.ofInt k.toInt).equals x = true
  | sequence i as, sequence _ bs, sequence k cs => i ≠ k ∧ ItemsClash as bs cs
  | keyed as, keyed bs, keyed cs => EntriesClash as bs cs
  | _, _, _ => False
termination_by structural a => a

/-- The same for some position of three lists of trees. -/
def ItemsClash : List Tree → List Tree → List Tree → Prop
  | a :: as, b :: bs, c :: cs => a.Clash b c ∨ ItemsClash as bs cs
  | _, _, _ => False
termination_by structural as => as

/-- The same for some position of three lists of entries. -/
def EntriesClash :
    List (String × Tree) → List (String × Tree) → List (String × Tree) → Prop
  | (_, a) :: as, (_, b) :: bs, (_, c) :: cs => a.Clash b c ∨ EntriesClash as bs cs
  | _, _, _ => False
termination_by structural as => as

end

mutual

/-- A tree does not clash with itself and another one. -/
theorem not_clash_left : ∀ a c : Tree, ¬ a.Clash a c
  | sequence _ as, c => by
    cases c with
    | sequence _ cs => exact fun h => not_itemsClash_left as cs h.2
    | _ => exact id
  | keyed as, c => by
    cases c with
    | keyed cs => exact not_entriesClash_left as cs
    | _ => exact id
  | null, c | undefined, c | bool _, c | integer _, c | real _, c | text _, c | callable _, c => by
    cases c <;> exact id

theorem not_itemsClash_left : ∀ as cs : List Tree, ¬ ItemsClash as as cs
  | [], _ | _ :: _, [] => id
  | a :: as, c :: cs => fun h => h.elim (not_clash_left a c) (not_itemsClash_left as cs)

theorem not_entriesClash_left : ∀ as cs : List (String × Tree), ¬ EntriesClash as as cs
  | [], _ | _ :: _, [] => id
  | (_, a) :: as, (_, c) :: cs => fun h =>
    h.elim (not_clash_left a c) (not_entriesClash_left as cs)

end

mutual

/-- Nor does one tree with another one and that one again. -/
theorem not_clash_right : ∀ a c : Tree, ¬ a.Clash c c
  | sequence _ as, c => by
    cases c with
    | sequence _ cs => exact fun h => not_itemsClash_right as cs h.2
    | _ => exact id
  | keyed as, c => by
    cases c with
    | keyed cs => exact not_entriesClash_right as cs
    | _ => exact id
  | null, c | undefined, c | bool _, c | integer _, c | real _, c | text _, c | callable _, c => by
    cases c <;> exact id

theorem not_itemsClash_right : ∀ as cs : List Tree, ¬ ItemsClash as cs cs
  | [], _ | _ :: _, [] => id
  | a :: as, c :: cs => fun h => h.elim (not_clash_right a c) (not_itemsClash_right as cs)

theorem not_entriesClash_right : ∀ as cs : List (String × Tree), ¬ EntriesClash as cs cs
  | [], _ | _ :: _, [] => id
  | (_, a) :: as, (_, c) :: cs => fun h =>
    h.elim (not_clash_right a c) (not_entriesClash_right as cs)

end

/-! ## Transitivity -/

/-- Two numbers that equal an integer or the number that it is rounded to. -/
theorem equals_iff_not_clash_integer {i : Int64} {b c : Tree} (hab : (integer i).equals b = true)
    (hbc : b.equals c = true) : (integer i).equals c = true ↔ ¬ (integer i).Clash b c := by
  cases b with
  | integer j =>
    rw [show i = j from beq_iff_eq.mp hab]
    exact iff_of_true hbc (not_clash_left _ c)
  | real y =>
    cases c with
    | integer k =>
      have hky : (Binary64.ofInt k.toInt).equals y = true := hbc
      have hiy : (Binary64.ofInt i.toInt).equals y = true := hab
      simp only [equals, beq_iff_eq, Clash, hiy, hky, and_true, not_not]
    | real z => exact iff_of_true (Binary64.equals_trans hab hbc) id
    | _ => cases hbc
  | _ => cases hab

/-- A number that is no integer clashes with nothing. -/
theorem equals_iff_not_clash_real {x : Binary64} {b c : Tree} (hab : (real x).equals b = true)
    (hbc : b.equals c = true) : (real x).equals c = true ↔ ¬ (real x).Clash b c := by
  rw [equals_comm] at hab
  cases b with
  | integer j =>
    cases c with
    | integer k =>
      rw [show j = k from beq_iff_eq.mp hbc] at hab
      exact iff_of_true hab id
    | real z =>
      have hxj := (Binary64.equals_comm _ _).trans hab
      exact iff_of_true (Binary64.equals_trans hxj hbc) id
    | _ => cases hbc
  | real y =>
    cases c with
    | integer k => exact iff_of_true (Binary64.equals_trans hbc hab) id
    | real z =>
      have hxy := (Binary64.equals_comm _ _).trans hab
      exact iff_of_true (Binary64.equals_trans hxy hbc) id
    | _ => cases hbc
  | _ => cases hab

theorem equals_iff_not_clash_atom {a b c : Tree} (ha : a.isAtom = true) (hab : a.equals b = true)
    (hbc : b.equals c = true) : a.equals c = true ↔ ¬ a.Clash b c := by
  rw [eq_of_equals ha hab]
  exact iff_of_true hbc (not_clash_left _ c)

section Transitivity

variable {contents : SequenceId → List Tree}

mutual

/-- **When equality is transitive.** Of two trees that equal a third one, exactly those that clash beside
it differ. -/
theorem equals_iff_not_clash :
    ∀ {a b c : Tree}, a.Agrees contents → b.Agrees contents → c.Agrees contents →
      a.equals b = true → b.equals c = true → (a.equals c = true ↔ ¬ a.Clash b c)
  | sequence i as, b, c, ha, hb, hc, hab, hbc => by
    cases b with
    | sequence j bs =>
      cases c with
      | sequence k cs =>
        rw [equals, Bool.or_eq_true, beq_iff_eq] at hab hbc ⊢
        rw [Clash]
        by_cases hik : i = k
        · simp [hik]
        have hitems : equalsItems as cs = true ↔ ¬ ItemsClash as bs cs := by
          -- One sequence has the same elements wherever it stands.
          rcases hab with rfl | hab
          · rw [ha.1.trans hb.1.symm]
            exact iff_of_true (hbc.resolve_left hik) (not_itemsClash_left bs cs)
          rcases hbc with rfl | hbc
          · rw [hb.1.trans hc.1.symm] at hab ⊢
            exact iff_of_true hab (not_itemsClash_right as cs)
          · exact equalsItems_iff_not_clash ha.2 hb.2 hc.2 hab hbc
        simp [hik, hitems]
      | _ => cases hbc
    | _ => cases hab
  | keyed as, b, c, ha, hb, hc, hab, hbc => by
    cases b with
    | keyed bs =>
      cases c with
      | keyed cs => exact equalsEntries_iff_not_clash ha hb hc hab hbc
      | _ => cases hbc
    | _ => cases hab
  | integer _, _, _, _, _, _, hab, hbc => equals_iff_not_clash_integer hab hbc
  | real _, _, _, _, _, _, hab, hbc => equals_iff_not_clash_real hab hbc
  | null, _, _, _, _, _, hab, hbc | undefined, _, _, _, _, _, hab, hbc
  | bool _, _, _, _, _, _, hab, hbc | text _, _, _, _, _, _, hab, hbc
  | callable _, _, _, _, _, _, hab, hbc => equals_iff_not_clash_atom rfl hab hbc

theorem equalsItems_iff_not_clash :
    ∀ {as bs cs : List Tree}, ItemsAgree contents as → ItemsAgree contents bs →
      ItemsAgree contents cs → equalsItems as bs = true → equalsItems bs cs = true →
      (equalsItems as cs = true ↔ ¬ ItemsClash as bs cs)
  | [], [], [], _, _, _, _, _ => iff_of_true rfl id
  | a :: as, b :: bs, c :: cs, ha, hb, hc, hab, hbc => by
    rw [equalsItems, Bool.and_eq_true] at hab hbc ⊢
    rw [ItemsClash, not_or, equals_iff_not_clash ha.1 hb.1 hc.1 hab.1 hbc.1,
      equalsItems_iff_not_clash ha.2 hb.2 hc.2 hab.2 hbc.2]

theorem equalsEntries_iff_not_clash :
    ∀ {as bs cs : List (String × Tree)}, EntriesAgree contents as → EntriesAgree contents bs →
      EntriesAgree contents cs → equalsEntries as bs = true → equalsEntries bs cs = true →
      (equalsEntries as cs = true ↔ ¬ EntriesClash as bs cs)
  | [], [], [], _, _, _, _, _ => iff_of_true rfl id
  | (i, a) :: as, (j, b) :: bs, (k, c) :: cs, ha, hb, hc, hab, hbc => by
    simp only [equalsEntries, Bool.and_eq_true, beq_iff_eq] at hab hbc ⊢
    rw [EntriesClash, not_or, equals_iff_not_clash ha.1 hb.1 hc.1 hab.1.2 hbc.1.2,
      equalsEntries_iff_not_clash ha.2 hb.2 hc.2 hab.2 hbc.2]
    exact and_congr_left fun _ => and_iff_right (hab.1.1.trans hbc.1.1)

end

end Transitivity

/-! ## Integers that need no rounding -/

mutual

/-- Every integer in the tree is at most `2 ^ 53` away from zero. -/
def IntegersExact : Tree → Prop
  | integer i => i.toInt.natAbs ≤ 2 ^ 53
  | sequence _ items => ItemsExact items
  | keyed entries => EntriesExact entries
  | _ => True
termination_by structural t => t

/-- The same for all trees of a list. -/
def ItemsExact : List Tree → Prop
  | [] => True
  | t :: rest => t.IntegersExact ∧ ItemsExact rest
termination_by structural items => items

/-- The same for all trees of entries. -/
def EntriesExact : List (String × Tree) → Prop
  | [] => True
  | (_, t) :: rest => t.IntegersExact ∧ EntriesExact rest
termination_by structural entries => entries

end

mutual

/-- Integers that are not rounded do not clash. -/
theorem not_clash : ∀ {a b c : Tree}, a.IntegersExact → c.IntegersExact → ¬ a.Clash b c
  | integer i, b, c, hi, hc => by
    cases b with
    | real x =>
      cases c with
      | integer k =>
        exact fun h => h.1 (Int64.toInt_inj.mp (Binary64.eq_of_equals_ofInt hi hc h.2.1 h.2.2))
      | _ => exact id
    | _ => exact id
  | sequence _ as, b, c, ha, hc => by
    cases b with
    | sequence _ bs =>
      cases c with
      | sequence _ cs => exact fun h => not_itemsClash ha hc h.2
      | _ => exact id
    | _ => exact id
  | keyed as, b, c, ha, hc => by
    cases b with
    | keyed bs =>
      cases c with
      | keyed cs => exact not_entriesClash ha hc
      | _ => exact id
    | _ => exact id
  | null, _, _, _, _ | undefined, _, _, _, _ | bool _, _, _, _, _ | real _, _, _, _, _
  | text _, _, _, _, _ | callable _, _, _, _, _ => id

theorem not_itemsClash :
    ∀ {as bs cs : List Tree}, ItemsExact as → ItemsExact cs → ¬ ItemsClash as bs cs
  | [], _, _, _, _ | _ :: _, [], _, _, _ | _ :: _, _ :: _, [], _, _ => id
  | _ :: _, _ :: _, _ :: _, ha, hc => fun h =>
    h.elim (not_clash ha.1 hc.1) (not_itemsClash ha.2 hc.2)

theorem not_entriesClash :
    ∀ {as bs cs : List (String × Tree)}, EntriesExact as → EntriesExact cs →
      ¬ EntriesClash as bs cs
  | [], _, _, _, _ | _ :: _, [], _, _, _ | _ :: _, _ :: _, [], _, _ => id
  | (_, _) :: _, (_, _) :: _, (_, _) :: _, ha, hc => fun h =>
    h.elim (not_clash ha.1 hc.1) (not_entriesClash ha.2 hc.2)

end

end Tree

/-! ## The main result -/

/-- **The contract of equality.** Equality of values is symmetric. If two values equal a third one, they
are equal unless they clash beside it: unless, at some place, they have different integers that are
rounded to one number there. Integers of at most `2 ^ 53` never clash. -/
theorem Value.equals_trans_iff {heap : Heap} (h : heap.NoCycle) (a b c : Value) :
    a.equals heap b = b.equals heap a ∧
      (a.equals heap b = true → b.equals heap c = true →
        (a.equals heap c = true ↔ ¬ (a.unfold heap).Clash (b.unfold heap) (c.unfold heap)) ∧
        ((a.unfold heap).IntegersExact → (c.unfold heap).IntegersExact →
          a.equals heap c = true)) := by
  refine ⟨Tree.equals_comm _ _, fun hab hbc => ?_⟩
  have hiff : a.equals heap c = true ↔ ¬ (a.unfold heap).Clash (b.unfold heap) (c.unfold heap) :=
    Tree.equals_iff_not_clash (a.unfold_agrees h) (b.unfold_agrees h) (c.unfold_agrees h) hab hbc
  exact ⟨hiff, fun ha hc => hiff.mpr (Tree.not_clash ha hc)⟩

/-- Two integers equal the number `2 ^ 53`, and they are not equal. -/
theorem Value.equals_not_trans :
    let a : Value := .integer 9007199254740993
    let b : Value := .real (.ofBits 0x4340000000000000)
    let c : Value := .integer 9007199254740992
    a.equals .empty b = true ∧ b.equals .empty c = true ∧ a.equals .empty c = false := by
  decide +kernel

/-- Mappings that hold an integer or the same number, and share a sequence that holds NaN. -/
theorem Value.equals_trans_shared :
    let heap : Heap := ⟨#[[.integer 1], [.real (.ofBits 0x3FF0000000000000)], [.integer 1],
      [.real .nan, .sequence ⟨1⟩]]⟩
    let value (id : Nat) : Value := .keyed [("n", .sequence ⟨id⟩), ("s", .sequence ⟨3⟩)]
    heap.NoCycle ∧ (value 0).equals heap (value 1) = true ∧ (value 1).equals heap (value 2) = true ∧
      (value 0).equals heap (value 2) = true := by
  intro heap value
  -- A sequence holds only sequences that were allocated before it.
  have hacyclic : heap.Acyclic := by
    rintro ⟨n⟩ v hv
    match n with
    | 0 | 2 => exact List.mem_singleton.mp hv ▸ trivial
    | 1 => exact List.mem_singleton.mp hv ▸ trivial
    | 3 =>
      have hv : v ∈ [Value.real .nan, .sequence ⟨1⟩] := hv
      rcases List.mem_pair.mp hv with rfl | rfl
      · trivial
      · exact show 1 < 3 by decide
    | n + 4 => cases hv
  have h := hacyclic.noCycle
  have h₀₁ : (value 0).equals heap (value 1) = true := by decide +kernel
  have h₁₂ : (value 1).equals heap (value 2) = true := by decide +kernel
  have hone : (1 : Int64).toInt.natAbs ≤ 2 ^ 53 := by decide
  refine ⟨h, h₀₁, h₁₂, ((Value.equals_trans_iff h _ _ _).2 h₀₁ h₁₂).2 ?_ ?_⟩ <;>
    exact ⟨⟨hone, trivial⟩, ⟨trivial, ⟨trivial, trivial⟩, trivial⟩, trivial⟩

end Stencil
