import Stencil.Proofs.Brace.Resolution
import Stencil.Proofs.Number.Integer

/-!
# Segments of paths

A segment asks for a position or for a name. The first segment of a path is told by its characters. Any other
segment goes to a member, and there a sequence or a text first tries to read it as a natural number. Both
come to the same but for a plus sign: digits behind one are read as a number, although the segment is no
position.

* `Request`, `Asks`: what a segment asks for.
* `Request.start`: what this means for the first segment of a path.
* `Request.ofSequence`, `Request.ofText`: what a sequence and a text have for a request. The members that
  they have by name are listed in `sequenceMembers` and `textMembers`.
* `Answers`: the members with a name are what there is for a request.
* `answers_position`, `answers_name`: how a name is taken, by what it is read as.
* `member?_segment`: that this is what the segment asks for, and when it is not.
-/

namespace Stencil.Brace

open Number

/-! ## Requests -/

/-- What a segment can ask for. -/
inductive Request where
  | position (n : ℕ)
  | name (s : String)

/-- Decimal digits ask for the position that they are a numeral of, and any other segment for its name. -/
inductive Asks (segment : String) : Request → Prop
  | position {n} : IsSignedNumeral 10 .bare n segment.toList → Asks segment (.position n)
  | name : (∀ n, ¬ IsSignedNumeral 10 .bare n segment.toList) → Asks segment (.name segment)

/-- The members that a sequence has by name, before they are called, each with the heap after it. -/
def sequenceMembers (heap : Heap) (id : SequenceId) : List (String × Option Value × Heap) :=
  let items := heap.elements id
  [("len", some (.ofCount items.length), heap),
   ("length", some (.ofCount items.length), heap),
   ("first", items.head?, heap),
   ("last", items.getLast?, heap),
   ("pop", some (items.getLast?.getD .undefined), heap.write id items.dropLast),
   ("shift", some (items.head?.getD .undefined), heap.write id items.tail)]

/-- The members that a text has by name. -/
def textMembers (s : String) : List (String × Value) :=
  [("len", .ofCount s.toList.length),
   ("length", .ofCount s.toList.length),
   ("to_lowercase", .text (Text.lower s)),
   ("toLowerCase", .text (Text.lower s)),
   ("to_uppercase", .text (Text.upper s)),
   ("toUpperCase", .text (Text.upper s)),
   ("trim", .text (Text.trimString s))]

namespace Request

/-- The number of the argument at which a path starts, if its first segment asks for this and the number has
not too many bits, and the segments that lead on from there. -/
def start (rest : List (List Char)) : Request → Option ℕ × List (List Char)
  | position n => ((some n).filter (· < 2 ^ 64), rest)
  | name s => (some 0, s.toList :: rest)

/-- What a sequence has for a request, before it is called, and the heap after it. There is nothing at a
position of more than 64 bits. -/
def ofSequence (heap : Heap) (id : SequenceId) : Request → Option Value × Heap
  | position n => (if n < 2 ^ 64 then (heap.elements id)[n]? else none, heap)
  | name s => ((sequenceMembers heap id).lookup s).getD (none, heap)

/-- What a text has for a request. -/
def ofText (s : String) : Request → Option Value
  | position n => if n < 2 ^ 64 then s.toList[n]?.map (.text ∘ String.singleton) else none
  | name member => (textMembers s).lookup member

end Request

/-- The members with this name are what sequences and texts have for the request; that of a sequence is called
if it is callable. -/
structure Answers (name : String) (request : Request) : Prop where
  sequence : ∀ (id : SequenceId) (store : Store),
    ((Value.sequence id).member? name).run store =
      ((request.ofSequence store.heap id).1.mapM Value.invoked).run
        { store with heap := (request.ofSequence store.heap id).2 }
  text : ∀ (s : String) (store : Store),
    ((Value.text s).member? name).run store = (request.ofText s, store)

variable {name segment : String} {n : ℕ} {request : Request} {sign : Sign}

/-- Every segment asks for one thing. -/
theorem existsUnique_asks (segment : String) : ∃! request, Asks segment request := by
  have hread : ∀ n, IsSignedNumeral 10 .bare n segment.toList ↔ ofNumeral? 10 segment.toList = some n :=
    fun n => isSignedNumeral_bare_iff (by decide)
  cases h : ofNumeral? 10 segment.toList with
  | none =>
    have hnone : ∀ n, ¬ IsSignedNumeral 10 .bare n segment.toList := fun n hn => by
      rw [hread, h] at hn
      cases hn
    refine ⟨.name segment, .name hnone, fun other hother => ?_⟩
    cases hother with
    | position hn => exact absurd hn (hnone _)
    | name _ => rfl
  | some n =>
    refine ⟨.position n, .position ((hread n).mpr h), fun other hother => ?_⟩
    cases hother with
    | position hn => rw [Option.some.inj (h.symm.trans ((hread _).mp hn))]
    | name hnone => exact absurd ((hread n).mpr h) (hnone n)

/-- The test on the first segment of a path. -/
theorem Asks.isIndex_iff (h : Asks segment request) :
    isIndex segment.toList = true ↔ ∃ n, request = .position n := by
  rw [Brace.isIndex_iff]
  cases h with
  | position hn =>
    obtain ⟨ds, body, hbody, hspells, -⟩ := hn
    exact iff_of_true ⟨ds, hbody ▸ hspells⟩ ⟨_, rfl⟩
  | name hnone =>
    refine iff_of_false ?_ nofun
    rintro ⟨ds, hspells⟩
    exact hnone _ ⟨ds, _, rfl, hspells, rfl⟩

/-- The start of a path is what its first segment asks for. -/
theorem Asks.splitPath_eq (h : Asks segment request) {key : List Char} {rest : List (List Char)}
    (hkey : Text.splitOn '.' key = segment.toList :: rest) : splitPath key = request.start rest := by
  cases h with
  | position hn =>
    obtain ⟨ds, body, hbody, hspells, rfl⟩ := hn
    exact Selects.splitPath_eq hkey (.number (hbody ▸ hspells))
  | name hnone =>
    exact Selects.splitPath_eq hkey (.first fun ds hspells => hnone _ ⟨ds, _, rfl, hspells, rfl⟩)

/-! ## Members by name -/

/-- A name that is not read as a position is looked up among those of a sequence. -/
theorem run_sequenceMember?_name (h : index? name = none) (id : SequenceId) (store : Store) :
    (Value.sequenceMember? id name).run store =
      (((Request.name name).ofSequence store.heap id).1,
        { store with heap := ((Request.name name).ofSequence store.heap id).2 }) := by
  simp only [Value.sequenceMember?, StateT.run_bind, StateT.run_get, pure_bind, h]
  split
  · rfl
  · rfl
  · rfl
  · rfl
  · rw [StateT.run_map, Store.run_pop]
    rfl
  · rw [StateT.run_map, Store.run_shift]
    rfl
  · next hlen hlength hfirst hlast hpop hshift =>
    have hnone : (sequenceMembers store.heap id).lookup name = none := by
      simp only [List.lookup_eq_none_iff, sequenceMembers, List.forall_mem_cons, bne_iff_ne]
      exact ⟨hlen, hlength, hfirst, hlast, hpop, hshift, List.forall_mem_nil _⟩
    simp only [Request.ofSequence, hnone]
    rfl

/-- It is looked up among those of a text. -/
theorem textMember?_name (h : index? name = none) (s : String) :
    Value.textMember? s name = (Request.name name).ofText s := by
  unfold Value.textMember?
  rw [h]
  dsimp only
  split
  · rfl
  · rfl
  · rfl
  · rfl
  · rfl
  · rfl
  · rfl
  · next hlen hlength hlower hlower' hupper hupper' htrim =>
    have hnone : (textMembers s).lookup name = none := by
      simp only [List.lookup_eq_none_iff, textMembers, List.forall_mem_cons, bne_iff_ne]
      exact ⟨hlen, hlength, hlower, hlower', hupper, hupper', htrim, List.forall_mem_nil _⟩
    exact hnone.symm

theorem ne_of_isSignedNumeral (h : IsSignedNumeral 10 sign n name.toList) {other : String}
    (hother : ofNumeral? 10 (splitSign other.toList).2 = none) : name ≠ other := by
  rintro rfl
  rw [h.ofNumeral?_eq (by decide)] at hother
  cases hother

/-- No member of a sequence has a numeral as its name. -/
theorem ofSequence_numeral (h : IsSignedNumeral 10 sign n name.toList) (heap : Heap) (id : SequenceId) :
    (Request.name name).ofSequence heap id = (none, heap) := by
  have hnone : (sequenceMembers heap id).lookup name = none := by
    simp only [List.lookup_eq_none_iff, sequenceMembers, List.forall_mem_cons, bne_iff_ne]
    refine ⟨?_, ?_, ?_, ?_, ?_, ?_, List.forall_mem_nil _⟩ <;> exact ne_of_isSignedNumeral h (by decide)
  rw [Request.ofSequence, hnone, Option.getD_none]

/-- No member of a text has one. -/
theorem ofText_numeral (h : IsSignedNumeral 10 sign n name.toList) (s : String) :
    (Request.name name).ofText s = none := by
  rw [Request.ofText]
  simp only [List.lookup_eq_none_iff, textMembers, List.forall_mem_cons, bne_iff_ne]
  refine ⟨?_, ?_, ?_, ?_, ?_, ?_, ?_, List.forall_mem_nil _⟩ <;> exact ne_of_isSignedNumeral h (by decide)

/-! ## Answers -/

theorem run_member?_eq_mapM (v : Value) (name : String) (store : Store) :
    (v.member? name).run store = (((v.heldMember? name).run store).1.mapM Value.invoked).run
      ((v.heldMember? name).run store).2 := by
  rw [run_member?]
  rcases (v.heldMember? name).run store with ⟨_ | found, after⟩ <;> rfl

/-- The members of a text are not callable. -/
theorem run_invoked_textMember? {s : String} {v : Value} (h : Value.textMember? s name = some v)
    (store : Store) : v.invoked.run store = (v, store) := by
  have hcallable : ∀ id, v ≠ .callable id := by
    rintro id rfl
    unfold Value.textMember? at h
    split at h
    · obtain ⟨c, -, hc⟩ := Option.map_eq_some_iff.mp h
      cases hc
    · split at h <;> cases h
  cases v with
  | callable id => exact absurd rfl (hcallable id)
  | _ => rfl

theorem run_member?_text (s name : String) (store : Store) :
    ((Value.text s).member? name).run store = (Value.textMember? s name, store) := by
  have hheld : ((Value.text s).heldMember? name).run store = (Value.textMember? s name, store) := rfl
  rw [run_member?_eq_mapM, hheld]
  cases h : Value.textMember? s name with
  | none => rfl
  | some v =>
    show (some <$> v.invoked).run store = _
    rw [StateT.run_map, run_invoked_textMember? h]
    rfl

theorem index?_eq_some_iff : index? name = some n ↔
    (IsSignedNumeral 10 .bare n name.toList ∨ IsSignedNumeral 10 .plus n name.toList) ∧ n < 2 ^ 64 :=
  unsigned?_eq_some_iff

/-- A numeral of too many bits is not read. -/
theorem index?_eq_none (h : IsSignedNumeral 10 sign n name.toList) (hn : ¬ n < 2 ^ 64) :
    index? name = none := by
  rw [Option.eq_none_iff_forall_ne_some]
  intro m hm
  obtain ⟨hm, hlt⟩ := index?_eq_some_iff.mp hm
  have hread : ofNumeral? 10 (splitSign name.toList).2 = some m :=
    hm.elim (·.ofNumeral?_eq (by decide)) (·.ofNumeral?_eq (by decide))
  rw [h.ofNumeral?_eq (by decide)] at hread
  exact hn (Option.some.inj hread ▸ hlt)

/-- A name that is read as a position is taken for it. -/
theorem answers_position (h : index? name = some n) : Answers name (.position n) where
  sequence id store := by
    have hn := (index?_eq_some_iff.mp h).2
    have hheld : ((Value.sequence id).heldMember? name).run store =
        ((store.heap.elements id)[n]?, store) := by
      show (Value.sequenceMember? id name).run store = _
      simp only [Value.sequenceMember?, StateT.run_bind, StateT.run_get, pure_bind, h]
      rfl
    rw [run_member?_eq_mapM, hheld]
    simp only [Request.ofSequence, if_pos hn]
  text s store := by
    have hn := (index?_eq_some_iff.mp h).2
    have hmember : Value.textMember? s name = s.toList[n]?.map (.text ∘ String.singleton) := by
      unfold Value.textMember?
      rw [h]
      rfl
    rw [run_member?_text, hmember, Request.ofText, if_pos hn]

/-- Any other name is taken for one. -/
theorem answers_name (h : index? name = none) : Answers name (.name name) where
  sequence id store := by
    have hheld : ((Value.sequence id).heldMember? name).run store =
        (Value.sequenceMember? id name).run store := rfl
    rw [run_member?_eq_mapM, hheld, run_sequenceMember?_name h]
  text s store := by rw [run_member?_text, textMember?_name h]

/-- A numeral that has no sign or a plus sign is taken for a position. -/
theorem answers_numeral (hsign : sign ≠ .minus) (h : IsSignedNumeral 10 sign n name.toList) :
    Answers name (.position n) := by
  by_cases hn : n < 2 ^ 64
  · refine answers_position (index?_eq_some_iff.mpr ⟨?_, hn⟩)
    cases sign with
    | bare => exact .inl h
    | plus => exact .inr h
    | minus => exact absurd rfl hsign
  · -- It is looked up among the names instead, and there is nothing either way.
    have hname := answers_name (index?_eq_none h hn)
    constructor
    · intro id store
      rw [hname.sequence, ofSequence_numeral h, Request.ofSequence, if_neg hn]
    · intro s store
      rw [hname.text, ofText_numeral h, Request.ofText, if_neg hn]

/-- Some text is long enough to have a character at the position. -/
theorem exists_ofText_position (hn : n < 2 ^ 64) :
    ∃ s, (Request.position n).ofText s = some (.text "a") := by
  refine ⟨String.ofList (List.replicate (n + 1) 'a'), ?_⟩
  rw [Request.ofText, if_pos hn, String.toList_ofList,
    List.getElem?_replicate_of_lt (Nat.lt_succ_self n)]
  rfl

/-- A plus sign in front of digits is no part of a position, but it is taken for one. -/
theorem Asks.answers_iff (h : Asks segment request) :
    Answers segment request ↔ ∀ n < 2 ^ 64, ¬ IsSignedNumeral 10 .plus n segment.toList := by
  cases h with
  | position hn =>
    refine iff_of_true (answers_numeral (by decide) hn) ?_
    rintro m - ⟨-, body, hbody, -⟩
    exact hn.ne_plus body hbody
  | name hnone =>
    constructor
    · intro hanswers n hn hplus
      obtain ⟨s, hs⟩ := exists_ofText_position hn
      have htext := (answers_numeral (by decide) hplus).text s .empty
      rw [hanswers.text, hs, ofText_numeral hplus] at htext
      cases htext
    · intro hplus
      refine answers_name (Option.eq_none_iff_forall_ne_some.mpr fun n hn => ?_)
      obtain ⟨hbare | hsigned, hlt⟩ := index?_eq_some_iff.mp hn
      · exact hnone n hbare
      · exact hplus n hlt hsigned

/-- **Segments.** Every segment asks for one thing: for a position if it is a numeral of it, and otherwise for
its name. This is how a path starts, at the argument with that number or else at the first one, and the
test there tells just the positions. The members that sequences and texts have for the segment are the
element or the character at the position, if there is one and the position has at most 64 bits, or what
is listed by that name.

It is not so only if the segment is a plus sign and a numeral of at most 64 bits. It asks for a name, which no
member has, but the members are those at the position. -/
theorem member?_segment (segment : String) :
    ∃ request, (∀ other, Asks segment other ↔ other = request) ∧
      (isIndex segment.toList = true ↔ ∃ n, request = .position n) ∧
      (∀ key rest, Text.splitOn '.' key = segment.toList :: rest → splitPath key = request.start rest) ∧
      (Answers segment request ↔ ∀ n < 2 ^ 64, ¬ IsSignedNumeral 10 .plus n segment.toList) ∧
      ∀ n, IsSignedNumeral 10 .plus n segment.toList → Answers segment (.position n) := by
  obtain ⟨request, hasks, hunique⟩ := existsUnique_asks segment
  refine ⟨request, fun other => ⟨hunique other, fun h => h ▸ hasks⟩, hasks.isIndex_iff,
    fun key rest => hasks.splitPath_eq, hasks.answers_iff, fun n hplus => ?_⟩
  exact answers_numeral (by decide) hplus

/-- Zeros in front of a position do not count. With a plus sign in front it is read as well. -/
theorem member?_segment_zeros :
    IsSignedNumeral 10 .bare 1 "001".toList ∧ Asks "001" (.position 1) ∧
      splitPath "001.len".toList = (some 1, ["len".toList]) ∧ Answers "001" (.position 1) ∧
      ((Value.text "あいう").member? "001").run .empty = (some (.text "い"), .empty) ∧
      IsSignedNumeral 10 .plus 1 "+1".toList ∧ Answers "+1" (.position 1) := by
  have hbare : IsSignedNumeral 10 .bare 1 "001".toList := (isSignedNumeral_bare_iff (by decide)).mpr (by decide)
  have hplus : IsSignedNumeral 10 .plus 1 "+1".toList := (isSignedNumeral_plus_iff (by decide)).mpr (by decide)
  obtain ⟨request, hasks, -, hstart, hanswers, -⟩ := member?_segment "001"
  obtain rfl := (hasks (.position 1)).mp (.position hbare)
  have hanswers : Answers "001" (.position 1) :=
    hanswers.mpr fun n _ ⟨_, body, hbody, _⟩ => hbare.ne_plus body hbody
  obtain ⟨-, -, -, -, -, hsigned⟩ := member?_segment "+1"
  exact ⟨hbare, .position hbare, hstart "001.len".toList ["len".toList] (by decide), hanswers,
    hanswers.text "あいう" .empty, hplus, hsigned 1 hplus⟩

/-- A segment that is a name, also in front of a path, but is taken for a position behind one. -/
theorem member?_segment_plus :
    let store : Store := ⟨⟨#[[.null, .bool true]]⟩, #[]⟩
    isIndex "+1".toList = false ∧ Asks "+1" (.name "+1") ∧
      (Request.name "+1").ofSequence store.heap ⟨0⟩ = (none, store.heap) ∧
      ((Value.sequence ⟨0⟩).member? "+1").run store = (some (.bool true), store) ∧
      (Request.name "+1").ofText "ab" = none ∧
      ((Value.text "ab").member? "+1").run store = (some (.text "b"), store) := by
  intro store
  have hname : ∀ n, ¬ IsSignedNumeral 10 .bare n "+1".toList := fun n h => h.ne_plus ['1'] (by decide)
  exact ⟨by decide, .name hname, rfl, rfl, rfl, rfl⟩

end Stencil.Brace
