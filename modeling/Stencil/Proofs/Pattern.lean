/-!
# Patterns

A pattern is a regular expression: a character of a class, one pattern after the other, one pattern
or else the other, a repetition of a class, and numbered groups. A text may match in several ways.
`Pattern.ways` lists them in the order in which a search with backtracking meets them, and the
first of the list is the match that counts.

* `Pattern.first?`: the match at the start of a text.
* `Pattern.whole?`: the match that is a whole text.
* `Pattern.cut`: a text cut into the leftmost matches, which do not overlap, and the characters
  between them.
* `ways_text_rest`: a match and what follows it are the text.
* `cut_source`: cutting loses nothing.
* `ways_most_char`: a repetition that ends where its class ends has one match.
* `matchesAll_iff`: a pattern matches the whole of the texts that it describes.
-/

namespace Stencil

/-- What a pattern matches at the start of a text. -/
structure Match where
  text : List Char
  /-- The parts of the match in groups, with the numbers of the groups. -/
  groups : List (Nat × List Char)
  /-- What follows the match. -/
  rest : List Char

namespace Match

/-- The part of the match in a group; none if the group has no part in the match. -/
def group (m : Match) (i : Nat) : Option (List Char) := m.groups.lookup i

/-- A match, and one of what follows it. -/
def append (m n : Match) : Match := ⟨m.text ++ n.text, m.groups ++ n.groups, n.rest⟩

/-- A match with one more character in front. -/
def cons (c : Char) (m : Match) : Match := { m with text := c :: m.text }

end Match

/-- A regular expression. -/
inductive Pattern where
  /-- The empty text. -/
  | empty
  /-- One character of a class. -/
  | char (p : Char → Bool)
  | seq (a b : Pattern)
  /-- The first pattern, or else the second. -/
  | either (a b : Pattern)
  /-- As many characters of a class as possible. -/
  | most (p : Char → Bool)
  /-- As few characters of a class as possible. -/
  | fewest (p : Char → Bool)
  /-- A pattern whose match is captured. -/
  | group (i : Nat) (a : Pattern)

/-- A part of a text that has been searched. -/
inductive Fragment where
  /-- A character in no match. -/
  | other (c : Char)
  | found (m : Match)

namespace Fragment

/-- The text of a fragment. -/
def source : Fragment → List Char
  | other c => [c]
  | found m => m.text

end Fragment

namespace Pattern

/-- One given character. -/
def single (c : Char) : Pattern := char (· == c)

/-- The matches of a repetition at the start of a text, the shortest first. -/
def runs (p : Char → Bool) : List Char → List Match
  | [] => [⟨[], [], []⟩]
  | c :: cs => ⟨[], [], c :: cs⟩ :: if p c then (runs p cs).map (Match.cons c) else []

/-- The matches at the start of a text, the preferred ones first. -/
def ways : Pattern → List Char → List Match
  | empty, cs => [⟨[], [], cs⟩]
  | char _, [] => []
  | char p, c :: cs => if p c then [⟨[c], [], cs⟩] else []
  | seq a b, cs => (a.ways cs).flatMap fun m => (b.ways m.rest).map m.append
  | either a b, cs => a.ways cs ++ b.ways cs
  | most p, cs => (runs p cs).reverse
  | fewest p, cs => runs p cs
  | group i a, cs => (a.ways cs).map fun m => { m with groups := (i, m.text) :: m.groups }

/-- The match at the start of a text. -/
def first? (p : Pattern) (cs : List Char) : Option Match := (p.ways cs).head?

/-! The matches of a pattern, one equation for each way to build it. -/

theorem ways_char_cons {p : Char → Bool} {c : Char} (h : p c = true) (cs : List Char) :
    (char p).ways (c :: cs) = [⟨[c], [], cs⟩] := if_pos h

theorem ways_char_cons_of_not {p : Char → Bool} {c : Char} (h : ¬ p c = true) (cs : List Char) :
    (char p).ways (c :: cs) = [] := if_neg h

theorem ways_seq (a b : Pattern) (cs : List Char) :
    (seq a b).ways cs = (a.ways cs).flatMap fun m => (b.ways m.rest).map m.append := rfl

theorem ways_either (a b : Pattern) (cs : List Char) : (either a b).ways cs = a.ways cs ++ b.ways cs := rfl

theorem ways_most (p : Char → Bool) (cs : List Char) : (most p).ways cs = (runs p cs).reverse := rfl

theorem ways_fewest (p : Char → Bool) (cs : List Char) : (fewest p).ways cs = runs p cs := rfl

theorem ways_group (i : Nat) (a : Pattern) (cs : List Char) :
    (group i a).ways cs = (a.ways cs).map fun m => { m with groups := (i, m.text) :: m.groups } := rfl

theorem first?_eq_head? (p : Pattern) (cs : List Char) : p.first? cs = (p.ways cs).head? := rfl

/-- A text cut into matches, from left to right, and the characters between them. An empty match is
passed over. -/
def cut (p : Pattern) (cs : List Char) : List Fragment :=
  match cs with
  | [] => []
  | c :: cs =>
    match p.first? (c :: cs) with
    | some m => if m.rest.length ≤ cs.length then .found m :: cut p m.rest else .other c :: cut p cs
    | none => .other c :: cut p cs
termination_by cs.length

@[simp] theorem cut_nil (p : Pattern) : p.cut [] = [] := by rw [cut]

theorem cut_cons_none {p : Pattern} {c : Char} {cs : List Char} (h : p.first? (c :: cs) = none) :
    p.cut (c :: cs) = .other c :: p.cut cs := by
  rw [cut, h]

theorem runs_text_rest {p : Char → Bool} {cs : List Char} {m : Match} (h : m ∈ runs p cs) :
    m.text ++ m.rest = cs := by
  induction cs generalizing m with
  | nil => rw [List.mem_singleton.mp h]; rfl
  | cons c cs ih =>
    rcases List.mem_cons.mp h with rfl | h
    · rfl
    split at h
    · obtain ⟨n, hn, rfl⟩ := List.mem_map.mp h
      exact congrArg (c :: ·) (ih hn)
    · cases h

/-- A match and what follows it are the text. -/
theorem ways_text_rest {p : Pattern} {cs : List Char} {m : Match} (h : m ∈ p.ways cs) :
    m.text ++ m.rest = cs := by
  induction p generalizing cs m with
  | empty => rw [List.mem_singleton.mp h]; rfl
  | char p =>
    cases cs with
    | nil => cases h
    | cons c cs =>
      simp only [ways] at h
      split at h
      · rw [List.mem_singleton.mp h]; rfl
      · cases h
  | seq a b iha ihb =>
    obtain ⟨n, hn, h⟩ := List.mem_flatMap.mp h
    obtain ⟨k, hk, rfl⟩ := List.mem_map.mp h
    rw [Match.append, List.append_assoc, ihb hk, iha hn]
  | either a b iha ihb =>
    rcases List.mem_append.mp h with h | h
    · exact iha h
    · exact ihb h
  | most p => exact runs_text_rest (List.mem_reverse.mp h)
  | fewest p => exact runs_text_rest h
  | group i a ih =>
    obtain ⟨n, hn, rfl⟩ := List.mem_map.mp h
    exact ih (m := n) hn

theorem first?_text_rest {p : Pattern} {cs : List Char} {m : Match} (h : p.first? cs = some m) :
    m.text ++ m.rest = cs :=
  ways_text_rest (List.mem_of_mem_head? (Option.mem_def.mpr h))

theorem cut_cons_some {p : Pattern} {c : Char} {cs : List Char} {m : Match}
    (h : p.first? (c :: cs) = some m) (hm : m.text ≠ []) :
    p.cut (c :: cs) = .found m :: p.cut m.rest := by
  have hlen := congrArg List.length (first?_text_rest h)
  have hpos := List.length_pos_iff.mpr hm
  rw [List.length_append, List.length_cons] at hlen
  rw [cut, h]
  exact if_pos (by omega)

/-- Cutting loses nothing. -/
theorem cut_source (p : Pattern) (cs : List Char) : (p.cut cs).flatMap Fragment.source = cs := by
  fun_induction cut p cs with
  | case1 => rfl
  | case2 c cs m h hm ih => rw [List.flatMap_cons, ih]; exact first?_text_rest h
  | case3 c cs m h hm ih => rw [List.flatMap_cons, ih]; rfl
  | case4 c cs h ih => rw [List.flatMap_cons, ih]; rfl

/-- Of a repetition before a character outside its class only the longest match can go on. -/
theorem ways_most_char {p q : Char → Bool} (hpq : ∀ c, p c = true → q c = false) (cs : List Char) :
    (seq (most p) (char q)).ways cs =
      match cs.dropWhile p with
      | c :: rest => if q c then [⟨cs.takeWhile p ++ [c], [], rest⟩] else []
      | [] => [] := by
  induction cs with
  | nil => rfl
  | cons c cs ih =>
    simp only [ways] at ih
    -- If `c` is in the class, stopping before it fails, so that every match takes it.
    by_cases hp : p c = true
    · simp only [ways, runs, hp, ↓reduceIte, List.reverse_cons, List.flatMap_append,
        List.flatMap_singleton, hpq c hp, Bool.false_eq_true, List.map_nil, List.append_nil,
        List.dropWhile_cons_of_pos, List.takeWhile_cons_of_pos]
      have hcons : ∀ m : Match, ((char q).ways (m.cons c).rest).map (m.cons c).append =
          (((char q).ways m.rest).map m.append).map (Match.cons c) := by
        intro m; rw [List.map_map]; rfl
      rw [← List.map_reverse, List.flatMap_map]
      simp only [hcons]
      rw [← List.map_flatMap, ih]
      rcases cs.dropWhile p with _ | ⟨d, rest⟩
      · rfl
      · by_cases hd : q d = true <;> simp [hd, Match.cons]
    · have hnot : p c = false := by simpa using hp
      simp only [ways, runs, hnot, Bool.false_eq_true, ↓reduceIte, List.reverse_singleton,
        List.flatMap_singleton, List.dropWhile_cons, List.takeWhile_cons, List.nil_append]
      by_cases hq : q c = true <;> simp [hq, Match.append]

theorem runs_eq_cons (p : Char → Bool) (cs : List Char) : ∃ more, runs p cs = ⟨[], [], cs⟩ :: more := by
  cases cs with
  | nil => exact ⟨[], rfl⟩
  | cons c cs => exact ⟨_, rfl⟩

/-- A search that takes as few characters of a class as possible takes those of `front` if it gets
nowhere with fewer. -/
theorem head?_runs_flatMap {β : Type} {p : Char → Bool} {front rest : List Char} {b : β}
    {next : Match → List β} (hfront : ∀ c ∈ front, p c = true)
    (hfew : ∀ few c more, front = few ++ c :: more → next ⟨few, [], c :: (more ++ rest)⟩ = [])
    (hnext : (next ⟨front, [], rest⟩).head? = some b) :
    ((runs p (front ++ rest)).flatMap next).head? = some b := by
  -- A character more in front of the runs moves into `next`, so `next` is general here.
  induction front generalizing next with
  | nil =>
    obtain ⟨more, hmore⟩ := runs_eq_cons p rest
    rw [List.nil_append, hmore, List.flatMap_cons, List.head?_append, hnext]
    rfl
  | cons c front ih =>
    have hc := hfront c List.mem_cons_self
    rw [List.cons_append, runs, if_pos hc, List.flatMap_cons, hfew [] c front rfl, List.nil_append,
      List.flatMap_map]
    refine ih (fun d hd => hfront d (List.mem_cons_of_mem _ hd)) (fun few d more hsplit => ?_) hnext
    exact hfew (c :: few) d more (by rw [hsplit, List.cons_append])

/-- The pattern that follows a captured repetition decides how short the repetition is. -/
theorem first?_group_fewest {p : Char → Bool} {i : Nat} {b : Pattern} {front rest : List Char}
    {n : Match} (hfront : ∀ c ∈ front, p c = true)
    (hfew : ∀ few c more, front = few ++ c :: more → b.ways (c :: (more ++ rest)) = [])
    (hrest : b.first? rest = some n) :
    (seq (group i (fewest p)) b).first? (front ++ rest) =
      some ⟨front ++ n.text, (i, front) :: n.groups, n.rest⟩ := by
  rw [first?_eq_head?, ways_seq, ways_group, ways_fewest, List.flatMap_map]
  refine head?_runs_flatMap hfront (fun few c more hsplit => ?_) ?_
  · rw [hfew few c more hsplit, List.map_nil]
  · rw [first?_eq_head?] at hrest
    rw [List.head?_map, hrest]
    rfl

theorem first?_seq_single (c : Char) (b : Pattern) (cs : List Char) :
    (seq (single c) b).first? (c :: cs) = (b.first? cs).map (Match.cons c) := by
  have hways : (single c).ways (c :: cs) = [⟨[c], [], cs⟩] := ways_char_cons (beq_self_eq_true c) cs
  rw [first?_eq_head?, ways_seq, hways, List.flatMap_singleton, List.head?_map]
  rfl

theorem ways_seq_single {c d : Char} (h : d ≠ c) (b : Pattern) (cs : List Char) :
    (seq (single c) b).ways (d :: cs) = [] := by
  have hways : (single c).ways (d :: cs) = [] := ways_char_cons_of_not (by simpa using h) cs
  rw [ways_seq, hways, List.flatMap_nil]

theorem first?_either {a b : Pattern} {cs : List Char} (h : a.ways cs = []) :
    (either a b).first? cs = b.first? cs := by
  rw [first?_eq_head?, ways_either, h, List.nil_append, first?_eq_head?]

theorem first?_either_of_some {a b : Pattern} {cs : List Char} {m : Match} (h : a.first? cs = some m) :
    (either a b).first? cs = some m := by
  rw [first?_eq_head?] at h
  rw [first?_eq_head?, ways_either, List.head?_append, h, Option.some_or]

/-- Two patterns of which the first match is the right one for what follows. -/
theorem first?_seq {a b : Pattern} {cs : List Char} {m n : Match} (ha : a.first? cs = some m)
    (hb : b.first? m.rest = some n) : (seq a b).first? cs = some (m.append n) := by
  rw [first?_eq_head?] at ha hb
  obtain ⟨ms, hways⟩ := List.head?_eq_some_iff.mp ha
  rw [first?_eq_head?, ways_seq, hways, List.flatMap_cons, List.head?_append, List.head?_map, hb]
  rfl

theorem first?_group {a : Pattern} {cs : List Char} {m : Match} (i : Nat) (h : a.first? cs = some m) :
    (group i a).first? cs = some { m with groups := (i, m.text) :: m.groups } := by
  rw [first?_eq_head?] at h
  rw [first?_eq_head?, ways_group, List.head?_map, h]
  rfl

theorem first?_char {p : Char → Bool} {c : Char} (h : p c = true) (cs : List Char) :
    (char p).first? (c :: cs) = some ⟨[c], [], cs⟩ := by
  rw [first?_eq_head?, ways_char_cons h, List.head?_cons]

theorem getLast?_runs {p : Char → Bool} {front rest : List Char} (hfront : ∀ c ∈ front, p c = true)
    (hrest : ∀ c more, rest = c :: more → p c = false) :
    (runs p (front ++ rest)).getLast? = some ⟨front, [], rest⟩ := by
  induction front with
  | nil =>
    cases rest with
    | nil => rfl
    | cons c more =>
      rw [List.nil_append, runs, hrest c more rfl]
      rfl
  | cons c front ih =>
    obtain ⟨hc, hfront⟩ := List.forall_mem_cons.mp hfront
    rw [List.cons_append, runs, if_pos hc, List.getLast?_cons, List.getLast?_map, ih hfront]
    rfl

/-- A repetition takes all characters of its class. -/
theorem first?_most {p : Char → Bool} {front rest : List Char} (hfront : ∀ c ∈ front, p c = true)
    (hrest : ∀ c more, rest = c :: more → p c = false) :
    (most p).first? (front ++ rest) = some ⟨front, [], rest⟩ := by
  rw [first?_eq_head?, ways_most, List.head?_reverse, getLast?_runs hfront hrest]

theorem first?_eq_none {p : Pattern} {cs : List Char} : p.first? cs = none ↔ p.ways cs = [] :=
  List.head?_eq_none_iff

/-- A pattern does not match if nothing that follows its first part goes on. -/
theorem ways_seq_eq_nil {a b : Pattern} {cs : List Char}
    (h : ∀ front rest, front ++ rest = cs → b.ways rest = []) : (seq a b).ways cs = [] := by
  rw [ways_seq, List.flatMap_eq_nil_iff]
  intro m hm
  rw [h m.text m.rest (ways_text_rest hm), List.map_nil]

/-- A pattern that ends in a character does not match a text without that character. -/
theorem ways_seq_single_eq_nil {a : Pattern} {c : Char} {cs : List Char} (h : c ∉ cs) :
    (seq a (single c)).ways cs = [] := by
  refine ways_seq_eq_nil fun front rest hcs => ?_
  cases rest with
  | nil => rfl
  | cons d rest =>
    have hd : d ≠ c := fun hd => h (hcs ▸ List.mem_append_right _ (hd ▸ List.mem_cons_self))
    exact ways_char_cons_of_not (by simpa using hd) rest

/-! ## Whole texts -/

/-- The pattern matches the whole text, as it must between `^` and `$`. -/
def MatchesAll (p : Pattern) (cs : List Char) : Prop := ∃ m ∈ p.ways cs, m.rest = []

/-- The match between `^` and `$` that counts: the first one that is the whole text. -/
def whole? (p : Pattern) (cs : List Char) : Option Match := (p.ways cs).find? fun m => m.rest.isEmpty

theorem whole?_isSome_iff {p : Pattern} {cs : List Char} :
    (p.whole? cs).isSome = true ↔ p.MatchesAll cs := by
  simp only [whole?, List.find?_isSome, List.isEmpty_iff, MatchesAll]

/-- A first match that is the whole text counts. -/
theorem whole?_of_first? {p : Pattern} {cs : List Char} {m : Match} (h : p.first? cs = some m)
    (hrest : m.rest = []) : p.whole? cs = some m := by
  obtain ⟨ms, hways⟩ := List.head?_eq_some_iff.mp h
  rw [whole?, hways]
  exact List.find?_cons_of_pos (List.isEmpty_iff.mpr hrest)

/-- The texts that a pattern describes. -/
def Accepts : Pattern → List Char → Prop
  | empty, cs => cs = []
  | char p, cs => ∃ c, p c = true ∧ cs = [c]
  | seq a b, cs => ∃ front back, a.Accepts front ∧ b.Accepts back ∧ cs = front ++ back
  | either a b, cs => a.Accepts cs ∨ b.Accepts cs
  | most p, cs | fewest p, cs => ∀ c ∈ cs, p c = true
  | group _ a, cs => a.Accepts cs

theorem exists_mem_runs_iff {p : Char → Bool} {front : List Char} (back : List Char) :
    (∃ m ∈ runs p (front ++ back), m.text = front ∧ m.rest = back) ↔ ∀ c ∈ front, p c = true := by
  induction front with
  | nil =>
    obtain ⟨more, hmore⟩ := runs_eq_cons p back
    rw [List.nil_append, hmore]
    exact iff_of_true ⟨_, List.mem_cons_self, rfl, rfl⟩ (by simp)
  | cons c front ih =>
    rw [List.forall_mem_cons, ← ih, List.cons_append, runs]
    constructor
    · rintro ⟨m, hm, htext, hrest⟩
      rcases List.mem_cons.mp hm with rfl | hm
      · cases htext
      split at hm
      · rename_i hc
        obtain ⟨n, hn, rfl⟩ := List.mem_map.mp hm
        exact ⟨hc, n, hn, (List.cons.inj htext).2, hrest⟩
      · cases hm
    · rintro ⟨hc, n, hn, rfl, rfl⟩
      rw [if_pos hc]
      exact ⟨n.cons c, List.mem_cons_of_mem _ (List.mem_map_of_mem hn), rfl, rfl⟩

/-- A pattern matches the texts that it describes, whatever follows them. -/
theorem exists_mem_ways_iff {p : Pattern} {front : List Char} (back : List Char) :
    (∃ m ∈ p.ways (front ++ back), m.text = front ∧ m.rest = back) ↔ p.Accepts front := by
  -- What stands behind is general: behind the text of a first pattern stands that of the second one.
  induction p generalizing front back with
  | empty => simp [ways, Accepts, eq_comm]
  | char p =>
    constructor
    · rintro ⟨m, hm, rfl, rfl⟩
      generalize m.text ++ m.rest = cs at hm
      cases cs with
      | nil => cases hm
      | cons c cs =>
        simp only [ways] at hm
        split at hm
        · rename_i hc
          exact ⟨c, hc, congrArg Match.text (List.mem_singleton.mp hm)⟩
        · cases hm
    · rintro ⟨c, hc, rfl⟩
      have hways : (char p).ways ([c] ++ back) = [⟨[c], [], back⟩] := if_pos hc
      exact ⟨_, hways ▸ List.mem_cons_self, rfl, rfl⟩
  | seq a b iha ihb =>
    constructor
    · rintro ⟨m, hm, rfl, rfl⟩
      obtain ⟨n, hn, hm⟩ := List.mem_flatMap.mp hm
      obtain ⟨k, hk, rfl⟩ := List.mem_map.mp hm
      have hrest := ways_text_rest hk
      have hall := ways_text_rest hn
      refine ⟨n.text, k.text, (iha n.rest).mp ⟨n, hall.symm ▸ hn, rfl, rfl⟩,
        (ihb k.rest).mp ⟨k, hrest.symm ▸ hk, rfl, rfl⟩, rfl⟩
    · rintro ⟨first, second, ha, hb, rfl⟩
      obtain ⟨n, hn, rfl, hrest⟩ := (iha (second ++ back)).mpr ha
      obtain ⟨k, hk, rfl, rfl⟩ := (ihb back).mpr hb
      rw [← hrest] at hk
      refine ⟨n.append k, ?_, rfl, rfl⟩
      rw [List.append_assoc]
      exact List.mem_flatMap.mpr ⟨n, hn, List.mem_map_of_mem hk⟩
  | either a b iha ihb =>
    simp only [ways, Accepts, ← iha back, ← ihb back, List.mem_append, or_and_right, exists_or]
  | most p =>
    -- The longest runs come first here, but they are the same runs.
    rw [Accepts, ← exists_mem_runs_iff back, ways_most]
    simp only [List.mem_reverse]
  | fewest p => exact exists_mem_runs_iff back
  | group i a ih =>
    rw [Accepts, ← ih back, ways_group]
    constructor
    · rintro ⟨m, hm, htext, hrest⟩
      obtain ⟨n, hn, rfl⟩ := List.mem_map.mp hm
      exact ⟨n, hn, htext, hrest⟩
    · rintro ⟨n, hn, htext, hrest⟩
      exact ⟨_, List.mem_map_of_mem hn, htext, hrest⟩

theorem matchesAll_iff {p : Pattern} {cs : List Char} : p.MatchesAll cs ↔ p.Accepts cs := by
  rw [← exists_mem_ways_iff [], List.append_nil]
  refine exists_congr fun m => and_congr_right fun hm => ?_
  have htext := ways_text_rest hm
  constructor
  · intro hrest
    rw [hrest, List.append_nil] at htext
    exact ⟨htext, hrest⟩
  · exact And.right

end Pattern

end Stencil
