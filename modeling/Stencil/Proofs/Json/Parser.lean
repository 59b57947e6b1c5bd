import Stencil.Json.Parser
import Stencil.Proofs.Entries
import Stencil.Proofs.Json.Token

/-!
# Reading a written JSON value

* `Json.depth`: how many brackets of a text are open at once.
* `Json.readBack`: what the text of a value is read as.
* `State.run?_tokens`: from a state in which a value may come next, the tokens of a value complete what it
  is read as.
* `parse?_render_eq`: a value that is written is read as this.
* `parse?_render`: a plain value that is written and read back is the same.
* `parse?_object`: the text of an object is read as an object with the same keys.
-/

namespace Stencil.Json

/-! ## What is read -/

mutual

/-- The number of brackets that are open at once in the text of a value. -/
def depth : Json → Nat
  | array items => itemsDepth items + 1
  | object entries => entriesDepth entries + 1
  | _ => 0
termination_by structural v => v

/-- The same for the text of all elements. -/
def itemsDepth : List Json → Nat
  | [] => 0
  | v :: rest => max v.depth (itemsDepth rest)
termination_by structural items => items

/-- The same for the text of all entries. -/
def entriesDepth : List (String × Json) → Nat
  | [] => 0
  | (_, v) :: rest => max v.depth (entriesDepth rest)
termination_by structural entries => entries

end

mutual

/-- What the text of a value is read as: numbers may come out changed, and the entries of an object come
out in the order of their keys, the last one of each key. -/
def readBack : Json → Json
  | real x => readReal x
  | array items => array (readBackItems items)
  | object entries => object (Entries.ofList (readBackEntries entries))
  | v => v
termination_by structural v => v

/-- The same for all elements. -/
def readBackItems : List Json → List Json
  | [] => []
  | v :: rest => v.readBack :: readBackItems rest
termination_by structural items => items

/-- The same for the values of all entries. -/
def readBackEntries : List (String × Json) → List (String × Json)
  | [] => []
  | (key, v) :: rest => (key, v.readBack) :: readBackEntries rest
termination_by structural entries => entries

end

mutual

/-- A plain value is read as itself. -/
theorem Plain.readBack_eq : ∀ {v : Json}, v.Plain → v.readBack = v
  | null, _ | bool _, _ | integer _, _ | text _, _ => rfl
  | array _, h => congrArg array (ItemsPlain.readBackItems_eq h)
  | object entries, h => by
    rw [readBack, EntriesPlain.readBackEntries_eq h.2, h.1.ofList_eq]

theorem ItemsPlain.readBackItems_eq : ∀ {items : List Json},
    ItemsPlain items → readBackItems items = items
  | [], _ => rfl
  | _ :: _, h => by rw [readBackItems, h.1.readBack_eq, h.2.readBackItems_eq]

theorem EntriesPlain.readBackEntries_eq : ∀ {entries : List (String × Json)},
    EntriesPlain entries → readBackEntries entries = entries
  | [], _ => rfl
  | (_, _) :: _, h => by rw [readBackEntries, h.1.readBack_eq, h.2.readBackEntries_eq]

end

namespace State

/-- The state after several tokens, if each of them may come next. -/
def run? (state : State) (tokens : List Token) : Option State := tokens.foldlM step? state

theorem run?_append {state mid after : State} {front back : List Token}
    (h : state.run? front = some mid) (h' : mid.run? back = some after) :
    state.run? (front ++ back) = some after := by
  rw [run?, List.foldlM_append, show List.foldlM step? state front = some mid from h]
  exact h'

theorem run?_cons {state mid after : State} {t : Token} {rest : List Token}
    (h : state.step? t = some mid) (h' : mid.run? rest = some after) :
    state.run? (t :: rest) = some after := by
  rw [run?, List.foldlM_cons, h]
  exact h'

/-- After a key and a colon, the value of the key comes next. -/
theorem run?_key (frames : List Frame) (before : Entries Json) (mayClose : Bool) (k : String) :
    (State.key frames before mayClose).run? [.text k.toList, .colon] =
      some (value (.object before k :: frames) false) := by
  have hkey : (State.key frames before mayClose).step? (.text k.toList) =
      some (colon frames before k) := by
    rw [step?, String.ofList_toList]
  exact run?_cons hkey rfl

mutual

/-- The tokens of a value complete what it is read as, if not too many brackets are open. -/
theorem run?_tokens : ∀ (v : Json) (frames : List Frame) (mayClose : Bool),
    frames.length + v.depth ≤ depthLimit →
      (value frames mayClose).run? v.tokens = some (complete frames v.readBack)
  | .null, _, _, _ | .bool _, _, _, _ | .integer _, _, _, _ | .real _, _, _, _ => rfl
  | .text s, frames, mayClose, _ => by
    have htext : (value frames mayClose).step? (.text s.toList) = some (complete frames (.text s)) := by
      rw [step?, String.ofList_toList]
    exact run?_cons htext rfl
  | .array items, frames, _, hdepth => by
    rw [depth, ← Nat.add_assoc, Nat.add_right_comm] at hdepth
    have hlt : frames.length < depthLimit := by omega
    -- The bracket can still be opened; the elements are read inside of it.
    refine run?_cons (if_pos hlt) ?_
    by_cases hitems : items = []
    · rw [hitems]
      rfl
    · exact run?_itemsTokens items hitems frames [] true hdepth
  | .object entries, frames, _, hdepth => by
    rw [depth, ← Nat.add_assoc, Nat.add_right_comm] at hdepth
    have hlt : frames.length < depthLimit := by omega
    refine run?_cons (if_pos hlt) ?_
    by_cases hentries : entries = []
    · rw [hentries]
      rfl
    · exact run?_entriesTokens entries hentries frames [] true hdepth

/-- The tokens of elements and a closing bracket complete an array that may hold elements before them. -/
theorem run?_itemsTokens : ∀ (items : List Json), items ≠ [] →
    ∀ (frames : List Frame) (before : List Json) (mayClose : Bool),
      frames.length + 1 + itemsDepth items ≤ depthLimit →
        (value (.array before :: frames) mayClose).run? (itemsTokens items ++ [.closeArray]) =
          some (complete frames (.array (before.reverse ++ readBackItems items)))
  | [], hne, _, _, _, _ => absurd rfl hne
  | [v], _, frames, before, mayClose, hdepth => by
    rw [itemsDepth, itemsDepth, Nat.max_zero] at hdepth
    have hvalue := run?_tokens v (.array before :: frames) mayClose hdepth
    refine run?_append hvalue (run?_cons rfl ?_)
    rw [List.reverse_cons]
    rfl
  | v :: w :: rest, _, frames, before, mayClose, hdepth => by
    rw [itemsDepth] at hdepth
    have hvalue := run?_tokens v (.array before :: frames) mayClose (by
      rw [List.length_cons]
      omega)
    have hitems := run?_itemsTokens (w :: rest) (List.cons_ne_nil w rest) frames
      (v.readBack :: before) false (by omega)
    rw [List.reverse_cons, List.append_assoc] at hitems
    have htokens : itemsTokens (v :: w :: rest) ++ [.closeArray] =
        v.tokens ++ .comma :: (itemsTokens (w :: rest) ++ [.closeArray]) :=
      List.append_assoc ..
    rw [htokens]
    exact run?_append hvalue (run?_cons rfl hitems)

/-- The tokens of entries and a closing brace complete an object that may hold entries before them. -/
theorem run?_entriesTokens : ∀ (entries : Entries Json), entries ≠ [] →
    ∀ (frames : List Frame) (before : Entries Json) (mayClose : Bool),
      frames.length + 1 + entriesDepth entries ≤ depthLimit →
        (State.key frames before mayClose).run? (entriesTokens entries ++ [.closeObject]) =
          some (complete frames (.object ((readBackEntries entries).foldl
            (fun entries pair => Entries.insert pair.1 pair.2 entries) before)))
  | [], hne, _, _, _, _ => absurd rfl hne
  | [(k, v)], _, frames, before, mayClose, hdepth => by
    rw [entriesDepth, entriesDepth, Nat.max_zero] at hdepth
    have hvalue := run?_tokens v (.object before k :: frames) false hdepth
    have htokens : entriesTokens [(k, v)] ++ [.closeObject] =
        [.text k.toList, .colon] ++ (v.tokens ++ [.closeObject]) := rfl
    rw [htokens]
    exact run?_append (run?_key ..) (run?_append hvalue (run?_cons rfl rfl))
  | (k, v) :: (k', w) :: rest, _, frames, before, mayClose, hdepth => by
    rw [entriesDepth] at hdepth
    have hvalue := run?_tokens v (.object before k :: frames) false (by
      rw [List.length_cons]
      omega)
    have hentries := run?_entriesTokens ((k', w) :: rest) (List.cons_ne_nil (k', w) rest) frames
      (before.insert k v.readBack) false (by omega)
    have htokens : entriesTokens ((k, v) :: (k', w) :: rest) ++ [.closeObject] =
        [.text k.toList, .colon] ++
          (v.tokens ++ .comma :: (entriesTokens ((k', w) :: rest) ++ [.closeObject])) :=
      congrArg (fun tokens => Token.text k.toList :: .colon :: tokens) (List.append_assoc ..)
    rw [htokens]
    exact run?_append (run?_key ..) (run?_append hvalue (run?_cons rfl hentries))

end

end State

/-- A value is written as a text that can be read. -/
theorem parse?_render_eq {v : Json} (hv : v.Legible) (hdepth : v.depth ≤ depthLimit) :
    parse? v.render = some v.readBack := by
  have hrun : State.start.run? v.tokens = some (.complete [] v.readBack) :=
    State.run?_tokens v [] false (by rwa [List.length_nil, Nat.zero_add])
  rw [State.run?] at hrun
  rw [parse?, scan?_render hv]
  show (do (← v.tokens.foldlM State.step? State.start).result?) = some v.readBack
  rw [hrun]
  rfl

/-- A plain value that is written and read back is the same. -/
theorem parse?_render {v : Json} (hv : v.Plain) (hdepth : v.depth ≤ depthLimit) :
    parse? v.render = some v := by
  rw [parse?_render_eq hv.legible hdepth, hv.readBack_eq]

/-! ## Objects -/

theorem entriesLegible_of_forall {entries : List (String × Json)}
    (h : ∀ entry ∈ entries, entry.2.Legible) : EntriesLegible entries := by
  induction entries with
  | nil => trivial
  | cons entry rest ih =>
    obtain ⟨hfirst, hrest⟩ := List.forall_mem_cons.mp h
    exact ⟨hfirst, ih hrest⟩

theorem entriesDepth_lt {entries : List (String × Json)} {n : Nat} (hn : 0 < n)
    (h : ∀ entry ∈ entries, entry.2.depth < n) : entriesDepth entries < n := by
  induction entries with
  | nil => exact hn
  | cons entry rest ih =>
    obtain ⟨hfirst, hrest⟩ := List.forall_mem_cons.mp h
    exact Nat.max_lt.mpr ⟨hfirst, ih hrest⟩

theorem readBackEntries_eq (entries : List (String × Json)) :
    readBackEntries entries = entries.map fun entry => (entry.1, entry.2.readBack) := by
  induction entries with
  | nil => rfl
  | cons entry rest ih => rw [readBackEntries, ih, List.map_cons]

/-- The text of an object is read as an object with the same keys. -/
theorem parse?_object {entries : List (String × Json)}
    (h : ∀ entry ∈ entries, entry.2.Legible ∧ entry.2.depth < depthLimit) :
    parse? (object entries).toText.toList =
      some (object (Entries.ofList (entries.map fun entry => (entry.1, entry.2.readBack)))) := by
  have hlegible : (object entries).Legible := entriesLegible_of_forall fun entry he => (h entry he).1
  have hdepth : (object entries).depth ≤ depthLimit :=
    entriesDepth_lt (by decide) fun entry he => (h entry he).2
  rw [toText, String.toList_ofList, parse?_render_eq hlegible hdepth, readBack, readBackEntries_eq]

end Stencil.Json
