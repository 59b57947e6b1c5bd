import Stencil.Json.Printer
import Stencil.Proofs.Json.Real

/-!
# The tokens of a written JSON value

* `Json.Legible`: values whose integers have 64 bits.
* `Json.Plain`: those without other numbers, in which the keys of an object increase.
* `Json.tokens`: the tokens of the text of a value.
* `scanText?_escaped`: a text with its escapes is scanned as the text.
* `ScannedAs`, `scannedAs_render`: the text of a value is scanned as its tokens, in front of a rest.
* `scan?_render`: the text of a value is scanned as its tokens.
-/

namespace Stencil.Json

open Number

/-! ## Values and their tokens -/

mutual

/-- A value in which every number is an integer of 64 bits, with or without a sign. -/
def Plain : Json → Prop
  | integer i => -2 ^ 63 ≤ i ∧ i < 2 ^ 64
  | real _ => False
  | array items => ItemsPlain items
  | object entries => Entries.Sorted entries ∧ EntriesPlain entries
  | _ => True
termination_by structural v => v

/-- The same for all elements. -/
def ItemsPlain : List Json → Prop
  | [] => True
  | v :: rest => v.Plain ∧ ItemsPlain rest
termination_by structural items => items

/-- The same for all entries. -/
def EntriesPlain : List (String × Json) → Prop
  | [] => True
  | (_, v) :: rest => v.Plain ∧ EntriesPlain rest
termination_by structural entries => entries

end

mutual

/-- A value in which every integer has 64 bits, with or without a sign. -/
def Legible : Json → Prop
  | integer i => -2 ^ 63 ≤ i ∧ i < 2 ^ 64
  | array items => ItemsLegible items
  | object entries => EntriesLegible entries
  | _ => True
termination_by structural v => v

/-- The same for all elements. -/
def ItemsLegible : List Json → Prop
  | [] => True
  | v :: rest => v.Legible ∧ ItemsLegible rest
termination_by structural items => items

/-- The same for all entries. -/
def EntriesLegible : List (String × Json) → Prop
  | [] => True
  | (_, v) :: rest => v.Legible ∧ EntriesLegible rest
termination_by structural entries => entries

end

mutual

theorem Plain.legible : ∀ {v : Json}, v.Plain → v.Legible
  | null, _ | bool _, _ | text _, _ => trivial
  | integer _, h => h
  | array _, h => ItemsPlain.legible h
  | object _, h => EntriesPlain.legible h.2

theorem ItemsPlain.legible : ∀ {items : List Json}, ItemsPlain items → ItemsLegible items
  | [], _ => trivial
  | _ :: _, h => ⟨h.1.legible, h.2.legible⟩

theorem EntriesPlain.legible : ∀ {entries : List (String × Json)},
    EntriesPlain entries → EntriesLegible entries
  | [], _ => trivial
  | (_, _) :: _, h => ⟨h.1.legible, h.2.legible⟩

end

/-- What the text of a number is read as. A finite number is scaled in rounded steps, so that it may come
out changed; any other is written as `null`. -/
def readReal (x : Binary64) : Json := ((scanNumber? (renderReal x)).map Prod.fst).getD null

mutual

/-- The tokens of the text of a value. -/
def tokens : Json → List Token
  | real x => [.scalar (readReal x)]
  | text s => [.text s.toList]
  | array items => .openArray :: (itemsTokens items ++ [.closeArray])
  | object entries => .openObject :: (entriesTokens entries ++ [.closeObject])
  | v => [.scalar v]
termination_by structural v => v

/-- The tokens of elements with commas between them. -/
def itemsTokens : List Json → List Token
  | [] => []
  | [v] => v.tokens
  | v :: rest => v.tokens ++ .comma :: itemsTokens rest
termination_by structural items => items

/-- The tokens of entries with commas between them. -/
def entriesTokens : List (String × Json) → List Token
  | [] => []
  | [(key, v)] => .text key.toList :: .colon :: v.tokens
  | (key, v) :: rest => .text key.toList :: .colon :: (v.tokens ++ .comma :: entriesTokens rest)
termination_by structural entries => entries

end

/-! ## Texts -/

theorem hexQuad?_of_lt {n : Nat} (h : n < 0x20) (cs : List Char) :
    hexQuad? ('0' :: '0' :: Nat.digitChar (n / 16) :: Nat.digitChar (n % 16) :: cs) = some (n, cs) := by
  have hzero : digitValue? 16 '0' = some 0 := rfl
  have hhigh := (digitValue?_digitChar (n / 16) (by omega)).1
  have hlow := (digitValue?_digitChar (n % 16) (by omega)).1
  have hdigits : ofDigits 16 [0, 0, n / 16, n % 16] = n := by
    simp only [ofDigits, List.foldl_cons, List.foldl_nil]
    omega
  simp [hexQuad?, ofNumeral?, hzero, hhigh, hlow, hdigits]

/-- A code below the surrogates stands for its character. -/
theorem escape?_code {n : Nat} (h : n < 0x20) (cs : List Char) :
    escape? ('u' :: '0' :: '0' :: Nat.digitChar (n / 16) :: Nat.digitChar (n % 16) :: cs) =
      some (Char.ofNat n, cs) := by
  rw [escape?, codeEscape?, hexQuad?_of_lt h]
  simp only
  rw [if_neg (by omega), if_neg (by omega)]

theorem scanText?_escape {cs rest : List Char} {c : Char} (h : escape? cs = some (c, rest)) :
    scanText? ('\\' :: cs) = (scanText? rest).map fun (s, last) => (c :: s, last) := by
  rw [scanText?]
  split
  · rename_i hnone
    rw [h] at hnone
    cases hnone
  · rename_i hsome
    rw [h] at hsome
    cases hsome
    rfl

theorem scanText?_plain {c : Char} (hquote : c ≠ '"') (hbackslash : c ≠ '\\')
    (hcontrol : ¬ c.toNat < 0x20) (cs : List Char) :
    scanText? (c :: cs) = (scanText? cs).map fun (s, last) => (c :: s, last) := by
  rw [scanText?, if_neg hcontrol]
  · exact hquote
  · exact hbackslash

/-- The written form of a character is scanned as the character. -/
theorem scanText?_escapeChar (c : Char) (cs : List Char) :
    scanText? (escapeChar c ++ cs) = (scanText? cs).map fun (s, last) => (c :: s, last) := by
  by_cases hletter : ∃ e, letterEscape? e = some c ∧ escapeChar c = ['\\', e] ∧ e ≠ 'u'
  · obtain ⟨e, he, hescape, hne⟩ := hletter
    rw [hescape]
    have hescape : escape? (e :: cs) = some (c, cs) := by
      rw [escape?, he]
      · rfl
      · exact hne
    exact scanText?_escape hescape
  rw [escapeChar] at hletter ⊢
  repeat
    split
    · rename_i hc
      subst hc
      exact absurd ⟨_, rfl, rfl, by decide⟩ hletter
  split
  · rename_i hcontrol
    exact (scanText?_escape (escape?_code hcontrol cs)).trans (by rw [Char.ofNat_toNat])
  · rename_i hquote hbackslash _ _ _ _ _ hcontrol
    exact scanText?_plain hquote hbackslash hcontrol cs

/-- A text with its escapes is scanned as the text, up to the closing quote. -/
theorem scanText?_escaped (s rest : List Char) :
    scanText? (s.flatMap escapeChar ++ '"' :: rest) = some (s, rest) := by
  induction s with
  | nil => rw [List.flatMap_nil, List.nil_append, scanText?]
  | cons c s ih =>
    rw [List.flatMap_cons, List.append_assoc, scanText?_escapeChar, ih]
    rfl

/-! ## Whole values -/

/-- No token starts with a blank. -/
theorem Token.isSpace_of_next? {c : Char} {cs rest : List Char} {t : Token}
    (h : next? (c :: cs) = some (t, rest)) : isSpace c = false := by
  rw [Bool.eq_false_iff]
  intro hspace
  obtain ((rfl | rfl) | rfl) | rfl : ((c = ' ' ∨ c = '\n') ∨ c = '\t') ∨ c = '\r' := by
    simpa only [isSpace, Bool.or_eq_true, beq_iff_eq] using hspace
  all_goals cases h

/-- A token at the start of a text is the first one of the text. -/
theorem Token.scan?_of_next? {cs rest : List Char} {t : Token} (h : next? cs = some (t, rest)) :
    scan? cs = (scan? rest).map (t :: ·) := by
  cases cs with
  | nil => cases h
  | cons c cs =>
    rw [scan?, isSpace_of_next? h]
    simp only [Bool.false_eq_true, if_false]
    split
    · rename_i hnone
      rw [h] at hnone
      cases hnone
    · rename_i hsome
      rw [h] at hsome
      cases hsome
      rfl

/-- No other token starts as a number does. -/
theorem Token.next?_of_scanNumber? {cs rest : List Char} {v : Json}
    (h : scanNumber? cs = some (v, rest)) : next? cs = some (scalar v, rest) := by
  rw [next?, h]
  · rfl
  all_goals
    rintro _ rfl
    cases h

section

variable {front back cs rest : List Char} {ts us : List Token} {t : Token}

/-- The characters `cs` are scanned as the tokens `ts` in front of `rest`. -/
def ScannedAs (cs : List Char) (ts : List Token) (rest : List Char) : Prop :=
  Token.scan? (cs ++ rest) = (Token.scan? rest).map (ts ++ ·)

theorem ScannedAs.append (h : ScannedAs front ts (back ++ rest)) (h' : ScannedAs back us rest) :
    ScannedAs (front ++ back) (ts ++ us) rest := by
  rw [ScannedAs, List.append_assoc, h, h', Option.map_map]
  refine congrArg (Option.map · _) (funext fun _ => ?_)
  exact (List.append_assoc ..).symm

theorem ScannedAs.of_next? (h : Token.next? (cs ++ rest) = some (t, rest)) :
    ScannedAs cs [t] rest := Token.scan?_of_next? h

theorem ScannedAs.nil : ScannedAs [] [] rest := Option.map_id'.symm

/-- A token of one character comes first. -/
theorem ScannedAs.mark {c : Char} (h : ∀ cs, Token.next? (c :: cs) = some (t, cs))
    (h' : ScannedAs back us rest) : ScannedAs (c :: back) (t :: us) rest :=
  have hfirst : ScannedAs [c] [t] (back ++ rest) := .of_next? (h _)
  hfirst.append h'

end

/-- The text of a finite number is scanned as the number that it is read as. -/
theorem scanNumber?_renderReal (negative : Bool) (x : Magnitude) {rest : List Char}
    (hrest : NumberEnds rest) :
    scanNumber? (renderReal (.finite negative x) ++ rest) =
      some (readReal (.finite negative x), rest) := by
  obtain ⟨y, hscan⟩ := scansAsFinite_render negative x
  have halone := hscan [] trivial
  rw [List.append_nil] at halone
  have hread : readReal (.finite negative x) = real (.finite negative y) := by
    rw [readReal, renderReal, halone]
    rfl
  rw [hread, renderReal, hscan rest hrest]

theorem scannedAs_renderText (s : String) (rest : List Char) :
    ScannedAs (renderText s) [.text s.toList] rest := by
  refine .of_next? ?_
  rw [renderText, List.cons_append, List.cons_append, List.append_assoc, List.singleton_append,
    Token.next?, scanText?_escaped]
  rfl

mutual

/-- The text of a value is scanned as its tokens, in front of anything that does not go on with a number. -/
theorem scannedAs_render : ∀ {v : Json}, v.Legible → ∀ {rest : List Char}, NumberEnds rest →
    ScannedAs v.render v.tokens rest
  | .null, _, _, _ => .of_next? rfl
  | .bool true, _, _, _ | .bool false, _, _, _ => .of_next? rfl
  | .integer _, hv, _, hrest =>
    .of_next? (Token.next?_of_scanNumber? (scanNumber?_intNumeral hv.1 hv.2 hrest))
  | .real (.finite negative x), _, _, hrest =>
    .of_next? (Token.next?_of_scanNumber? (scanNumber?_renderReal negative x hrest))
  | .real (.infinite _), _, _, _ | .real .nan, _, _, _ => .of_next? rfl
  | .text s, _, rest, _ => scannedAs_renderText s rest
  | .array _, hv, rest, _ =>
    have hitems := scannedAs_renderItems hv (numberEnds_cons (.inr (.inl rfl)) rest)
    .mark (fun _ => rfl) (hitems.append (.mark (fun _ => rfl) .nil))
  | .object _, hv, rest, _ =>
    have hentries := scannedAs_renderEntries hv (numberEnds_cons (.inr (.inr rfl)) rest)
    .mark (fun _ => rfl) (hentries.append (.mark (fun _ => rfl) .nil))

theorem scannedAs_renderItems : ∀ {items : List Json}, ItemsLegible items →
    ∀ {rest : List Char}, NumberEnds rest → ScannedAs (renderItems items) (itemsTokens items) rest
  | [], _, _, _ => .nil
  | [_], hv, _, hrest => scannedAs_render hv.1 hrest
  | _ :: _ :: _, hv, _, hrest =>
    have hitems := scannedAs_renderItems hv.2 hrest
    .append (scannedAs_render hv.1 (numberEnds_cons (.inl rfl) _)) (.mark (fun _ => rfl) hitems)

theorem scannedAs_renderEntries : ∀ {entries : List (String × Json)}, EntriesLegible entries →
    ∀ {rest : List Char}, NumberEnds rest →
      ScannedAs (renderEntries entries) (entriesTokens entries) rest
  | [], _, _, _ => .nil
  | [(key, _)], hv, _, hrest =>
    .append (scannedAs_renderText key _) (.mark (fun _ => rfl) (scannedAs_render hv.1 hrest))
  | (key, _) :: _ :: _, hv, _, hrest =>
    have hentries := scannedAs_renderEntries hv.2 hrest
    have hv := scannedAs_render hv.1 (numberEnds_cons (.inl rfl) _)
    .append (scannedAs_renderText key _) <|
      .mark (fun _ => rfl) (hv.append (.mark (fun _ => rfl) hentries))

end

/-- The text of a value is scanned as its tokens. -/
theorem scan?_render {v : Json} (hv : v.Legible) : Token.scan? v.render = some v.tokens := by
  have h : ScannedAs v.render v.tokens [] := scannedAs_render hv trivial
  rw [ScannedAs, List.append_nil, Token.scan?, Option.map_some, List.append_nil] at h
  exact h

end Stencil.Json
