import Mathlib.Data.List.TakeWhile
import Stencil.Proofs.Brace.Rendering
import Stencil.Proofs.Pattern

/-!
# The grammar of brace templates

Three descriptions of what a brace template consists of, and that they agree on every text.

* `placeholderPattern`: a regular expression for doubled braces and placeholders, of which the
  leftmost matches count.
* `Scans`: the rules by which a text is read from left to right.
* `Token.scan`: the reader that `format` uses.

`scan_eq_iff` ties the reader to the rules and `cut_eq_scan` ties it to the regular expression.
-/

namespace Stencil.Brace

/-! ## The rules -/

/-- `Splits content key transformer`: the content of a placeholder is a key and perhaps the name of a
transformer. The first bar separates them, unless it is the last character. -/
inductive Splits : List Char → List Char → Option (List Char) → Prop
  | noBar {content} : '|' ∉ content → Splits content content none
  | lastBar {front} : '|' ∉ front → Splits (front ++ ['|']) (front ++ ['|']) none
  | bar {key name} : '|' ∉ key → name ≠ [] → Splits (key ++ '|' :: name) key (some name)

/-- `Scans cs tokens`: reading `cs` from left to right gives `tokens`. A doubled brace is one token.
Any other opening brace that has a closing one behind it is a placeholder up to the first closing
one, and every other character stands for itself. -/
inductive Scans : List Char → List Token → Prop
  | nil : Scans [] []
  | brace {c rest tokens} : c = '\x7b' ∨ c = '\x7d' → Scans rest tokens →
      Scans (c :: c :: rest) (.brace c :: tokens)
  | placeholder {content key transformer rest tokens} : content.head? ≠ some '\x7b' →
      '\x7d' ∉ content → Splits content key transformer → Scans rest tokens →
      Scans ('\x7b' :: (content ++ '\x7d' :: rest)) (.placeholder key transformer :: tokens)
  | literal {c rest tokens} : ¬ ((c = '\x7b' ∨ c = '\x7d') ∧ rest.head? = some c) →
      ¬ (c = '\x7b' ∧ '\x7d' ∈ rest) → Scans rest tokens → Scans (c :: rest) (.literal c :: tokens)

/-- The characters of a template that are a token. -/
def Token.source : Token → List Char
  | literal c => [c]
  | brace c => [c, c]
  | placeholder key none => '\x7b' :: (key ++ ['\x7d'])
  | placeholder key (some name) => '\x7b' :: (key ++ '|' :: name ++ ['\x7d'])

/-! ## The regular expression -/

/-- `[^}]` -/
def notClose (c : Char) : Bool := c != '\x7d'

/-- `(?:\|([^}]+?))?` -/
def transformerPattern : Pattern :=
  .either (.seq (.single '|') (.group 2 (.seq (.char notClose) (.fewest notClose)))) .empty

/-- `\{\{|\}\}|\{([^}]*?)(?:\|([^}]+?))?\}` -/
def placeholderPattern : Pattern :=
  .either (.seq (.single '\x7b') (.single '\x7b'))
    (.either (.seq (.single '\x7d') (.single '\x7d'))
      (.seq (.single '\x7b')
        (.seq (.group 1 (.fewest notClose)) (.seq transformerPattern (.single '\x7d')))))

/-- The token that a match of the pattern, or a character between the matches, is. -/
def Token.ofFragment : Fragment → Token
  | .other c => .literal c
  | .found m =>
    if m.text = ['\x7b', '\x7b'] then .brace '\x7b'
    else if m.text = ['\x7d', '\x7d'] then .brace '\x7d'
    else .placeholder ((m.group 1).getD []) (m.group 2)

/-! ## The reader -/

theorem untilClose?_eq_some {cs content after : List Char} :
    untilClose? cs = some (content, after) ↔ cs = content ++ '\x7d' :: after ∧ '\x7d' ∉ content := by
  induction cs generalizing content with
  | nil => simp [untilClose?]
  | cons c rest ih =>
    rw [untilClose?]
    by_cases hc : c = '\x7d'
    · rw [if_pos hc]
      constructor
      · intro h
        cases h
        exact ⟨by rw [hc]; rfl, List.not_mem_nil⟩
      · rintro ⟨hcs, hmem⟩
        cases content with
        | nil => cases hcs; rfl
        | cons d content =>
          cases hcs
          exact absurd (hc ▸ List.mem_cons_self) hmem
    · rw [if_neg hc, Option.map_eq_some_iff]
      constructor
      · rintro ⟨⟨content', after'⟩, h, heq⟩
        cases heq
        obtain ⟨rfl, hmem⟩ := ih.mp h
        exact ⟨rfl, List.not_mem_cons_of_ne_of_not_mem (Ne.symm hc) hmem⟩
      · rintro ⟨hcs, hmem⟩
        cases content with
        | nil => cases hcs; exact absurd rfl hc
        | cons d content =>
          cases hcs
          exact ⟨(content, after), ih.mpr ⟨rfl, fun h => hmem (List.mem_cons_of_mem _ h)⟩, rfl⟩

theorem untilClose?_eq_none {cs : List Char} : untilClose? cs = none ↔ '\x7d' ∉ cs := by
  induction cs with
  | nil => simp [untilClose?]
  | cons c rest ih =>
    rw [untilClose?]
    by_cases hc : c = '\x7d'
    · simp [hc]
    · simp [hc, ih, Ne.symm hc]

/-- The reader splits a placeholder by the rules. -/
theorem Splits.splitContent_eq {content key : List Char} {transformer : Option (List Char)}
    (h : Splits content key transformer) : splitContent content = (key, transformer) := by
  have htake : ∀ {front more : List Char}, '|' ∉ front →
      (front ++ '|' :: more).takeWhile (· ≠ '|') = front ∧
        (front ++ '|' :: more).dropWhile (· ≠ '|') = '|' :: more := by
    intro front more hfront
    have hall : ∀ c ∈ front, decide (c ≠ '|') = true := fun c hc =>
      decide_eq_true fun heq => hfront (heq ▸ hc)
    rw [List.takeWhile_append_of_pos hall, List.dropWhile_append_of_pos hall]
    simp
  cases h with
  | noBar hbar =>
    have hall : ∀ c ∈ content, decide (c ≠ '|') = true := fun c hc =>
      decide_eq_true fun heq => hbar (heq ▸ hc)
    rw [splitContent, List.dropWhile_eq_nil_iff.mpr hall]
  | lastBar hbar => rw [splitContent, (htake hbar).2]
  | bar hbar hname =>
    rename_i name
    cases name with
    | nil => exact absurd rfl hname
    | cons d name => rw [splitContent, (htake hbar).2, (htake hbar).1]

/-- Every content splits in one way. -/
theorem splits_splitContent (content : List Char) :
    Splits content (splitContent content).1 (splitContent content).2 := by
  by_cases hbar : '|' ∈ content
  · obtain ⟨front, more, rfl, hfront⟩ := List.eq_append_cons_of_mem hbar
    cases more with
    | nil => rw [(Splits.lastBar hfront).splitContent_eq]; exact .lastBar hfront
    | cons d more =>
      have h : Splits (front ++ '|' :: d :: more) front (some (d :: more)) :=
        .bar hfront (List.cons_ne_nil d more)
      rw [h.splitContent_eq]
      exact h
  · rw [(Splits.noBar hbar).splitContent_eq]
    exact .noBar hbar

theorem scan_brace {c : Char} (hc : c = '\x7b' ∨ c = '\x7d') (rest : List Char) :
    Token.scan (c :: c :: rest) = .brace c :: Token.scan rest := by
  rcases hc with rfl | rfl <;> rw [Token.scan]

theorem scan_placeholder {content key : List Char} {transformer : Option (List Char)}
    (hopen : content.head? ≠ some '\x7b') (hclose : '\x7d' ∉ content)
    (hsplit : Splits content key transformer) (rest : List Char) :
    Token.scan ('\x7b' :: (content ++ '\x7d' :: rest)) =
      .placeholder key transformer :: Token.scan rest := by
  have huntil : untilClose? (content ++ '\x7d' :: rest) = some (content, rest) :=
    untilClose?_eq_some.mpr ⟨rfl, hclose⟩
  rw [Token.scan, if_pos rfl]
  · split
    · rename_i content' after h
      rw [huntil] at h
      cases h
      rw [hsplit.splitContent_eq]
    · rename_i h
      rw [huntil] at h
      cases h
  · rintro rest' - h
    cases content with
    | nil => cases h
    | cons d content => cases h; exact hopen rfl
  · rintro rest' h
    cases h

theorem scan_literal {c : Char} {rest : List Char}
    (hdouble : ¬ ((c = '\x7b' ∨ c = '\x7d') ∧ rest.head? = some c))
    (hopen : ¬ (c = '\x7b' ∧ '\x7d' ∈ rest)) :
    Token.scan (c :: rest) = .literal c :: Token.scan rest := by
  rw [Token.scan]
  · by_cases hc : c = '\x7b'
    · have huntil : untilClose? rest = none := untilClose?_eq_none.mpr fun h => hopen ⟨hc, h⟩
      rw [if_pos hc]
      split
      · rename_i h
        rw [huntil] at h
        cases h
      · rfl
    · rw [if_neg hc]
  · rintro rest' rfl rfl
    exact hdouble ⟨.inl rfl, rfl⟩
  · rintro rest' rfl rfl
    exact hdouble ⟨.inr rfl, rfl⟩

/-- The reader follows the rules. -/
theorem scans_scan (cs : List Char) : Scans cs (Token.scan cs) := by
  fun_induction Token.scan cs with
  | case1 => exact .nil
  | case2 rest ih => exact .brace (.inl rfl) ih
  | case3 rest ih => exact .brace (.inr rfl) ih
  | case4 rest content after huntil hopen _ ih =>
    obtain ⟨rfl, hclose⟩ := untilClose?_eq_some.mp huntil
    refine .placeholder (fun h => ?_) hclose (splits_splitContent content) ih
    obtain ⟨more, rfl⟩ := List.head?_eq_some_iff.mp h
    exact hopen _ rfl rfl
  | case5 rest huntil hopen _ ih =>
    refine .literal ?_ (fun h => untilClose?_eq_none.mp huntil h.2) ih
    rintro ⟨-, h⟩
    obtain ⟨more, rfl⟩ := List.head?_eq_some_iff.mp h
    exact hopen more rfl rfl
  | case6 c rest hopen hclose hc ih =>
    refine .literal ?_ (fun h => hc h.1) ih
    rintro ⟨rfl | rfl, h⟩
    · exact hc rfl
    · obtain ⟨more, rfl⟩ := List.head?_eq_some_iff.mp h
      exact hclose more rfl rfl

/-- The rules give one list of tokens, which is that of the reader. -/
theorem scan_eq_iff {cs : List Char} {tokens : List Token} :
    Token.scan cs = tokens ↔ Scans cs tokens := by
  constructor
  · rintro rfl
    exact scans_scan cs
  · intro h
    induction h with
    | nil => rw [Token.scan]
    | brace hc _ ih => rw [scan_brace hc, ih]
    | placeholder hopen hclose hsplit _ ih => rw [scan_placeholder hopen hclose hsplit, ih]
    | literal hdouble hopen _ ih => rw [scan_literal hdouble hopen, ih]

/-! ## The matches of the regular expression -/

/-- `(?:\|([^}]+?))?\}`, which follows the key. -/
def tailPattern : Pattern := .seq transformerPattern (.single '\x7d')

theorem first?_tail_close (rest : List Char) :
    tailPattern.first? ('\x7d' :: rest) = some ⟨['\x7d'], [], rest⟩ := rfl

theorem ways_tail_bar_close (rest : List Char) : tailPattern.ways ('|' :: '\x7d' :: rest) = [] := rfl

theorem ways_tail_other {c : Char} (hbar : c ≠ '|') (hclose : c ≠ '\x7d') (rest : List Char) :
    tailPattern.ways (c :: rest) = [] := by
  simp [tailPattern, transformerPattern, Pattern.single, Pattern.ways, hbar, hclose]

theorem notClose_of_mem {cs : List Char} (h : '\x7d' ∉ cs) {c : Char} (hc : c ∈ cs) :
    notClose c = true :=
  bne_iff_ne.mpr fun heq => h (heq ▸ hc)

theorem first?_tail_name {name : List Char} (hname : name ≠ []) (hclose : '\x7d' ∉ name)
    (rest : List Char) :
    tailPattern.first? ('|' :: (name ++ '\x7d' :: rest)) =
      some ⟨'|' :: (name ++ ['\x7d']), [(2, name)], rest⟩ := by
  cases name with
  | nil => exact absurd rfl hname
  | cons d name =>
    have hd : notClose d = true := notClose_of_mem hclose List.mem_cons_self
    have hways : tailPattern.ways ('|' :: d :: (name ++ '\x7d' :: rest)) =
        (Pattern.runs notClose (name ++ '\x7d' :: rest)).flatMap fun m =>
          ((Pattern.single '\x7d').ways m.rest).map
            (Match.append ⟨'|' :: d :: m.text, (2, d :: m.text) :: m.groups, m.rest⟩) := by
      simp only [tailPattern, transformerPattern, Pattern.single, Pattern.ways, beq_self_eq_true, hd,
        ↓reduceIte, List.flatMap_singleton, List.flatMap_append, List.map_map, List.flatMap_map]
      -- Without a transformer the pattern would go on with `}`, where there is a bar.
      exact List.append_nil _
    rw [Pattern.first?, List.cons_append, hways]
    refine Pattern.head?_runs_flatMap (fun c hc => notClose_of_mem hclose ?_)
      (fun few c more hsplit => ?_) rfl
    · exact List.mem_cons_of_mem _ hc
    · have hc : c ≠ '\x7d' := fun h => hclose (by simp [hsplit, h])
      simp [Pattern.single, Pattern.ways, hc]

/-- The pattern splits a placeholder by the rules. -/
theorem first?_content {content key : List Char} {transformer : Option (List Char)}
    (hclose : '\x7d' ∉ content) (hsplit : Splits content key transformer) (rest : List Char) :
    ∃ groups, ((Pattern.seq (.group 1 (.fewest notClose)) tailPattern).first?
        (content ++ '\x7d' :: rest) = some ⟨content ++ ['\x7d'], groups, rest⟩) ∧
      groups.lookup 1 = some key ∧ groups.lookup 2 = transformer := by
  cases hsplit with
  | noBar hbar =>
    refine ⟨[(1, content)], ?_, rfl, rfl⟩
    refine Pattern.first?_group_fewest (fun c hc => notClose_of_mem hclose hc)
      (fun few c more heq => ways_tail_other ?_ ?_ _) (first?_tail_close rest)
    · exact fun h => hbar (by simp [heq, h])
    · exact fun h => hclose (by simp [heq, h])
  | lastBar hbar =>
    rename_i front
    refine ⟨[(1, front ++ ['|'])], ?_, rfl, rfl⟩
    refine Pattern.first?_group_fewest (fun c hc => notClose_of_mem hclose hc)
      (fun few c more heq => ?_) (first?_tail_close rest)
    -- At the bar the name would be empty, so the pattern does not stop before it.
    rcases List.eq_nil_or_concat more with rfl | ⟨more, d, rfl⟩
    · cases (List.append_inj' heq rfl).2
      exact ways_tail_bar_close rest
    · rw [List.concat_eq_append, ← List.cons_append, ← List.append_assoc] at heq
      obtain ⟨rfl, -⟩ := List.append_inj' heq rfl
      refine ways_tail_other ?_ ?_ _
      · exact fun h => hbar (by simp [h])
      · exact fun h => hclose (by simp [h])
  | bar hbar hname =>
    rename_i name
    have hname' : '\x7d' ∉ name := fun h => hclose (by simp [h])
    refine ⟨[(1, key), (2, name)], ?_, rfl, rfl⟩
    have hkey : ∀ c ∈ key, notClose c = true := fun c hc =>
      notClose_of_mem hclose (List.mem_append_left _ hc)
    have h := Pattern.first?_group_fewest (i := 1) hkey
      (fun few c more heq => ways_tail_other (fun h => hbar (by simp [heq, h]))
        (fun h => hclose (by simp [heq, h])) _) (first?_tail_name hname hname' rest)
    simpa using h

/-! ## Agreement with the regular expression -/

theorem first?_brace {c : Char} (hc : c = '\x7b' ∨ c = '\x7d') (rest : List Char) :
    placeholderPattern.first? (c :: c :: rest) = some ⟨[c, c], [], rest⟩ := by
  rcases hc with rfl | rfl <;> rfl

/-- The pattern does not take two braces where there are none. -/
theorem ways_double {c d : Char} {rest : List Char} (h : ¬ (c = d ∧ rest.head? = some d)) :
    (Pattern.seq (.single d) (.single d)).ways (c :: rest) = [] := by
  by_cases hc : c = d
  · cases rest with
    | nil => simp [Pattern.single, Pattern.ways]
    | cons e rest =>
      have he : e ≠ d := fun he => h ⟨hc, congrArg some he⟩
      simp [Pattern.single, Pattern.ways, he]
  · exact Pattern.ways_seq_single hc _ _

theorem first?_placeholder {content key : List Char} {transformer : Option (List Char)}
    (hopen : content.head? ≠ some '\x7b') (hclose : '\x7d' ∉ content)
    (hsplit : Splits content key transformer) (rest : List Char) :
    ∃ groups, placeholderPattern.first? ('\x7b' :: (content ++ '\x7d' :: rest)) =
        some ⟨'\x7b' :: (content ++ ['\x7d']), groups, rest⟩ ∧
      groups.lookup 1 = some key ∧ groups.lookup 2 = transformer := by
  obtain ⟨groups, hfirst, hgroups⟩ := first?_content hclose hsplit rest
  have hhead : (content ++ '\x7d' :: rest).head? ≠ some '\x7b' := by
    cases content with
    | nil => simp
    | cons d content => simpa using hopen
  refine ⟨groups, ?_, hgroups⟩
  rw [placeholderPattern, Pattern.first?_either (ways_double fun h => hhead h.2),
    Pattern.first?_either (ways_double fun h => absurd h.1 (by decide)),
    Pattern.first?_seq_single]
  exact congrArg (Option.map _) hfirst

theorem first?_literal {c : Char} {rest : List Char}
    (hdouble : ¬ ((c = '\x7b' ∨ c = '\x7d') ∧ rest.head? = some c))
    (hopen : ¬ (c = '\x7b' ∧ '\x7d' ∈ rest)) : placeholderPattern.first? (c :: rest) = none := by
  have hdouble' : ∀ d, d = '\x7b' ∨ d = '\x7d' → ¬ (c = d ∧ rest.head? = some d) := by
    rintro d hd ⟨rfl, hrest⟩
    exact hdouble ⟨hd, hrest⟩
  rw [placeholderPattern, Pattern.first?_either (ways_double (hdouble' _ (.inl rfl))),
    Pattern.first?_either (ways_double (hdouble' _ (.inr rfl))), Pattern.first?_eq_none]
  by_cases hc : c = '\x7b'
  · have hclose : '\x7d' ∉ c :: rest :=
      List.not_mem_cons_of_ne_of_not_mem (hc ▸ by decide) fun h => hopen ⟨hc, h⟩
    refine Pattern.ways_seq_eq_nil fun front more hmore =>
      Pattern.ways_seq_eq_nil fun key tail htail => Pattern.ways_seq_single_eq_nil fun h => ?_
    exact hclose (by simp [← hmore, ← htail, h])
  · exact Pattern.ways_seq_single hc _ _

/-- Cutting a text at the matches of the regular expression gives the tokens of the reader. -/
theorem cut_eq_scan (cs : List Char) :
    (placeholderPattern.cut cs).map Token.ofFragment = Token.scan cs := by
  -- By induction on how the text is read: each rule names the match at its place, or its absence.
  have h := scans_scan cs
  generalize Token.scan cs = tokens at h
  induction h with
  | nil => rw [Pattern.cut_nil, List.map_nil]
  | brace hc _ ih =>
    rw [Pattern.cut_cons_some (first?_brace hc _) (by simp), List.map_cons, ih]
    rcases hc with rfl | rfl <;> rfl
  | @placeholder content key transformer rest tokens hopen hclose hsplit _ ih =>
    obtain ⟨groups, hfirst, hkey, hname⟩ := first?_placeholder hopen hclose hsplit _
    have hopen2 : '\x7b' :: (content ++ ['\x7d']) ≠ ['\x7b', '\x7b'] := by
      cases content <;> simp
    have hclose2 : '\x7b' :: (content ++ ['\x7d']) ≠ ['\x7d', '\x7d'] := by simp
    rw [Pattern.cut_cons_some hfirst (by simp), List.map_cons, ih, Token.ofFragment, if_neg hopen2,
      if_neg hclose2, Match.group, Match.group, hkey, hname, Option.getD_some]
  | literal hdouble hopen _ ih =>
    rw [Pattern.cut_cons_none (first?_literal hdouble hopen), List.map_cons, ih]
    rfl

/-! ## Formatting -/

theorem Splits.source_eq {content key : List Char} {transformer : Option (List Char)}
    (h : Splits content key transformer) :
    (Token.placeholder key transformer).source = '\x7b' :: (content ++ ['\x7d']) := by
  cases h <;> rfl

/-- The tokens of a template are its characters. -/
theorem Scans.source_eq {cs : List Char} {tokens : List Token} (h : Scans cs tokens) :
    tokens.flatMap Token.source = cs := by
  induction h with
  | nil => rfl
  | brace _ _ ih => rw [List.flatMap_cons, ih]; rfl
  | placeholder _ _ hsplit _ ih => rw [List.flatMap_cons, hsplit.source_eq, ih]; simp
  | literal _ _ _ ih => rw [List.flatMap_cons, ih]; rfl

variable {transformers : Registry Transformer} {args : List Value}

/-- Characters that stand for themselves are rendered as they are. -/
theorem shown_literals (transformers : Registry Transformer) (args : List Value)
    {tokens : List Token} (h : tokens.any Token.isSpecial = false) (progress : Progress)
    (store : Store) :
    Shown transformers args progress store (tokens.map Token.part) (tokens.map Token.source)
      progress store := by
  induction tokens with
  | nil => exact .nil
  | cons token rest ih =>
    rw [List.any_cons, Bool.or_eq_false_iff] at h
    cases token with
    | literal c => exact .text (ih h.2)
    | brace c => cases h.1
    | placeholder key transformer => cases h.1

/-- The output of a template depends on the texts put together. -/
theorem map_flatten (matched : Bool) (result : Except Error (List (List Char))) :
    (result.map fun texts => (⟨matched, String.ofList texts.flatten⟩ : Formatted)) =
      (result.map List.flatten).map fun text => ⟨matched, String.ofList text⟩ := by
  cases result <;> rfl

/-- What `format` does is what rendering the tokens comes to. -/
theorem run_format {template : String} {tokens : List Token} {store after : Store}
    {result : Except Error (List (List Char))} (hscan : Token.scan template.toList = tokens)
    (h : Renders transformers args store (tokens.map Token.part) result after) :
    (format transformers template args).run store =
      (result.map fun texts => ⟨tokens.any Token.isSpecial, String.ofList texts.flatten⟩,
        after) := by
  rw [format, hscan, map_flatten]
  cases hspecial : tokens.any Token.isSpecial with
  | true =>
    rw [if_pos rfl, Action.run_bind, h.run_render]
    cases result <;> rfl
  | false =>
    have hsource : (tokens.map Token.source).flatten = template.toList := by
      rw [← List.flatMap_def, (scan_eq_iff.mp hscan).source_eq]
    have hrun := (Renders.shown (shown_literals transformers args hspecial .start store)).run_render
    rw [h.run_render, Except.map, hsource] at hrun
    obtain ⟨htext, rfl⟩ := Prod.mk.inj hrun
    rw [if_neg Bool.false_ne_true, htext, Except.map, String.ofList_toList, Action.run_pure]

/-- **Brace templates.** A template has one list of tokens by the rules, which are what the leftmost
matches of the regular expression are and together make up the template. The output is the texts of
the tokens in their order; a template of characters that stand for themselves does not match. -/
theorem format_tokens (transformers : Registry Transformer) (template : String)
    (args : List Value) :
    ∃ tokens, Scans template.toList tokens ∧
      (∀ other, Scans template.toList other → other = tokens) ∧
      (placeholderPattern.cut template.toList).map Token.ofFragment = tokens ∧
      tokens.flatMap Token.source = template.toList ∧
      (∀ store, ∃ result after,
        Renders transformers args store (tokens.map Token.part) result after ∧
        (format transformers template args).run store =
          (result.map fun texts => ⟨tokens.any Token.isSpecial, String.ofList texts.flatten⟩,
            after)) ∧
      (tokens.any Token.isSpecial = false →
        ∀ store, (format transformers template args).run store = (.ok ⟨false, template⟩, store)) := by
  have hscans := scans_scan template.toList
  refine ⟨Token.scan template.toList, hscans, fun other h => (scan_eq_iff.mpr h).symm,
    cut_eq_scan _, hscans.source_eq, fun store => ?_, fun hspecial store => ?_⟩
  · obtain ⟨result, after, h⟩ := exists_renders transformers args
      ((Token.scan template.toList).map Token.part) store
    exact ⟨result, after, h, run_format rfl h⟩
  · rw [format, hspecial]
    rfl

end Stencil.Brace
