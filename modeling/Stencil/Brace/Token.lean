/-!
# Tokens of brace templates

A template consists of characters that stand for themselves, doubled braces, and placeholders, which
are texts in braces up to the first closing one. In a placeholder the first bar separates a key from
the name of a transformer, unless it is the last character.

* `Token.scan`: the tokens of a template.
* `splitContent`: the key and the transformer of a placeholder.
-/

namespace Stencil.Brace

/-- A part of a brace template. -/
inductive Token where
  /-- A character that stands for itself. -/
  | literal (c : Char)
  /-- A brace, written twice. -/
  | brace (c : Char)
  | placeholder (key : List Char) (transformer : Option (List Char))
  deriving DecidableEq, Repr

/-- The part before the first closing brace, and what follows it. -/
def untilClose? : List Char → Option (List Char × List Char)
  | [] => none
  | c :: rest =>
    if c = '\x7d' then some ([], rest)
    else (untilClose? rest).map fun parts => (c :: parts.1, parts.2)

/-- The key and the transformer of a placeholder. -/
def splitContent (content : List Char) : List Char × Option (List Char) :=
  match content.dropWhile (· ≠ '|') with
  | _ :: first :: more => (content.takeWhile (· ≠ '|'), some (first :: more))
  | _ => (content, none)

theorem untilClose?_length {cs before after : List Char}
    (h : untilClose? cs = some (before, after)) : after.length < cs.length := by
  induction cs generalizing before with
  | nil => simp [untilClose?] at h
  | cons c rest ih =>
    simp only [untilClose?] at h
    split at h
    · simp only [Option.some.injEq, Prod.mk.injEq] at h
      simp [h.2]
    · obtain ⟨⟨b, a⟩, hr, h⟩ := Option.map_eq_some_iff.mp h
      simp only [Prod.mk.injEq] at h
      have := ih (h.2 ▸ hr)
      simp only [List.length_cons]; omega

/-- The tokens of a template. -/
def Token.scan (cs : List Char) : List Token :=
  match cs with
  | [] => []
  | '\x7b' :: '\x7b' :: rest => .brace '\x7b' :: scan rest
  | '\x7d' :: '\x7d' :: rest => .brace '\x7d' :: scan rest
  | c :: rest =>
    if c = '\x7b' then
      match _h : untilClose? rest with
      | some (content, after) =>
        .placeholder (splitContent content).1 (splitContent content).2 :: scan after
      | none => .literal c :: scan rest
    else .literal c :: scan rest
termination_by cs.length
decreasing_by
  · simp only [List.length_cons]; omega
  · simp only [List.length_cons]; omega
  · have := untilClose?_length _h; simp only [List.length_cons]; omega
  · simp only [List.length_cons]; omega
  · simp only [List.length_cons]; omega

/-- A token that is not a character standing for itself. -/
def Token.isSpecial : Token → Bool
  | literal _ => false
  | _ => true

end Stencil.Brace
