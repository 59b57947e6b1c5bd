import Stencil.Error
import Stencil.Text.Utf8

/-!
# Directives

A directive of a percent template is `%` and a body: flags, digits and points, and a letter. A rule
recognises some bodies and replaces the whole directive in its line by a text for one argument.

* `Directive`: a directive that a rule has recognised.
* `Directive.splice`: the line with another text in place of the directive.
* `Directive.next?`: the first directive of a text.
* `DirectiveRule`: a rule.
-/

namespace Stencil

/-- A directive in a line. -/
structure Directive where
  /-- What follows the `%`. -/
  body : String
  /-- The byte offset of the `%`. -/
  start : Nat
  /-- The byte offset of what follows the body. -/
  stop : Nat
  /-- The body, and the parts of it that the rule tells apart; a part may be missing. -/
  captures : List (Option String)
  deriving DecidableEq, Repr

namespace Directive

/-- A part of the body; number 0 is all of it. -/
def group (d : Directive) (i : Nat) : Option String := d.captures[i]?.join

/-- The line with `text` in place of what is between the two offsets, or the line itself if one of
them is no position in it. -/
def splice (d : Directive) (line text : String) : String :=
  match Text.splitBytes? line.toList d.start, Text.splitBytes? line.toList d.stop with
  | some (before, _), some (_, after) => String.ofList (before ++ text.toList ++ after)
  | _, _ => line

/-- A character that may stand between `%` and the letter. -/
def isFlag (c : Char) : Bool := c == '.' || c == '#' || c == '-' || c.isDigit

/-- The body at the start of a text, and what follows it. -/
def bodyAt? (cs : List Char) : Option (List Char × List Char) :=
  match cs.dropWhile isFlag with
  | c :: rest => if c.isAlpha then some (cs.takeWhile isFlag ++ [c], rest) else none
  | [] => none

/-- A text cut at its first directive. -/
structure Cut where
  before : List Char
  body : List Char
  after : List Char

/-- The first directive of a text. -/
def next? : List Char → Option Cut
  | [] => none
  | c :: rest =>
    match if c = '%' then bodyAt? rest else none with
    | some (body, after) => some ⟨[], body, after⟩
    | none => (next? rest).map fun cut => { cut with before := c :: cut.before }

/-- Cutting loses nothing. -/
theorem next?_eq {cs : List Char} {cut : Cut} (h : next? cs = some cut) :
    cs = cut.before ++ '%' :: (cut.body ++ cut.after) := by
  induction cs generalizing cut with
  | nil => simp [next?] at h
  | cons c rest ih =>
    simp only [next?] at h
    split at h
    · rename_i body after hb
      split at hb
      · rename_i hc
        simp only [bodyAt?] at hb
        split at hb
        · rename_i letter last hd
          split at hb
          · simp only [Option.some.injEq, Prod.mk.injEq] at hb
            rw [← Option.some.inj h, ← hb.1, ← hb.2, hc]
            simp only [List.nil_append, List.append_assoc, List.singleton_append, List.cons.injEq,
              true_and]
            rw [← hd, List.takeWhile_append_dropWhile]
          · simp at hb
        · simp at hb
      · simp at hb
    · obtain ⟨inner, hn, h⟩ := Option.map_eq_some_iff.mp h
      rw [← h, ih hn]; rfl

end Directive

/-- A rule for one kind of directive. -/
structure DirectiveRule where
  /-- The captures of a body that the rule is for; none for any other. -/
  recognize : String → Option (List (Option String))
  /-- The new line for a directive, its line and an argument. -/
  substitute : Directive → String → Value → Action String

/-- A rule that puts a text in place of the directive; the text depends on the captures, the
argument and the sequences. -/
def DirectiveRule.ofText (recognize : String → Option (List (Option String)))
    (text : Directive → Heap → Value → Except Error String) : DirectiveRule where
  recognize
  substitute d line arg := do
    let text ← ofExcept (text d (← get).heap arg)
    pure (d.splice line text)

end Stencil
