import Stencil.Toml.Scalar
import Stencil.Toml.Table

/-!
# TOML documents

`Toml.parse?` reads a document of TOML 1.0 as a JSON object. Tables become objects, and times become
texts.
-/

namespace Stencil.Toml

/-! ## Values -/

/-- The pairs of an inline table. -/
abbrev Pairs := Entries Item

mutual

/-- A value, below `depth` arrays and inline tables. -/
def value? : (fuel depth : Nat) → List Char → Reading Json
  | 0, _, _ => none
  | fuel + 1, depth, cs =>
    match cs with
    | [] => none
    | c :: rest =>
      if c = '"' ∨ c = '\'' then (text? cs).map fun r => (.text (String.ofList r.1), r.2)
      else if c = '[' then
        if 79 ≤ depth then none else elements? fuel (depth + 1) [] rest
      else if c = '\x7b' then
        if 79 ≤ depth then none
        else
          match skipBlanks rest with
          | '\x7d' :: rest => some (.object [], rest)
          | rest => pairs? fuel (depth + 1) [] rest
      else if c = 't' ∨ c = 'f' then
        if cs.take 4 = "true".toList then some (.bool true, cs.drop 4)
        else if cs.take 5 = "false".toList then some (.bool false, cs.drop 5)
        else none
      else scalar? cs
termination_by structural fuel => fuel

/-- The rest of an array, whose elements so far are given, the last one first. -/
def elements? : (fuel depth : Nat) → List Json → List Char → Reading Json
  | 0, _, _, _ => none
  | fuel + 1, depth, items, cs =>
    match skipLines fuel cs with
    | ']' :: rest => some (.array items.reverse, rest)
    | body =>
      match value? fuel depth body with
      | none => none
      | some (v, rest) =>
        match skipLines fuel rest with
        | ',' :: rest => elements? fuel depth (v :: items) rest
        | ']' :: rest => some (.array (v :: items).reverse, rest)
        | _ => none
termination_by structural fuel => fuel

/-- The rest of an inline table, whose pairs so far are given. -/
def pairs? : (fuel depth : Nat) → Pairs → List Char → Reading Json
  | 0, _, _, _ => none
  | fuel + 1, depth, entries, cs =>
    match key? cs with
    | some ((path, key), '=' :: rest) =>
      match value? fuel depth (skipBlanks rest) with
      | none => none
      | some (v, rest) =>
        match addPair? path key v .header entries with
        | none => none
        | some entries =>
          match skipBlanks rest with
          | ',' :: rest => pairs? fuel depth entries rest
          | '\x7d' :: rest => some (.object (entriesToJson entries), rest)
          | _ => none
    | _ => none
termination_by structural fuel => fuel

end

/-! ## Lines -/

/-- The state between two lines: all tables, and the path of the one that is open. -/
structure Document where
  root : Entries Item
  path : List String

/-- The header of a table or of an element of an array of tables. -/
def header? (d : Document) (cs : List Char) : Option (Document × List Char) :=
  match cs with
  | '[' :: '[' :: rest =>
    match key? rest with
    | some ((path, key), ']' :: ']' :: rest) =>
      (openElement? path key .header d.root).map fun root => (⟨root, path ++ [key]⟩, rest)
    | _ => none
  | '[' :: rest =>
    match key? rest with
    | some ((path, key), ']' :: rest) =>
      (openTable? path key .header d.root).map fun root => (⟨root, path ++ [key]⟩, rest)
    | _ => none
  | _ => none

/-- A key and its value, which go into the open table. -/
def pair? (d : Document) (cs : List Char) : Option (Document × List Char) :=
  match key? cs with
  | some ((path, key), '=' :: rest) =>
    match value? (rest.length + 1) 0 (skipBlanks rest) with
    | none => none
    | some (v, rest) =>
      (descend? .implied (addPair? path key v) d.path .header d.root).map fun root =>
        ({ d with root }, rest)
  | _ => none

/-- The rest of a document, of at most `fuel` lines. -/
def lines? : Nat → Document → List Char → Option Document
  | 0, _, _ => none
  | fuel + 1, d, cs =>
    let body := skipLines fuel cs
    match body with
    | [] => some d
    | c :: _ =>
      match if c = '[' then header? d body else pair? d body with
      | none => none
      | some (d, rest) =>
        match endOfLine? rest with
        | none => none
        | some rest => lines? fuel d rest

/-- The object that a document denotes. -/
def parse? (cs : List Char) : Option Json :=
  let cs := match cs with
    | '\uFEFF' :: rest => rest
    | cs => cs
  (lines? (cs.length + 1) ⟨[], []⟩ cs).map fun d => .object (entriesToJson d.root)

end Stencil.Toml
