import DocQuery.Text.Quoting
import DocQuery.Toml.Node
import DocQuery.Toml.Scalar

/-! # Reading TOML

* `Toml.value?` — a value, with the arrays and tables inside it.
* `Toml.parse?` — a whole text, as a JSON object.

Every recursive call consumes a character of the text, so the length of the text bounds the
recursion.
-/

namespace DocQuery.Toml

open DocQuery.Text

/-! ## Gaps -/

/-- The text after gaps, line ends and comments; a comment may hold plain characters only. -/
def skipLines? (inComment : Bool) : List Char → Option (List Char)
  | [] => some []
  | '\n' :: rest => skipLines? false rest
  | '\r' :: rest => if rest.head? == some '\n' then skipLines? inComment rest else none
  | c :: rest =>
    if inComment then if isPlain c then skipLines? true rest else none
    else if isGap c then skipLines? false rest
    else if c == '#' then skipLines? true rest
    else some (c :: rest)

/-- The text after the rest of a line that holds nothing more but a comment. -/
def endLine? (s : List Char) : Option (List Char) :=
  match skipGap s with
  | [] => some []
  | '#' :: comment =>
    let after := comment.dropWhile isPlain
    if after.isEmpty then some [] else lineEnd? after
  | rest => lineEnd? rest

/-! ## Keys -/

/-- Whether a character may stand in a key without quotes. -/
def isKeyChar (c : Char) : Bool := c.isAlphanum || c == '_' || c == '-'

/-- One part of a key: quoted on one line, or bare. -/
def keyPart? (s : List Char) : Option (String × List Char) :=
  match s with
  | '"' :: rest => (basicText? rest).map fun (t, after) => (String.ofList t, after)
  | '\'' :: rest => (literalText? rest).map fun (t, after) => (String.ofList t, after)
  | _ => (run? isKeyChar s).map fun (t, after) => (String.ofList t, after)

/-- A key: the parts before its last one, and that one. Gaps around the parts are passed over. -/
def key? : Nat → List Char → Option (List String × String × List Char)
  | 0, _ => none
  | fuel + 1, s => do
    let (part, rest) ← keyPart? (skipGap s)
    match skipGap rest with
    | '.' :: more => do
      let (parents, last, after) ← key? fuel more
      some (part :: parents, last, after)
    | after => some ([], part, after)

/-! ## Values -/

mutual

def value? : Nat → List Char → Option (Json × List Char)
  | 0, _ => none
  | fuel + 1, s =>
    match s with
    | '[' :: rest => do
      let (items, after) ← items? fuel (← skipLines? false rest)
      some (.array items, after)
    | '\x7b' :: rest =>
      match skipGap rest with
      | '\x7d' :: after => some (.object [], after)
      | more => do
        let (entries, after) ← members? fuel [] more
        some (.object (Node.entriesJson entries), after)
    | c :: _ =>
      if isQuote c then (string? s).map fun (t, after) => (.string t, after) else scalar? s
    | [] => none

/-- The items of an array up to the closing bracket; a comma may follow the last one. -/
def items? : Nat → List Char → Option (List Json × List Char)
  | 0, _ => none
  | fuel + 1, s =>
    match s with
    | ']' :: after => some ([], after)
    | _ => do
      let (item, rest) ← value? fuel s
      match ← skipLines? false rest with
      | ',' :: more => do
        let (items, after) ← items? fuel (← skipLines? false more)
        some (item :: items, after)
      | ']' :: after => some ([item], after)
      | _ => none

/-- The members of a table in braces, of which there is at least one, up to the closing brace. -/
def members? : Nat → Named Node → List Char → Option (Named Node × List Char)
  | 0, _, _ => none
  | fuel + 1, entries, s => do
    let (path, key, rest) ← key? fuel s
    let (json, rest) ← value? fuel (skipGap (← char? '=' rest))
    let entries ← Node.assign [] path key json entries
    match skipGap rest with
    | ',' :: more => members? fuel entries more
    | '\x7d' :: after => some (entries, after)
    | _ => none

end

/-! ## Statements -/

/-- What is read so far: the heading of the open table, and the tree. -/
structure Progress where
  heading : List String
  root : Named Node

/-- One statement up to its end, before the end of its line. -/
def statement? (fuel : Nat) (p : Progress) (s : List Char) : Option (Progress × List Char) :=
  match s with
  | '[' :: '[' :: rest => do
    let (parents, key, rest) ← key? fuel rest
    let rest ← char? ']' (← char? ']' rest)
    some (⟨parents ++ [key], ← Node.addTable parents key p.root⟩, rest)
  | '[' :: rest => do
    let (parents, key, rest) ← key? fuel rest
    let rest ← char? ']' rest
    some (⟨parents ++ [key], ← Node.openTable parents key p.root⟩, rest)
  | _ => do
    let (path, key, rest) ← key? fuel s
    let (json, rest) ← value? fuel (skipGap (← char? '=' rest))
    some ({ p with root := ← Node.assign p.heading path key json p.root }, rest)

def statements? : Nat → Progress → List Char → Option (Named Node)
  | 0, _, _ => none
  | fuel + 1, p, s => do
    match ← skipLines? false s with
    | [] => some p.root
    | more => do
      let (p, rest) ← statement? fuel p more
      statements? fuel p (← endLine? rest)

/-- Reads a whole text as one table. A byte order mark at its start is passed over. -/
def parse? (text : String) : Option Json := do
  let s := match text.toList with
    | '\ufeff' :: rest => rest
    | s => s
  let root ← statements? (2 * s.length + 3) ⟨[], []⟩ s
  some (.object (Node.entriesJson root))

end DocQuery.Toml
