import DocQuery.Error
import DocQuery.Text.Quoting

/-! # Connectors

A condition is cut into pieces at the words AND and OR that stand outside quotes and brackets.
The AND that belongs to a BETWEEN does not cut.

* `Pieces` — the pieces with the connectors between them.
* `cutConditions` — the cut.
-/

namespace DocQuery.Condition

open DocQuery.Text

/-- What joins two pieces. -/
inductive Connector
  | and
  | or
  deriving DecidableEq

/-- Pieces of a condition: the first one, and the others with the connector in front of each. -/
structure Pieces where
  first : List Char
  others : List (Connector × List Char)

namespace Pieces

def toList (p : Pieces) : List (List Char) := p.first :: p.others.map (·.2)

def has (p : Pieces) (connector : Connector) : Bool := p.others.any (·.1 == connector)

def extend (front : List Char) (p : Pieces) : Pieces := ⟨front ++ p.first, p.others⟩

def cut (connector : Connector) (p : Pieces) : Pieces := ⟨[], (connector, p.first) :: p.others⟩

end Pieces

/-- The words that matter between conditions. -/
inductive JoiningWord
  | between
  | and
  | or
  deriving DecidableEq

def JoiningWord.length : JoiningWord → Nat
  | .between => 7
  | .and => 3
  | .or => 2

def JoiningWord.letters : JoiningWord → List Char
  | .between => "BETWEEN".toList
  | .and => "AND".toList
  | .or => "OR".toList

/-- Whether a character continues a word next to a connector. -/
def continuesWord (c : Char) : Bool := isAlphanumeric c || c == '_'

/-- Whether the text starts with the word, in any case of ASCII, and does not go on with it. -/
def startsWith (word : JoiningWord) (s : List Char) : Bool :=
  (s.take word.length).map Char.toUpper == word.letters &&
    !(s.drop word.length).head?.any continuesWord

/-- The word that stands here, after the given character. -/
def joiningWord? (before : Option Char) (s : List Char) : Option JoiningWord :=
  if before.any continuesWord then none
  else [JoiningWord.between, .and, .or].find? (startsWith · s)

/-- What is left of a text after its first character and some more is shorter than the text. -/
theorem length_drop_lt_cons (n : Nat) (c : Char) (rest : List Char) :
    (rest.drop n).length < (c :: rest).length := by
  rw [List.length_drop, List.length_cons]
  exact Nat.lt_succ_of_le (Nat.sub_le rest.length n)

/--
Cuts a text from a state: quoting, the number of open brackets, whether the next AND belongs to a
BETWEEN, and the character before.
-/
def cutFrom (quoting : Quoting) (depth : Nat) (between : Bool) (before : Option Char)
    (s : List Char) : Except ConditionFault Pieces :=
  match s with
  | [] =>
    if quoting != .outside then .error .openQuote
    else if depth != 0 then .error .unbalanced
    else .ok ⟨[], []⟩
  | c :: rest =>
    -- in quotes only the end of the quotation counts
    if quoting != .outside || isQuote c then
      (cutFrom (quoting.next c) depth between (some c) rest).map (.extend [c])
    else if isOpening c then
      (cutFrom .outside (depth + 1) between (some c) rest).map (.extend [c])
    else if isClosing c then
      if depth == 0 then .error .unbalanced
      else (cutFrom .outside (depth - 1) between (some c) rest).map (.extend [c])
    else
      -- connectors in brackets belong to the piece
      let word? := if depth == 0 then joiningWord? before (c :: rest) else none
      match word? with
      | some .between =>
        (cutFrom .outside depth true (some 'N') (rest.drop 6)).map (.extend (c :: rest.take 6))
      | some .and =>
        -- the first AND after a BETWEEN joins its two bounds
        if between then
          (cutFrom .outside depth false (some 'D') (rest.drop 2)).map
            (.extend (c :: rest.take 2))
        else (cutFrom .outside depth false (some 'D') (rest.drop 2)).map (.cut .and)
      | some .or => (cutFrom .outside depth between (some 'R') (rest.drop 1)).map (.cut .or)
      | none => (cutFrom .outside depth between (some c) rest).map (.extend [c])
termination_by s.length
decreasing_by
  all_goals first
    | exact Nat.lt_succ_self _
    | exact length_drop_lt_cons _ _ _

def cutConditions (s : List Char) : Except ConditionFault Pieces :=
  cutFrom .outside 0 false none s

end DocQuery.Condition
