import DocQuery.Text.Scan

/-! # Quotes

Quoted text as it is skipped while a statement is cut into pieces. Inside quotes a backslash
takes the character after it along.

* `Quoting.next` — the state after one more character.
* `unquote?` — the text between matching outer quotes.
* `splitList` — the items of a list, cut at commas outside quotes and brackets.
-/

namespace DocQuery.Text

/-- Where a character stands with respect to quotes. -/
inductive Quoting
  | outside
  | inside (mark : Char)
  | escaping (mark : Char)
  deriving DecidableEq

def isQuote (c : Char) : Bool := c == '\'' || c == '"'

/-- Whether the character opens a bracket that shields separators. -/
def isOpening (c : Char) : Bool := c == '(' || c == '['

/-- Whether the character closes a bracket that shields separators. -/
def isClosing (c : Char) : Bool := c == ')' || c == ']'

def Quoting.next : Quoting → Char → Quoting
  | .outside, c => if isQuote c then .inside c else .outside
  | .inside mark, c =>
    if c == '\\' then .escaping mark else if c == mark then .outside else .inside mark
  | .escaping mark, _ => .inside mark

def unquote? : List Char → Option (List Char)
  | [] => none
  | mark :: rest =>
    if isQuote mark && rest.getLast? == some mark then some rest.dropLast else none

def consPiece (c : Char) : List (List Char) → List (List Char)
  | [] => [[c]]
  | piece :: pieces => (c :: piece) :: pieces

/-- The bracket depth after a character outside quotes; a stray closing bracket is ignored. -/
def nextDepth (depth : Nat) (c : Char) : Nat :=
  if isOpening c then depth + 1 else if isClosing c then depth - 1 else depth

/-- The pieces between the commas that stand outside quotes and brackets. -/
def listPieces : Quoting → Nat → List Char → List (List Char)
  | _, _, [] => [[]]
  | .outside, depth, c :: rest =>
    if c == ',' && depth == 0 then [] :: listPieces .outside 0 rest
    else consPiece c (listPieces (Quoting.outside.next c) (nextDepth depth c) rest)
  | quoting, depth, c :: rest => consPiece c (listPieces (quoting.next c) depth rest)

/-- The items of a comma-separated list, without blanks at their ends. -/
def splitList (s : List Char) : List (List Char) := (listPieces .outside 0 s).map trim

end DocQuery.Text
