import DocQuery.Error
import DocQuery.Text.Quoting

/-! # Refused statements

A statement is looked at as it stands before it is read, and refused when it holds something that
is not translated or that would scan a whole collection. The words are looked for everywhere, also
inside quotes.

* `checkStatement` — the checks, in the order in which they report.
-/

namespace DocQuery.Safety

open DocQuery.Text

def isForbidden (c : Char) : Bool :=
  let n := c.toNat
  -- controls other than tabs and line ends
  n ≤ 0x08 || n == 0x0b || n == 0x0c || (0x0e ≤ n && n ≤ 0x1f) || c == ';' || c == '\\'

/-- Refused phrases: words with blanks between them. -/
def refusedPhrases : List (List String) :=
  [["INNER", "JOIN"], ["LEFT", "JOIN"], ["RIGHT", "JOIN"], ["FULL", "JOIN"], ["JOIN"], ["UNION"],
    ["TRANSACTION"], ["BEGIN"], ["ROLLBACK"], ["COMMIT"], ["CREATE"], ["DROP"], ["ALTER"],
    ["GRANT"], ["REVOKE"], ["LIMIT"]]

def phrase? : List String → List Char → Option (List Char)
  | [], _ => none
  | [word], s => wholeKeyword? word s
  | word :: more, s => do phrase? more (← blanks? (← keyword? word s))

/-- Reads a refused phrase and gives it as it is reported. -/
def refused? (s : List Char) : Option String :=
  (refusedPhrases.findSome? (phrase? · s)).map fun rest =>
    upperAscii (String.ofList (clean (s.take (s.length - rest.length))))

def castCall? (s : List Char) : Option (List Char) := do
  char? '(' (skipBlanks (← keyword? "CAST" s))

def orderBy? (s : List Char) : Option (List Char) := do
  wholeKeyword? "BY" (← blanks? (← keyword? "ORDER" s))

/-- Reads a pattern that begins and ends with a wildcard. -/
def innerPattern? (s : List Char) : Option Unit := do
  let s ← char? '%' (← char? '\'' (← blanks? (← keyword? "LIKE" s)))
  -- the pattern ends at the next quote: there are no escapes
  let body := s.takeWhile (· != '\'')
  if body.length < s.length && body.getLast? == some '%' then some () else none

def functionNames : List String := ["COUNT", "SUM", "MAX", "MIN", "AVG"]

def functionName? (s : List Char) : Option (List Char) :=
  functionNames.findSome? (wholeKeyword? · s)

/-- The number of places where a name of an aggregate function stands. -/
def countFunctions : Option Char → List Char → Nat
  | _, [] => 0
  | before, c :: rest =>
    (if (atWordStart functionName? before (c :: rest)).isSome then 1 else 0)
      + countFunctions (some c) rest

def occurs {β : Type} (read : List Char → Option β) (s : List Char) : Bool :=
  (searchWord? read s).isSome

end DocQuery.Safety

namespace DocQuery

open DocQuery.Text Safety in
/-- Refuses a statement, with the first reason that applies. -/
def checkStatement (forbidCastSort : Bool) (statement : String) : Except SqlError Unit :=
  let s := statement.toList
  if (trim s).isEmpty then .error (.unsupported .nothing)
  else match s.find? isForbidden with
  | some c => .error (.unsupported (.character c))
  | none =>
    match searchWord? refused? s with
    | some (_, word) => .error (.unsupported (.keyword word))
    | none =>
      if forbidCastSort && occurs castCall? s && occurs orderBy? s then
        .error (.unsupported .castSort)
      else if occurs innerPattern? s then .error (.unsupported .innerPattern)
      else if 1 < countFunctions none s then .error (.unsupported .secondFunction)
      else .ok ()

end DocQuery
