import DocQuery.Statement.Select

/-! # Reading INSERT, UPDATE and DELETE

* `extractInsert`, with `rowTexts` for the parenthesised rows.
* `extractUpdate`, with `assignment?`.
* `extractDelete`.
-/

namespace DocQuery

open DocQuery.Text

namespace Write

/-- The rest of a text from here on, unless nothing or more than one line is left. -/
def someLine? (s : List Char) : Option (List Char) :=
  if s.isEmpty then none else line? s

/-! ## INSERT -/

/-- Table, columns and rows of an INSERT, as written. -/
structure WrittenInsert where
  table : List Char
  columns : List Char
  rows : List Char

def insertFrame? (s : List Char) : Option WrittenInsert := do
  let (table, s) ← word? (← blanks? (← keywords? "INSERT" "INTO" s))
  let s ← char? '(' (skipBlanks s)
  let columns := s.takeWhile (· != ')')
  if columns.isEmpty then none
  else
    let s ← char? ')' (s.drop columns.length)
    let rows ← someLine? (skipBlanks (← keyword? "VALUES" (skipBlanks s)))
    some ⟨table, columns, rows⟩

/--
The texts of the rows: what stands between outer parentheses. Quotes count inside a row only, and
have no escapes. `row` holds the characters of the open row, the last one first.
-/
def rowTextsFrom (depth : Nat) (mark : Option Char) (row : List Char) :
    List Char → Except SyntaxFault (List (List Char))
  | [] => if depth != 0 || mark.isSome then .error .openRow else .ok []
  | c :: rest =>
    match mark with
    | some q => rowTextsFrom depth (if c == q then none else some q) (c :: row) rest
    | none =>
      if isQuote c && 0 < depth then rowTextsFrom depth (some c) (c :: row) rest
      else if c == '(' then
        rowTextsFrom (depth + 1) none (if 0 < depth then c :: row else row) rest
      else if c == ')' then
        -- the outer parentheses are no part of the row
        if depth == 0 then .error .strayParenthesis
        else if depth == 1 then (rowTextsFrom 0 none [] rest).map (row.reverse :: ·)
        else rowTextsFrom (depth - 1) none (c :: row) rest
      else if 0 < depth then rowTextsFrom depth none (c :: row) rest
      -- commas between rows are not counted
      else if c == ',' || isBlank c then rowTextsFrom depth none row rest
      else .error .betweenRows

def rowTexts (s : List Char) : Except SyntaxFault (List (List Char)) := do
  match ← rowTextsFrom 0 none [] s with
  | [] => .error .noRows
  | rows => .ok rows

/-- The literals of one row, as many as there are columns. -/
def readRow (columns : Nat) (row : List Char) : Except SyntaxFault (List Literal) :=
  let literals := (splitList row).map fun item => Literal.parse (String.ofList item)
  if literals.length == columns then .ok literals
  else .error (.valueCount literals.length columns)

/-! ## UPDATE and DELETE -/

/-- Reads blanks, WHERE and its condition, to the end of the text. -/
def whereTail? (s : List Char) : Option (List Char) := do
  someLine? (← blanks? (← keyword? "WHERE" (← blanks? s)))

/-- Reads an optional WHERE clause, to the end of the text. -/
def optionalWhere? (s : List Char) : Option (Option (List Char)) :=
  match whereTail? s with
  | some text => some (some text)
  | none => if s.isEmpty then some none else none

/-- Reads the frame of an UPDATE: table, assignments and condition. -/
def updateFrame? (s : List Char) : Option (List Char × List Char × Option (List Char)) := do
  let (table, s) ← word? (← blanks? (← keyword? "UPDATE" s))
  let s ← blanks? (← keyword? "SET" (← blanks? s))
  -- the assignments are as short as what follows them allows
  let (assignments, condition) ← cutAt? optionalWhere? s
  some (table, assignments, condition)

/-- Reads an assignment: a path, an equals sign and the text of a literal. -/
def assignment? (s : List Char) : Option (List Char × List Char) := do
  let (path, s) ← path? s
  let s ← char? '=' (skipBlanks s)
  some (path, ← line? (skipBlanks s))

/-- The assignments of a list; the later of two to one path wins. -/
def readAssignments : List (List Char) → Named Literal → Except SyntaxFault (Named Literal)
  | [], done => .ok done
  | item :: rest, done =>
    match assignment? item with
    | none => .error (.badAssignment (String.ofList item))
    | some (path, value) =>
      readAssignments rest
        (Named.insert (String.ofList path) (Literal.parse (String.ofList value)) done)

/-- Reads the frame of a DELETE: table and condition. -/
def deleteFrame? (s : List Char) : Option (List Char × Option (List Char)) := do
  let (table, s) ← word? (← blanks? (← keywords? "DELETE" "FROM" s))
  some (table, ← optionalWhere? s)

def reporting {β : Type} (sql : String) : Except SyntaxFault β → Except SqlError β
  | .ok b => .ok b
  | .error fault => .error (.malformed fault sql)

end Write

open Write in
/-- Reads an INSERT. Errors report the statement as it was given. -/
def extractInsert (sql : String) : Except SqlError InsertPlan :=
  reporting sql do
    let some written := insertFrame? (clean sql.toList) | throw .notInsert
    let columns := (splitAt ',' written.columns).map fun c => String.ofList (trim c)
    if columns.any (·.isEmpty) then throw .emptyColumn
    let rows ← (← rowTexts written.rows).mapM (readRow columns.length)
    return ⟨String.ofList written.table, columns, rows⟩

open Write in
/-- Reads an UPDATE. Errors report the statement as it was given. -/
def extractUpdate (sql : String) : Except SqlError UpdatePlan :=
  reporting sql do
    let some (table, assignments, condition) := updateFrame? (clean sql.toList)
      | throw .notUpdate
    let assignments ← readAssignments (splitList assignments) []
    return ⟨String.ofList table, condition.bind nonBlank?, assignments⟩

open Write in
/-- Reads a DELETE. Errors report the statement as it was given. -/
def extractDelete (sql : String) : Except SqlError DeletePlan :=
  reporting sql do
    let some (table, condition) := deleteFrame? (clean sql.toList) | throw .notDelete
    return ⟨String.ofList table, condition.bind nonBlank?⟩

end DocQuery
