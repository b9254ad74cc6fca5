import DocQuery.Document

/-! # Result tables

Documents as rows of one table. The columns are the names of all fields, in order; the fields of
an identifier that is an object, as groupings make it, are columns of their own.

* `ResultTable.ofDocuments` — the table of some documents.
* `ResultTable.get?` — a cell.
* `ResultTable.text` — the table with aligned columns.
-/

namespace DocQuery

/-- Columns, and rows with one value for each column. -/
structure ResultTable where
  columns : List String
  rows : List (List Value)

namespace ResultTable

def spread (row : Named Value) (field : String × Value) : Named Value :=
  match field with
  | (name, .object members) =>
    if name == idField then members.foldl (fun row (n, v) => Named.insert n v row) row
    else Named.insert name (.object members) row
  | (name, value) => Named.insert name value row

/-- The columns of one document; of two with one name the later field wins. -/
def flatten (doc : Document) : Named Value := doc.fields.foldl spread []

/-- Inserts a name into an increasing list, unless it is there. -/
def insertName (name : String) : List String → List String
  | [] => [name]
  | other :: rest =>
    if other = name then other :: rest
    else if name < other then name :: other :: rest
    else other :: insertName name rest

def columnNames (rows : List (Named Value)) : List String :=
  (rows.flatMap Named.keys).foldl (fun names name => insertName name names) []

/-- The table of some documents; a missing field is null. -/
def ofDocuments (docs : List Document) : ResultTable :=
  let rows := docs.map flatten
  let columns := columnNames rows
  ⟨columns, rows.map fun row => columns.map fun name => (Named.get? name row).getD .null⟩

def column? (t : ResultTable) (name : String) : Option Nat := t.columns.idxOf? name

def get? (t : ResultTable) (row : Nat) (name : String) : Option Value := do
  let column ← t.column? name
  let cells ← t.rows[row]?
  cells[column]?

def size (t : ResultTable) : Nat := t.rows.length

def firstCell? (t : ResultTable) : Option Value := t.rows.head?.bind (·.head?)

/-! ## Text -/

/-- A text with spaces behind it, up to a number of characters. -/
def padTo (width : Nat) (s : String) : String :=
  s ++ String.ofList (List.replicate (width - s.length) ' ')

def trimEnd (s : String) : String :=
  String.ofList (s.toList.reverse.dropWhile Text.isBlank).reverse

def line (widths : List Nat) (cells : List String) : String :=
  trimEnd (Text.join " | " (List.zipWith padTo widths cells)) ++ "\n"

/-- The width of each column: that of its widest text. -/
def widths (columns : List String) (cells : List (List String)) : List Nat :=
  cells.foldl (fun widths row => List.zipWith (fun w s => max w s.length) widths row)
    (columns.map String.length)

/-- The table with a heading, a rule, and the number of rows. -/
def text (t : ResultTable) : String :=
  if t.columns.isEmpty then "(0 rows)\n"
  else
    let cells := t.rows.map (·.map Value.text)
    let widths := widths t.columns cells
    let rule := Text.join "-+-" (widths.map fun w => String.ofList (List.replicate w '-')) ++ "\n"
    line widths t.columns ++ rule ++ String.join (cells.map (line widths))
      ++ "(" ++ toString t.size ++ " rows)\n"

end ResultTable

end DocQuery
