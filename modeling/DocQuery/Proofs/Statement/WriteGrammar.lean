import DocQuery.Proofs.Statement.WrittenLiterals
import DocQuery.Proofs.Text.Keywords

/-! # The grammar of INSERT, UPDATE and DELETE

What the writing statements are made of, apart from how they are read.

* `WrittenName`, `DottedPath` — names of tables and columns, and paths into documents.
* `InsertStatement`, `UpdateStatement`, `DeleteStatement` — the statements, each with its text.

A text here has single spaces. A `Gap` is a place where none is needed.
-/

namespace DocQuery.Write

open DocQuery.Text

/-! ## Names -/

structure WrittenName where
  name : String
  isName : IsName name

namespace WrittenName

variable (name : WrittenName)

def text : List Char := name.name.toList

theorem isColumn : IsColumn name.text := name.isName.isColumn

theorem ofList_text : String.ofList name.text = name.name := String.ofList_toList

theorem isTable {s : List Char} (ends : endsWord s = true) : Select.IsTable name.text s :=
  ⟨name.isName.nonempty, name.isName.members, ends⟩

end WrittenName

/-- Names with points between them. -/
structure DottedPath where
  first : WrittenName
  others : List WrittenName

def DottedPath.text (path : DottedPath) : List Char :=
  path.first.text ++ path.others.flatMap fun name => '.' :: name.text

/-! ## INSERT -/

/-- Literals in parentheses. -/
structure WrittenRow where
  before : Gap
  literals : CommaList WrittenLiteral
  after : Gap

namespace WrittenRow

def inner (row : WrittenRow) : List Char :=
  row.before.text ++ (row.literals.text WrittenLiteral.text ++ row.after.text)

def text (row : WrittenRow) : List Char := '(' :: (row.inner ++ [')'])

def values (row : WrittenRow) : List Literal := row.literals.items.map WrittenLiteral.literal

end WrittenRow

structure InsertStatement where
  insert : Keyword "INSERT"
  into : Keyword "INTO"
  table : WrittenName
  beforeColumns : Gap
  beforeFirst : Gap
  columns : CommaList WrittenName
  afterLast : Gap
  beforeValues : Gap
  values : Keyword "VALUES"
  beforeRows : Gap
  rows : CommaList WrittenRow

namespace InsertStatement

variable (statement : InsertStatement)

def columnsText : List Char :=
  statement.beforeFirst.text ++
    (statement.columns.text WrittenName.text ++ statement.afterLast.text)

def rowsText : List Char := statement.rows.text WrittenRow.text

def text : List Char :=
  statement.insert.letters ++ ' ' :: (statement.into.letters ++ ' ' :: (statement.table.text ++
    (statement.beforeColumns.text ++ '(' :: (statement.columnsText ++ ')' ::
      (statement.beforeValues.text ++ (statement.values.letters ++
        (statement.beforeRows.text ++ statement.rowsText)))))))

/-- What the statement says, if its rows fit its columns. -/
def plan : InsertPlan where
  table := statement.table.name
  columns := statement.columns.items.map WrittenName.name
  rows := statement.rows.items.map WrittenRow.values

/-- The row has another number of values than there are columns. -/
def IsRagged (row : WrittenRow) : Prop :=
  row.literals.items.length ≠ statement.columns.items.length

instance (row : WrittenRow) : Decidable (statement.IsRagged row) :=
  inferInstanceAs (Decidable (_ ≠ _))

end InsertStatement

/-! ## UPDATE and DELETE -/

/-- A path is set to a literal. Neither of them holds the word that ends the assignments. -/
structure WrittenAssignment where
  path : DottedPath
  notWhere : ¬ Spells "WHERE".toList path.text
  beforeSign : Gap
  afterSign : Gap
  value : WrittenLiteral
  lacksWhere : value.LacksWhere

namespace WrittenAssignment

variable (assignment : WrittenAssignment)

def text : List Char :=
  assignment.path.text ++ (assignment.beforeSign.text ++ '=' ::
    (assignment.afterSign.text ++ assignment.value.text))

def target : String := String.ofList assignment.path.text

end WrittenAssignment

/-- A condition, to the end of the statement. -/
structure WhereClause where
  keyword : Keyword "WHERE"
  body : SpacedText

namespace WhereClause

variable (clause : WhereClause)

def text : List Char := clause.keyword.letters ++ ' ' :: clause.body.text

def content : String := String.ofList clause.body.text

end WhereClause

structure UpdateStatement where
  update : Keyword "UPDATE"
  table : WrittenName
  set : Keyword "SET"
  assignments : CommaList WrittenAssignment
  condition : Option WhereClause

namespace UpdateStatement

variable (statement : UpdateStatement)

def assignmentsText : List Char := statement.assignments.text WrittenAssignment.text

def text : List Char :=
  statement.update.letters ++ ' ' :: (statement.table.text ++ ' ' :: (statement.set.letters ++
    ' ' :: (statement.assignmentsText ++ spaced WhereClause.text statement.condition)))

/-- What the statement says. -/
def plan : UpdatePlan where
  table := statement.table.name
  predicate := statement.condition.map WhereClause.content
  assignments := Named.ofList (statement.assignments.items.map fun assignment =>
    (assignment.target, assignment.value.literal))

/-- The literal of the last assignment to a path. -/
def lastValue? (path : String) : Option Literal :=
  (statement.assignments.items.reverse.find? (·.target == path)).map (·.value.literal)

end UpdateStatement

structure DeleteStatement where
  delete : Keyword "DELETE"
  from_ : Keyword "FROM"
  table : WrittenName
  condition : Option WhereClause

namespace DeleteStatement

variable (statement : DeleteStatement)

def text : List Char :=
  statement.delete.letters ++ ' ' :: (statement.from_.letters ++ ' ' ::
    (statement.table.text ++ spaced WhereClause.text statement.condition))

/-- What the statement says. -/
def plan : DeletePlan where
  table := statement.table.name
  predicate := statement.condition.map WhereClause.content

end DeleteStatement

end DocQuery.Write
