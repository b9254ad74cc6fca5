import DocQuery.Proofs.Text.CommaLists
import DocQuery.Proofs.Text.Keywords
import DocQuery.Proofs.Text.Names
import DocQuery.Statement.Select

/-! # The grammar of SELECT

What a SELECT is made of, apart from how it is read: each part with its text and with what it
contributes to the plan.

* `Identifier`, `ClauseText` — names, and the texts that conditions and orders are given by.
* `FieldItem` — an item of the field list: a column or a call.
* `HeadModifier` — DISTINCT, TOP and SKIP.
* `WrittenSelect` — the statement, with `WrittenSelect.text` and `WrittenSelect.plan`.

A text here has single spaces. A `Gap` is a place where none is needed.
-/

namespace DocQuery.Select

open DocQuery.Text

/-! ## Names and texts -/

/-- The words that are looked for in the whole statement, because a clause begins with them. -/
def clauseStarts : List String :=
  ["SELECT", "FROM", "WHERE", "GROUP", "HAVING", "ORDER", "EXISTS"]

/-- All words that clauses are made of. -/
def clauseWords : List String := clauseStarts ++ ["BY", "DISTINCT", "TOP", "SKIP", "AS"]

/-- A name that is none of the words that clauses are made of. -/
structure Identifier where
  name : String
  isName : IsName name
  notClause : ∀ word ∈ clauseWords, ¬ Spells word.toList name.toList

def Identifier.text (identifier : Identifier) : List Char := identifier.name.toList

/-- Words with single spaces between them, none of which begins a clause. -/
structure ClauseText extends SpacedText where
  lacks : ∀ word ∈ clauseStarts, Lacks word text

/-! ## Field list -/

/-- The name that is given to a call. -/
structure Label where
  keyword : Keyword "AS"
  label : Identifier

def Label.text (label : Label) : List Char := label.keyword.letters ++ ' ' :: label.label.text

/-- An item of a field list. -/
inductive FieldItem
  | all
  | column (identifier : Identifier)
  | count (keyword : Keyword "COUNT") (beforeBracket beforeStar afterStar : Gap)
      (label : Option Label)
  | apply (function : AggregateFunction) (keyword : Keyword function.name)
      (beforeBracket beforeField afterField : Gap) (field : Identifier) (label : Option Label)

namespace FieldItem

def text : FieldItem → List Char
  | .all => ['*']
  | .column identifier => identifier.text
  | .count keyword beforeBracket beforeStar afterStar label =>
    keyword.letters ++ (beforeBracket.text ++ '(' :: (beforeStar.text ++ '*' ::
      (afterStar.text ++ ')' :: spaced Label.text label)))
  | .apply _ keyword beforeBracket beforeField afterField field label =>
    keyword.letters ++ (beforeBracket.text ++ '(' :: (beforeField.text ++ (field.text ++
      (afterField.text ++ ')' :: spaced Label.text label))))

/-- The call that an item is, under its label or the default one. -/
def call? : FieldItem → Option AggregateCall
  | .count _ _ _ _ label => some (.count ((label.map (·.label.name)).getD "Count"))
  | .apply function _ _ _ _ field label =>
    some (.apply function field.name ((label.map (·.label.name)).getD function.name))
  | _ => none

/-- The name of the output column. -/
def output : FieldItem → String
  | .column identifier => identifier.name
  | item => (item.call?.map AggregateCall.label).getD "*"

end FieldItem

/-! ## Modifiers -/

/-- A decimal number of 64 bits. -/
structure RowCount where
  digits : List Char
  nonempty : digits ≠ []
  decimal : ∀ c ∈ digits, c.isDigit = true
  fits : Nat.ofDigitChars 10 digits 0 < Number.wordBound

def RowCount.value (count : RowCount) : Nat := Nat.ofDigitChars 10 count.digits 0

inductive ModifierKind
  | distinct
  | top
  | skip
  deriving DecidableEq

/-- What can stand between SELECT and the field list. -/
inductive HeadModifier
  | distinct (keyword : Keyword "DISTINCT")
  | top (keyword : Keyword "TOP") (count : RowCount) (positive : 0 < count.value)
  | skip (keyword : Keyword "SKIP") (count : RowCount)

namespace HeadModifier

def kind : HeadModifier → ModifierKind
  | .distinct _ => .distinct
  | .top .. => .top
  | .skip .. => .skip

def text : HeadModifier → List Char
  | .distinct keyword => keyword.letters
  | .top keyword count _ => keyword.letters ++ ' ' :: count.digits
  | .skip keyword count => keyword.letters ++ ' ' :: count.digits

def top? : HeadModifier → Option Nat
  | .top _ count _ => some count.value
  | _ => none

def skip? : HeadModifier → Option Nat
  | .skip _ count => some count.value
  | _ => none

end HeadModifier

/-- Modifiers, each with a space behind it. -/
def headText : List HeadModifier → List Char
  | [] => []
  | modifier :: rest => modifier.text ++ ' ' :: headText rest

/-! ## Clauses -/

/-- A clause of one keyword. -/
structure WrittenClause (word : String) where
  keyword : Keyword word
  body : ClauseText

def WrittenClause.text {word : String} (clause : WrittenClause word) : List Char :=
  clause.keyword.letters ++ ' ' :: clause.body.text

def WrittenClause.content {word : String} (clause : WrittenClause word) : String :=
  String.ofList clause.body.text

/-- A grouping by at least one name. -/
structure WrittenGrouping where
  group : Keyword "GROUP"
  by_ : Keyword "BY"
  keys : CommaList Identifier
  having : Option (WrittenClause "HAVING")

namespace WrittenGrouping

def keysText (grouping : WrittenGrouping) : List Char := grouping.keys.text Identifier.text

def text (grouping : WrittenGrouping) : List Char :=
  grouping.group.letters ++ ' ' :: (grouping.by_.letters ++ ' ' ::
    (grouping.keysText ++ spaced WrittenClause.text grouping.having))

def groupBy (grouping : WrittenGrouping) : GroupBy :=
  ⟨grouping.keys.items.map Identifier.name, grouping.having.map WrittenClause.content⟩

end WrittenGrouping

structure WrittenOrder where
  order : Keyword "ORDER"
  by_ : Keyword "BY"
  body : ClauseText

namespace WrittenOrder

def text (order : WrittenOrder) : List Char :=
  order.order.letters ++ ' ' :: (order.by_.letters ++ ' ' :: order.body.text)

def content (order : WrittenOrder) : String := String.ofList order.body.text

end WrittenOrder

/-! ## Statements -/

/-- A SELECT without EXISTS. Each modifier stands once at most, and so does a call. -/
structure WrittenSelect where
  select : Keyword "SELECT"
  modifiers : List HeadModifier
  once : (modifiers.map HeadModifier.kind).Nodup
  fields : CommaList FieldItem
  oneCall : (fields.items.filterMap FieldItem.call?).length ≤ 1
  from_ : Keyword "FROM"
  table : Identifier
  condition : Option (WrittenClause "WHERE")
  grouping : Option WrittenGrouping
  order : Option WrittenOrder

namespace WrittenSelect

variable (statement : WrittenSelect)

def fieldsText : List Char := statement.fields.text FieldItem.text

/-- What is written behind the condition. -/
def afterCondition : List Char :=
  spaced WrittenGrouping.text statement.grouping ++ spaced WrittenOrder.text statement.order

/-- What is written behind the modifiers. -/
def body : List Char :=
  statement.fieldsText ++ ' ' :: (statement.from_.letters ++ ' ' :: (statement.table.text ++
    (spaced WrittenClause.text statement.condition ++ statement.afterCondition)))

def text : List Char :=
  statement.select.letters ++ ' ' :: (headText statement.modifiers ++ statement.body)

/-- What the statement says. -/
def plan : SelectPlan where
  table := statement.table.name
  fields := statement.fields.items.map FieldItem.output
  predicate := statement.condition.map WrittenClause.content
  orderBy := statement.order.map WrittenOrder.content
  top := statement.modifiers.findSome? HeadModifier.top?
  skip := statement.modifiers.findSome? HeadModifier.skip?
  distinct := statement.modifiers.any fun modifier => modifier.kind == .distinct
  aggregate := statement.fields.items.findSome? FieldItem.call?
  groupBy := statement.grouping.map WrittenGrouping.groupBy
  exists_ := none

end WrittenSelect

end DocQuery.Select
