import DocQuery.Document

/-! # Errors

The causes for which statements and store operations fail, and their wording.

* `StoreError` — failures of a store.
* `SyntaxFault`, `ConditionFault`, `Construct`, `ConversionFault` — the causes within a statement.
* `SqlError` — failures of a statement.
* `SqlError.message`, `SqlError.userMessage` — for logs and for users.
* `ErrorMode`, `ClientError` — the failure of a call, as a caller is shown it.
-/

namespace DocQuery

/-- The kinds of failure of a store. -/
inductive StoreFault
  | unavailable
  | timeout
  | invalidOperation
  | internal
  deriving DecidableEq

/-- A failed store operation. -/
structure StoreError where
  fault : StoreFault
  detail : String
  deriving DecidableEq

def StoreError.message (e : StoreError) : String :=
  let lead := match e.fault with
    | .unavailable => "Store unavailable: "
    | .timeout => "Store operation timed out: "
    | .invalidOperation => "Invalid store operation: "
    | .internal => "Internal store error: "
  lead ++ e.detail

/-! ## Causes -/

/-- Why the text of a statement has no reading. -/
inductive SyntaxFault
  | rowCount (digits : String)
  | notSelect
  | noTable
  | emptyField
  | unknownFunction
  | secondFunction
  | notInsert
  | emptyColumn
  | valueCount (values columns : Nat)
  | strayParenthesis
  | betweenRows
  | openRow
  | noRows
  | notUpdate
  | badAssignment (text : String)
  | notDelete
  | unknownCast
  | badSortKey
  | noGroups
  | noFunction
  | described (reason : String)
  deriving DecidableEq

def SyntaxFault.message : SyntaxFault → String
  | .rowCount digits => "row count '" ++ digits ++ "' is out of range"
  | .notSelect => "expected SELECT <fields> FROM <table>"
  | .noTable => "missing table name"
  | .emptyField => "empty item in field list"
  | .unknownFunction => "unknown aggregate function"
  | .secondFunction => "only one aggregate function is allowed"
  | .notInsert => "expected INSERT INTO <table>(<columns>) VALUES (...)"
  | .emptyColumn => "empty column name"
  | .valueCount values columns =>
    toString values ++ " values supplied for " ++ toString columns ++ " columns"
  | .strayParenthesis => "unbalanced parentheses in VALUES"
  | .betweenRows => "unexpected text between VALUES tuples"
  | .openRow => "unterminated VALUES tuple"
  | .noRows => "VALUES requires at least one tuple"
  | .notUpdate => "expected UPDATE <table> SET <assignments>"
  | .badAssignment text => "invalid assignment '" ++ text ++ "'"
  | .notDelete => "expected DELETE FROM <table>"
  | .unknownCast => "unknown CAST target type"
  | .badSortKey => "invalid ORDER BY item"
  | .noGroups => "missing GROUP BY"
  | .noFunction => "missing aggregate function"
  | .described reason => reason

/-- Why a condition has no reading. -/
inductive ConditionFault
  | mixedConnectors
  | unbalanced
  | openQuote
  | empty
  | missingValue
  | openList
  | unrecognized
  | described (reason : String)
  deriving DecidableEq

def ConditionFault.message : ConditionFault → String
  | .mixedConnectors => "AND and OR cannot be mixed without grouping"
  | .unbalanced => "unbalanced parentheses"
  | .openQuote => "unterminated quote"
  | .empty => "empty condition"
  | .missingValue => "missing comparison value"
  | .openList => "unterminated list"
  | .unrecognized => "unrecognized condition"
  | .described reason => reason

/-- What a statement may not contain. -/
inductive Construct
  | nothing
  | character (c : Char)
  | keyword (word : String)
  | castSort
  | innerPattern
  | secondFunction
  | described (construct : String)
  deriving DecidableEq

def hexNumber (n : Nat) : String := String.ofList (Nat.toDigits 16 n)

/-- A refused character in quotes, with an escape where it cannot be shown. -/
def quotedChar (c : Char) : String :=
  let inner :=
    if c == '\x00' then "\\0"
    else if c == '\\' then "\\\\"
    else if c.toNat < 0x20 then "\\u\x7b" ++ hexNumber c.toNat ++ "\x7d"
    else c.toString
  "\"" ++ inner ++ "\""

def Construct.message : Construct → String
  | .nothing => "empty statement"
  | .character c => "forbidden character " ++ quotedChar c
  | .keyword word => word
  | .castSort => "CAST with ORDER BY"
  | .innerPattern => "LIKE '%...%'"
  | .secondFunction => "more than one aggregate function"
  | .described construct => construct

/-- Why a value is not what a caller asked for. -/
inductive ConversionFault
  | mismatch (shown target : String)
  | notOneColumn (columns : List String)
  | described (reason : String)
  deriving DecidableEq

def ConversionFault.message : ConversionFault → String
  | .mismatch shown target => "cannot convert '" ++ shown ++ "' to " ++ target
  | .notOneColumn columns =>
    "exactly one column must be selected, got " ++ Text.join ", " columns
  | .described reason => reason

/-- Why a statement fails. -/
inductive SqlError
  | tableNotAllowed (table : String)
  | malformed (fault : SyntaxFault) (statement : String)
  | badCondition (text : String) (fault : ConditionFault)
  | unsupported (construct : Construct)
  | store (error : StoreError)
  | conversion (fault : ConversionFault)
  deriving DecidableEq

def SqlError.message : SqlError → String
  | .tableNotAllowed table => "Table '" ++ table ++ "' is not allowed"
  | .malformed fault statement =>
    "Syntax error: " ++ fault.message ++ " (statement: " ++ statement ++ ")"
  | .badCondition text fault => "Cannot compile filter '" ++ text ++ "': " ++ fault.message
  | .unsupported construct => "Unsupported syntax: " ++ construct.message
  | .store error => "Store error: " ++ error.message
  | .conversion fault => "Value conversion error: " ++ fault.message

/-! ## Failures of calls -/

/-- The wording for users: whether a retry may help, and nothing else. -/
def SqlError.userMessage : SqlError → String
  | .store ⟨.unavailable, _⟩ | .store ⟨.timeout, _⟩ =>
    "The service is busy, please retry later."
  | .tableNotAllowed _ | .unsupported _ | .malformed _ _ | .badCondition _ _ =>
    "The statement is not supported."
  | .store _ | .conversion _ => "The system is busy, please retry later."

/-- How much of a failure a caller is shown. -/
inductive ErrorMode
  | friendly
  | technical
  | raw
  deriving DecidableEq

/-- A failed call: the failure, the statement, and how much of it is shown. -/
structure ClientError where
  source : SqlError
  statement : String
  mode : ErrorMode

namespace ClientError

def technicalMessage (e : ClientError) : String :=
  e.source.message ++ " [statement: " ++ e.statement ++ "]"

def display (e : ClientError) : String :=
  match e.mode with
  | .friendly => e.source.userMessage
  | .technical => e.technicalMessage
  | .raw => e.source.message

end ClientError

end DocQuery
