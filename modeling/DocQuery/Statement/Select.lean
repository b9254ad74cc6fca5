import DocQuery.Error
import DocQuery.Statement.Plan

/-! # Reading SELECT

A SELECT is read clause by clause. The clause words are looked for in the text as it stands, so a
clause ends where the words of the next one begin, wherever they stand.

* `cleanStatement` — the form that statements are read in.
* `takeModifiers`, `takeExists` — the parts that are cut out first.
* `fieldsText?`, `tableName?`, `whereText?`, … — the clauses.
* `extractSelect` — the whole plan.
-/

namespace DocQuery

open DocQuery.Text

def cleanStatement (sql : String) : String := String.ofList (clean sql.toList)

namespace Select

def maxLength : Nat := 5000

/-! ## Modifiers -/

/-- A word or phrase between SELECT and the field list. -/
inductive Modifier
  | distinct
  | top (digits : List Char)
  | skip (digits : List Char)

/-- A modifier with the text that it was read from. -/
structure WrittenModifier where
  modifier : Modifier
  source : List Char

def counted? (word : String) (s : List Char) : Option (List Char × List Char) := do
  digits? (← blanks? (← keyword? word s))

def bareModifier? (s : List Char) : Option (Modifier × List Char) :=
  match keyword? "DISTINCT" s with
  | some rest => some (.distinct, rest)
  | none =>
    match counted? "TOP" s with
    | some (digits, rest) => some (.top digits, rest)
    | none => (counted? "SKIP" s).map fun (digits, rest) => (.skip digits, rest)

def modifier? (s : List Char) : Option (WrittenModifier × List Char) := do
  let (modifier, after) ← bareModifier? s
  let rest ← blanks? after
  some (⟨modifier, s.take (s.length - after.length)⟩, rest)

/-- Reads modifiers as long as there are any; each one takes at least a character. -/
def takeModifiers : Nat → List Char → List WrittenModifier × List Char
  | 0, s => ([], s)
  | fuel + 1, s =>
    match modifier? s with
    | none => ([], s)
    | some (m, rest) =>
      let (more, body) := takeModifiers fuel rest
      (m :: more, body)

/-- The modifiers after SELECT and the text after them. -/
def splitHead? (s : List Char) : Option (List WrittenModifier × List Char) := do
  let rest ← blanks? (← keyword? "SELECT" s)
  some (takeModifiers rest.length rest)

def takeFirst? {β : Type} (test : Modifier → Option β) :
    List WrittenModifier → Option (β × List WrittenModifier)
  | [] => none
  | m :: rest =>
    match test m.modifier with
    | some found => some (found, rest)
    | none => (takeFirst? test rest).map fun (found, others) => (found, m :: others)

def Modifier.topDigits? : Modifier → Option (List Char)
  | .top digits => some digits
  | _ => none

def Modifier.skipDigits? : Modifier → Option (List Char)
  | .skip digits => some digits
  | _ => none

/-- Takes out the first count that a test accepts; the count must fit 64 bits. -/
def takeCount (sql : String) (test : Modifier → Option (List Char))
    (modifiers : List WrittenModifier) : Except SqlError (Option Nat × List WrittenModifier) :=
  match takeFirst? test modifiers with
  | none => .ok (none, modifiers)
  | some (digits, others) =>
    match Number.parseNat? Number.wordBound digits with
    | some n => .ok (some n, others)
    | none => .error (.malformed (.rowCount (String.ofList digits)) sql)

/-- Takes row limit and offset out of the head of a statement; a limit of zero is none. -/
def takeWindow (sql : String) (s : List Char) :
    Except SqlError (Option Nat × Option Nat × List Char) :=
  match splitHead? s with
  | none => .ok (none, none, s)
  | some (modifiers, body) => do
    let (top, modifiers) ← takeCount sql Modifier.topDigits? modifiers
    let (skip, modifiers) ← takeCount sql Modifier.skipDigits? modifiers
    -- modifiers that are not taken stay in front of the field list
    let words := "SELECT".toList :: modifiers.map (·.source) ++ [body]
    .ok (top.filter (0 < ·), skip, clean (unwords words))

def takeDistinct (s : List Char) : Bool × List Char :=
  match (do wholeKeyword? "DISTINCT" (← blanks? (← keyword? "SELECT" s))) with
  | some rest => (true, "SELECT".toList ++ rest)
  | none => (false, s)

/-! ## EXISTS -/

def existsWord? (s : List Char) : Option (Bool × List Char) :=
  match keyword? "EXISTS" s with
  | some rest => some (false, rest)
  | none => (keywords? "NOT" "EXISTS" s).map (true, ·)

def labelled? (label : String) (s : List Char) : Option (String × List Char) := do
  let (w, rest) ← word? (← blanks? (← keyword? label s))
  some (String.ofList w, ← blanks? rest)

def existsClause? (s : List Char) : Option (ExistsClause × List Char) := do
  let (negated, s) ← existsWord? s
  let s ← char? '(' (skipBlanks s)
  let (selectField, s) ← labelled? "SELECT" (skipBlanks s)
  let (table, s) ← labelled? "FROM" s
  let (innerField, s) ← word? (← blanks? (← keyword? "WHERE" s))
  let s ← char? '=' (skipBlanks s)
  let (outerAlias, s) ← word? (skipBlanks s)
  let (outerField, s) ← word? (← char? '.' s)
  let s ← char? ')' (skipBlanks s)
  some (⟨negated, table, selectField, String.ofList innerField,
    String.ofList outerAlias, String.ofList outerField⟩, s)

def connector? (s : List Char) : Option (List Char) :=
  (keyword? "AND" s) <|> (keyword? "OR" s)

/-- The text without a connector at its end, if there is one after a blank. -/
def dropLastConnector? (s : List Char) : Option (List Char) := do
  -- read backwards, from the end of the text
  let backwards := s.reverse.dropWhile isBlank
  let rest ← (letters? "DNA".toList backwards) <|> (letters? "RO".toList backwards)
  let front ← blanks? rest
  some front.reverse

def dropFirstConnector (s : List Char) : List Char :=
  ((connector? (skipBlanks s)).bind blanks?).getD s

/-- Puts the texts around a cut together; the connector next to the cut goes with it. -/
def closeCut (before after : List Char) : List Char :=
  match dropLastConnector? before with
  | some front => front ++ ' ' :: after
  | none => before ++ ' ' :: dropFirstConnector after

def dropLastWhere (s : List Char) : List Char :=
  let backwards := s.reverse.dropWhile isBlank
  match (letters? "EREHW".toList backwards).bind blanks? with
  | some front => front.reverse
  | none => s

def clauseAfterWhere? (s : List Char) : Option (List Char) :=
  (do wholeKeyword? "BY" (← blanks? (← keyword? "GROUP" s)))
    <|> (wholeKeyword? "HAVING" s)
    <|> (do wholeKeyword? "BY" (← blanks? (← keyword? "ORDER" s)))

/-- Reads a WHERE without a condition, and gives the clause that follows it. -/
def emptyWhere? (s : List Char) : Option (List Char) := do
  let rest ← blanks? (← keyword? "WHERE" s)
  let _ ← clauseAfterWhere? rest
  some rest

/-- The text without the first WHERE that has no condition. -/
def dropEmptyWhere (s : List Char) : List Char :=
  match searchWord? emptyWhere? s with
  | some (before, rest) => before ++ rest
  | none => s

def takeExists (s : List Char) : Option ExistsClause × List Char :=
  match searchWord? existsClause? s with
  | none => (none, s)
  | some (before, clause, after) =>
    -- the cut can leave a WHERE without a condition, at the end or in front of a later clause
    (some clause, dropEmptyWhere (dropLastWhere (clean (closeCut before after))))

/-! ## Clauses -/

def beforeBlank? (s : List Char) : Option Unit := (blanks? s).map fun _ => ()

/-- Reads blanks, the words of a grouping, and sees a blank. -/
def atGroupBy? (s : List Char) : Option Unit := do
  beforeBlank? (← keywords? "GROUP" "BY" (← blanks? s))

/-- Reads blanks, the word of a condition on groups, and sees a blank. -/
def atHaving? (s : List Char) : Option Unit := do
  beforeBlank? (← keyword? "HAVING" (← blanks? s))

/-- Reads blanks, the words of an order, and sees a blank. -/
def atOrderBy? (s : List Char) : Option Unit := do
  beforeBlank? (← keywords? "ORDER" "BY" (← blanks? s))

def fieldsText? (s : List Char) : Option (List Char) := do
  let rest ← blanks? (← keyword? "SELECT" s)
  let (fields, _) ← cutAt? (fun r => do beforeBlank? (← keyword? "FROM" (← blanks? r))) rest
  some fields

def tableName? (s : List Char) : Option (List Char) := do
  -- the first FROM that a word follows, also one inside a later clause
  let (_, table) ← searchWord? (fun r => do word? (← blanks? (← keyword? "FROM" r))) s
  some table.1

/-- The text of a clause: from after its words to the first end. -/
def clauseText? (start : List Char → Option (List Char)) (stop : List Char → Option Unit)
    (s : List Char) : Option (List Char) := do
  let (_, text) ← searchWord? (fun r => do
    let (text, _) ← cutAt? stop (← blanks? (← start r))
    some text) s
  some text

def whereText? (s : List Char) : Option (List Char) :=
  clauseText? (keyword? "WHERE")
    (fun r => atGroupBy? r <|> atHaving? r <|> atOrderBy? r <|> end? r) s

def groupByText? (s : List Char) : Option (List Char) :=
  clauseText? (keywords? "GROUP" "BY") (fun r => atHaving? r <|> atOrderBy? r <|> end? r) s

def havingText? (s : List Char) : Option (List Char) :=
  clauseText? (keyword? "HAVING") (fun r => atOrderBy? r <|> end? r) s

def orderByText? (s : List Char) : Option (List Char) :=
  clauseText? (keywords? "ORDER" "BY") end? s

/-! ## Field list -/

def label? (s : List Char) : Option (Option String) :=
  match s with
  | [] => some none
  | _ => do
    let (w, rest) ← word? (← blanks? (← keyword? "AS" (← blanks? s)))
    if rest.isEmpty then some (some (String.ofList w)) else none

def countCall? (s : List Char) : Option AggregateCall := do
  let s ← char? '(' (skipBlanks (← keyword? "COUNT" s))
  let s ← char? ')' (skipBlanks (← char? '*' (skipBlanks s)))
  some (.count ((← label? s).getD "Count"))

/-- A call of a function of one field, as written. -/
structure WrittenCall where
  name : String
  field : String
  label : Option String

def functionCall? (s : List Char) : Option WrittenCall := do
  let rest ← ["SUM", "MAX", "MIN", "AVG"].findSome? (keyword? · s)
  let name := s.take (s.length - rest.length)
  let rest ← char? '(' (skipBlanks rest)
  let field := rest.takeWhile (· != ')')
  if field.isEmpty then none
  else
    let rest ← char? ')' (rest.drop field.length)
    some ⟨String.ofList name, String.ofList (trim field), ← label? rest⟩

/-- The aggregate call that an item of the field list is, if it is one. -/
def itemCall (sql : String) (item : List Char) : Except SqlError (Option AggregateCall) :=
  match countCall? item with
  | some call => .ok (some call)
  | none =>
    match functionCall? item with
    | none => .ok none
    | some written =>
      match AggregateFunction.ofName? written.name with
      | none => .error (.malformed .unknownFunction sql)
      | some function =>
        .ok (some (.apply function written.field (written.label.getD function.name)))

/-- Reads the items of a field list; at most one of them may be a call. -/
def readItems (sql : String) :
    Option AggregateCall → List (List Char) →
      Except SqlError (List String × Option AggregateCall)
  | found, [] => .ok ([], found)
  | found, item :: rest =>
    if item.isEmpty then .error (.malformed .emptyField sql)
    else do
      match ← itemCall sql item with
      | none =>
        let (fields, call) ← readItems sql found rest
        .ok (String.ofList item :: fields, call)
      | some call =>
        if found.isSome then .error (.malformed .secondFunction sql)
        else
          let (fields, found) ← readItems sql (some call) rest
          .ok (call.label :: fields, found)

/-- The group keys: the pieces between commas that hold something. -/
def groupKeys (s : List Char) : List String :=
  (splitAt ',' s).filterMap nonBlank?

end Select

open Select in
/-- Reads a SELECT. Errors report the statement as it was given. -/
def extractSelect (sql : String) : Except SqlError SelectPlan := do
  -- a text that is too long is cut and not refused
  let text := (clean sql.toList).take maxLength
  let (top, skip, text) ← takeWindow sql text
  let (distinct, text) := takeDistinct text
  let (exists_, text) := takeExists text
  let some fieldsText := fieldsText? text | throw (.malformed .notSelect sql)
  let some table := tableName? text | throw (.malformed .noTable sql)
  let (fields, aggregate) ← readItems sql none (splitList fieldsText)
  let groupBy := (groupByText? text).map fun keys =>
    (⟨groupKeys keys, (havingText? text).bind nonBlank?⟩ : GroupBy)
  return {
    table := String.ofList table
    fields := fields
    predicate := (whereText? text).bind nonBlank?
    orderBy := (orderByText? text).bind nonBlank?
    top := top
    skip := skip
    distinct := distinct
    aggregate := aggregate
    groupBy := groupBy
    exists_ := exists_ }

end DocQuery
