import DocQuery.Condition.Connectors
import DocQuery.Condition.Parameters
import DocQuery.Query.Filter

/-! # Conditions

The text of a WHERE or HAVING clause becomes a filter.

* `Scope` — what field names mean.
* `between?`, `membership?`, `presence?`, `pattern?`, `comparison?` — the shapes of one condition.
* `Condition.compile` — a whole clause.
-/

namespace DocQuery.Condition

open DocQuery.Text

/-- What the field names of a condition mean. -/
inductive Scope
  /-- Fields of stored documents. -/
  | rows
  /-- Fields of groups: the group keys stand below the identifier. -/
  | groups (keys : List String)
  deriving DecidableEq

def Scope.resolve (scope : Scope) (field : String) : String :=
  match scope with
  | .rows => field
  | .groups keys => if keys.any (eqIgnoreCase · field) then "_id." ++ field else field

/-! ## Shapes -/

/-- The texts after at least one blank, the one after most blanks first. -/
def afterBlanks : List Char → List (List Char)
  | [] => []
  | c :: rest => if isBlank c then afterBlanks rest ++ [rest] else []

/-- The rest of one line, of which there is at least a character. -/
def someLine? (s : List Char) : Option (List Char) :=
  if s.isEmpty then none else line? s

def upperBound? (s : List Char) : Option (List Char) := do
  someLine? (← blanks? (← keyword? "AND" (← blanks? s)))

/-- A condition that a field lies between two bounds: the field and the texts of the bounds. -/
def between? (s : List Char) : Option (List Char × List Char × List Char) := do
  let (field, s) ← path? s
  let s ← keyword? "BETWEEN" (← blanks? s)
  let (low, high) ← (afterBlanks s).findSome? (cutAt? upperBound?)
  some (field, low, high)

def optionalNot (s : List Char) : Bool × List Char :=
  match (keyword? "NOT" s).bind blanks? with
  | some rest => (true, rest)
  | none => (false, s)

/-- The one line between two given characters at the ends of a text. -/
def enclosed? (opening closing : Char) : List Char → Option (List Char)
  | [] => none
  | c :: rest =>
    if c == opening && rest.getLast? == some closing then line? rest.dropLast else none

/-- A condition that a field is, or is not, in a list: the field and the text of the list. -/
def membership? (s : List Char) : Option (List Char × Bool × List Char) := do
  let (field, s) ← path? s
  let (negated, s) := optionalNot (← blanks? s)
  let s := skipBlanks (← keyword? "IN" s)
  let items ← (enclosed? '(' ')' s) <|> (enclosed? '[' ']' s)
  some (field, negated, items)

/-- A condition that a field is, or is not, null: the field and whether it must be present. -/
def presence? (s : List Char) : Option (List Char × Bool) := do
  let (field, s) ← path? s
  let (negated, s) := optionalNot (← blanks? (← keyword? "IS" (← blanks? s)))
  let rest ← keyword? "NULL" s
  if rest.isEmpty then some (field, negated) else none

/-- A condition that a field matches a pattern: the field and the pattern. -/
def pattern? (s : List Char) : Option (List Char × List Char) := do
  let (field, s) ← path? s
  let s ← blanks? (← keyword? "LIKE" (← blanks? s))
  let source ← (enclosed? '\'' '\'' s) <|> (enclosed? '"' '"' s)
  some (field, source)

def sign? : List Char → Option (Comparison × List Char)
  -- the longer signs come first
  | '>' :: '=' :: rest => some (.gte, rest)
  | '<' :: '=' :: rest => some (.lte, rest)
  | '!' :: '=' :: rest => some (.ne, rest)
  | '<' :: '>' :: rest => some (.ne, rest)
  | '<' :: rest => some (.lt, rest)
  | '>' :: rest => some (.gt, rest)
  | '=' :: rest => some (.eq, rest)
  | _ => none

def comparison? (s : List Char) : Option (List Char × Comparison × List Char) := do
  let (field, s) ← path? s
  let (op, s) ← sign? (skipBlanks s)
  some (field, op, ← line? (skipBlanks s))

/-! ## Operands -/

/-- The text with the escapes of its quote mark and of backslashes undone. -/
def unescape (mark : Char) : List Char → List Char
  | [] => []
  | [c] => [c]
  | c :: d :: rest =>
    if c == '\\' && (d == mark || d == '\\') then d :: unescape mark rest
    else c :: unescape mark (d :: rest)

/-- The value of a quoted text: an identifier where one may stand, a timestamp, or a string. -/
def quotedValue (content : List Char) (idAllowed : Bool) : Value :=
  let text := String.ofList content
  match if idAllowed then ObjectId.parse? text else none with
  | some id => .objectId id
  | none =>
    match Time.Instant.parseInternet text with
    | .ok t => .instant t
    | .error _ => .string text

def bareValue (s : List Char) : Value := (Literal.parse (String.ofList s)).toValue

def listItems (s : List Char) : List (List Char) := (splitList s).filter (!·.isEmpty)

/--
The value of an operand: a list in brackets, a quoted text, or a bare literal. `fuel` bounds the
nesting of lists; each list is shorter than the text that it stands in.
-/
def operandValue : Nat → Bool → List Char → Except ConditionFault Value
  | 0, _, _ => .error .openList
  | fuel + 1, idAllowed, s =>
    let s := trim s
    match s with
    | [] => .ok (bareValue s)
    | c :: rest =>
      if c == '[' then
        if rest.getLast? == some ']' then
          ((listItems rest.dropLast).mapM (operandValue fuel false)).map .array
        else .error .openList
      else if isQuote c then
        match unquote? s with
        | some inner => .ok (quotedValue (unescape c inner) idAllowed)
        | none => .error .openQuote
      else .ok (bareValue s)

def operand (idAllowed : Bool) (s : List Char) : Except ConditionFault Value :=
  operandValue (s.length + 1) idAllowed s

def itemValue (item : List Char) : Value :=
  match item, unquote? item with
  | mark :: _, some inner => quotedValue (unescape mark inner) false
  | _, _ => bareValue item

/-- Whether nothing is written after a comparison sign, or an empty string. -/
def isNothing (s : List Char) : Bool := s == [] || s == "''".toList || s == "\"\"".toList

/-- The filter of a comparison. Equality with nothing is equality with null. -/
def comparisonFilter (field : String) (op : Comparison) (text : List Char) :
    Except ConditionFault Filter :=
  let text := trim text
  if isNothing text then
    match op with
    | .eq | .ne => .ok (.compare op field .null)
    | _ => .error .missingValue
  -- only equality takes a text of hexadecimal digits for an identifier
  else (operand (op == .eq) text).map (.compare op field)

/-! ## Compilation -/

/-- The filter of one condition; the shapes are tried in order. -/
def leafFilter (scope : Scope) (s : List Char) : Except ConditionFault Filter :=
  let path (field : List Char) := scope.resolve (String.ofList field)
  if s.isEmpty then .error .empty
  else match between? s with
  | some (field, low, high) => do
    let low ← operand false low
    let high ← operand false high
    .ok (.range (path field) low high)
  | none =>
    match membership? s with
    | some (field, negated, items) =>
      let values := (listItems items).map itemValue
      .ok (if negated then .notIn (path field) values else .isIn (path field) values)
    | none =>
      match presence? s with
      | some (field, expected) => .ok (.present (path field) expected)
      | none =>
        match pattern? s with
        | some (field, source) => .ok (.pattern (path field) (String.ofList source) none)
        | none =>
          match comparison? s with
          | some (field, op, text) => comparisonFilter (path field) op text
          | none => .error .unrecognized

/-- Reports a fault with the text that it was found in. -/
def reporting {β : Type} (s : List Char) : Except ConditionFault β → Except SqlError β
  | .ok b => .ok b
  | .error fault => .error (.badCondition (String.ofList s) fault)

def pieceFilter (scope : Scope) (piece : List Char) : Except SqlError Filter :=
  let s := trim piece
  reporting s (leafFilter scope s)

def compileText (scope : Scope) (s : List Char) : Except SqlError Filter := do
  let s := trim s
  if s.isEmpty then return .empty
  let pieces ← reporting s (cutConditions s)
  -- there is no precedence among connectors, so a clause has one kind of them
  if pieces.has .and && pieces.has .or then throw (.badCondition (String.ofList s) .mixedConnectors)
  match ← pieces.toList.mapM (pieceFilter scope) with
  | [filter] => return filter
  | filters => return if pieces.has .or then .any filters else .all filters

/-- The filter of a clause; parameters are written in first. -/
def compile (scope : Scope) (params : Parameters) (text : String) : Except SqlError Filter :=
  compileText scope (Parameters.substitute text params).toList

end DocQuery.Condition
