import DocQuery.Proofs.Condition.Passing
import DocQuery.Proofs.Condition.Shapes

/-! # Written conditions

The grammar of conditions, apart from how they are read: what is written, and what it means.

* `FieldPath`, `Numeral`, `PlainText` — the parts.
* `WrittenValue` — a value with its text.
* `WrittenCondition` — one condition with its text and its filter.
* `Chain` — conditions with connectors between them.
-/

namespace DocQuery.Condition

open DocQuery.Text

/-! ## Parts -/

/-- A word of a path: no word that joins conditions. -/
structure FieldWord where
  text : String
  isName : IsAsciiName text
  notJoining : ∀ word : JoiningWord, text.toList.map Char.toUpper ≠ word.letters

/-- Words with points between them. -/
structure FieldPath where
  first : FieldWord
  others : List FieldWord

def FieldPath.text (path : FieldPath) : List Char :=
  path.first.text.toList ++ path.others.flatMap fun word => '.' :: word.text.toList

/-- A decimal integer of 64 bits. -/
structure Numeral where
  negative : Bool
  digits : List Char
  nonempty : digits ≠ []
  decimal : ∀ c ∈ digits, c.isDigit = true
  fits : Number.fitsInt
    (if negative then -(Nat.ofDigitChars 10 digits 0) else Nat.ofDigitChars 10 digits 0) = true

namespace Numeral

def value (n : Numeral) : Int :=
  if n.negative then -(Nat.ofDigitChars 10 n.digits 0) else Nat.ofDigitChars 10 n.digits 0

def text (n : Numeral) : List Char := if n.negative then '-' :: n.digits else n.digits

end Numeral

/-- What can stand between single quotes without being changed. -/
structure PlainText where
  content : String
  noQuote : '\'' ∉ content.toList
  noBackslash : '\\' ∉ content.toList
  oneLine : '\n' ∉ content.toList

def PlainText.text (s : PlainText) : List Char := '\'' :: (s.content.toList ++ ['\''])

/-! ## Values -/

/-- A value as it can be written in a condition. -/
inductive WrittenValue
  | null
  | bool (b : Bool)
  | int (n : Numeral)
  /-- The digits may be written in either case. -/
  | objectId (digits : List Char) (id : ObjectId) (spelled : digits.map Char.toLower = id.hexChars)
  /-- A string that is no timestamp. -/
  | string (s : PlainText) (noInstant : ∀ t, Time.Instant.parseInternet s.content ≠ .ok t)

namespace WrittenValue

def text : WrittenValue → List Char
  | .null => "null".toList
  | .bool b => (if b then "true" else "false").toList
  | .int n => n.text
  | .objectId digits _ _ => "ObjectId(\"".toList ++ digits ++ "\")".toList
  | .string s _ => s.text

theorem text_objectId {digits : List Char} {id : ObjectId}
    (spelled : digits.map Char.toLower = id.hexChars) :
    (objectId digits id spelled).text =
      ['O', 'b', 'j', 'e', 'c', 't', 'I', 'd'] ++ '(' :: (('"' :: (digits ++ ['"'])) ++ [')']) := by
  change "ObjectId(\"".toList ++ digits ++ "\")".toList = _
  simp

def value : WrittenValue → Value
  | .null => .null
  | .bool b => .bool b
  | .int n => .int64 (Int64.ofInt n.value)
  | .objectId _ id _ => .objectId id
  | .string s _ => .string s.content

/-- What a comparison takes as it stands: no empty string, and after an equals sign no string of the
digits of an identifier. -/
def IsOperand (op : Comparison) : WrittenValue → Prop
  | .string s _ => s.content ≠ "" ∧ (op = .eq → ObjectId.parse? s.content = none)
  | _ => True

/-- What BETWEEN takes as its lower bound: no string with the word AND between blanks. -/
def IsLowerBound : WrittenValue → Prop
  | .string s _ => ∀ front b word d back, s.content.toList = front ++ b :: word ++ d :: back →
      isBlank b = true → isBlank d = true → word.map Char.toUpper ≠ "AND".toList
  | _ => True

end WrittenValue

/-! ## Conditions -/

/-- One condition as it can be written. -/
inductive WrittenCondition
  | comparison (field : FieldPath) (op : Comparison) (operand : WrittenValue)
      (isOperand : operand.IsOperand op)
  | between (field : FieldPath) (low high : WrittenValue) (isLowerBound : low.IsLowerBound)
  | membership (field : FieldPath) (negated : Bool) (items : List WrittenValue)
  | presence (field : FieldPath) (expected : Bool)
  | pattern (field : FieldPath) (source : PlainText)

namespace WrittenCondition

/-- Texts with commas between them. -/
def listText : List (List Char) → List Char
  | [] => []
  | [item] => item
  | item :: rest => item ++ ',' :: listText rest

def text : WrittenCondition → List Char
  | .comparison field op operand _ =>
    field.text ++ ' ' :: (op.sign.toList ++ ' ' :: operand.text)
  | .between field low high _ =>
    field.text ++ " BETWEEN ".toList ++ low.text ++ " AND ".toList ++ high.text
  | .membership field negated items =>
    field.text ++ (if negated then " NOT IN (" else " IN (").toList ++
      listText (items.map WrittenValue.text) ++ [')']
  | .presence field expected =>
    field.text ++ (if expected then " IS NOT NULL" else " IS NULL").toList
  | .pattern field source => field.text ++ " LIKE ".toList ++ source.text

theorem text_comparison (field : FieldPath) (op : Comparison) (operand : WrittenValue) (isOperand) :
    (comparison field op operand isOperand).text =
      field.text ++ ' ' :: (op.sign.toList ++ ' ' :: operand.text) := rfl

theorem text_between (field : FieldPath) (low high : WrittenValue) (isLowerBound) :
    (between field low high isLowerBound).text =
      field.text ++ ((' ' :: JoiningWord.between.letters) ++ ' ' :: (low.text ++
        ((' ' :: JoiningWord.and.letters) ++ ' ' :: high.text))) := by
  change field.text ++ " BETWEEN ".toList ++ low.text ++ " AND ".toList ++ high.text = _
  simp [letters_between, letters_and]

theorem text_membership (field : FieldPath) (negated : Bool) (items : List WrittenValue) :
    (membership field negated items).text =
      field.text ++ ' ' :: (notLetters negated ++
        (['I', 'N'] ++ ' ' :: '(' :: (listText (items.map WrittenValue.text) ++ [')']))) := by
  change field.text ++ (if negated then " NOT IN (" else " IN (").toList ++
    listText (items.map WrittenValue.text) ++ [')'] = _
  cases negated <;> simp [notLetters]

theorem text_presence (field : FieldPath) (expected : Bool) :
    (presence field expected).text =
      field.text ++ ' ' :: (['I', 'S'] ++ ' ' ::
        (notLetters expected ++ ['N', 'U', 'L', 'L'])) := by
  change field.text ++ (if expected then " IS NOT NULL" else " IS NULL").toList = _
  cases expected <;> simp [notLetters]

theorem text_pattern (field : FieldPath) (source : PlainText) :
    (pattern field source).text =
      field.text ++ ' ' :: (['L', 'I', 'K', 'E'] ++ ' ' :: source.text) := by
  change field.text ++ " LIKE ".toList ++ source.text = _
  simp

/-- The meaning of a condition, given what field names mean. -/
def filter (scope : Scope) : WrittenCondition → Filter
  | .comparison field op operand _ =>
    .compare op (scope.resolve (String.ofList field.text)) operand.value
  | .between field low high _ =>
    .range (scope.resolve (String.ofList field.text)) low.value high.value
  | .membership field negated items =>
    let values := items.map WrittenValue.value
    if negated then .notIn (scope.resolve (String.ofList field.text)) values
    else .isIn (scope.resolve (String.ofList field.text)) values
  | .presence field expected => .present (scope.resolve (String.ofList field.text)) expected
  | .pattern field source =>
    .pattern (scope.resolve (String.ofList field.text)) source.content none

end WrittenCondition

/-! ## Chains -/

/-- Conditions, each but the first with the connector in front of it. -/
structure Chain where
  first : WrittenCondition
  others : List (Connector × WrittenCondition)

namespace Chain

def text (chain : Chain) : List Char :=
  chain.first.text ++ chain.others.flatMap fun (connector, condition) =>
    ' ' :: (connector.word.letters ++ ' ' :: condition.text)

def conditions (chain : Chain) : List WrittenCondition := chain.first :: chain.others.map (·.2)

def Has (chain : Chain) (connector : Connector) : Prop :=
  ∃ condition, (connector, condition) ∈ chain.others

instance (chain : Chain) (connector : Connector) : Decidable (chain.Has connector) :=
  decidable_of_iff (connector ∈ chain.others.map (·.1)) (by simp [Has])

/-- The meaning of a chain: one condition stands for itself, others are joined by the one kind of
connector that stands between them. -/
def meaning (scope : Scope) (chain : Chain) : Except SqlError Filter :=
  if chain.Has .and ∧ chain.Has .or then
    .error (.badCondition (String.ofList chain.text) .mixedConnectors)
  else if chain.Has .and then .ok (.all (chain.conditions.map (·.filter scope)))
  else if chain.Has .or then .ok (.any (chain.conditions.map (·.filter scope)))
  else .ok (chain.first.filter scope)

end Chain

end DocQuery.Condition
