import DocQuery.Number.Text
import DocQuery.Pattern.Parse

/-! # Log levels

What may stand for the level of the log: directives between commas, each of them a level, or a
target with an optional span in brackets and an optional level after an equals sign.

* `LogFilter.isLevel` — the names and numbers of levels.
* `LogFilter.isDirective` — one directive.
* `LogFilter.isValid` — the whole text.
-/

namespace DocQuery.LogFilter

open DocQuery.Text DocQuery.Number

def levelNames : List String := ["error", "warn", "info", "debug", "trace", "off"]

/-- Whether a text is the name of a level in any case, the number of one, or empty. -/
def isLevel (s : List Char) : Bool :=
  s.isEmpty || (parseNat? 6 s).isSome || levelNames.any (eqIgnoreCase · (String.ofList s))

/-- Whether a text is a pattern for the values of fields. It may be large, but its word boundaries
are those of ASCII. -/
def isFieldPattern (s : List Char) : Bool :=
  (Pattern.read? (String.ofList s)).any fun pattern => !pattern.needsUnicodeWords

/-- Whether a text is a value that a field may be compared with: a number or a pattern. -/
def isFieldValue (s : List Char) : Bool := (parseFloat? s).isSome || isFieldPattern s

/-- Whether a text is the name of a field, with an optional value to compare it with. -/
def isField (s : List Char) : Bool :=
  !s.isEmpty && match splitAt '=' s with
    | _ :: value :: _ => isFieldValue value
    | _ => true

/-- Whether what follows a span is nothing, or a level where one is allowed. -/
def isAfterSpan (levels : Bool) : List Char → Bool
  | [] => true
  | '=' :: level => levels && isLevel level
  | _ => false

/-- Whether a text is the rest of a span, with an optional field in braces, and a level. -/
def isSpan (levels : Bool) (s : List Char) : Bool :=
  match s.dropWhile fun c => c != ']' && c != '\x7b' with
  | ']' :: rest => isAfterSpan levels rest
  | _ :: inner =>
    isField (inner.takeWhile (· != '\x7d')) &&
      match inner.dropWhile (· != '\x7d') with
      | '\x7d' :: ']' :: rest => isAfterSpan levels rest
      | _ => false
  | [] => false

/-- Whether a text is a target or a level, then perhaps a span, then perhaps a level. -/
def isTarget (levels : Bool) (s : List Char) : Bool :=
  match s.dropWhile fun c => c != '=' && c != '[' with
  | '[' :: rest => isSpan levels rest
  | '=' :: level => levels && isLevel level
  | _ => true

def startsTarget (c : Char) : Bool := c == '-' || c == ':' || c == '_' || isAlphanumeric c

/-- Whether a text is a directive. One with blanks at its ends may not set a level. -/
def isDirective (s : List Char) : Bool :=
  let bare := trim s
  let levels := bare.length == s.length
  match bare with
  | '[' :: rest => isSpan levels rest
  | c :: rest => startsTarget c && isTarget levels rest
  | [] => false

/-- Whether a text is a list of directives; empty ones are passed over. -/
def isValid (text : String) : Bool :=
  ((splitAt ',' text.toList).filter (!·.isEmpty)).all isDirective

end DocQuery.LogFilter
