import DocQuery.Error
import DocQuery.Text.Quoting
import DocQuery.Query.Find

/-! # Reading ORDER BY

* `castKey?`, `plainKey?` — the two shapes of a sort key.
* `readOrder` — the keys of a clause.
-/

namespace DocQuery.OrderBy

open DocQuery.Text

/-- Reads an optional direction, to the end of the text: whether it descends. -/
def direction? (s : List Char) : Option Bool :=
  match s with
  | [] => some false
  | _ => do
    let word ← blanks? s
    let rest ← (keyword? "ASC" word) <|> (keyword? "DESC" word)
    if rest.isEmpty then some (eqIgnoreCase (String.ofList word) "DESC") else none

/-- A key that converts a field, as written: field, type and direction. -/
def castKey? (s : List Char) : Option (String × String × Bool) := do
  let s ← char? '(' (skipBlanks (← keyword? "CAST" s))
  let (field, s) ← path? (skipBlanks s)
  let (target, s) ← word? (← blanks? (← keyword? "AS" (← blanks? s)))
  let s ← char? ')' (skipBlanks s)
  some (String.ofList field, String.ofList target, ← direction? s)

/-- A plain key, as written: field and direction. -/
def plainKey? (s : List Char) : Option (String × Bool) := do
  let (field, s) ← path? s
  some (String.ofList field, ← direction? s)

/-- Reads one sort key; `resolve` gives the path of a field. -/
def readKey (resolve : String → String) (s : List Char) : Except SqlError SortKey :=
  let text := String.ofList s
  match castKey? s with
  | some (field, target, descending) =>
    match CastTarget.ofName? target with
    | some cast => .ok ⟨resolve field, some cast, descending⟩
    | none => .error (.malformed .unknownCast text)
  | none =>
    match plainKey? s with
    | some (field, descending) => .ok ⟨resolve field, none, descending⟩
    | none => .error (.malformed .badSortKey text)

end DocQuery.OrderBy

namespace DocQuery

open OrderBy in
/-- Reads the sort keys between the commas of a clause; empty pieces are passed over. -/
def readOrder (resolve : String → String) (clause : String) : Except SqlError SortKeys :=
  ((Text.splitList clause.toList).filter (!·.isEmpty)).mapM (readKey resolve)

end DocQuery
