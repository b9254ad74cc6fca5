import DocQuery.Document
import DocQuery.Query.Pipeline

/-! # Grouping

Documents are grouped in one pass. Two documents are in one group when their keys are written
alike, and the groups come in the order in which their keys first appear.

* `GroupKey.value` — the key of a document.
* `Tally` — an accumulator at work.
* `Group`, `groupDocuments` — the groups and their outputs.
-/

namespace DocQuery

open DocQuery.Number

/-- The key of a document; a missing field counts as null. -/
def GroupKey.value (key : GroupKey) (doc : Document) : Value :=
  match key with
  | .constant => .int64 1
  | .fields names =>
    .object (Named.ofList (names.map fun f => (f, (doc.getPath? f).getD .null)))
  | .root => .object doc.fields

/-! ## Tallies -/

/-- What an accumulator has seen. -/
inductive Tally
  | count (n : Nat)
  /-- Integers are added up exactly as long as the sum fits; the rest is added up as doubles. -/
  | sum (whole : Int) (rest : Float) (isFloat : Bool)
  | avg (total : Float) (inputs : Nat)
  | min (least : Option Value)
  | max (greatest : Option Value)
  | first (value : Option Value)

namespace Tally

def start : Accumulator → Tally
  | .count => .count 0
  | .sum _ => .sum 0 0.0 false
  | .avg _ => .avg 0.0 0
  | .min _ => .min none
  | .max _ => .max none
  | .first _ => .first none

def addWhole (whole : Int) (rest : Float) (isFloat : Bool) (n : Int) : Tally :=
  if fitsInt (whole + n) then .sum (whole + n) rest isFloat
  else .sum whole (rest + Binary64.ofInt n) true

/-- Keeps the value if it is better than the one so far, and not null. -/
def keepBetter (better : Ordering) (current : Option Value) (found : Option Value) :
    Option Value :=
  match found with
  | none => current
  | some v =>
    if v.isNull then current
    else match current with
      | none => some v
      -- of equal values the first stays
      | some c => if v.compare c == better then some v else some c

/-- The tally after one more document, given the value of its field. -/
def feed (found : Option Value) : Tally → Tally
  | .count n => .count (n + 1)
  | .sum whole rest isFloat =>
    match found with
    | some (.int32 n) => addWhole whole rest isFloat n.toInt
    | some (.int64 n) => addWhole whole rest isFloat n.toInt
    | some (.float x) => .sum whole (rest + x) true
    | _ => .sum whole rest isFloat
  | .avg total inputs =>
    match found.bind Value.asFloat? with
    | some x => .avg (total + x) (inputs + 1)
    | none => .avg total inputs
  | .min current => .min (keepBetter .lt current found)
  | .max current => .max (keepBetter .gt current found)
  | .first current => .first (current <|> some (found.getD .null))

def result : Tally → Value
  | .count n => .int64 (Int64.ofNat n)
  | .sum whole rest isFloat =>
    if isFloat then .float (rest + Binary64.ofInt whole) else .int64 (Int64.ofInt whole)
  | .avg total inputs => if inputs == 0 then .null else .float (total / Binary64.ofInt inputs)
  | .min v | .max v | .first v => v.getD .null

end Tally

/-! ## Groups -/

/-- A group: its key, how the key is written, and a tally for each output. -/
structure Group where
  written : String
  key : Value
  tallies : List Tally

namespace Group

def write (key : Value) : String := key.toJson.text

def start (outputs : List (String × Accumulator)) (key : Value) : Group :=
  ⟨write key, key, outputs.map fun output => Tally.start output.2⟩

def input (doc : Document) (acc : Accumulator) : Option Value := acc.field?.bind doc.getPath?

def feed (outputs : List (String × Accumulator)) (doc : Document) (g : Group) : Group :=
  let tallies := outputs.zipWith (fun output tally => tally.feed (input doc output.2)) g.tallies
  ⟨g.written, g.key, tallies⟩

/-- Puts a document into its group, which is made if there is none yet. -/
def place (outputs : List (String × Accumulator)) (key : Value) (doc : Document) :
    List Group → List Group
  | [] => [(start outputs key).feed outputs doc]
  | g :: rest =>
    -- keys are compared as they are written, not as values
    if g.written == write key then g.feed outputs doc :: rest
    else g :: place outputs key doc rest

/-- The document of a group: its key as identifier, then the outputs. -/
def toDocument (outputs : List (String × Accumulator)) (g : Group) : Document :=
  (List.zip outputs g.tallies).foldl
    (fun doc (output, tally) => doc.insert output.1 tally.result)
    (Document.empty.insert idField g.key)

end Group

def groupDocuments (key : GroupKey) (outputs : List (String × Accumulator))
    (docs : List Document) : List Document :=
  let groups := docs.foldl (fun groups doc => Group.place outputs (key.value doc) doc groups) []
  groups.map (Group.toDocument outputs)

end DocQuery
