import DocQuery.Value.Json

/-! # Documents

A document is a map from field names to values. Paths with points reach into objects and, by
position, into arrays.

* `Document.get?`, `Document.getPath?` — reading.
* `Document.setPath` — writing along a path, creating objects on the way.
* `Document.validate` — the limit on nesting.
* `Document.toJson`, `Document.ofJson` — extended JSON.
-/

namespace DocQuery

open DocQuery.Text DocQuery.Number

/-- A map from field names to values. -/
structure Document where
  fields : Named Value
  deriving Inhabited

def idField : String := "_id"

def maxNesting : Nat := 16

/-- Why a document cannot be changed or kept. -/
inductive DocumentError
  | nestingTooDeep (depth : Nat)
  /-- A segment of the path is empty. -/
  | emptySegment (path : String)
  /-- A value before the last two segments is not an object. -/
  | throughNonObject
  /-- The value before the last segment is not an object. -/
  | parentNotObject
  deriving DecidableEq

def DocumentError.message : DocumentError → String
  | .nestingTooDeep depth =>
    "Nesting too deep: " ++ toString depth ++ " levels (max: " ++ toString maxNesting ++ ")"
  | .emptySegment path => "Invalid path: " ++ path
  | .throughNonObject => "Invalid path: path traverses non-object"
  | .parentNotObject => "Invalid path: parent is not an object"

def segments (path : String) : List String :=
  (splitAt '.' path.toList).map String.ofList

def Value.descend (value : Value) : List String → Option Value
  | [] => some value
  | segment :: rest =>
    match value with
    | .object fields => (Named.get? segment fields).bind fun v => v.descend rest
    | .array items =>
      (parseNat? wordBound segment.toList).bind fun i => items[i]?.bind fun v => v.descend rest
    | _ => none

/-- Sets the value at the end of a list of segments, creating missing objects on the way. -/
def setSegments (value : Value) : List String → Named Value → Except DocumentError (Named Value)
  | [], fields => .ok fields
  | [name], fields => .ok (Named.insert name value fields)
  | name :: next :: rest, fields =>
    match Named.get? name fields with
    | none => do
      let inner ← setSegments value (next :: rest) []
      .ok (Named.insert name (.object inner) fields)
    | some (.object inner) => do
      let inner ← setSegments value (next :: rest) inner
      .ok (Named.insert name (.object inner) fields)
    | some _ => .error (if rest.isEmpty then .parentNotObject else .throughNonObject)

namespace Document

def empty : Document := ⟨[]⟩

def ofList (fields : List (String × Value)) : Document := ⟨Named.ofList fields⟩

def get? (d : Document) (name : String) : Option Value := Named.get? name d.fields

def insert (d : Document) (name : String) (value : Value) : Document :=
  ⟨Named.insert name value d.fields⟩

def erase (d : Document) (name : String) : Document := ⟨Named.erase name d.fields⟩

def id? (d : Document) : Option Value := d.get? idField

/-- The document with the given identifier, unless it has one. -/
def ensureId (d : Document) (fresh : ObjectId) : Document :=
  if d.id?.isSome then d else d.insert idField (.objectId fresh)

def getPath? (d : Document) (path : String) : Option Value :=
  (Value.object d.fields).descend (segments path)

def setPath (d : Document) (path : String) (value : Value) : Except DocumentError Document :=
  let parts := segments path
  if parts.any (·.isEmpty) then .error (.emptySegment path)
  else (setSegments value parts d.fields).map .mk

def depth (d : Document) : Nat := Value.depthFields d.fields

def validate (d : Document) : Except DocumentError Unit :=
  if maxNesting < d.depth then .error (.nestingTooDeep d.depth) else .ok ()

def same (a b : Document) : Bool := Value.sameFields a.fields b.fields

def toJson (d : Document) : Json := .object (Value.toJsonFields d.fields)

def ofJson (json : Json) : Except DecodeError Document := do
  match ← Value.ofJson json with
  | .object fields => .ok ⟨fields⟩
  | _ => .error .notAnObject

end Document

end DocQuery
