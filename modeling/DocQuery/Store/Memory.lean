import DocQuery.Execute.Run
import DocQuery.Store.Basic

/-! # A store in memory

Every collection is a list of documents. A collection comes into being with the first insertion.

* `Memory` — the state.
* `Memory.insertMany`, `Memory.updateMany`, `Memory.deleteMany` — the writing operations.
* `Memory.store` — all operations.
* `Memory.ofJson` — a state from JSON.
-/

namespace DocQuery

/-- The collections, and how many identifiers have been given out. -/
structure Memory where
  collections : Named (List Document)
  issued : Nat
  deriving Inhabited

abbrev IdSupply := Nat → ObjectId

namespace Memory

def empty : Memory := ⟨[], 0⟩

/-- The documents of a collection; none when there is no such collection. -/
def documents (m : Memory) (collection : String) : List Document :=
  (Named.get? collection m.collections).getD []

def setDocuments (m : Memory) (collection : String) (docs : List Document) : Memory :=
  { m with collections := Named.insert collection docs m.collections }

/-- A failure of an operation that cannot be carried out. -/
def refused (detail : String) : StoreError := ⟨.invalidOperation, detail⟩

def ofQuery {α : Type} : Except QueryError α → Except StoreError α
  | .ok a => .ok a
  | .error e => .error (refused e.message)

/-! ## Operations -/

def assignIds (ids : IdSupply) : Nat → List Document → List Document × Nat
  | issued, [] => ([], issued)
  | issued, doc :: rest =>
    let next := if doc.id?.isSome then issued else issued + 1
    let (docs, last) := assignIds ids next rest
    (doc.ensureId (ids issued) :: docs, last)

/-- The first document that cannot be kept, if there is one. -/
def checkAll : List Document → Except StoreError Unit
  | [] => .ok ()
  | doc :: rest =>
    match doc.validate with
    | .ok () => checkAll rest
    | .error e => .error (refused e.message)

/-- Appends documents to a collection; all of them or none. -/
def insertMany (ids : IdSupply) (collection : String) (docs : List Document) :
    StoreStep Memory Nat := fun m =>
  match checkAll docs with
  | .error e => (.error e, m)
  | .ok () =>
    let (added, issued) := assignIds ids m.issued docs
    let m := m.setDocuments collection (m.documents collection ++ added)
    (.ok docs.length, { m with issued := issued })

/-- Sets fields one after the other, up to the first that fails. -/
def setFields : Named Value → Document → Document × Option DocumentError
  | [], doc => (doc, none)
  | (path, value) :: rest, doc =>
    match doc.setPath path value with
    | .ok changed => setFields rest changed
    | .error e => (doc, some e)

/-- Documents after an update, how many changed, and the failure that ended it. -/
structure Updated where
  docs : List Document
  changed : Nat
  failure : Option DocumentError

/-- Updates the flagged documents in order, up to the first failure. -/
def updateFlagged (set : Named Value) : List (Bool × Document) → Updated
  | [] => ⟨[], 0, none⟩
  | (false, doc) :: rest =>
    let others := updateFlagged set rest
    { others with docs := doc :: others.docs }
  | (true, doc) :: rest =>
    match setFields set doc with
    -- the later documents stay as they are, the earlier ones have been changed
    | (changed, some e) => ⟨changed :: rest.map (·.2), 0, some e⟩
    | (changed, none) =>
      let others := updateFlagged set rest
      ⟨changed :: others.docs, others.changed + (if changed.same doc then 0 else 1),
        others.failure⟩

def flag (filter : Filter) (docs : List Document) : Except QueryError (List (Bool × Document)) :=
  docs.mapM fun doc => return (← filter.test doc, doc)

/--
Sets fields in the documents that pass. The documents are found before any is changed; a failure
later leaves the changes that were made before it.
-/
def updateMany (collection : String) (filter : Filter) (set : Named Value) :
    StoreStep Memory Nat := fun m =>
  match Named.get? collection m.collections with
  | none => (.ok 0, m)
  | some docs =>
    match ofQuery (flag filter docs) with
    | .error e => (.error e, m)
    | .ok flagged =>
      let updated := updateFlagged set flagged
      let m := m.setDocuments collection updated.docs
      match updated.failure with
      | some e => (.error (refused e.message), m)
      | none => (.ok updated.changed, m)

def deleteMany (collection : String) (filter : Filter) : StoreStep Memory Nat := fun m =>
  match Named.get? collection m.collections with
  | none => (.ok 0, m)
  | some docs =>
    match ofQuery (flag filter docs) with
    | .error e => (.error e, m)
    | .ok flagged =>
      -- every test has succeeded before a document goes
      let kept := (flagged.filter (!·.1)).map (·.2)
      (.ok (docs.length - kept.length), m.setDocuments collection kept)

def countDocuments (collection : String) (filter : Filter) : StoreStep Memory Nat := fun m =>
  (ofQuery ((filter.select (m.documents collection)).map (·.length)), m)

def store (ids : IdSupply) : Store Memory where
  find collection query m := (ofQuery (query.run (m.documents collection)), m)
  aggregate collection stages m := (ofQuery (Pipeline.run stages (m.documents collection)), m)
  insertMany := insertMany ids
  updateMany := updateMany
  deleteMany := deleteMany
  countDocuments := countDocuments
  collectionNames m := (.ok (Named.keys m.collections), m)

/-- Removes a collection; whether there was one. -/
def dropCollection (m : Memory) (collection : String) : Bool × Memory :=
  (Named.contains collection m.collections,
    { m with collections := Named.erase collection m.collections })

/-! ## JSON -/

def decodeAll : List Json → Except StoreError (List Document)
  | [] => .ok []
  | json :: rest =>
    match Document.ofJson json with
    | .error e => .error (refused e.message)
    | .ok doc => (decodeAll rest).map (doc :: ·)

def fill (ids : IdSupply) : List (String × Json) → Memory → Except StoreError Memory
  | [], m => .ok m
  | (name, .array items) :: rest, m => do
    let docs ← decodeAll items
    match insertMany ids name docs m with
    | (.ok _, m) => fill ids rest m
    | (.error e, _) => .error e
  | (name, _) :: _, _ => .error (refused ("collection '" ++ name ++ "' must be an array"))

def ofJson (ids : IdSupply) : Json → Except StoreError Memory
  | .object members => fill ids members empty
  | _ => .error (refused "seed must be an object of collections")

def toJson (m : Memory) : Json :=
  .object (m.collections.map fun (name, docs) => (name, .array (docs.map Document.toJson)))

end Memory

end DocQuery
