import DocQuery.Client.Basic
import DocQuery.Proofs.Query.ColumnProjection
import DocQuery.Proofs.Value.LooseEquality
import DocQuery.Store.Memory

/-! # Inserting and finding a document

What a document with one literal holds once it is inserted, and which documents a query finds.

* `Memory.insertMany_single` — one document is appended to its collection.
* `Document.getPath?_inserted` — the column of the inserted document.
* `FindQuery.mem_run` — without window and projection a query finds each document that passes.
-/

namespace DocQuery

open DocQuery.Text

variable {docs found : List Document} {doc : Document} {filter : Filter}

/-! ## Inserting -/

/-- The document that an INSERT of one literal makes. -/
def Document.ofLiteral (column : String) (literal : Literal) : Document :=
  ⟨[(column, literal.toValue)]⟩

theorem Client.rowDocument_single (column : String) (literal : Literal) :
    rowDocument [column] [literal] = .ofLiteral column literal := rfl

namespace Memory

theorem store_insertMany (ids : IdSupply) : (store ids).insertMany = insertMany ids := rfl

theorem store_find (ids : IdSupply) (collection : String) (query : FindQuery) (m : Memory) :
    (store ids).find collection query m = (ofQuery (query.run (m.documents collection)), m) := rfl

theorem ofQuery_eq_ok {α : Type} {result : Except QueryError α} {a : α}
    (succeeds : ofQuery result = .ok a) : result = .ok a := by
  cases result <;> cases succeeds
  rfl

theorem insertMany_single {ids : IdSupply} {collection : String} {n : Nat} {m after : Memory}
    (inserted : insertMany ids collection [doc] m = (.ok n, after)) :
    after.documents collection = m.documents collection ++ [doc.ensureId (ids m.issued)] := by
  unfold insertMany at inserted
  split at inserted
  · cases inserted
  · cases inserted
    simp [documents, setDocuments]

end Memory

namespace Document

variable {column : String} {literal : Literal} {fresh : ObjectId}

theorem get?_inserted (column : String) (literal : Literal) (fresh : ObjectId) :
    ((ofLiteral column literal).ensureId fresh).get? column = some literal.toValue := by
  have written : (ofLiteral column literal).get? column = some literal.toValue := by
    simp [ofLiteral, get?, Named.get?]
  unfold ensureId
  split
  · exact written
  · rename_i noId
    have other : column ≠ idField := by
      rintro rfl
      simp [id?, written] at noId
    rw [get?, insert, Named.get?_insert_of_ne other]
    exact written

/-- Apart from its column the document has a fresh identifier at most. -/
theorem get?_inserted_of_ne (literal : Literal) (fresh : ObjectId) {name : String}
    (other : name ≠ column) :
    ((ofLiteral column literal).ensureId fresh).get? name = none ∨
      ((ofLiteral column literal).ensureId fresh).get? name = some (.objectId fresh) := by
  have absent : (ofLiteral column literal).get? name = none := by
    simp [ofLiteral, get?, Named.get?, Ne.symm other]
  unfold ensureId
  split
  · exact .inl absent
  · by_cases identifier : name = idField
    · rw [identifier, get?_insert_self]
      exact .inr rfl
    · rw [get?, insert, Named.get?_insert_of_ne identifier]
      exact .inl absent

/-- A path with a point leads nowhere in the document. -/
theorem getPath?_inserted_of_mem (pointed : '.' ∈ column.toList) :
    ((ofLiteral column literal).ensureId fresh).getPath? column = none := by
  obtain ⟨first, second, others, parts, pointless⟩ := splitAt_of_mem pointed
  have other : String.ofList first ≠ column := by
    rintro same
    rw [← same, String.toList_ofList] at pointed
    exact pointless pointed
  rw [getPath?, segments, parts]
  rcases get?_inserted_of_ne literal fresh other with none | identifier
  · rw [get?] at none
    simp [Value.descend, none]
  · rw [get?] at identifier
    simp [Value.descend, identifier]

/-- What is inserted at a field, or as null, is what the path of the column compares as equal. -/
theorem fieldEquals_inserted (direct : '.' ∉ column.toList ∨ literal = .null) :
    fieldEquals (((ofLiteral column literal).ensureId fresh).getPath? column) literal.toValue =
      true := by
  by_cases pointed : '.' ∈ column.toList
  · obtain rfl := direct.resolve_left (not_not_intro pointed)
    rw [getPath?_inserted_of_mem pointed]
    rfl
  · rw [getPath?_eq_get? pointed, get?_inserted]
    exact literal.fieldEquals_toValue

end Document

/-! ## Finding -/

theorem Filter.mem_select (selected : filter.select docs = .ok found) (member : doc ∈ docs)
    (passes : filter.test doc = .ok true) : doc ∈ found := by
  induction docs generalizing found with
  | nil => cases member
  | cons first rest ih =>
    cases tested : filter.test first with
    | error e => simp [select, tested, bind, Except.bind] at selected
    | ok found =>
      cases others : filter.select rest with
      | error e => simp [select, tested, others, bind, Except.bind] at selected
      | ok later =>
        simp only [select, tested, others, bind, Except.bind, Except.ok.injEq] at selected
        subst selected
        rcases List.mem_cons.mp member with rfl | member
        · cases tested.symm.trans passes
          exact List.mem_cons_self
        · split
          · exact List.mem_cons_of_mem first (ih others member)
          · exact ih others member

theorem mem_sortDocuments (keys : SortKeys) : doc ∈ sortDocuments keys docs ↔ doc ∈ docs :=
  (List.mergeSort_perm docs _).mem_iff

/-- Without window and projection, each document that passes is found. -/
theorem FindQuery.mem_run {sort : Option SortKeys}
    (ran : FindQuery.run ⟨filter, none, sort, none, none⟩ docs = .ok found) (member : doc ∈ docs)
    (passes : filter.test doc = .ok true) : doc ∈ found := by
  cases selected : filter.select docs with
  | error e => simp [run, selected, bind, Except.bind] at ran
  | ok kept =>
    have known := Filter.mem_select selected member passes
    simp only [run, selected, bind, Except.bind, window, Option.getD_none, List.drop_zero, pure,
      Except.pure, Except.ok.injEq] at ran
    subst ran
    cases sort with
    | none => exact known
    | some keys => exact (mem_sortDocuments keys).mpr known

end DocQuery
