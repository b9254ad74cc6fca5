import DocQuery.Proofs.Store.NestingLimit
import DocQuery.Proofs.Value.NamedEntries
import DocQuery.Client.Basic

/-! # Rows in the store

What a row of an INSERT becomes, and what an insertion into the store in memory changes.

* `Document.IsRow` — a document with the values of a row in its columns, and an identifier.
* `Client.isRow_rowDocument` — the document of a row, once it has an identifier.
* `Memory.insertMany_of_valid` — documents that are kept are appended, and nothing else changes.
-/

namespace DocQuery

/-! ## The document of a row -/

namespace Document

/-- The fields are the columns and the identifier, with the values of the row in its columns. The
identifier is a fresh one, unless it is a column. -/
structure IsRow (columns : List String) (values : List Value) (fresh : ObjectId)
    (doc : Document) : Prop where
  sorted : Named.Sorted doc.fields
  names : ∀ name, name ∈ Named.keys doc.fields ↔ name ∈ columns ∨ name = idField
  values : ∀ entry ∈ columns.zip values, doc.get? entry.1 = some entry.2
  identifier : idField ∉ columns → doc.get? idField = some (.objectId fresh)

variable {columns : List String} {values : List Value}

theorem get?_ofList_zip (different : columns.Nodup) (fits : columns.length = values.length)
    {entry : String × Value} (member : entry ∈ columns.zip values) :
    (ofList (columns.zip values)).get? entry.1 = some entry.2 := by
  refine Named.get?_ofList_of_mem ?_ member
  rwa [List.map_fst_zip fits.le]

theorem isSome_get?_ofList_zip (different : columns.Nodup) (fits : columns.length = values.length)
    (name : String) : ((ofList (columns.zip values)).get? name).isSome = true ↔ name ∈ columns := by
  have names : (columns.zip values).map (·.1) = columns := List.map_fst_zip fits.le
  constructor
  · intro found
    by_contra absent
    rw [← names] at absent
    rw [get?, ofList, Named.get?_ofList_of_notMem absent] at found
    cases found
  · intro listed
    rw [← names, List.mem_map] at listed
    obtain ⟨entry, member, rfl⟩ := listed
    rw [get?_ofList_zip different fits member]
    rfl

theorem isRow_ensureId (different : columns.Nodup) (fits : columns.length = values.length)
    (fresh : ObjectId) :
    ((ofList (columns.zip values)).ensureId fresh).IsRow columns values fresh := by
  have hasId := isSome_get?_ofList_zip different fits idField
  unfold ensureId
  split
  · rename_i given
    have listed : idField ∈ columns := hasId.mp given
    exact {
      sorted := Named.sorted_ofList _
      names name := by
        rw [Named.mem_keys_iff, ← get?, isSome_get?_ofList_zip different fits]
        exact ⟨.inl, fun here => here.elim id fun same => same ▸ listed⟩
      values entry member := get?_ofList_zip different fits member
      identifier absent := absurd listed absent }
  · rename_i given
    have absent : idField ∉ columns := fun listed => given (hasId.mpr listed)
    exact {
      sorted := Named.sorted_insert (Named.sorted_ofList _)
      names name := by
        rw [Named.mem_keys_iff]
        by_cases same : name = idField
        · subst same
          simp [insert]
        · simp only [insert, Named.get?_insert_of_ne same, same, or_false]
          exact isSome_get?_ofList_zip different fits name
      values entry member := by
        have other : entry.1 ≠ idField := fun same =>
          absent (same ▸ (List.of_mem_zip member).1)
        rw [get?, insert, Named.get?_insert_of_ne other]
        exact get?_ofList_zip different fits member
      identifier _ := Named.get?_insert_self idField _ _ }

/-- Values that do not nest make a document that can be kept. -/
theorem validate_ofList {entries : List (String × Value)}
    (flat : ∀ entry ∈ entries, entry.2.depth = 0) : (ofList entries).validate = .ok () := by
  have depth (fields : List (String × Value)) (flat : ∀ entry ∈ fields, entry.2.depth = 0) :
      Value.depthFields fields = 0 := by
    induction fields with
    | nil => rfl
    | cons entry rest ih =>
      obtain ⟨first, others⟩ := List.forall_mem_cons.mp flat
      rw [Value.depthFields, first, ih others]
      rfl
  have whole := depth (Named.ofList entries) fun entry member =>
    flat entry (Named.mem_of_mem_ofList member)
  rw [validate, Document.depth, ofList, whole]
  rfl

end Document

theorem Literal.depth_toValue (literal : Literal) : literal.toValue.depth = 0 := by
  cases literal <;> rfl

namespace Client

variable {columns : List String} {row : List Literal}

/-- The document of a row, with an identifier. -/
theorem isRow_rowDocument (different : columns.Nodup) (fits : columns.length = row.length)
    (fresh : ObjectId) : ((rowDocument columns row).ensureId fresh).IsRow columns
      (row.map Literal.toValue) fresh :=
  Document.isRow_ensureId different (by rw [fits, List.length_map]) fresh

theorem id?_rowDocument (different : columns.Nodup) (fits : columns.length = row.length) :
    (rowDocument columns row).id?.isSome = decide (idField ∈ columns) := by
  rw [Bool.eq_iff_iff, decide_eq_true_iff]
  exact Document.isSome_get?_ofList_zip different (by rw [fits, List.length_map]) idField

theorem validate_rowDocument (columns : List String) (row : List Literal) :
    (rowDocument columns row).validate = .ok () := by
  refine Document.validate_ofList fun entry member => ?_
  obtain ⟨literal, -, same⟩ := List.mem_map.mp (List.of_mem_zip member).2
  rw [← same, literal.depth_toValue]

end Client

/-! ## Insertion -/

namespace Memory

variable {docs : List Document} {ids : IdSupply}

theorem checkAll_of_valid (valid : ∀ doc ∈ docs, doc.validate = .ok ()) :
    checkAll docs = .ok () := by
  induction docs with
  | nil => rfl
  | cons doc rest ih =>
    obtain ⟨first, others⟩ := List.forall_mem_cons.mp valid
    rw [checkAll, first]
    exact ih others

theorem length_assignIds (ids : IdSupply) (issued : Nat) (docs : List Document) :
    (assignIds ids issued docs).1.length = docs.length := by
  induction docs generalizing issued with
  | nil => rfl
  | cons doc rest ih => exact congrArg (· + 1) (ih _)

/-- Where all documents have an identifier, or none has, the identifiers are given out in order. -/
theorem getElem?_assignIds {given : Bool} (alike : ∀ doc ∈ docs, doc.id?.isSome = given)
    (issued place : Nat) : (assignIds ids issued docs).1[place]? =
      docs[place]?.map fun doc => doc.ensureId (ids (issued + place)) := by
  -- an identifier is used up for each document or for none, so a place tells which one is next
  induction docs generalizing issued place with
  | nil => rfl
  | cons doc rest ih =>
    obtain ⟨first, others⟩ := List.forall_mem_cons.mp alike
    cases place with
    | zero => rfl
    | succ place =>
      have later := ih others (if doc.id?.isSome then issued else issued + 1) place
      rw [assignIds, List.getElem?_cons_succ, List.getElem?_cons_succ, later]
      cases found : rest[place]? with
      | none => rfl
      | some doc =>
        have same := others doc (List.mem_of_getElem? found)
        rw [first]
        cases given with
        | true => simp [Document.ensureId, same]
        | false => simp [Nat.add_assoc, Nat.add_comm 1]

/-- All documents are appended, and no other collection changes. -/
theorem insertMany_of_valid (ids : IdSupply) (collection : String) (m : Memory)
    (valid : ∀ doc ∈ docs, doc.validate = .ok ()) :
    ∃ after, insertMany ids collection docs m = (.ok docs.length, after) ∧
      after.documents collection = m.documents collection ++ (assignIds ids m.issued docs).1 ∧
      ∀ other, other ≠ collection →
        Named.get? other after.collections = Named.get? other m.collections := by
  refine ⟨_, by rw [insertMany, checkAll_of_valid valid], ?_, fun other different => ?_⟩
  · exact documents_setDocuments_self m collection _
  · exact Named.get?_insert_of_ne different _ m.collections

end Memory

end DocQuery
