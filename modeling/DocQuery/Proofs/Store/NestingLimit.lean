import DocQuery.Proofs.Query.ColumnProjection
import DocQuery.Proofs.Store.FailedUpdate
import DocQuery.Proofs.Value.Nesting

/-! # The limit on nesting

A store in memory that is written to again and again. Documents are tried before they are inserted,
and neither the removal of documents nor that of a collection makes one nest deeper. Only an update
can: its assignments are written without a look at the limit. It keeps the limit exactly if what
the written documents hold at the assigned paths does.

* `Memory.Write`, `Memory.afterAll` — the writing operations, and a run of them.
* `Memory.withinLimit_after_iff` — which single operation keeps the limit.
* `nesting_limit_of_writes` — which runs keep it, and assignments with which every run does.
* `nesting_limit_can_break` — an update that does not.
-/

namespace DocQuery

/-! ## Documents -/

/-- The objects on the way to the end of a path. -/
def pathDepth (path : String) : Nat := (segments path).length - 1

namespace Document

/-- What the document holds at a path nests within the limit. -/
def FitsAt (doc : Document) (path : String) : Prop :=
  ∀ value, (Value.object doc.fields).HasAt (segments path) value →
    pathDepth path + value.depth ≤ maxNesting

variable {doc changed : Document} {path : String} {value : Value}

theorem length_segments (path : String) : (segments path).length = pathDepth path + 1 := by
  have nonempty := List.length_pos_iff.mpr (segments_ne_nil path)
  rw [pathDepth]
  omega

theorem validate_eq_ok_iff : doc.validate = .ok () ↔
    (Value.object doc.fields).depth ≤ maxNesting + 1 := by
  rw [validate, Value.depth, depth]
  split <;> simp <;> omega

theorem fitsAt_of_validate (valid : doc.validate = .ok ()) (path : String) : doc.FitsAt path := by
  intro value held
  have bound := held.depth_le.trans (validate_eq_ok_iff.mp valid)
  rw [length_segments] at bound
  omega

theorem validate_ensureId (valid : doc.validate = .ok ()) (fresh : ObjectId) :
    (doc.ensureId fresh).validate = .ok () := by
  unfold ensureId
  split
  · exact valid
  · rw [validate_eq_ok_iff, Value.depth_le_iff_leaves] at valid ⊢
    intro place leaf held isLeaf
    rcases Value.hasAt_of_insert isLeaf held with ⟨rest, rfl, below⟩ | before
    · -- the new leaf is the identifier itself
      have flat : rest.length + leaf.depth ≤ 0 := below.depth_le
      rw [List.length_cons, maxNesting]
      omega
    · exact valid place leaf before isLeaf

theorem hasAt_of_setPath (written : doc.setPath path value = .ok changed) {place : List String}
    {leaf : Value} (isLeaf : leaf.IsLeaf) (held : (Value.object changed.fields).HasAt place leaf) :
    (∃ rest, place = segments path ++ rest ∧ value.HasAt rest leaf) ∨
      (Value.object doc.fields).HasAt place leaf := by
  simp only [setPath] at written
  split at written
  · cases written
  · cases below : setSegments value (segments path) doc.fields with
    | error e => rw [below] at written; cases written
    | ok fields =>
      rw [below] at written
      cases written
      exact Value.hasAt_of_setSegments below (segments_ne_nil path) isLeaf held

end Document

namespace Memory

open Document

/-- A leaf of a document to which assignments have been written is a leaf of one of the values at
its path, or it was there before. -/
theorem hasAt_of_setFields {set : Named Value} {doc : Document} {place : List String} {leaf : Value}
    (isLeaf : leaf.IsLeaf)
    (held : (Value.object (setFields set doc).1.fields).HasAt place leaf) :
    (∃ entry ∈ set, ∃ rest, place = segments entry.1 ++ rest ∧ entry.2.HasAt rest leaf) ∨
      (Value.object doc.fields).HasAt place leaf := by
  induction set generalizing doc with
  | nil => exact .inr held
  | cons entry set ih =>
    rw [setFields] at held
    split at held
    · rename_i changed written
      rcases ih held with ⟨later, member, found⟩ | before
      · exact .inl ⟨later, List.mem_cons_of_mem _ member, found⟩
      · rcases hasAt_of_setPath written isLeaf before with found | before
        · exact .inl ⟨entry, List.mem_cons_self, found⟩
        · exact .inr before
    · exact .inr held

/-- The written document is within the limit if the leaves below the assigned paths are. -/
theorem validate_setFields_of_leaves {set : Named Value} {doc : Document}
    (valid : doc.validate = .ok ())
    (assigned : ∀ entry ∈ set, ∀ rest leaf,
      (Value.object (setFields set doc).1.fields).HasAt (segments entry.1 ++ rest) leaf →
      entry.2.HasAt rest leaf → pathDepth entry.1 + (rest.length + leaf.depth) ≤ maxNesting) :
    (setFields set doc).1.validate = .ok () := by
  rw [validate_eq_ok_iff, Value.depth_le_iff_leaves] at valid ⊢
  intro place leaf held isLeaf
  rcases hasAt_of_setFields isLeaf held with ⟨entry, member, rest, rfl, below⟩ | before
  · have bound := assigned entry member rest leaf held below
    rw [List.length_append, length_segments]
    omega
  · exact valid place leaf before isLeaf

/-- The written document is within the limit if what it holds at the assigned paths is. -/
theorem validate_setFields {set : Named Value} {doc : Document} (valid : doc.validate = .ok ())
    (fits : ∀ entry ∈ set, (setFields set doc).1.FitsAt entry.1) :
    (setFields set doc).1.validate = .ok () := by
  refine validate_setFields_of_leaves valid fun entry member rest leaf held _ => ?_
  obtain ⟨value, there, below⟩ := Value.hasAt_append.mp held
  exact (Nat.add_le_add_left below.depth_le _).trans (fits entry member value there)

/-- And so it is if every assignment is, taken by itself. -/
theorem validate_setFields_of_shallow {set : Named Value} {doc : Document}
    (valid : doc.validate = .ok ())
    (shallow : ∀ entry ∈ set, pathDepth entry.1 + entry.2.depth ≤ maxNesting) :
    (setFields set doc).1.validate = .ok () :=
  validate_setFields_of_leaves valid fun entry member _ _ _ below =>
    (Nat.add_le_add_left below.depth_le _).trans (shallow entry member)

/-! ## Operations -/

/-- The operations that change a store. -/
inductive Write
  | insert (collection : String) (docs : List Document)
  | update (collection : String) (filter : Filter) (set : Named Value)
  | delete (collection : String) (filter : Filter)
  | drop (collection : String)

/-- The store after an operation, whether or not it has failed. -/
def after (ids : IdSupply) (m : Memory) : Write → Memory
  | .insert collection docs => (insertMany ids collection docs m).2
  | .update collection filter set => (updateMany collection filter set m).2
  | .delete collection filter => (deleteMany collection filter m).2
  | .drop collection => (m.dropCollection collection).2

def afterAll (ids : IdSupply) (m : Memory) (writes : List Write) : Memory :=
  writes.foldl (after ids) m

theorem afterAll_concat (ids : IdSupply) (m : Memory) (writes : List Write) (write : Write) :
    m.afterAll ids (writes ++ [write]) = (m.afterAll ids writes).after ids write := by
  simp [afterAll]

/-- Every document is within the limit. -/
def WithinLimit (m : Memory) : Prop :=
  ∀ collection, ∀ doc ∈ m.documents collection, doc.validate = .ok ()

/-- What the documents of a store hold at the paths that an update assigns is within the limit. -/
def Write.FitsIn (m : Memory) : Write → Prop
  | .update collection _ set => ∀ doc ∈ m.documents collection, ∀ entry ∈ set, doc.FitsAt entry.1
  | _ => True

section Operations

variable {m after : Memory} {ids : IdSupply} {collection : String} {docs : List Document}
  {filter : Filter} {set : Named Value}

theorem withinLimit_empty : empty.WithinLimit := by
  simp [WithinLimit, documents, empty]

theorem withinLimit_setDocuments (within : m.WithinLimit)
    (valid : ∀ doc ∈ docs, doc.validate = .ok ()) :
    (m.setDocuments collection docs).WithinLimit := by
  intro name
  by_cases here : name = collection
  · rwa [here, documents_setDocuments_self]
  · rw [documents_setDocuments_of_ne here]
    exact within name

theorem validate_of_checkAll (checked : checkAll docs = .ok ()) :
    ∀ doc ∈ docs, doc.validate = .ok () := by
  induction docs with
  | nil => simp
  | cons doc rest ih =>
    rw [checkAll] at checked
    split at checked
    · rename_i valid
      exact List.forall_mem_cons.mpr ⟨valid, ih checked⟩
    · cases checked

theorem validate_assignIds (valid : ∀ doc ∈ docs, doc.validate = .ok ()) (issued : Nat) :
    ∀ doc ∈ (assignIds ids issued docs).1, doc.validate = .ok () := by
  induction docs generalizing issued with
  | nil => simp [assignIds]
  | cons doc rest ih =>
    obtain ⟨first, others⟩ := List.forall_mem_cons.mp valid
    exact List.forall_mem_cons.mpr ⟨validate_ensureId first _, ih others _⟩

theorem withinLimit_insertMany (within : m.WithinLimit) :
    (insertMany ids collection docs m).2.WithinLimit := by
  unfold insertMany
  split
  · exact within
  · rename_i checked
    have added : ∀ doc ∈ (assignIds ids m.issued docs).1, doc.validate = .ok () :=
      validate_assignIds (validate_of_checkAll checked) m.issued
    have together : ∀ doc ∈ m.documents collection ++ (assignIds ids m.issued docs).1,
        doc.validate = .ok () := List.forall_mem_append.mpr ⟨within collection, added⟩
    exact withinLimit_setDocuments within together

theorem withinLimit_deleteMany (within : m.WithinLimit) :
    (deleteMany collection filter m).2.WithinLimit := by
  unfold deleteMany
  split
  · exact within
  · rename_i docs found
    have held : m.documents collection = docs := by simp [documents, found]
    cases flagged : flag filter docs with
    | error cause => exact within
    | ok pairs =>
      refine withinLimit_setDocuments within fun doc member => within collection doc ?_
      rw [held]
      rw [(flag_ok flagged).1] at member
      simp only [List.mem_map, List.mem_filter] at member
      obtain ⟨_, ⟨⟨original, there, rfl⟩, -⟩, rfl⟩ := member
      exact there

theorem withinLimit_dropCollection (within : m.WithinLimit) :
    (m.dropCollection collection).2.WithinLimit := by
  intro name doc member
  by_cases here : name = collection
  · simp [documents, dropCollection, here, Named.get?_erase_self] at member
  · refine within name doc ?_
    simpa [documents, dropCollection, Named.get?_erase_of_ne here] using member

theorem mem_updateFlagged {flagged : List (Bool × Document)} {doc : Document}
    (member : doc ∈ (updateFlagged set flagged).docs) :
    ∃ original ∈ flagged.map (·.2), doc = original ∨ doc = (setFields set original).1 := by
  induction flagged with
  | nil => simp [updateFlagged] at member
  | cons entry rest ih =>
    obtain ⟨passes, first⟩ := entry
    cases passes with
    | false =>
      rcases List.mem_cons.mp member with rfl | later
      · exact ⟨doc, by simp, .inl rfl⟩
      · obtain ⟨original, there, outcome⟩ := ih later
        exact ⟨original, List.mem_cons_of_mem _ there, outcome⟩
    | true =>
      cases written : setFields set first with
      | mk changed failure =>
        have result : changed = (setFields set first).1 := by rw [written]
        rw [updateFlagged, written] at member
        cases failure with
        | some e =>
          -- the documents behind the one that failed are left as they were
          rcases List.mem_cons.mp member with rfl | later
          · exact ⟨first, by simp, .inr result⟩
          · exact ⟨doc, List.mem_cons_of_mem _ later, .inl rfl⟩
        | none =>
          rcases List.mem_cons.mp member with rfl | later
          · exact ⟨first, by simp, .inr result⟩
          · obtain ⟨original, there, outcome⟩ := ih later
            exact ⟨original, List.mem_cons_of_mem _ there, outcome⟩

/-- An update leaves everything as it was or writes its assignments to some documents. -/
theorem updateMany_cases (collection : String) (filter : Filter) (set : Named Value) (m : Memory) :
    (updateMany collection filter set m).2 = m ∨
      ∃ docs, (updateMany collection filter set m).2 = m.setDocuments collection docs ∧
        ∀ doc ∈ docs, ∃ original ∈ m.documents collection,
          doc = original ∨ doc = (setFields set original).1 := by
  unfold updateMany
  split
  · exact .inl rfl
  · rename_i docs found
    have held : m.documents collection = docs := by simp [documents, found]
    cases flagged : flag filter docs with
    | error cause => exact .inl rfl
    | ok pairs =>
      refine .inr ⟨(updateFlagged set pairs).docs, ?_, fun doc member => ?_⟩
      · simp only [ofQuery]
        split <;> rfl
      · obtain ⟨original, there, outcome⟩ := mem_updateFlagged member
        rw [(flag_ok flagged).1, List.map_map] at there
        rw [held]
        exact ⟨original, by simpa using there, outcome⟩

/-- An update keeps the limit if the documents are within it that it has written to. -/
theorem withinLimit_updateMany (within : m.WithinLimit)
    (written : ∀ original ∈ m.documents collection,
      (setFields set original).1 ∈ (updateMany collection filter set m).2.documents collection →
      (setFields set original).1.validate = .ok ()) :
    (updateMany collection filter set m).2.WithinLimit := by
  rcases updateMany_cases collection filter set m with same | ⟨docs, outcome, origin⟩
  · rwa [same]
  · rw [outcome] at written ⊢
    rw [documents_setDocuments_self] at written
    refine withinLimit_setDocuments within fun doc member => ?_
    obtain ⟨original, there, rfl | rfl⟩ := origin doc member
    · exact within collection doc there
    · exact written original there member

/-- A single operation keeps the limit exactly if it is no update, or what the documents then hold
at the assigned paths is within the limit. -/
theorem withinLimit_after_iff (within : m.WithinLimit) (write : Write) :
    (m.after ids write).WithinLimit ↔ write.FitsIn (m.after ids write) := by
  cases write with
  | insert collection docs => exact iff_of_true (withinLimit_insertMany within) trivial
  | delete collection filter => exact iff_of_true (withinLimit_deleteMany within) trivial
  | drop collection => exact iff_of_true (withinLimit_dropCollection within) trivial
  | update collection filter set =>
    constructor
    · intro kept doc member entry _
      exact fitsAt_of_validate (kept collection doc member) entry.1
    · intro fits
      exact withinLimit_updateMany within fun original there member =>
        validate_setFields (within collection original there) (fits _ member)

/-- No assignment of the operation is too deep by itself. -/
def Write.IsShallow : Write → Prop
  | .update _ _ set => ∀ entry ∈ set, pathDepth entry.1 + entry.2.depth ≤ maxNesting
  | _ => True

theorem withinLimit_after_of_isShallow (within : m.WithinLimit) {write : Write}
    (shallow : write.IsShallow) : (m.after ids write).WithinLimit := by
  cases write with
  | insert collection docs => exact withinLimit_insertMany within
  | delete collection filter => exact withinLimit_deleteMany within
  | drop collection => exact withinLimit_dropCollection within
  | update collection filter set =>
    exact withinLimit_updateMany within fun original there _ =>
      validate_setFields_of_shallow (within collection original there) shallow

theorem withinLimit_fill {members : List (String × Json)} (within : m.WithinLimit)
    (filled : fill ids members m = .ok after) : after.WithinLimit := by
  fun_induction fill ids members m with
  | case1 m =>
    cases filled
    exact within
  | case2 name items rest m ih =>
    cases decoded : decodeAll items with
    | error e => rw [decoded] at filled; cases filled
    | ok docs =>
      have kept : (insertMany ids name docs m).2.WithinLimit := withinLimit_insertMany within
      rcases inserted : insertMany ids name docs m with ⟨result, next⟩
      rw [inserted] at kept
      simp only [decoded, inserted, bind, Except.bind] at filled
      cases result with
      | error e => cases filled
      | ok count => exact ih next kept filled
  | case3 => cases filled

theorem withinLimit_ofJson {json : Json} (read : ofJson ids json = .ok after) :
    after.WithinLimit := by
  cases json with
  | object members => exact withinLimit_fill withinLimit_empty read
  | _ => cases read

/-- Every state of a run is within the limit exactly if each of its operations fits. -/
theorem withinLimit_afterAll_iff (within : m.WithinLimit) (writes : List Write) :
    (∀ earlier, earlier <+: writes → (m.afterAll ids earlier).WithinLimit) ↔
      ∀ earlier write, earlier ++ [write] <+: writes →
        write.FitsIn (m.afterAll ids (earlier ++ [write])) := by
  constructor
  · intro kept earlier write begins
    have before : (m.afterAll ids earlier).WithinLimit :=
      kept earlier ((List.prefix_append earlier [write]).trans begins)
    have here : (m.afterAll ids (earlier ++ [write])).WithinLimit := kept _ begins
    rw [afterAll_concat] at here ⊢
    exact (withinLimit_after_iff before write).mp here
  · -- the operations that have been carried out grow by one at a time
    intro fits earlier
    induction earlier using List.reverseRecOn with
    | nil => exact fun _ => within
    | append_singleton earlier write ih =>
      intro begins
      have before := ih ((List.prefix_append earlier [write]).trans begins)
      have fitsHere := fits earlier write begins
      rw [afterAll_concat] at fitsHere ⊢
      exact (withinLimit_after_iff before write).mpr fitsHere

theorem withinLimit_afterAll_of_isShallow (within : m.WithinLimit) {writes : List Write}
    (shallow : ∀ write ∈ writes, write.IsShallow) : (m.afterAll ids writes).WithinLimit := by
  induction writes generalizing m with
  | nil => exact within
  | cons write rest ih =>
    obtain ⟨first, others⟩ := List.forall_mem_cons.mp shallow
    exact ih (withinLimit_after_of_isShallow within first) others

end Operations

/-- The store is empty or has been read from JSON. -/
def IsInitial (ids : IdSupply) (m : Memory) : Prop := m = .empty ∨ ∃ json, ofJson ids json = .ok m

theorem IsInitial.withinLimit {ids : IdSupply} {m : Memory} (initial : m.IsInitial ids) :
    m.WithinLimit := by
  rcases initial with rfl | ⟨json, read⟩
  · exact withinLimit_empty
  · exact withinLimit_ofJson read

end Memory

open Memory in
/-- All documents stay within the limit on nesting through all of a run of writing operations
exactly if, after every update of the run, what the documents of its collection hold at the
assigned paths is within the limit. They do in particular, whatever else is done, if no assignment
has more levels above and in its value than are allowed. -/
theorem nesting_limit_of_writes {ids : IdSupply} {start : Memory} (initial : start.IsInitial ids)
    (writes : List Write) :
    ((∀ earlier, earlier <+: writes → (start.afterAll ids earlier).WithinLimit) ↔
      ∀ earlier collection filter set, earlier ++ [.update collection filter set] <+: writes →
        ∀ doc ∈ (start.afterAll ids (earlier ++ [.update collection filter set])).documents
          collection, ∀ entry ∈ set, doc.FitsAt entry.1) ∧
      ((∀ collection filter set, .update collection filter set ∈ writes →
          ∀ entry ∈ set, pathDepth entry.1 + entry.2.depth ≤ maxNesting) →
        ∀ earlier, earlier <+: writes → (start.afterAll ids earlier).WithinLimit) := by
  constructor
  · rw [withinLimit_afterAll_iff initial.withinLimit]
    constructor
    · exact fun fits earlier collection filter set => fits earlier (.update collection filter set)
    · intro fits earlier write begins
      cases write with
      | update collection filter set => exact fits earlier collection filter set begins
      | _ => trivial
  · intro shallow earlier begins
    refine withinLimit_afterAll_of_isShallow initial.withinLimit fun write member => ?_
    cases write with
    | update collection filter set => exact shallow collection filter set (begins.mem member)
    | _ => trivial

/-! ## Updates of one document -/

namespace Memory

def single : Document := ⟨[("_id", .null)]⟩

def holding (doc : Document) : Memory := ⟨[("t", [doc])], 0⟩

/-- A document is inserted, and then a field of it is set to Null. -/
def insertAndSet (path : String) : List Write :=
  [.insert "t" [single], .update "t" .empty [(path, .null)]]

theorem afterAll_insertAndSet {path : String} {changed : Document}
    (written : single.setPath path .null = .ok changed) (ids : IdSupply) :
    empty.afterAll ids (insertAndSet path) = holding changed := by
  have inserted : empty.after ids (.insert "t" [single]) = holding single := rfl
  have flagged : flag .empty [single] = .ok [(true, single)] := rfl
  simp only [afterAll, insertAndSet, List.foldl_cons, List.foldl_nil, inserted]
  simp [after, updateMany, holding, Named.get?, flagged, ofQuery, updateFlagged, setFields, written,
    setDocuments, Named.insert]

/-- A path of eighteen segments. -/
def longPath : String := "a.b.c.d.e.f.g.h.i.j.k.l.m.n.o.p.q.r"

theorem segments_longPath : segments longPath = ["a", "b", "c", "d", "e", "f", "g", "h", "i", "j",
    "k", "l", "m", "n", "o", "p", "q", "r"] := by
  rfl

theorem setPath_longPath : ∃ changed, single.setPath longPath .null = .ok changed ∧
    changed.validate = .error (.nestingTooDeep 17) := by
  simp only [Document.setPath, segments_longPath]
  exact ⟨_, rfl, rfl⟩

/-- Every identifier that is given out is the same. -/
def sameIds : IdSupply := fun _ => .nil

theorem isInitial_holding_single : (holding single).IsInitial sameIds :=
  .inr ⟨.object [("t", .array [.object [("_id", .null)]])], rfl⟩

end Memory

open Memory in
/-- A field below two others can be set within the limit. -/
theorem nesting_limit_of_three_segments :
    (holding single).IsInitial sameIds ∧ ∀ earlier, earlier <+: insertAndSet "a.b.c" →
      ((holding single).afterAll sameIds earlier).WithinLimit := by
  refine ⟨isInitial_holding_single, (nesting_limit_of_writes isInitial_holding_single _).2 ?_⟩
  intro collection filter set member entry assigned
  have update : Write.update collection filter set = .update "t" .empty [("a.b.c", .null)] := by
    simpa [insertAndSet] using member
  cases update
  rw [List.mem_singleton.mp assigned]
  decide

open Memory in
/-- An update can leave a document that nests too deeply. -/
theorem nesting_limit_can_break :
    ¬ ∀ (ids : IdSupply) (start : Memory), start.IsInitial ids → ∀ writes : List Write,
      (start.afterAll ids writes).WithinLimit := by
  intro kept
  obtain ⟨changed, written, tooDeep⟩ := setPath_longPath
  have within := kept sameIds empty (.inl rfl) (insertAndSet longPath) "t" changed
  rw [afterAll_insertAndSet written, tooDeep] at within
  cases within List.mem_cons_self

end DocQuery
