import DocQuery.Store.Memory

/-! # Failed updates

What an update that fails leaves behind. The filter is evaluated on every document before anything
is written, so its failure changes nothing. The assignments are not tried out beforehand: those
that come before the one that fails have been written when it does.

* `Memory.reached` — the matching documents that an update writes to.
* `failed_update_unchanged_iff` — when a failed update leaves everything as it was.
* `failed_update_can_write` — that it does not always do so.
-/

namespace DocQuery

/-! ## Flags -/

/-- Whether a document passes a filter; it does not if the filter cannot be evaluated. -/
def Filter.passes (filter : Filter) (doc : Document) : Bool :=
  match filter.test doc with
  | .ok passes => passes
  | .error _ => false

namespace Memory

theorem flag_cons (filter : Filter) (doc : Document) (rest : List Document) :
    flag filter (doc :: rest) = (do
      let passes ← filter.test doc
      let others ← flag filter rest
      return (passes, doc) :: others) := by
  simp [flag]

theorem flag_error {filter : Filter} {docs : List Document} {e : QueryError}
    (failed : flag filter docs = .error e) : ∃ doc ∈ docs, filter.test doc = .error e := by
  induction docs with
  | nil => cases failed
  | cons doc rest ih =>
    -- the first test that fails is the error of them all
    rw [flag_cons] at failed
    cases tested : filter.test doc with
    | error cause =>
      rw [tested] at failed
      cases failed
      exact ⟨doc, List.mem_cons_self, tested⟩
    | ok passes =>
      rw [tested] at failed
      cases flagged : flag filter rest with
      | error cause =>
        rw [flagged] at failed ih
        cases failed
        obtain ⟨other, member, otherTested⟩ := ih rfl
        exact ⟨other, List.mem_cons_of_mem _ member, otherTested⟩
      | ok others =>
        rw [flagged] at failed
        cases failed

theorem flag_ok {filter : Filter} {docs : List Document} {flagged : List (Bool × Document)}
    (given : flag filter docs = .ok flagged) :
    flagged = docs.map (fun doc => (filter.passes doc, doc)) ∧
      ∀ doc ∈ docs, filter.test doc = .ok (filter.passes doc) := by
  induction docs generalizing flagged with
  | nil =>
    cases given
    exact ⟨rfl, by simp⟩
  | cons doc rest ih =>
    rw [flag_cons] at given
    cases tested : filter.test doc with
    | error cause => rw [tested] at given; cases given
    | ok passes =>
      have same : filter.passes doc = passes := by simp [Filter.passes, tested]
      rw [tested] at given
      cases flaggedRest : flag filter rest with
      | error cause => rw [flaggedRest] at given; cases given
      | ok others =>
        rw [flaggedRest] at given
        cases given
        obtain ⟨mapped, every⟩ := ih flaggedRest
        refine ⟨by rw [List.map_cons, same, mapped], fun other member => ?_⟩
        cases member with
        | head => rw [tested, same]
        | tail _ member => exact every other member

/-! ## Documents that are written to -/

/-- The documents that are written to: all up to the first on which an assignment fails. -/
def reached (set : Named Value) : List Document → List Document
  | [] => []
  | doc :: rest => if (setFields set doc).2.isSome then [doc] else doc :: reached set rest

/-- The passing documents of flagged ones. -/
def passing (flagged : List (Bool × Document)) : List Document :=
  (flagged.filter (·.1)).map (·.2)

theorem passing_map (filter : Filter) (docs : List Document) :
    passing (docs.map fun doc => (filter.passes doc, doc)) = docs.filter filter.passes := by
  induction docs with
  | nil => rfl
  | cons doc rest ih =>
    simp only [passing] at ih ⊢
    rw [List.map_cons, List.filter_cons, List.filter_cons]
    split
    · rw [List.map_cons, ih]
    · exact ih

/-- An update changes no document exactly if none of those it writes to is changed by what is
written to it. -/
theorem updateFlagged_docs_iff (set : Named Value) (flagged : List (Bool × Document)) :
    (updateFlagged set flagged).docs = flagged.map (·.2) ↔
      ∀ doc ∈ reached set (passing flagged), (setFields set doc).1 = doc := by
  induction flagged with
  | nil => simp [updateFlagged, passing, reached]
  | cons entry rest ih =>
    obtain ⟨flag, doc⟩ := entry
    cases flag with
    | false =>
      simp only [passing] at ih
      simpa [updateFlagged, passing] using ih
    | true =>
      have passes : passing ((true, doc) :: rest) = doc :: passing rest := by
        simp [passing]
      -- the document is written to in any case; the rest only if every assignment succeeded
      rw [passes, reached, updateFlagged]
      cases written : setFields set doc with
      | mk changed failure =>
        cases failure with
        | some e => simp [written]
        | none => simp [written, ih]

/-! ## Views -/

@[simp] theorem documents_setDocuments_self (m : Memory) (collection : String)
    (docs : List Document) : (m.setDocuments collection docs).documents collection = docs := by
  simp [documents, setDocuments]

theorem documents_setDocuments_of_ne {collection other : String} (different : other ≠ collection)
    (m : Memory) (docs : List Document) :
    (m.setDocuments collection docs).documents other = m.documents other := by
  simp only [documents, setDocuments]
  rw [Named.get?_insert_of_ne different]

theorem documents_setDocuments_eq_iff (m : Memory) (collection : String) (docs : List Document) :
    (∀ name, (m.setDocuments collection docs).documents name = m.documents name) ↔
      docs = m.documents collection := by
  constructor
  · intro same
    rw [← same collection, documents_setDocuments_self]
  · intro same name
    by_cases here : name = collection
    · rw [here, documents_setDocuments_self, same]
    · exact documents_setDocuments_of_ne here m docs

theorem updateMany_error {m after : Memory} {collection : String} {filter : Filter}
    {set : Named Value} {e : StoreError}
    (failed : updateMany collection filter set m = (.error e, after)) :
    ((∃ cause, flag filter (m.documents collection) = .error cause) ∧ after = m) ∨
      ∃ flagged, flag filter (m.documents collection) = .ok flagged ∧
        after = m.setDocuments collection (updateFlagged set flagged).docs := by
  unfold updateMany at failed
  cases found : Named.get? collection m.collections with
  | none => simp [found] at failed
  | some docs =>
    have held : m.documents collection = docs := by simp [documents, found]
    rw [held]
    simp only [found] at failed
    cases given : flag filter docs with
    | error cause =>
      -- nothing has been written while documents are flagged
      rw [given] at failed
      simp only [ofQuery, Prod.mk.injEq] at failed
      exact .inl ⟨⟨cause, rfl⟩, failed.2.symm⟩
    | ok flagged =>
      rw [given] at failed
      simp only [ofQuery] at failed
      refine .inr ⟨flagged, rfl, ?_⟩
      split at failed
      · exact (congrArg Prod.snd failed).symm
      · cases failed

end Memory

open Memory in
/-- An update that fails leaves every collection as it was exactly if the filter could not be
evaluated on some document, or else nothing changed by writing the assignments, up to the first
that fails, to each matching document, up to the first on which one fails. Other collections are
left as they were in any case. -/
theorem failed_update_unchanged_iff {m after : Memory} {collection : String} {filter : Filter}
    {set : Named Value} {e : StoreError}
    (failed : updateMany collection filter set m = (.error e, after)) :
    ((∀ name, after.documents name = m.documents name) ↔
      (∃ doc ∈ m.documents collection, ∃ cause, filter.test doc = .error cause) ∨
        ∀ doc ∈ reached set ((m.documents collection).filter filter.passes),
          (setFields set doc).1 = doc) ∧
      ∀ other, other ≠ collection → after.documents other = m.documents other := by
  rcases updateMany_error failed with ⟨⟨cause, flagged⟩, unchanged⟩ | ⟨flagged, given, written⟩
  · subst unchanged
    obtain ⟨doc, member, tested⟩ := flag_error flagged
    exact ⟨⟨fun _ => .inl ⟨doc, member, cause, tested⟩, fun _ _ => rfl⟩, fun _ _ => rfl⟩
  · obtain ⟨mapped, tested⟩ := flag_ok given
    subst written
    refine ⟨?_, fun other different => documents_setDocuments_of_ne different _ _⟩
    have originals : flagged.map (·.2) = m.documents collection := by
      rw [mapped, List.map_map]
      exact List.map_id _
    rw [documents_setDocuments_eq_iff, ← originals, updateFlagged_docs_iff, originals, mapped,
      passing_map]
    constructor
    · exact .inr
    · -- the flags were given, so no test can have failed
      rintro (⟨doc, member, cause, failure⟩ | same)
      · rw [tested doc member] at failure
        cases failure
      · exact same

/-! ## An update that stops halfway -/

namespace Memory

/-- A collection in which only the first of two documents can take a field below `a`. -/
def mixed : Memory :=
  ⟨[("t", [⟨[("a", .object [])]⟩, ⟨[("a", .bool true)]⟩])], 0⟩

/-- The same collection with the field written to the first document. -/
def halfWritten : Memory :=
  ⟨[("t", [⟨[("a", .object [("b", .null)])]⟩, ⟨[("a", .bool true)]⟩])], 0⟩

theorem updateMany_mixed :
    updateMany "t" .empty [("a.b", .null)] mixed =
      (.error (refused DocumentError.parentNotObject.message), halfWritten) := by
  rfl

end Memory

open Memory in
/-- At a collection that is half written the condition fails, and the other ones are kept. -/
theorem failed_update_unchanged_iff_mixed :
    updateMany "t" .empty [("a.b", .null)] mixed =
        (.error (refused DocumentError.parentNotObject.message), halfWritten) ∧
      ((∀ name, halfWritten.documents name = mixed.documents name) ↔
        (∃ doc ∈ mixed.documents "t", ∃ cause, Filter.test doc .empty = .error cause) ∨
          ∀ doc ∈ reached [("a.b", .null)] ((mixed.documents "t").filter Filter.empty.passes),
            (setFields [("a.b", .null)] doc).1 = doc) ∧
      ∀ other, other ≠ "t" → halfWritten.documents other = mixed.documents other :=
  ⟨updateMany_mixed, failed_update_unchanged_iff updateMany_mixed⟩

open Memory in
/-- Not every update that fails leaves everything as it was. -/
theorem failed_update_can_write :
    ¬ ∀ (m after : Memory) (collection : String) (filter : Filter) (set : Named Value)
      (e : StoreError), updateMany collection filter set m = (.error e, after) →
        ∀ name, after.documents name = m.documents name := by
  intro unchanged
  have same := unchanged mixed halfWritten "t" .empty [("a.b", .null)] _ updateMany_mixed "t"
  simp [documents, mixed, halfWritten, Named.get?] at same

end DocQuery
