import DocQuery.Proofs.Execute.Pages
import DocQuery.Proofs.Store.FailedUpdate
import DocQuery.Proofs.Store.FoundDocument

/-! # Deleting what is counted

Counting, finding and deleting go by the same flags: each document of a collection is tested once,
in order, and the first test that fails ends the operation. So what is deleted is what was counted.

* `Memory.select_eq_flag` — a selection in terms of the flags.
* `Memory.replace` — other documents for a collection, if there is one.
* `Memory.deleteMany_of_tested`, `Memory.countDocuments_of_tested` — where every test succeeds.
* `delete_removes_counted` — counting, deleting, and doing both again.
-/

namespace DocQuery

namespace Memory

variable {collection other : String} {filter : Filter} {m : Memory} {docs : List Document}

/-! ## Flags -/

/-- What is selected are the documents that are flagged. -/
theorem select_eq_flag (filter : Filter) (docs : List Document) :
    filter.select docs = (flag filter docs).map passing := by
  induction docs with
  | nil => rfl
  | cons doc rest ih =>
    rw [flag_cons, Filter.select, ih]
    cases filter.test doc with
    | error e => rfl
    | ok passes =>
      cases flag filter rest with
      | error e => rfl
      | ok flagged => cases passes <;> rfl

theorem flag_of_tested (tested : ∀ doc ∈ docs, ∃ passes, filter.test doc = .ok passes) :
    flag filter docs = .ok (docs.map fun doc => (filter.passes doc, doc)) := by
  cases flagged : flag filter docs with
  | error e =>
    obtain ⟨doc, member, fails⟩ := flag_error flagged
    obtain ⟨passes, result⟩ := tested doc member
    cases result.symm.trans fails
  | ok pairs => rw [(flag_ok flagged).1]

theorem flag_of_select_error {e : QueryError} (selected : filter.select docs = .error e) :
    flag filter docs = .error e := by
  rw [select_eq_flag] at selected
  cases flagged : flag filter docs with
  | error cause => rw [flagged] at selected; cases selected; rfl
  | ok pairs => rw [flagged] at selected; cases selected

/-- The documents that are not flagged. -/
theorem unflagged_map (filter : Filter) (docs : List Document) :
    ((docs.map fun doc => (filter.passes doc, doc)).filter (!·.1)).map (·.2) =
      docs.filter (!filter.passes ·) := by
  rw [List.filter_map, List.map_map]
  exact List.map_id _

theorem length_sub_length_filter (passes : Document → Bool) (docs : List Document) :
    docs.length - (docs.filter (!passes ·)).length = docs.countP passes := by
  rw [List.length_eq_countP_add_countP passes, ← List.countP_eq_length_filter]
  simp

/-! ## Other documents for a collection -/

/-- The store with other documents in a collection; a collection that is missing stays missing. -/
def replace (m : Memory) (collection : String) (docs : List Document) : Memory :=
  if Named.contains collection m.collections then m.setDocuments collection docs else m

theorem documents_of_missing (missing : ¬ Named.contains collection m.collections = true) :
    m.documents collection = [] := by
  rw [Named.contains, Option.not_isSome_iff_eq_none] at missing
  rw [documents, missing]
  rfl

/-- Nothing can be made of the documents of a missing collection. -/
theorem documents_replace (empty : m.documents collection = [] → docs = []) :
    (m.replace collection docs).documents collection = docs := by
  rw [replace]
  split
  · exact documents_setDocuments_self m collection docs
  · rename_i missing
    rw [empty (documents_of_missing missing), documents_of_missing missing]

theorem get?_replace_of_ne (different : other ≠ collection) (m : Memory) (docs : List Document) :
    Named.get? other (m.replace collection docs).collections = Named.get? other m.collections := by
  rw [replace]
  split
  · exact Named.get?_insert_of_ne different _ _
  · rfl

theorem replace_replace (m : Memory) (collection : String) (earlier docs : List Document) :
    (m.replace collection earlier).replace collection docs = m.replace collection docs := by
  by_cases held : Named.contains collection m.collections = true
  · have there :
        Named.contains collection (m.setDocuments collection earlier).collections = true := by
      simp [Named.contains, setDocuments]
    rw [replace, replace, replace, if_pos held, if_pos there, if_pos held]
    simp [setDocuments]
  · simp [replace, held]

/-! ## Where every test succeeds -/

theorem countDocuments_of_tested
    (tested : ∀ doc ∈ m.documents collection, ∃ passes, filter.test doc = .ok passes) :
    countDocuments collection filter m =
      (.ok ((m.documents collection).countP filter.passes), m) := by
  rw [countDocuments, select_eq_flag, flag_of_tested tested, List.countP_eq_length_filter,
    ← passing_map]
  rfl

/-- Of a collection that does not exist nothing is deleted, like of an empty one. -/
theorem deleteMany_of_tested
    (tested : ∀ doc ∈ m.documents collection, ∃ passes, filter.test doc = .ok passes) :
    deleteMany collection filter m =
      (.ok ((m.documents collection).countP filter.passes),
        m.replace collection ((m.documents collection).filter (!filter.passes ·))) := by
  unfold deleteMany
  cases found : Named.get? collection m.collections with
  | none =>
    have empty : m.documents collection = [] := by simp [documents, found]
    simp [empty, replace, Named.contains, found]
  | some docs =>
    have held : m.documents collection = docs := by simp [documents, found]
    rw [held] at tested ⊢
    simp [flag_of_tested tested, ofQuery, unflagged_map, length_sub_length_filter, replace,
      Named.contains, found]

theorem tested_of_countDocuments {n : Nat}
    (counted : (countDocuments collection filter m).1 = .ok n) :
    ∀ doc ∈ m.documents collection, ∃ passes, filter.test doc = .ok passes := by
  intro doc member
  cases flagged : flag filter (m.documents collection) with
  | error e =>
    rw [countDocuments, select_eq_flag, flagged] at counted
    cases counted
  | ok pairs => exact ⟨_, (flag_ok flagged).2 doc member⟩

/-! ## Where a test fails -/

/-- All three operations end with the error of the selection, and nothing is changed. -/
theorem fails_of_select_error {e : QueryError}
    (selected : filter.select (m.documents collection) = .error e) :
    countDocuments collection filter m = (.error (refused e.message), m) ∧
      deleteMany collection filter m = (.error (refused e.message), m) ∧
      ∀ ids query, query.filter = filter →
        (store ids).find collection query m = (.error (refused e.message), m) := by
  refine ⟨by rw [countDocuments, selected]; rfl, ?_, fun ids query same => ?_⟩
  · unfold deleteMany
    cases found : Named.get? collection m.collections with
    | none => simp [documents, found, Filter.select] at selected
    | some docs =>
      have held : m.documents collection = docs := by simp [documents, found]
      rw [held] at selected
      simp only [flag_of_select_error selected, ofQuery]
  · have ran : query.run (m.documents collection) = .error e := by
      rw [FindQuery.run, same, selected]
      rfl
    rw [store_find, ran]
    rfl

end Memory

open Memory in
/-- Where the filter can be tested on all documents of a collection, deleting removes exactly as
many as are counted: what is left are the documents that do not pass, in their order, and no other
collection changes; after that nothing is counted, and nothing is deleted again. Where the filter
cannot be tested on some document, counting, deleting and finding fail with the error of the first
such document, and nothing changes. -/
theorem delete_removes_counted (m : Memory) (collection : String) (filter : Filter) :
    (∀ n, (countDocuments collection filter m).1 = .ok n →
      (∀ doc ∈ m.documents collection, filter.test doc = .ok (filter.passes doc)) ∧
      ∃ after, deleteMany collection filter m = (.ok n, after) ∧
        after.documents collection = (m.documents collection).filter (!filter.passes ·) ∧
        (∀ other, other ≠ collection →
          Named.get? other after.collections = Named.get? other m.collections) ∧
        countDocuments collection filter after = (.ok 0, after) ∧
        deleteMany collection filter after = (.ok 0, after)) ∧
    ((∃ doc ∈ m.documents collection, ∃ e, filter.test doc = .error e) →
      ∃ e, (∃ before doc rest, m.documents collection = before ++ doc :: rest ∧
          (∀ earlier ∈ before, ∃ passes, filter.test earlier = .ok passes) ∧
          filter.test doc = .error e) ∧
        countDocuments collection filter m = (.error (refused e.message), m) ∧
        deleteMany collection filter m = (.error (refused e.message), m) ∧
        ∀ ids query, query.filter = filter →
          (store ids).find collection query m = (.error (refused e.message), m)) := by
  constructor
  · intro n counted
    have tested := tested_of_countDocuments counted
    have number : (m.documents collection).countP filter.passes = n := by
      rw [countDocuments_of_tested tested] at counted
      exact Except.ok.inj counted
    have deleted := deleteMany_of_tested tested
    obtain ⟨kept, isKept⟩ : ∃ kept, kept = (m.documents collection).filter (!filter.passes ·) :=
      ⟨_, rfl⟩
    rw [number, ← isKept] at deleted
    have left : (m.replace collection kept).documents collection = kept :=
      documents_replace fun empty => by rw [isKept, empty, List.filter_nil]
    have fails : ∀ doc ∈ kept, doc ∈ m.documents collection ∧ (!filter.passes doc) = true := by
      intro doc member
      rw [isKept] at member
      exact List.mem_filter.mp member
    -- the tests of the documents that are left have succeeded before
    have testedLeft : ∀ doc ∈ (m.replace collection kept).documents collection,
        ∃ passes, filter.test doc = .ok passes := by
      rw [left]
      exact fun doc member => tested doc (fails doc member).1
    have nothing : kept.countP filter.passes = 0 :=
      List.countP_eq_zero.mpr fun doc member => by simpa using (fails doc member).2
    have same : kept.filter (!filter.passes ·) = kept :=
      List.filter_eq_self.mpr fun doc member => (fails doc member).2
    refine ⟨(flag_ok (flag_of_tested tested)).2, m.replace collection kept, deleted,
      left.trans isKept, fun other different => get?_replace_of_ne different m _, ?_, ?_⟩
    · rw [countDocuments_of_tested testedLeft, left, nothing]
    · rw [deleteMany_of_tested testedLeft, left, nothing, same, replace_replace]
  · rintro ⟨doc, member, e, fails⟩
    obtain ⟨before, doc, rest, e, parts, tested, fails⟩ := Filter.exists_first_error member fails
    have selected : filter.select (m.documents collection) = .error e := by
      rw [parts]
      exact Filter.select_of_error tested fails
    exact ⟨e, ⟨before, doc, rest, parts, tested, fails⟩, fails_of_select_error selected⟩

namespace Memory

/-- Three documents, of which the first and the last have one value. -/
def interleaved : Memory :=
  ⟨[("t", [⟨[("a", .bool true)]⟩, ⟨[("a", .string "x")]⟩, ⟨[("a", .bool true)]⟩])], 0⟩

end Memory

open Memory in
/-- The first and the last of three documents are deleted; a malformed pattern fails on the second
one only. -/
theorem delete_removes_interleaved :
    (∃ after, deleteMany "t" (.compare .eq "a" (.bool true)) interleaved = (.ok 2, after) ∧
      after.documents "t" = [⟨[("a", .string "x")]⟩] ∧
      countDocuments "t" (.compare .eq "a" (.bool true)) after = (.ok 0, after)) ∧
    ∃ e, countDocuments "t" (.pattern "a" "[" none) interleaved = (.error e, interleaved) ∧
      deleteMany "t" (.pattern "a" "[" none) interleaved = (.error e, interleaved) := by
  have counted :
      (countDocuments "t" (.compare .eq "a" (.bool true)) interleaved).1 = .ok 2 := rfl
  have fails : ∃ doc ∈ interleaved.documents "t", ∃ e,
      Filter.test doc (.pattern "a" "[" none) = .error e :=
    ⟨⟨[("a", .string "x")]⟩, by simp [interleaved, documents, Named.get?], .badPattern "[", by rfl⟩
  obtain ⟨-, after, deleted, left, -, nothing, -⟩ :=
    (delete_removes_counted interleaved "t" (.compare .eq "a" (.bool true))).1 2 counted
  obtain ⟨e, -, failed, alike, -⟩ :=
    (delete_removes_counted interleaved "t" (.pattern "a" "[" none)).2 fails
  exact ⟨⟨after, deleted, left, nothing⟩, _, failed, alike⟩

end DocQuery
