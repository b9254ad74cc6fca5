import DocQuery.Proofs.Execute.GroupConditions
import DocQuery.Proofs.Execute.Stages

/-! # Pages

A result can be asked for page by page, with an offset that grows by the size of a page. A find
query and a pipeline give the same pages, and the pages in a row are the result.

* `piece` — a part of a list, by its number among parts of one size.
* `wholeQuery`, `pageQuery`, `pagePipeline` — the result at once, and one page of it.
* `Filter.select_of_error` — the first test that fails ends a selection.
* `pages_tile` — the pages in a row, and the failures.
-/

namespace DocQuery

/-! ## Pieces of a list -/

/-- The piece with a number, counted from zero, among the pieces of one size. -/
def piece {α : Type} (size : Nat) (list : List α) (number : Nat) : List α :=
  (list.drop (number * size)).take size

/-- The first pieces in a row are the front of the list. -/
theorem flatMap_piece {α : Type} (size : Nat) (list : List α) (count : Nat) :
    (List.range count).flatMap (piece size list) = list.take (count * size) := by
  induction count with
  | zero => simp
  | succ count ih =>
    rw [List.range_succ, List.flatMap_append, ih, Nat.succ_mul, List.take_add]
    simp [piece]

/-! ## Selections that fail -/

namespace Filter

variable {filter : Filter} {docs before after : List Document} {doc : Document} {e : QueryError}

theorem select_of_error (tested : ∀ earlier ∈ before, ∃ passes, filter.test earlier = .ok passes)
    (fails : filter.test doc = .error e) : filter.select (before ++ doc :: after) = .error e := by
  induction before with
  | nil => simp [select, fails, bind, Except.bind]
  | cons first before ih =>
    obtain ⟨⟨passes, result⟩, others⟩ := List.forall_mem_cons.mp tested
    simp [select, result, ih others, bind, Except.bind]

/-- Of the tests that fail one is the first. -/
theorem exists_first_error (member : doc ∈ docs) (fails : filter.test doc = .error e) :
    ∃ before doc after e, docs = before ++ doc :: after ∧
      (∀ earlier ∈ before, ∃ passes, filter.test earlier = .ok passes) ∧
      filter.test doc = .error e := by
  induction docs with
  | nil => cases member
  | cons first rest ih =>
    cases result : filter.test first with
    | error e => exact ⟨[], first, rest, e, rfl, by simp, result⟩
    | ok passes =>
      rcases List.mem_cons.mp member with rfl | member
      · cases result.symm.trans fails
      · obtain ⟨before, doc, after, e, rfl, tested, fails⟩ := ih member
        exact ⟨first :: before, doc, after, e, rfl,
          List.forall_mem_cons.mpr ⟨⟨passes, result⟩, tested⟩, fails⟩

end Filter

/-! ## Pages of a result -/

/-- All documents that pass, in an order if there is one. -/
def wholeQuery (filter : Filter) (order : Option SortKeys) : FindQuery :=
  { FindQuery.ofFilter filter with sort := order }

/-- One page of them. -/
def pageQuery (filter : Filter) (order : Option SortKeys) (size number : Nat) : FindQuery :=
  { wholeQuery filter order with skip := some (number * size), limit := some size }

/-- The same page from a pipeline. -/
def pagePipeline (filter : Filter) (order : Option SortKeys) (size number : Nat) : Pipeline :=
  .select filter :: ((order.map Stage.sort).toList ++ [.skip (number * size), .limit size])

section runs

variable (filter : Filter) (order : Option SortKeys) {size : Nat} (number : Nat)
  (docs : List Document)

theorem run_wholeQuery :
    (wholeQuery filter order).run docs = (filter.select docs).map (arranged order) := by
  unfold FindQuery.run
  cases order <;>
    cases selected : filter.select docs <;>
      simp [wholeQuery, FindQuery.ofFilter, selected, window, arranged, bind, Except.bind, pure,
        Except.pure, Except.map]

-- a limit of zero is none in a query, and leaves nothing in a pipeline
theorem run_pageQuery (positive : 1 ≤ size) : (pageQuery filter order size number).run docs =
    (filter.select docs).map fun found => piece size (arranged order found) number := by
  have limited : (size == 0) = false := by simpa using Nat.ne_of_gt positive
  unfold FindQuery.run
  cases order <;>
    cases selected : filter.select docs <;>
      simp [pageQuery, wholeQuery, FindQuery.ofFilter, selected, window, limited, piece, arranged,
        bind, Except.bind, pure, Except.pure, Except.map]

theorem run_pagePipeline (size : Nat) : Pipeline.run (pagePipeline filter order size number) docs =
    (filter.select docs).map fun found => piece size (arranged order found) number := by
  cases order <;>
    cases selected : filter.select docs <;>
      simp [pagePipeline, Pipeline.run, Stage.run, selected, piece, arranged, bind, Except.bind,
        Except.map]

end runs

/--
Pages of a positive size tile the result. Where the filter can be tested on all documents, a find
query and a pipeline give the same page for each number, and the first pages in a row are the front
of what the query without a window gives: the documents that pass, in their order. With enough pages
that is all of it. Where the filter cannot be tested on some document, the query, each of its pages
and each pipeline fail with the error of the first such document.
-/
theorem pages_tile (filter : Filter) (order : Option SortKeys) {size : Nat} (positive : 1 ≤ size)
    (docs : List Document) :
    ((∀ doc ∈ docs, ∃ passes, filter.test doc = .ok passes) →
      let whole := arranged order (docs.filter filter.accepts)
      (wholeQuery filter order).run docs = .ok whole ∧
      ∃ pages : Nat → List Document,
        (∀ number, (pageQuery filter order size number).run docs = .ok (pages number) ∧
          Pipeline.run (pagePipeline filter order size number) docs = .ok (pages number)) ∧
        (∀ count, (List.range count).flatMap pages = whole.take (count * size)) ∧
        ∀ count, whole.length ≤ count * size → (List.range count).flatMap pages = whole) ∧
    ((∃ doc ∈ docs, ∃ e, filter.test doc = .error e) →
      ∃ e, (∃ before doc after, docs = before ++ doc :: after ∧
          (∀ earlier ∈ before, ∃ passes, filter.test earlier = .ok passes) ∧
          filter.test doc = .error e) ∧
        (wholeQuery filter order).run docs = .error e ∧
        ∀ number, (pageQuery filter order size number).run docs = .error e ∧
          Pipeline.run (pagePipeline filter order size number) docs = .error e) := by
  constructor
  · intro tested whole
    have selected : filter.select docs = .ok (docs.filter filter.accepts) :=
      Filter.select_eq_filter tested
    refine ⟨?_, piece size whole, fun number => ⟨?_, ?_⟩, flatMap_piece size whole,
      fun count enough => ?_⟩
    · rw [run_wholeQuery, selected]
      rfl
    · rw [run_pageQuery filter order number docs positive, selected]
      rfl
    · rw [run_pagePipeline, selected]
      rfl
    · rw [flatMap_piece, List.take_of_length_le enough]
  · rintro ⟨doc, member, e, fails⟩
    obtain ⟨before, doc, after, e, rfl, tested, fails⟩ := Filter.exists_first_error member fails
    have selected : filter.select (before ++ doc :: after) = .error e :=
      Filter.select_of_error tested fails
    refine ⟨e, ⟨before, doc, after, rfl, tested, fails⟩, ?_, fun number => ⟨?_, ?_⟩⟩
    · rw [run_wholeQuery, selected]
      rfl
    · rw [run_pageQuery filter order number _ positive, selected]
      rfl
    · rw [run_pagePipeline, selected]
      rfl

/-- Five documents in pages of two, of which two have one value; and a malformed pattern, which
fails on the second of three documents only. -/
theorem pages_tile_with_ties :
    let number (n : Int64) (label : String) : Document :=
      ⟨[("a", .int64 n), ("label", .string label)]⟩
    let docs := [number 2 "x", number 1 "first", number 3 "y", number 1 "second", number 2 "z"]
    let above : Filter := .compare .gt "a" (.int64 0)
    let order : Option SortKeys := some [⟨"a", none, false⟩]
    let malformed : Filter := .pattern "label" "[" none
    let mixed : List Document := [⟨[("a", .int64 1)]⟩, number 2 "x", number 3 "y"]
    1 ≤ 2 ∧ (∀ doc ∈ docs, ∃ passes, above.test doc = .ok passes) ∧
      (∃ pages : Nat → List Document,
        (∀ i, (pageQuery above order 2 i).run docs = .ok (pages i) ∧
          Pipeline.run (pagePipeline above order 2 i) docs = .ok (pages i)) ∧
        (wholeQuery above order).run docs = .ok ((List.range 3).flatMap pages)) ∧
      (∃ doc ∈ mixed, ∃ e, malformed.test doc = .error e) ∧
      ∃ e, ∀ i, (pageQuery malformed order 2 i).run mixed = .error e ∧
        Pipeline.run (pagePipeline malformed order 2 i) mixed = .error e := by
  intro number docs above order malformed mixed
  have positive : 1 ≤ 2 := by decide
  have tested : ∀ doc ∈ docs, ∃ passes, above.test doc = .ok passes := fun _ _ => ⟨_, rfl⟩
  have fails : ∃ doc ∈ mixed, ∃ e, malformed.test doc = .error e :=
    ⟨number 2 "x", by simp [mixed], .badPattern "[", by rfl⟩
  obtain ⟨whole, pages, same, -, tiles⟩ := (pages_tile above order positive docs).1 tested
  obtain ⟨e, -, -, failed⟩ := (pages_tile malformed order positive mixed).2 fails
  have length : (arranged order (docs.filter above.accepts)).length ≤ 3 * 2 := by
    have sorted : (arranged order (docs.filter above.accepts)).length =
        (docs.filter above.accepts).length := List.length_mergeSort _
    exact sorted.trans_le ((List.length_filter_le _ docs).trans (by decide))
  exact ⟨positive, tested, ⟨pages, same, by rw [whole, tiles 3 length]⟩, fails, e, failed⟩

end DocQuery
