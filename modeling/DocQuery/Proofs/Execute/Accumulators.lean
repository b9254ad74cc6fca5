import DocQuery.Proofs.Execute.Partition
import DocQuery.Proofs.Execute.StableOrder
import Mathlib.Algebra.BigOperators.Group.List.Basic

/-! # Least, greatest and total values

What accumulators say of the values of a field. The least and the greatest value are the ends of the
documents in the order of the field, with the same choice among values that compare equal. Integers
are added up exactly as long as every total on the way fits, which hangs on the order of the
documents.

* `Accumulator.overAll` — what an accumulator says of all documents.
* `IsFirstLeast`, `foldl_keepFirst` — keeping the better of two elements against stable sorting.
* `HasKind`, `extremes_are_ends` — the least and the greatest value of one kind.
* `TotalsFit`, `foldl_feed_sum` — a total, and how it becomes a double.
* `forall_perm_totalsFit_iff`, `sum_of_integers` — totals in every order of the documents.
-/

namespace DocQuery

open DocQuery.Number

/-- What an accumulator says of all documents, group by group: there is one group, if there are
documents at all. -/
def Accumulator.overAll (acc : Accumulator) (label : String) (docs : List Document) :
    Except QueryError (List (Option Value)) :=
  (Pipeline.run [.group .constant [(label, acc)]] docs).map (·.map (·.get? label))

theorem Accumulator.overAll_eq (acc : Accumulator) (label : String) (docs : List Document) :
    acc.overAll label docs = .ok (if docs = [] then [] else [some (acc.summary docs)]) :=
  congrArg Except.ok (map_get?_groupDocuments_constant label acc docs)

/-! ## The first of the least elements -/

section firstLeast

variable {α : Type} {le : α → α → Bool} {list : List α} {a b : α}

theorem level_comm (le : α → α → Bool) (a b : α) : level le a b = level le b a :=
  Bool.and_comm _ _

/-- An element that none comes before, and the first of those in its place. -/
structure IsFirstLeast (le : α → α → Bool) (list : List α) (a : α) : Prop where
  least : ∀ b ∈ list, le a b = true
  first : list.find? (level le a) = some a

theorem IsFirstLeast.mem (isFirst : IsFirstLeast le list a) : a ∈ list :=
  List.mem_of_find?_eq_some isFirst.first

theorem IsFirstLeast.unique (orders : Orders le list) (one : IsFirstLeast le list a)
    (other : IsFirstLeast le list b) : a = b := by
  have placed : level le a b = true := by
    rw [level, one.least b other.mem, other.least a one.mem]
    rfl
  have same : list.filter (level le a) = list.filter (level le b) :=
    List.filter_congr fun x inX => by
      rw [level_comm, orders.level_congr one.mem other.mem inX placed, level_comm]
  refine Option.some.inj (one.first.symm.trans (Eq.trans ?_ other.first))
  rw [← List.head?_filter, same, List.head?_filter]

/-- The head of the sorted list is the first of the least elements. -/
theorem isFirstLeast_head (refl : ∀ a, le a a = true) (orders : Orders le list)
    (head : (list.mergeSort le).head? = some a) : IsFirstLeast le list a := by
  have perm := List.mergeSort_perm list le
  have inside : a ∈ list := perm.mem_iff.mp (List.mem_of_head? head)
  have self : level le a a = true := by rw [level, refl]; rfl
  obtain ⟨rest, cut⟩ := List.head?_eq_some_iff.mp head
  constructor
  · intro b member
    have sorted := orders.sorted
    rw [← perm.mem_iff, cut] at member
    rw [cut] at sorted
    rcases List.mem_cons.mp member with rfl | later
    · exact refl b
    · exact (List.pairwise_cons.mp sorted).1 b later
  · rw [← List.head?_filter, ← orders.filter_level (.refl list) inside, cut,
      List.filter_cons_of_pos self, List.head?_cons]

/-- Keeps what there is unless the next element comes before it. -/
def keepFirst (le : α → α → Bool) (kept : Option α) (next : α) : Option α :=
  match kept with
  | none => some next
  | some a => if le a next then some a else some next

theorem isFirstLeast_foldl (orders : Orders le list) (refl : ∀ a, le a a = true)
    (nonempty : list ≠ []) :
    ∃ a, list.foldl (keepFirst le) none = some a ∧ IsFirstLeast le list a := by
  induction list using List.reverseRecOn with
  | nil => exact absurd rfl nonempty
  | append_singleton list next ih =>
    have self (a : α) : level le a a = true := by rw [level, refl]; rfl
    rw [List.foldl_append, List.foldl_cons, List.foldl_nil]
    by_cases empty : list = []
    · subst empty
      exact ⟨next, rfl, by simpa using refl next, by simp [self]⟩
    obtain ⟨a, kept, isFirst⟩ := ih (orders.of_sublist (List.sublist_append_left list [next])) empty
    have inA : a ∈ list ++ [next] := List.mem_append_left _ isFirst.mem
    have inNext : next ∈ list ++ [next] := by simp
    rw [kept, keepFirst]
    split
    · rename_i stays
      refine ⟨a, rfl, fun b inB => ?_, ?_⟩
      · rcases List.mem_append.mp inB with earlier | last
        · exact isFirst.least b earlier
        · rwa [List.mem_singleton.mp last]
      · rw [List.find?_append, isFirst.first, Option.some_or]
    · rename_i changes
      have before : le next a = true := (orders.total next inNext a inA).resolve_right changes
      refine ⟨next, rfl, fun b inB => ?_, ?_⟩
      · rcases List.mem_append.mp inB with earlier | last
        · exact orders.trans next inNext a inA b inB before (isFirst.least b earlier)
        · rw [List.mem_singleton.mp last]
          exact refl next
      · -- what is in one place with it would not be behind the element that was kept
        have none : list.find? (level le next) = none := by
          rw [List.find?_eq_none]
          intro b inB placed
          rw [level, Bool.and_eq_true] at placed
          exact changes (orders.trans a inA b (List.mem_append_left _ inB) next inNext
            (isFirst.least b inB) placed.2)
        rw [List.find?_append, none, Option.none_or]
        simp [self]

/-- Going through a list and keeping the better element gives the head of the sorted list. -/
theorem foldl_keepFirst (refl : ∀ a, le a a = true) (orders : Orders le list) :
    list.foldl (keepFirst le) none = (list.mergeSort le).head? := by
  by_cases nonempty : list = []
  · subst nonempty
    simp
  obtain ⟨a, kept, isFirst⟩ := isFirstLeast_foldl orders refl nonempty
  cases head : (list.mergeSort le).head? with
  | none =>
    rw [List.head?_eq_none_iff] at head
    have inside := (List.mergeSort_perm list le).mem_iff.mpr isFirst.mem
    rw [head] at inside
    cases inside
  | some b =>
    rw [kept, isFirst.unique orders (isFirstLeast_head refl orders head)]

/-- Elements can be left out before or after sorting. -/
theorem filter_mergeSort (refl : ∀ a, le a a = true) (orders : Orders le list) (keep : α → Bool) :
    (list.mergeSort le).filter keep = (list.filter keep).mergeSort le := by
  have kept : (list.filter keep).Sublist list := List.filter_sublist
  -- both sides are sorted, and stability gives the order in each place
  refine eq_of_sorted refl (orders.sorted.filter keep) (orders.of_sublist kept).sorted
    fun x member => ?_
  have inX : x ∈ list := by
    rcases member with one | other
    · exact List.mem_mergeSort.mp (List.mem_filter.mp one).1
    · exact kept.subset (List.mem_mergeSort.mp other)
  rw [orders.filter_level kept inX, List.filter_comm, orders.filter_level (.refl list) inX,
    List.filter_comm]

end firstLeast

/-! ## The ends of a field -/

/-- Whether the values of a field are null or of one kind, where documents have it. -/
def HasKind (bracket : Bracket) (field : String) (docs : List Document) : Prop :=
  ∀ doc ∈ docs, ∀ value, doc.getPath? field = some value →
    value = .null ∨ bracket.holds value = true

instance (bracket : Bracket) (field : String) (docs : List Document) :
    Decidable (HasKind bracket field docs) :=
  decidable_of_iff (∀ doc ∈ docs, ∀ value ∈ doc.getPath? field,
      (value.isNull || bracket.holds value) = true) <|
    forall₂_congr fun _ _ => forall₂_congr fun _ _ => Bracket.isNull_or_holds_iff

/-- The first value that is not null among the documents in the order of their field. -/
def endValue? (field : String) (descending : Bool) (docs : List Document) : Option Value :=
  ((sortDocuments [⟨field, none, descending⟩] docs).filterMap (·.getPath? field)).find?
    (!·.isNull)

section ends

variable {bracket : Bracket} {field : String} {docs : List Document}

theorem HasKind.isChain (hasKind : HasKind bracket field docs) :
    Value.IsChain (docs.map (·.groupValue field)) := by
  refine isChain_of_bracket bracket fun v member => ?_
  obtain ⟨doc, inside, rfl⟩ := List.mem_map.mp member
  rw [Document.groupValue]
  cases found : doc.getPath? field with
  | none => exact .inl rfl
  | some value => exact hasKind doc inside value found

/-- Null in place of a missing field does not matter where nulls are left out. -/
theorem filter_filterMap_getPath? (field : String) (docs : List Document) :
    (docs.filterMap (·.getPath? field)).filter (!·.isNull) =
      (docs.map (·.groupValue field)).filter (!·.isNull) := by
  induction docs with
  | nil => rfl
  | cons doc docs ih =>
    rw [List.map_cons, List.filter_cons, ← ih, List.filterMap_cons, Document.groupValue]
    cases doc.getPath? field with
    | none => rfl
    | some value => exact List.filter_cons

theorem endValue?_eq (hasKind : HasKind bracket field docs) (descending : Bool) :
    endValue? field descending docs =
      ((docs.map (·.groupValue field)).filter (!·.isNull)).foldl
        (keepFirst (Value.leBy descending)) none := by
  have orders := Value.orders_leBy hasKind.isChain descending
  have refl := Value.leBy_refl descending
  rw [endValue?, ← List.head?_filter, filter_filterMap_getPath?,
    map_sortDocuments hasKind.isChain, filter_mergeSort refl orders,
    foldl_keepFirst refl (orders.of_sublist List.filter_sublist)]

theorem keepBetter_eq (descending : Bool) (current found : Option Value) :
    Tally.keepBetter (if descending then .gt else .lt) current found =
      if !(found.getD .null).isNull
      then keepFirst (Value.leBy descending) current (found.getD .null) else current := by
  cases found with
  | none => rfl
  | some value =>
    cases isNull : value.isNull with
    | true => simp [Tally.keepBetter, isNull]
    | false =>
      cases current with
      | none => simp [Tally.keepBetter, keepFirst, isNull]
      | some kept =>
        have swapped := Value.compare_swap kept value
        cases descending <;> cases order : kept.compare value <;>
          simp [Tally.keepBetter, keepFirst, Value.leBy, Value.le, isNull, swapped, order]

/-- Keeping the better value of each document gives the value at the end. -/
theorem foldl_keepBetter (hasKind : HasKind bracket field docs) (descending : Bool) :
    docs.foldl (fun current doc => Tally.keepBetter (if descending then .gt else .lt) current
      (doc.getPath? field)) none = endValue? field descending docs := by
  simp only [keepBetter_eq, endValue?_eq hasKind, List.foldl_filter, List.foldl_map,
    Document.groupValue]

theorem summary_min (hasKind : HasKind bracket field docs) :
    (Accumulator.min field).summary docs = (endValue? field false docs).getD .null := by
  rw [← foldl_keepBetter hasKind, Accumulator.summary, Tally.start,
    List.foldl_hom Tally.min fun _ _ => rfl]
  rfl

theorem summary_max (hasKind : HasKind bracket field docs) :
    (Accumulator.max field).summary docs = (endValue? field true docs).getD .null := by
  rw [← foldl_keepBetter hasKind, Accumulator.summary, Tally.start,
    List.foldl_hom Tally.max fun _ _ => rfl]
  rfl

/-- Where the values of a field are null or of one kind, the least one is the first in ascending
order and the greatest one the first in descending order, null and missing ones apart; of values
that compare equal both ways choose the same. Without such a value both are null. -/
theorem extremes_are_ends (field label : String) (docs : List Document)
    (hasKind : HasKind bracket field docs) :
    (Accumulator.min field).overAll label docs =
        .ok (if docs = [] then [] else [some ((endValue? field false docs).getD .null)]) ∧
      (Accumulator.max field).overAll label docs =
        .ok (if docs = [] then [] else [some ((endValue? field true docs).getD .null)]) := by
  rw [Accumulator.overAll_eq, Accumulator.overAll_eq, summary_min hasKind, summary_max hasKind]
  exact ⟨rfl, rfl⟩

/-- Of equal numbers in both widths the one that is met first is taken. -/
theorem extremes_are_ends_of_integers :
    let docs : List Document := [⟨[("a", .int64 2)]⟩, ⟨[]⟩, ⟨[("a", .int32 1)]⟩, ⟨[("a", .null)]⟩,
      ⟨[("a", .int64 1)]⟩, ⟨[("a", .int32 2)]⟩]
    HasKind .integer "a" docs ∧
      (Accumulator.min "a").overAll "least" docs = .ok [some (.int32 1)] ∧
      (endValue? "a" false docs).getD .null = .int32 1 ∧
      (Accumulator.max "a").overAll "most" docs = .ok [some (.int64 2)] ∧
      (endValue? "a" true docs).getD .null = .int64 2 := by
  intro docs
  have hasKind : HasKind .integer "a" docs := by decide +kernel
  have least : (Accumulator.min "a").overAll "least" docs = .ok [some (.int32 1)] := by
    rw [Accumulator.overAll_eq]
    rfl
  have most : (Accumulator.max "a").overAll "most" docs = .ok [some (.int64 2)] := by
    rw [Accumulator.overAll_eq]
    rfl
  have first := (extremes_are_ends "a" "least" docs hasKind).1
  have last := (extremes_are_ends "a" "most" docs hasKind).2
  rw [least] at first
  rw [most] at last
  exact ⟨hasKind, least, by simpa [docs] using first.symm, most, by simpa [docs] using last.symm⟩

end ends

/-! ## Totals of integers -/

/-- The integer that a document adds to a total; null and missing values add nothing. -/
def Document.integer (doc : Document) (field : String) : Int :=
  ((doc.getPath? field).bind Value.asInt?).elim 0 Int64.toInt

/-- Whether every total on the way through the integers fits into 64 bits. -/
def TotalsFit (integers : List Int) : Prop :=
  ∀ front, front <+: integers → fitsInt front.sum = true

instance (integers : List Int) : Decidable (TotalsFit integers) :=
  decidable_of_iff (∀ front ∈ integers.inits, fitsInt front.sum = true)
    (forall_congr' fun front => imp_congr_left (List.mem_inits front integers))

section totals

variable {integers : List Int} {field : String} {docs : List Document}

theorem totalsFit_concat (integers : List Int) (n : Int) :
    TotalsFit (integers ++ [n]) ↔ TotalsFit integers ∧ fitsInt (integers.sum + n) = true := by
  have whole : (integers ++ [n]).sum = integers.sum + n := by simp
  simp only [TotalsFit, List.prefix_concat_iff, ← whole]
  constructor
  · exact fun each => ⟨fun front before => each front (.inr before), each _ (.inl rfl)⟩
  · rintro ⟨earlier, last⟩ front (rfl | before)
    · exact last
    · exact earlier front before

theorem TotalsFit.fits (fit : TotalsFit integers) : fitsInt integers.sum = true :=
  fit integers List.prefix_rfl

theorem fitsInt_iff (n : Int) : fitsInt n = true ↔ minInt ≤ n ∧ n ≤ maxInt := by
  simp [fitsInt]

theorem toInt_ofInt_of_fitsInt {n : Int} (fits : fitsInt n = true) : (Int64.ofInt n).toInt = n := by
  obtain ⟨low, high⟩ := (fitsInt_iff n).mp fits
  exact Int64.toInt_ofInt_of_le low (Int.lt_add_one_of_le high)

/-- A null or missing value adds zero, which changes nothing. -/
theorem feed_sum_of_fits {doc : Document} (hasKind : HasKind .integer field [doc]) {whole : Int}
    (fits : fitsInt whole = true) (rest : Float) (isFloat : Bool) :
    (Tally.sum whole rest isFloat).feed (doc.getPath? field) =
      Tally.addWhole whole rest isFloat (doc.integer field) := by
  have nothing : Tally.addWhole whole rest isFloat 0 = .sum whole rest isFloat := by
    rw [Tally.addWhole, Int.add_zero, if_pos fits]
  rw [Document.integer]
  cases found : doc.getPath? field with
  | none => exact nothing.symm
  | some value =>
    rcases hasKind doc List.mem_cons_self value found with rfl | holds
    · exact nothing.symm
    · cases value <;> cases holds
      · simp [Tally.feed, Value.asInt?]
      · rfl

/-- Once there is a double the total stays one. -/
theorem feed_sum_of_isFloat (found : Option Value) (whole : Int) (rest : Float) :
    ∃ whole' rest', (Tally.sum whole rest true).feed found = .sum whole' rest' true := by
  have added (n : Int) :
      ∃ whole' rest', Tally.addWhole whole rest true n = .sum whole' rest' true := by
    rw [Tally.addWhole]
    split <;> exact ⟨_, _, rfl⟩
  cases found with
  | none => exact ⟨_, _, rfl⟩
  | some value =>
    cases value with
    | int32 n => exact added n.toInt
    | int64 n => exact added n.toInt
    | _ => exact ⟨_, _, rfl⟩

/-- The tally of a total is exact while every total on the way fits, and a double from then on. -/
theorem foldl_feed_sum (hasKind : HasKind .integer field docs) :
    let tally := docs.foldl (fun tally doc => tally.feed (doc.getPath? field))
      (Tally.sum 0 0.0 false)
    let integers := docs.map (·.integer field)
    (TotalsFit integers → tally = .sum integers.sum 0.0 false) ∧
      (¬ TotalsFit integers → ∃ whole rest, tally = .sum whole rest true) := by
  -- from the end, since the next document meets the total of all documents before it
  induction docs using List.reverseRecOn with
  | nil =>
    refine ⟨fun _ => rfl, fun misfit => absurd (fun front before => ?_) misfit⟩
    rw [List.prefix_nil.mp before]
    rfl
  | append_singleton docs doc ih =>
    obtain ⟨exact, double⟩ := ih fun other inside =>
      hasKind other (List.mem_append_left _ inside)
    have last : HasKind .integer field [doc] := fun other inside =>
      hasKind other (List.mem_append_right _ inside)
    simp only [List.foldl_append, List.foldl_cons, List.foldl_nil, List.map_append, List.map_cons,
      List.map_nil, totalsFit_concat, List.sum_append, List.sum_singleton]
    by_cases earlier : TotalsFit (docs.map (·.integer field))
    · rw [exact earlier, feed_sum_of_fits last earlier.fits, Tally.addWhole]
      refine ⟨fun ⟨_, fits⟩ => if_pos fits, fun misfit => ?_⟩
      rw [if_neg fun fits => misfit ⟨earlier, fits⟩]
      exact ⟨_, _, rfl⟩
    · refine ⟨fun fit => absurd fit.1 earlier, fun _ => ?_⟩
      obtain ⟨whole, rest, before⟩ := double earlier
      rw [before]
      exact feed_sum_of_isFloat _ whole rest

theorem summary_sum (hasKind : HasKind .integer field docs) :
    let integers := docs.map (·.integer field)
    (TotalsFit integers →
        (Accumulator.sum field).summary docs = .int64 (Int64.ofInt integers.sum)) ∧
      (¬ TotalsFit integers → ∃ x, (Accumulator.sum field).summary docs = .float x) := by
  obtain ⟨exact, double⟩ := foldl_feed_sum hasKind
  have tally : (Accumulator.sum field).summary docs = (docs.foldl
    (fun tally doc => tally.feed (doc.getPath? field)) (Tally.sum 0 0.0 false)).result := rfl
  rw [tally]
  refine ⟨fun fit => ?_, fun misfit => ?_⟩
  · rw [exact fit]
    rfl
  · obtain ⟨whole, rest, found⟩ := double misfit
    rw [found]
    exact ⟨_, rfl⟩

theorem summary_sum_eq_int64_iff (hasKind : HasKind .integer field docs) (n : Int64) :
    (Accumulator.sum field).summary docs = .int64 n ↔
      TotalsFit (docs.map (·.integer field)) ∧ n.toInt = (docs.map (·.integer field)).sum := by
  obtain ⟨exact, double⟩ := summary_sum hasKind
  by_cases fit : TotalsFit (docs.map (·.integer field))
  · have total := toInt_ofInt_of_fitsInt fit.fits
    rw [exact fit, Value.int64.injEq, ← Int64.toInt_inj, total]
    exact ⟨fun same => ⟨fit, same.symm⟩, fun same => same.2.symm⟩
  · obtain ⟨x, found⟩ := double fit
    rw [found]
    exact ⟨fun same => (nomatch same), fun same => absurd same.1 fit⟩

/-! ## Every order -/

/-- Some of the integers have a total between that of the negative and that of the positive ones. -/
theorem sum_bounds {part : List Int} (sublist : part.Sublist integers) :
    (integers.filter (· < 0)).sum ≤ part.sum ∧ part.sum ≤ (integers.filter (0 < ·)).sum := by
  induction sublist with
  | slnil => simp
  | cons n _ ih | cons_cons n _ ih =>
    rw [List.filter_cons, List.filter_cons]
    by_cases negative : n < 0 <;> by_cases positive : 0 < n <;> simp [negative, positive] <;> omega

/-- Every total on the way fits in every order exactly if those of the positive and of the negative
integers do. -/
theorem forall_perm_totalsFit_iff (f : Document → Int) (docs : List Document) :
    (∀ order : List Document, order.Perm docs → TotalsFit (order.map f)) ↔
      fitsInt ((docs.map f).filter (0 < ·)).sum = true ∧
        fitsInt ((docs.map f).filter (· < 0)).sum = true := by
  constructor
  · intro each
    -- the chosen documents come first in some order
    have front (keep : Int → Bool) : fitsInt ((docs.map f).filter keep).sum = true := by
      refine each _ (List.filter_append_perm (keep ∘ f) docs) _ ?_
      rw [List.map_append, List.filter_map]
      exact List.prefix_append _ _
    exact ⟨front _, front _⟩
  · rintro ⟨positive, negative⟩ order perm front before
    have totals := perm.map f
    obtain ⟨low, high⟩ := sum_bounds before.sublist
    rw [(totals.filter _).sum_eq] at low high
    rw [fitsInt_iff] at positive negative ⊢
    exact ⟨negative.1.trans low, high.trans positive.2⟩

/-- A total of integers is exact as long as every total on the way fits, and a double otherwise, so
an integer is always the exact total. It is one in every order of the documents if and only if the
totals of the positive and of the negative integers fit. -/
theorem sum_of_integers (field label : String) (docs : List Document) (nonempty : docs ≠ [])
    (hasKind : HasKind .integer field docs) :
    let integers := docs.map (·.integer field)
    let total (order : List Document) := (Accumulator.sum field).overAll label order
    (TotalsFit integers → total docs = .ok [some (.int64 (Int64.ofInt integers.sum))]) ∧
      (¬ TotalsFit integers → ∃ x, total docs = .ok [some (.float x)]) ∧
      (∀ n, total docs = .ok [some (.int64 n)] → n.toInt = integers.sum) ∧
      ((∀ order : List Document, order.Perm docs →
          total order = .ok [some (.int64 (Int64.ofInt integers.sum))]) ↔
        fitsInt (integers.filter (0 < ·)).sum = true ∧
          fitsInt (integers.filter (· < 0)).sum = true) := by
  intro integers total
  have total_eq (order : List Document) (perm : order.Perm docs) :
      total order = .ok [some ((Accumulator.sum field).summary order)] := by
    have filled : order ≠ [] := by
      rintro rfl
      exact nonempty perm.nil_eq.symm
    simp only [total, Accumulator.overAll_eq, if_neg filled]
  obtain ⟨exact, double⟩ := summary_sum hasKind
  refine ⟨fun fit => ?_, fun misfit => ?_, fun n found => ?_, ?_⟩
  · rw [total_eq docs (.refl docs), exact fit]
  · obtain ⟨x, found⟩ := double misfit
    exact ⟨x, by rw [total_eq docs (.refl docs), found]⟩
  · rw [total_eq docs (.refl docs)] at found
    exact ((summary_sum_eq_int64_iff hasKind n).mp (by simpa using found)).2
  · rw [← forall_perm_totalsFit_iff]
    refine forall₂_congr fun order perm => ?_
    have hasKindToo : HasKind .integer field order := fun doc inside =>
      hasKind doc (perm.mem_iff.mp inside)
    have same : (order.map (·.integer field)).sum = integers.sum := (perm.map _).sum_eq
    rw [total_eq order perm, Except.ok.injEq, List.cons.injEq, Option.some.injEq,
      summary_sum_eq_int64_iff hasKindToo, same]
    refine ⟨fun found => found.1.1, fun fit => ⟨⟨fit, ?_⟩, rfl⟩⟩
    exact toInt_ofInt_of_fitsInt (same ▸ fit.fits)

/-- The greatest integer, one more and one less: the total is the greatest integer, but not the
totals of all orders are integers. -/
theorem sum_of_integers_beside_the_limit :
    let docs : List Document := [⟨[("a", .int64 Int64.maxValue)]⟩, ⟨[("a", .int32 (-1))]⟩, ⟨[]⟩,
      ⟨[("a", .null)]⟩, ⟨[("a", .int64 1)]⟩]
    docs ≠ [] ∧ HasKind .integer "a" docs ∧ TotalsFit (docs.map (·.integer "a")) ∧
      (Accumulator.sum "a").overAll "total" docs = .ok [some (.int64 Int64.maxValue)] ∧
      ¬ ∀ order : List Document, order.Perm docs →
        (Accumulator.sum "a").overAll "total" order = .ok [some (.int64 Int64.maxValue)] := by
  intro docs
  have hasKind : HasKind .integer "a" docs := by decide +kernel
  have fit : TotalsFit (docs.map (·.integer "a")) := by decide +kernel
  have sum : Int64.ofInt (docs.map (·.integer "a")).sum = Int64.maxValue := by decide +kernel
  have positive : fitsInt ((docs.map (·.integer "a")).filter (0 < ·)).sum = false := by
    decide +kernel
  have ⟨exact, _, _, orders⟩ := sum_of_integers "a" "total" docs (by simp [docs]) hasKind
  rw [sum] at exact orders
  refine ⟨by simp [docs], hasKind, fit, exact fit, fun all => ?_⟩
  rw [(orders.mp all).1] at positive
  cases positive

/-- In another order a total on the way does not fit, and the same total is no integer. -/
theorem sum_of_integers_past_the_limit :
    let docs : List Document := [⟨[("a", .int64 Int64.maxValue)]⟩, ⟨[("a", .int64 1)]⟩,
      ⟨[("a", .int64 (-1))]⟩]
    HasKind .integer "a" docs ∧ (docs.map (·.integer "a")).sum = maxInt ∧
      ∀ n, (Accumulator.sum "a").overAll "total" docs ≠ .ok [some (.int64 n)] := by
  intro docs
  have hasKind : HasKind .integer "a" docs := by decide +kernel
  have misfit : ¬ TotalsFit (docs.map (·.integer "a")) := by decide +kernel
  refine ⟨hasKind, by decide +kernel, fun n found => misfit ?_⟩
  rw [Accumulator.overAll_eq, if_neg (by simp [docs])] at found
  exact ((summary_sum_eq_int64_iff hasKind n).mp (by simpa using found)).1

end totals

end DocQuery
