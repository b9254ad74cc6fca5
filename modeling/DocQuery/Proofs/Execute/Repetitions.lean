import Mathlib.Data.List.Infix
import Mathlib.Data.List.Pairwise

/-! # Repetitions and stable sorting

Of alike elements the first is kept. A stable sort can be done before or after that.

* `firsts` — the elements that are not like an earlier one.
* `Orders` — a relation that puts the elements of a list into a chain, maybe several in one place.
* `eq_of_sorted` — a sorted list is given by the order in which it has the elements of each place.
* `firsts_mergeSort` — leaving out repetitions before and after sorting.
* `map_mergeSort_of_finer` — a finer order, seen through a function.
-/

namespace DocQuery

variable {α β : Type}

/-! ## Repetitions -/

/-- Each element that is not like an earlier one. -/
def firsts (alike : α → α → Bool) (list : List α) : List α :=
  list.foldl (fun kept a => if kept.any (alike · a) then kept else kept ++ [a]) []

section Firsts

variable {alike : α → α → Bool} {list : List α}

theorem any_congr {p q : α → Bool} (agrees : ∀ a ∈ list, p a = q a) : list.any p = list.any q := by
  induction list with
  | nil => rfl
  | cons a list ih =>
    rw [List.forall_mem_cons] at agrees
    rw [List.any_cons, List.any_cons, agrees.1, ih agrees.2]

theorem firsts_concat (alike : α → α → Bool) (list : List α) (a : α) :
    firsts alike (list ++ [a]) =
      if (firsts alike list).any (alike · a) then firsts alike list
      else firsts alike list ++ [a] := by
  rw [firsts, List.foldl_append]
  rfl

theorem firsts_sublist (alike : α → α → Bool) (list : List α) :
    (firsts alike list).Sublist list := by
  induction list using List.reverseRecOn with
  | nil => exact .refl []
  | append_singleton list a ih =>
    rw [firsts_concat]
    split
    · exact ih.trans (List.sublist_append_left list [a])
    · exact ih.append (.refl [a])

theorem firsts_filter {keep : α → Bool}
    (respects : ∀ a ∈ list, ∀ b ∈ list, alike a b = true → keep a = keep b) :
    firsts alike (list.filter keep) = (firsts alike list).filter keep := by
  induction list using List.reverseRecOn with
  | nil => rfl
  | append_singleton list a ih =>
    have before := ih fun b inB c inC =>
      respects b (List.mem_append_left _ inB) c (List.mem_append_left _ inC)
    cases kept : keep a with
    | false =>
      rw [List.filter_append, List.filter_singleton, kept, firsts_concat]
      split <;> simp [before, kept]
    | true =>
      -- what is like a kept element is kept
      have known : ((firsts alike list).filter keep).any (alike · a) =
          (firsts alike list).any (alike · a) := by
        rw [List.any_filter]
        refine any_congr fun b member => ?_
        have inside := (firsts_sublist alike list).subset member
        cases similar : alike b a with
        | false => exact Bool.and_false _
        | true =>
          rw [respects b (List.mem_append_left _ inside) a (by simp) similar, kept]
          rfl
      rw [List.filter_append, List.filter_singleton, kept, cond_true, firsts_concat,
        firsts_concat, before, known]
      split <;> simp [kept]

theorem map_firsts {same : β → β → Bool} {f : α → β}
    (agrees : ∀ a ∈ list, ∀ b ∈ list, alike a b = same (f a) (f b)) :
    (firsts alike list).map f = firsts same (list.map f) := by
  induction list using List.reverseRecOn with
  | nil => rfl
  | append_singleton list a ih =>
    have before := ih fun b inB c inC =>
      agrees b (List.mem_append_left _ inB) c (List.mem_append_left _ inC)
    have known : (firsts same (list.map f)).any (same · (f a)) =
        (firsts alike list).any (alike · a) := by
      rw [← before, List.any_map]
      refine any_congr fun b member => ?_
      have inside := (firsts_sublist alike list).subset member
      exact (agrees b (List.mem_append_left _ inside) a (by simp)).symm
    rw [List.map_append, List.map_singleton, firsts_concat, firsts_concat, known, ← before]
    split <;> simp

end Firsts

/-! ## Sorting -/

/-- Whether the relation puts the elements of a list into a chain. -/
structure Orders (le : α → α → Bool) (list : List α) : Prop where
  trans : ∀ a ∈ list, ∀ b ∈ list, ∀ c ∈ list, le a b = true → le b c = true → le a c = true
  total : ∀ a ∈ list, ∀ b ∈ list, le a b = true ∨ le b a = true

namespace Orders

variable {le : α → α → Bool} {list : List α}

/-- The relation on the elements of the list alone. -/
def within (le : α → α → Bool) (list : List α) (a b : { a // a ∈ list }) : Bool := le a.1 b.1

theorem mergeSort_eq (le : α → α → Bool) (list : List α) :
    list.mergeSort le = (list.attach.mergeSort (within le list)).map Subtype.val := by
  have values := List.map_mergeSort (r := within le list) (s := le) (f := Subtype.val)
    (l := list.attach) fun _ _ _ _ => rfl
  rw [values, List.attach_map_subtype_val]

variable (orders : Orders le list)

include orders

theorem within_trans (a b c : { a // a ∈ list }) (first : within le list a b = true)
    (second : within le list b c = true) : within le list a c = true :=
  orders.trans a a.2 b b.2 c c.2 first second

theorem within_total (a b : { a // a ∈ list }) :
    (within le list a b || within le list b a) = true :=
  (Bool.or_eq_true _ _).mpr (orders.total a a.2 b b.2)

theorem sorted : (list.mergeSort le).Pairwise fun a b => le a b = true := by
  rw [mergeSort_eq, List.pairwise_map]
  exact List.pairwise_mergeSort orders.within_trans orders.within_total _

/-- A part of the list that is in order keeps its order. -/
theorem sublist_mergeSort {part : List α} (inOrder : part.Pairwise fun a b => le a b = true)
    (sublist : part.Sublist list) : part.Sublist (list.mergeSort le) := by
  rw [← List.attach_map_subtype_val list] at sublist
  obtain ⟨part, inside, rfl⟩ := List.sublist_map_iff.mp sublist
  rw [mergeSort_eq]
  exact (List.sublist_mergeSort orders.within_trans orders.within_total
    (List.pairwise_map.mp inOrder) inside).map _

/-- Elements in one place keep their order. -/
theorem filter_mergeSort {place : α → Bool}
    (together : ∀ a ∈ list, ∀ b ∈ list, place a = true → place b = true → le a b = true) :
    (list.mergeSort le).filter place = list.filter place := by
  have inOrder : (list.filter place).Pairwise fun a b => le a b = true :=
    List.pairwise_of_forall_mem_list fun a inA b inB =>
      have ⟨memberA, placedA⟩ := List.mem_filter.mp inA
      have ⟨memberB, placedB⟩ := List.mem_filter.mp inB
      together a memberA b memberB placedA placedB
  have sublist := (orders.sublist_mergeSort inOrder List.filter_sublist).filter place
  rw [List.filter_filter] at sublist
  simp only [Bool.and_self] at sublist
  exact (sublist.eq_of_length ((List.mergeSort_perm list le).filter place).length_eq.symm).symm

/-- The same order from its other end. -/
theorem swap : Orders (fun a b => le b a) list where
  trans a inA b inB c inC first second := orders.trans c inC b inB a inA second first
  total a inA b inB := orders.total b inB a inA

end Orders

/-- Whether two elements are in one place. -/
def level (le : α → α → Bool) (a b : α) : Bool := le a b && le b a

/-- Sorted lists are equal if they have the elements of each place in one order. -/
theorem eq_of_sorted {le : α → α → Bool} (refl : ∀ a, le a a = true) {one other : List α}
    (sorted : one.Pairwise fun a b => le a b = true)
    (sortedToo : other.Pairwise fun a b => le a b = true)
    (places : ∀ a, a ∈ one ∨ a ∈ other → one.filter (level le a) = other.filter (level le a)) :
    one = other := by
  have self (a : α) : level le a a = true := by rw [level, refl]; rfl
  induction one generalizing other with
  | nil =>
    cases other with
    | nil => rfl
    | cons b other => simpa [self] using places b (.inr List.mem_cons_self)
  | cons a one ih =>
    cases other with
    | nil => simpa [self] using places a (.inl List.mem_cons_self)
    | cons b other =>
      obtain ⟨least, later⟩ := List.pairwise_cons.mp sorted
      obtain ⟨leastToo, laterToo⟩ := List.pairwise_cons.mp sortedToo
      -- each head is in the other list, so they are in one place and hence first there
      have ofA : a ∈ b :: other := by
        have member : a ∈ (b :: other).filter (level le a) := by
          rw [← places a (.inl List.mem_cons_self)]
          exact List.mem_filter.mpr ⟨List.mem_cons_self, self a⟩
        exact (List.mem_filter.mp member).1
      have ofB : b ∈ a :: one := by
        have member : b ∈ (a :: one).filter (level le b) := by
          rw [places b (.inr List.mem_cons_self)]
          exact List.mem_filter.mpr ⟨List.mem_cons_self, self b⟩
        exact (List.mem_filter.mp member).1
      have ab : level le a b = true := by
        rw [level, Bool.and_eq_true]
        constructor
        · rcases List.mem_cons.mp ofB with rfl | inside
          · exact refl b
          · exact least b inside
        · rcases List.mem_cons.mp ofA with rfl | inside
          · exact refl a
          · exact leastToo a inside
      have heads := places a (.inl List.mem_cons_self)
      rw [List.filter_cons_of_pos (self a), List.filter_cons_of_pos ab, List.cons.injEq] at heads
      obtain ⟨rfl, -⟩ := heads
      refine congrArg (a :: ·) (ih later laterToo fun x member => ?_)
      have same := places x (member.imp (List.mem_cons_of_mem a) (List.mem_cons_of_mem a))
      rw [List.filter_cons, List.filter_cons] at same
      split at same
      · exact (List.cons.inj same).2
      · exact same

section Sorting

variable {le : α → α → Bool} {list : List α}

theorem Orders.level_congr (orders : Orders le list) {a b x : α} (inA : a ∈ list) (inB : b ∈ list)
    (inX : x ∈ list) (ab : level le a b = true) : level le x a = level le x b := by
  rw [level, Bool.and_eq_true] at ab
  rw [Bool.eq_iff_iff, level, level, Bool.and_eq_true, Bool.and_eq_true]
  constructor
  · exact fun ⟨xa, ax⟩ => ⟨orders.trans x inX a inA b inB xa ab.1,
      orders.trans b inB a inA x inX ab.2 ax⟩
  · exact fun ⟨xb, bx⟩ => ⟨orders.trans x inX b inB a inA xb ab.2,
      orders.trans a inA b inB x inX ab.1 bx⟩

theorem Orders.of_sublist (orders : Orders le list) {part : List α} (sublist : part.Sublist list) :
    Orders le part where
  trans a inA b inB c inC := orders.trans a (sublist.subset inA) b (sublist.subset inB) c
    (sublist.subset inC)
  total a inA b inB := orders.total a (sublist.subset inA) b (sublist.subset inB)

/-- A stable sort keeps the elements of each place as they are. -/
theorem Orders.filter_level (orders : Orders le list) {part : List α} (sublist : part.Sublist list)
    {x : α} (inX : x ∈ list) :
    (part.mergeSort le).filter (level le x) = part.filter (level le x) := by
  refine (orders.of_sublist sublist).filter_mergeSort fun a inA b inB xa xb => ?_
  rw [level, Bool.and_eq_true] at xa xb
  exact orders.trans a (sublist.subset inA) x inX b (sublist.subset inB) xa.2 xb.1

/-- Where alike elements are in one place, repetitions can be left out before or after sorting. -/
theorem firsts_mergeSort {alike : α → α → Bool} (refl : ∀ a, le a a = true)
    (orders : Orders le list)
    (place : ∀ a ∈ list, ∀ b ∈ list, alike a b = true → level le a b = true) :
    firsts alike (list.mergeSort le) = (firsts alike list).mergeSort le := by
  have kept := firsts_sublist alike list
  have inside {a : α} (member : a ∈ list.mergeSort le) : a ∈ list := List.mem_mergeSort.mp member
  refine eq_of_sorted refl (orders.sorted.sublist (firsts_sublist _ _))
    (orders.of_sublist kept).sorted fun x member => ?_
  have inX : x ∈ list := by
    rcases member with one | other
    · exact inside ((firsts_sublist _ _).subset one)
    · exact kept.subset (List.mem_mergeSort.mp other)
  have respects : ∀ a ∈ list, ∀ b ∈ list, alike a b = true → level le x a = level le x b :=
    fun a inA b inB similar => orders.level_congr inA inB inX (place a inA b inB similar)
  rw [orders.filter_level kept inX, ← firsts_filter respects,
    ← firsts_filter fun a inA b inB => respects a (inside inA) b (inside inB),
    orders.filter_level (.refl list) inX]

/-- Sorting by a finer order and looking at the results of a function is sorting the results, if
elements in one place are so in the finer order too, or else have one result. -/
theorem map_mergeSort_of_finer {f : α → β} {fine : α → α → Bool} {le : β → β → Bool}
    (refl : ∀ b, le b b = true) {list : List α} (ordersFine : Orders fine list)
    (orders : Orders le (list.map f))
    (coarser : ∀ a ∈ list, ∀ b ∈ list, fine a b = true → le (f a) (f b) = true)
    (places : ∀ x ∈ list.map f,
      (∀ a ∈ list, ∀ b ∈ list, level le x (f a) = true → level le x (f b) = true →
        fine a b = true) ∨
      ∀ a ∈ list, level le x (f a) = true → f a = x) :
    (list.mergeSort fine).map f = (list.map f).mergeSort le := by
  have perm := List.mergeSort_perm list fine
  have sorted : ((list.mergeSort fine).map f).Pairwise fun a b => le a b = true :=
    List.pairwise_map.mpr <| ordersFine.sorted.imp_of_mem fun inA inB first =>
      coarser _ (perm.mem_iff.mp inA) _ (perm.mem_iff.mp inB) first
  refine eq_of_sorted refl sorted orders.sorted fun x member => ?_
  have inX : x ∈ list.map f := by
    rcases member with one | other
    · exact (perm.map f).mem_iff.mp one
    · exact List.mem_mergeSort.mp other
  rw [orders.filter_level (.refl _) inX, List.filter_map, List.filter_map]
  rcases places x inX with together | single
  · exact congrArg (List.map f) (ordersFine.filter_mergeSort together)
  · -- all results in this place are equal, so only their number matters
    have constant (part : List α) (inside : ∀ a ∈ part, a ∈ list) :
        (part.filter (level le x ∘ f)).map f =
          List.replicate (part.filter (level le x ∘ f)).length x := by
      rw [List.eq_replicate_iff]
      refine ⟨List.length_map _, fun b inB => ?_⟩
      obtain ⟨a, inA, rfl⟩ := List.mem_map.mp inB
      obtain ⟨inPart, placed⟩ := List.mem_filter.mp inA
      exact single a (inside a inPart) placed
    rw [constant _ fun a inA => perm.mem_iff.mp inA, constant list fun _ => id,
      (perm.filter _).length_eq]

end Sorting

end DocQuery
