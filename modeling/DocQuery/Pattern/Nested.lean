/-! # Depth of nesting

Patterns and bracketed classes that are nested too deeply are refused, so what is read goes along
with the depth of the tree that it was read from.

* `Nested` — a value with a depth.
* `Nested.deeper` — one step further in.
* `Nested.join` — several values in a row; one alone takes no step.
-/

namespace DocQuery.Pattern

/-- What was read, with the depth of its tree. -/
structure Nested (α : Type) where
  value : α
  depth : Nat

namespace Nested

variable {α β : Type}

def leaf (value : α) : Nested α := ⟨value, 0⟩

def deeper (item : Nested α) (wrap : α → β) : Nested β := ⟨wrap item.value, item.depth + 1⟩

def maxDepth : List (Nested α) → Nat
  | [] => 0
  | item :: rest => max item.depth (maxDepth rest)

/-- Several items made one. Two and more are a construct around them. -/
def join (combine : List α → α) : List (Nested α) → Nested α
  | [] => leaf (combine [])
  | [item] => item
  | items => ⟨combine (items.map (·.value)), maxDepth items + 1⟩

def pair (combine : α → α → α) (left right : Nested α) : Nested α :=
  ⟨combine left.value right.value, max left.depth right.depth + 1⟩

theorem depth_le_maxDepth {item : Nested α} {items : List (Nested α)} (member : item ∈ items) :
    item.depth ≤ maxDepth items := by
  induction member with
  | head rest => exact Nat.le_max_left _ _
  | tail other _ ih => exact Nat.le_trans ih (Nat.le_max_right _ _)

/-- Joined items are nowhere deeper than what they are joined to. -/
theorem depth_le_depth_join (combine : List α → α) {item : Nested α} {items : List (Nested α)}
    (member : item ∈ items) : item.depth ≤ (join combine items).depth := by
  match items, member with
  | [_], member => simp_all [join]
  | a :: b :: rest, member =>
    exact Nat.le_succ_of_le (depth_le_maxDepth member)

end Nested

end DocQuery.Pattern
