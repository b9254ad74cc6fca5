import DocQuery.Execute.Run
import DocQuery.Query.Plan

/-! # The last stages of a query

Order and window are the last that a find query and a pipeline do to documents.

* `arranged`, `SelectPlan.page` — documents in order, and the part of a list that a window leaves.
* `SelectPlan.run_lastStages` — the last stages of a pipeline.
* `SelectPlan.run_find` — a find query of a plan.
-/

namespace DocQuery

theorem Filter.select_empty (docs : List Document) : Filter.empty.select docs = .ok docs := by
  induction docs with
  | nil => rfl
  | cons doc rest ih => simp [select, test, ih, bind, Except.bind]

theorem Pipeline.run_append (before after : Pipeline) (docs : List Document) :
    Pipeline.run (before ++ after) docs = (Pipeline.run before docs).bind (Pipeline.run after) := by
  induction before generalizing docs with
  | nil => rfl
  | cons stage rest ih =>
    rw [List.cons_append, Pipeline.run, Pipeline.run]
    cases stage.run docs with
    | error e => rfl
    | ok found => exact ih found

/-- The documents in an order, if there is one. -/
def arranged (order : Option SortKeys) (docs : List Document) : List Document :=
  order.elim docs fun keys => sortDocuments keys docs

namespace SelectPlan

variable {α β : Type}

/-- The part of a list that offset and limit leave. -/
def page (plan : SelectPlan) (list : List α) : List α :=
  let rest := list.drop (plan.offset.getD 0)
  plan.top.elim rest rest.take

theorem map_page (plan : SelectPlan) (f : α → β) (list : List α) :
    (plan.page list).map f = plan.page (list.map f) := by
  cases top : plan.top <;> simp [page, top]

theorem page_sublist (plan : SelectPlan) (list : List α) : (plan.page list).Sublist list := by
  have rest := List.drop_sublist (plan.offset.getD 0) list
  cases top : plan.top with
  | none => simpa [page, top] using rest
  | some n => simpa [page, top] using (List.take_sublist n _).trans rest

/-- Without a window all is left. -/
theorem page_eq_self {plan : SelectPlan} (top : plan.top = none) (skip : plan.skip = none)
    (list : List α) : plan.page list = list := by
  simp [page, offset, top, skip]

theorem window_eq_page {plan : SelectPlan} (top : plan.top ≠ some 0) (docs : List Document) :
    window plan.offset plan.top docs = plan.page docs := by
  cases limit : plan.top with
  | none => simp [window, page, limit]
  | some n =>
    have limited : (n == 0) = false := beq_eq_false_iff_ne.mpr fun zero => top (by rw [limit, zero])
    simp [window, page, limit, limited]

/-- The stages behind the groups: order and window. -/
def lastStages (plan : SelectPlan) (order : Option SortKeys) : Pipeline :=
  (order.map Stage.sort).toList ++ plan.windowStages

/-- Order and window never fail. -/
theorem run_lastStages (plan : SelectPlan) (order : Option SortKeys) (docs : List Document) :
    Pipeline.run (plan.lastStages order) docs = .ok (plan.page (arranged order docs)) := by
  cases order <;> cases skip : plan.offset <;> cases top : plan.top <;>
    simp [lastStages, windowStages, page, arranged, skip, top, Pipeline.run, Stage.run, bind,
      Except.bind]

/-- A find query orders the selected documents, cuts out its window, and keeps what its projection
says. -/
theorem run_find {plan : SelectPlan} (top : plan.top ≠ some 0) (filter : Filter)
    (projection : Option Projection) (order : Option SortKeys) (docs : List Document) :
    FindQuery.run ⟨filter, projection, order, plan.offset, plan.top⟩ docs =
      (filter.select docs).map fun found =>
        (plan.page (arranged order found)).map (projection.elim id Projection.apply) := by
  unfold FindQuery.run
  cases filter.select docs with
  | error e => rfl
  | ok found =>
    cases order <;> cases projection <;> simp [bind, Except.bind, pure, Except.pure, Except.map,
      window_eq_page top, arranged]

end SelectPlan

end DocQuery
