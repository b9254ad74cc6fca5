import DocQuery.Client.Basic
import DocQuery.Execute.Run
import DocQuery.Proofs.Text.ListItems

/-! # Projecting to one column

A projection to one column keeps what a document has there.

* `Document.getPath?_eq_get?` — a path without points is a field.
* `Client.getPath?_apply_columnProjection` — the column of the projected document.
-/

namespace DocQuery

open DocQuery.Text

variable {column : String}

theorem segments_of_pointless (pointless : '.' ∉ column.toList) : segments column = [column] := by
  simp [segments, splitAt_absent pointless]

theorem segments_ne_nil (path : String) : segments path ≠ [] := by
  simp [segments, splitAt_ne_nil]

theorem exists_segments_of_point (point : '.' ∈ column.toList) :
    ∃ name next rest, segments column = name :: next :: rest := by
  obtain ⟨first, second, others, pieces, -⟩ := splitAt_of_mem point
  exact ⟨_, _, _, by rw [segments, pieces]; rfl⟩

theorem pointless_of_mem_segments {name path : String} (member : name ∈ segments path) :
    '.' ∉ name.toList := by
  obtain ⟨piece, inside, rfl⟩ := List.mem_map.mp member
  rw [String.toList_ofList]
  exact notMem_of_mem_splitAt inside

namespace Document

/-- A path without points is a field. -/
theorem getPath?_eq_get? (pointless : '.' ∉ column.toList) (doc : Document) :
    doc.getPath? column = doc.get? column := by
  rw [getPath?, segments_of_pointless pointless]
  cases found : doc.get? column <;> rw [get?] at found <;> simp [Value.descend, found]

theorem get?_insert_self (doc : Document) (name : String) (value : Value) :
    (doc.insert name value).get? name = some value :=
  Named.get?_insert_self name value doc.fields

theorem setPath_of_pointless (pointless : '.' ∉ column.toList) (nonempty : column ≠ "")
    (doc : Document) (value : Value) :
    doc.setPath column value = .ok (doc.insert column value) := by
  simp [setPath, segments_of_pointless pointless, setSegments, nonempty, Except.map, insert]

theorem get?_copyPath (pointless : '.' ∉ column.toList) (nonempty : column ≠ "")
    {source target : Document}
    (absent : source.get? column = none → target.get? column = none) :
    (copyPath source target column).get? column = source.get? column := by
  unfold copyPath
  rw [getPath?_eq_get? pointless]
  cases found : source.get? column with
  | none => exact absent found
  | some value =>
    simp only [setPath_of_pointless pointless nonempty]
    exact get?_insert_self target column value

end Document

namespace Client

theorem included_columnProjection (column : String) :
    (columnProjection column).isInclusion = true ∧
      (columnProjection column).included = [column] := by
  by_cases identifier : column = idField
  · subst identifier
    exact ⟨rfl, rfl⟩
  · -- the identifier is excluded, before or behind the column
    simp only [columnProjection, beq_iff_eq, identifier, if_false, Projection.empty,
      Projection.include_, Projection.exclude, Projection.isInclusion, Projection.included,
      Named.insert]
    split <;> simp

theorem keeps_columnProjection (other : column ≠ idField) :
    (columnProjection column).keeps idField = false := by
  simp [columnProjection, other, Projection.exclude, Projection.keeps]

/-- The column of a projected document is that of the document itself. -/
theorem getPath?_apply_columnProjection (pointless : '.' ∉ column.toList) (nonempty : column ≠ "")
    (doc : Document) :
    ((columnProjection column).apply doc).getPath? column = doc.getPath? column := by
  obtain ⟨isInclusion, included⟩ := included_columnProjection column
  -- the projected document begins with the identifier, which may be the column itself
  have absent (nothing : doc.get? column = none) :
      ((columnProjection column).start doc).get? column = none := by
    unfold Projection.start
    cases found : doc.id? with
    | none => rfl
    | some id =>
      have other : column ≠ idField := by
        rintro rfl
        rw [Document.id?, nothing] at found
        cases found
      simp only [keeps_columnProjection other, Bool.false_eq_true, if_false]
      rfl
  rw [Projection.apply, if_pos isInclusion, included, List.foldl_cons, List.foldl_nil,
    Document.getPath?_eq_get? pointless, Document.getPath?_eq_get? pointless,
    Document.get?_copyPath pointless nonempty absent]

end Client

end DocQuery
