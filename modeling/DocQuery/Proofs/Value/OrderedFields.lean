import DocQuery.Proofs.Value.PathWrites

/-! # Fields in order

Documents are maps, so the fields of every object in them are in the order of their names. Such a
document has one form only: a write of what is there already leaves it as it is.

* `Value.IsOrdered`, `Document.IsOrdered` — the condition, at every depth.
* `Document.isOrdered_ofList` — a document that is made of ordered values has it.
* `Value.IsOrdered.descend` — what is read in an ordered value is ordered.
* `Value.isOrdered_setSegments` — a write of an ordered value keeps the order.
* `Value.setSegments_eq_self` — a write of what is there changes nothing.
-/

namespace DocQuery

namespace Value

/-- The fields of every object in the value are in the order of their names. -/
inductive IsOrdered : Value → Prop
  | array {items : List Value} : (∀ item ∈ items, item.IsOrdered) → IsOrdered (.array items)
  | object {fields : Named Value} : Named.Sorted fields →
      (∀ entry ∈ fields, entry.2.IsOrdered) → IsOrdered (.object fields)
  | scalar {value : Value} : value.isArray = false → value.isObject = false → IsOrdered value

variable {value found : Value} {fields inner changed : Named Value} {name : String}
  {path rest : List String}

theorem isOrdered_object_iff : (Value.object fields).IsOrdered ↔
    Named.Sorted fields ∧ ∀ entry ∈ fields, entry.2.IsOrdered := by
  constructor
  · intro ordered
    cases ordered with
    | object sorted inside => exact ⟨sorted, inside⟩
    | scalar _ noObject => cases noObject
  · rintro ⟨sorted, inside⟩
    exact .object sorted inside

theorem isOrdered_emptyObject : (Value.object []).IsOrdered := .object .nil (by simp)

theorem IsOrdered.of_mem_items {items : List Value} (ordered : (Value.array items).IsOrdered) :
    ∀ item ∈ items, item.IsOrdered := by
  cases ordered with
  | array inside => exact inside
  | scalar noArray => cases noArray

theorem IsOrdered.get? (ordered : (Value.object fields).IsOrdered)
    (found : Named.get? name fields = some value) : value.IsOrdered :=
  (isOrdered_object_iff.mp ordered).2 _ (Named.mem_of_get? found)

theorem IsOrdered.below? (ordered : (Value.object fields).IsOrdered)
    (below : below? name fields = some inner) : (Value.object inner).IsOrdered := by
  rcases eq_nil_or_mem_of_below? below with rfl | member
  · exact isOrdered_emptyObject
  · exact (isOrdered_object_iff.mp ordered).2 _ member

theorem IsOrdered.insert (ordered : (Value.object fields).IsOrdered)
    (valueOrdered : value.IsOrdered) (name : String) : (Value.object (Named.insert name value fields)).IsOrdered := by
  obtain ⟨sorted, inside⟩ := isOrdered_object_iff.mp ordered
  refine .object (Named.sorted_insert sorted) fun entry member => ?_
  rcases Named.mem_insert_cases member with rfl | before
  · exact valueOrdered
  · exact inside entry before

/-! ## Reading -/

theorem descend_append (value : Value) (path rest : List String) :
    value.descend (path ++ rest) = (value.descend path).bind (·.descend rest) := by
  induction path generalizing value with
  | nil => rfl
  | cons name path ih =>
    cases value with
    | object fields =>
      rw [List.cons_append, descend, descend]
      cases Named.get? name fields with
      | none => rfl
      | some inner => exact ih inner
    | array items =>
      simp only [List.cons_append, descend, ih, Option.bind_assoc]
    | _ => rfl

theorem IsOrdered.descend (ordered : value.IsOrdered) (read : value.descend path = some found) :
    found.IsOrdered := by
  induction path generalizing value with
  | nil =>
    cases read
    exact ordered
  | cons name rest ih =>
    cases value with
    | object fields =>
      obtain ⟨inner, there, read⟩ := Option.bind_eq_some_iff.mp read
      exact ih (ordered.get? there) read
    | array items =>
      obtain ⟨index, -, read⟩ := Option.bind_eq_some_iff.mp read
      obtain ⟨item, there, read⟩ := Option.bind_eq_some_iff.mp read
      exact ih (ordered.of_mem_items item (List.mem_of_getElem? there)) read
    | _ => cases read

/-! ## Writing -/

theorem isOrdered_setSegments (ordered : (Value.object fields).IsOrdered)
    (valueOrdered : value.IsOrdered) (written : setSegments value path fields = .ok changed) :
    (Value.object changed).IsOrdered := by
  induction path generalizing fields changed with
  | nil =>
    cases written
    exact ordered
  | cons name rest ih =>
    by_cases more : rest = []
    · subst more
      cases written
      exact ordered.insert valueOrdered name
    · obtain ⟨before, after, below, inside, rfl⟩ := (setSegments_cons_eq_ok_iff more).mp written
      exact ordered.insert (ih (ordered.below? below) inside) name

/-- A write of what is there changes nothing. -/
theorem setSegments_eq_self (ordered : (Value.object fields).IsOrdered) (nonempty : path ≠ [])
    (there : (Value.object fields).descend path = some value)
    (written : setSegments value path fields = .ok changed) : changed = fields := by
  induction path generalizing fields changed with
  | nil => exact absurd rfl nonempty
  | cons name rest ih =>
    have sorted := (isOrdered_object_iff.mp ordered).1
    by_cases more : rest = []
    · subst more
      cases written
      rw [descend_cons] at there
      obtain ⟨found, here, same⟩ := Option.bind_eq_some_iff.mp there
      cases same
      exact Named.insert_eq_self sorted here
    · obtain ⟨before, after, below, inside, rfl⟩ := (setSegments_cons_eq_ok_iff more).mp written
      have deeper := descend_of_below? below more ▸ there
      have same : after = before := ih (ordered.below? below) more deeper inside
      subst same
      -- a value is read below the name, so it is the name of an object
      have found : Named.get? name fields = some (.object after) := by
        rw [DocQuery.below?] at below
        split at below
        · rename_i absent
          rw [descend_cons, absent] at there
          cases there
        · rename_i inner found
          cases below
          exact found
        · cases below
      exact Named.insert_eq_self sorted found

end Value

namespace Document

variable {doc changed : Document} {path : String} {value found : Value}

/-- The fields of the document and of every object in it are in the order of their names. -/
def IsOrdered (doc : Document) : Prop := (Value.object doc.fields).IsOrdered

theorem IsOrdered.getPath? (ordered : doc.IsOrdered) (read : doc.getPath? path = some found) :
    found.IsOrdered :=
  Value.IsOrdered.descend ordered read

theorem IsOrdered.setPath (ordered : doc.IsOrdered) (valueOrdered : value.IsOrdered)
    (written : doc.setPath path value = .ok changed) : changed.IsOrdered :=
  Value.isOrdered_setSegments ordered valueOrdered (setPath_eq_ok_iff.mp written).2

theorem isOrdered_ofList {fields : List (String × Value)}
    (inside : ∀ entry ∈ fields, entry.2.IsOrdered) : (ofList fields).IsOrdered :=
  .object (Named.sorted_ofList fields) fun entry member => inside entry (Named.mem_of_mem_ofList member)

/-- A write of what is there changes nothing. -/
theorem setPath_eq_self (ordered : doc.IsOrdered) (there : doc.getPath? path = some value)
    (written : doc.setPath path value = .ok changed) : changed = doc := by
  have same : changed.fields = doc.fields := Value.setSegments_eq_self ordered
    (segments_ne_nil path) there (setPath_eq_ok_iff.mp written).2
  exact congrArg Document.mk same

end Document

end DocQuery
