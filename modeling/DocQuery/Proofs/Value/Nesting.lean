import DocQuery.Document
import DocQuery.Proofs.Value.NamedEntries

/-! # Nesting and paths

How deeply a document nests is seen at its leaves: the values, reached through fields, that are not
objects with fields of their own. Writing along a path leaves all leaves where they were, but for
those below the path, which are leaves of the value that is written.

* `setSegments_cons_eq_ok_iff` — writing along several segments.
* `Value.HasAt` — a value is found below another one at a path of field names.
* `Value.depth_le_iff_leaves` — nesting, by the leaves.
* `Value.hasAt_of_setSegments` — a leaf after a value has been written along a path.
-/

namespace DocQuery

/-! ## Writing below a name -/

section

variable {value : Value} {fields changed inner : Named Value} {name : String} {rest : List String}

/-- The fields below a name: those of an object, and none where there is no field. -/
def below? (name : String) (fields : Named Value) : Option (Named Value) :=
  match Named.get? name fields with
  | none => some []
  | some (.object inner) => some inner
  | some _ => none

theorem eq_nil_or_mem_of_below? (below : below? name fields = some inner) :
    inner = [] ∨ (name, Value.object inner) ∈ fields := by
  rw [below?] at below
  split at below
  · cases below
    exact .inl rfl
  · rename_i found
    cases below
    exact .inr (Named.mem_of_get? found)
  · cases below

/-- A write along several segments is a write in the fields below the first one. -/
theorem setSegments_cons_eq_ok_iff (more : rest ≠ []) :
    setSegments value (name :: rest) fields = .ok changed ↔
      ∃ before after, below? name fields = some before ∧
        setSegments value rest before = .ok after ∧
        changed = Named.insert name (.object after) fields := by
  obtain ⟨next, others, rfl⟩ := List.exists_cons_of_ne_nil more
  have written : ∀ before, (setSegments value (next :: others) before >>= fun after =>
      .ok (Named.insert name (.object after) fields)) = .ok changed ↔
      ∃ after, setSegments value (next :: others) before = .ok after ∧
        changed = Named.insert name (.object after) fields := by
    intro before
    cases setSegments value (next :: others) before with
    | error e => simp [bind, Except.bind]
    | ok after => simp [bind, Except.bind, eq_comm]
  rw [setSegments, below?]
  cases Named.get? name fields with
  | none => simpa using written []
  | some there =>
    cases there with
    | object inner => simpa using written inner
    | _ => simp

end

namespace Value

/-- At the end of a path of field names there is the given value. -/
def HasAt (value : Value) : List String → Value → Prop
  | [], found => value = found
  | name :: rest, found =>
    ∃ fields inner, value = .object fields ∧ (name, inner) ∈ fields ∧ inner.HasAt rest found

/-- The value is not an object with fields. -/
def IsLeaf (value : Value) : Prop := ∀ entry rest, value ≠ .object (entry :: rest)

variable {value found : Value} {fields : Named Value} {name : String}

@[simp] theorem hasAt_nil : value.HasAt [] found ↔ value = found := Iff.rfl

@[simp] theorem hasAt_object_cons {rest : List String} : (Value.object fields).HasAt (name :: rest)
    found ↔ ∃ inner, (name, inner) ∈ fields ∧ inner.HasAt rest found := by
  constructor
  · rintro ⟨_, inner, ⟨⟩, member, held⟩
    exact ⟨inner, member, held⟩
  · rintro ⟨inner, member, held⟩
    exact ⟨fields, inner, rfl, member, held⟩

theorem hasAt_append {path rest : List String} :
    value.HasAt (path ++ rest) found ↔ ∃ inner, value.HasAt path inner ∧ inner.HasAt rest found := by
  induction path generalizing value with
  | nil => simp
  | cons name path ih =>
    simp only [List.cons_append, HasAt, ih]
    grind

/-! ## Depth -/

theorem depth_le_depthFields {entry : String × Value} (member : entry ∈ fields) :
    entry.2.depth ≤ depthFields fields := by
  induction fields with
  | nil => cases member
  | cons first rest ih =>
    rw [depthFields]
    rcases List.mem_cons.mp member with rfl | later
    · exact Nat.le_max_left _ _
    · exact (ih later).trans (Nat.le_max_right _ _)

/-- A value nests at least as deeply as what is found in it, and by as much more as its path is
long. -/
theorem HasAt.depth_le {path : List String} (held : value.HasAt path found) :
    path.length + found.depth ≤ value.depth := by
  induction path generalizing value with
  | nil => simp [hasAt_nil.mp held]
  | cons name path ih =>
    obtain ⟨fields, inner, rfl, member, below⟩ := held
    have bound : inner.depth ≤ depthFields fields := depth_le_depthFields member
    have deeper := ih below
    rw [depth, List.length_cons]
    omega

mutual

/-- Some leaf is at the full depth. -/
theorem exists_deepest : (value : Value) →
    ∃ path leaf, value.HasAt path leaf ∧ leaf.IsLeaf ∧ path.length + leaf.depth = value.depth
  | .object [] => ⟨[], _, rfl, nofun, Nat.zero_add _⟩
  | .object (entry :: rest) => by
    obtain ⟨name, inner, member, path, leaf, held, isLeaf, full⟩ :=
      exists_deepest_field (entry :: rest) (by simp)
    refine ⟨name :: path, leaf, hasAt_object_cons.mpr ⟨inner, member, held⟩, isLeaf, ?_⟩
    rw [depth, ← full, List.length_cons]
    omega
  | .null | .bool _ | .int32 _ | .int64 _ | .float _ | .string _ | .binary _ | .array _
  | .objectId _ | .instant _ => ⟨[], _, rfl, nofun, Nat.zero_add _⟩

theorem exists_deepest_field : (fields : List (String × Value)) → fields ≠ [] →
    ∃ name inner, (name, inner) ∈ fields ∧ ∃ path leaf, inner.HasAt path leaf ∧ leaf.IsLeaf ∧
      path.length + leaf.depth = depthFields fields
  | [], nonempty => absurd rfl nonempty
  | (name, value) :: rest, _ => by
    obtain ⟨path, leaf, held, isLeaf, full⟩ := exists_deepest value
    rw [depthFields]
    by_cases first : depthFields rest ≤ value.depth
    · exact ⟨name, value, List.mem_cons_self, path, leaf, held, isLeaf, by omega⟩
    · -- the rest is not empty, because it nests deeper than a value
      have nonempty : rest ≠ [] := by
        rintro rfl
        simp [depthFields] at first
      obtain ⟨key, inner, member, path, leaf, held, isLeaf, full⟩ :=
        exists_deepest_field rest nonempty
      exact ⟨key, inner, List.mem_cons_of_mem _ member, path, leaf, held, isLeaf, by omega⟩

end

theorem depth_le_iff_leaves {n : Nat} : value.depth ≤ n ↔
    ∀ path leaf, value.HasAt path leaf → leaf.IsLeaf → path.length + leaf.depth ≤ n := by
  constructor
  · intro bounded path leaf held _
    exact held.depth_le.trans bounded
  · intro bounded
    obtain ⟨path, leaf, held, isLeaf, full⟩ := exists_deepest value
    exact full ▸ bounded path leaf held isLeaf

/-! ## Writing along a path -/

theorem insert_ne_nil (name : String) (value : Value) (fields : Named Value) :
    Named.insert name value fields ≠ [] := by
  fun_cases Named.insert name value fields <;> simp

theorem not_isLeaf_object_insert (name : String) (value : Value) (fields : Named Value) :
    ¬ (Value.object (Named.insert name value fields)).IsLeaf := by
  intro isLeaf
  obtain ⟨entry, rest, shape⟩ := List.exists_cons_of_ne_nil (insert_ne_nil name value fields)
  exact isLeaf entry rest (congrArg Value.object shape)

/-- A leaf of an object in which one field has been set is found in the field or was there. -/
theorem hasAt_of_insert {path : List String} (isLeaf : found.IsLeaf)
    (held : (Value.object (Named.insert name value fields)).HasAt path found) :
    (∃ rest, path = name :: rest ∧ value.HasAt rest found) ∨
      (Value.object fields).HasAt path found := by
  cases path with
  | nil => exact absurd (hasAt_nil.mp held ▸ isLeaf) (not_isLeaf_object_insert _ _ _)
  | cons key rest =>
    obtain ⟨inner, member, below⟩ := hasAt_object_cons.mp held
    rcases Named.mem_insert_cases member with same | before
    · cases same
      exact .inl ⟨rest, rfl, below⟩
    · exact .inr (hasAt_object_cons.mpr ⟨inner, before, below⟩)

theorem not_isLeaf_of_setSegments {rest : List String} {changed : Named Value}
    (written : setSegments value (name :: rest) fields = .ok changed) :
    ¬ (Value.object changed).IsLeaf := by
  by_cases more : rest = []
  · subst more
    cases written
    exact not_isLeaf_object_insert _ _ _
  · obtain ⟨before, after, -, -, rfl⟩ := (setSegments_cons_eq_ok_iff more).mp written
    exact not_isLeaf_object_insert _ _ _

/-- A leaf is below the path, and then a leaf of the value that was written there, or it was there
before. -/
theorem hasAt_of_setSegments {path : List String} {changed : Named Value}
    (written : setSegments value path fields = .ok changed) (nonempty : path ≠ [])
    {place : List String} (isLeaf : found.IsLeaf)
    (held : (Value.object changed).HasAt place found) :
    (∃ rest, place = path ++ rest ∧ value.HasAt rest found) ∨
      (Value.object fields).HasAt place found := by
  induction path generalizing fields changed place with
  | nil => exact absurd rfl nonempty
  | cons name path ih =>
    by_cases more : path = []
    · subst more
      cases written
      exact hasAt_of_insert isLeaf held
    · obtain ⟨before, after, below, inside, rfl⟩ := (setSegments_cons_eq_ok_iff more).mp written
      rcases hasAt_of_insert isLeaf held with ⟨rest, rfl, filled⟩ | there
      · rcases ih inside more filled with ⟨rest, rfl, last⟩ | earlier
        · exact .inl ⟨rest, rfl, last⟩
        · rcases eq_nil_or_mem_of_below? below with rfl | member
          · -- nothing is found in an empty object but the object itself, which has been filled
            obtain ⟨head, tail, rfl⟩ := List.exists_cons_of_ne_nil more
            cases rest with
            | nil => exact absurd (hasAt_nil.mp filled ▸ isLeaf) (not_isLeaf_of_setSegments inside)
            | cons key rest => simp at earlier
          · exact .inr (hasAt_object_cons.mpr ⟨_, member, earlier⟩)
      · exact .inr there

end Value

end DocQuery
