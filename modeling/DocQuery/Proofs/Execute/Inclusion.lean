import DocQuery.Execute.Order
import DocQuery.Proofs.Value.BlockedPaths

/-! # Projections that include paths

An inclusion copies the value at each included path into a new document. What is read of the copy is
read of the document: a value that is copied has everything below it, and what is made on the way to
it are objects where the document has something too. So a path along which the copy cannot be written
leads through a value that has been copied before, and is read in it.

* `Document.IsPart` — a document that is made of copies from another one.
* `Document.isPart_copyPath` — one more copy.
* `Document.getPath?_copyPath_self`, `Document.getPath?_copyPath` — what is read after it.
* `Document.foldl_copyPath` — the copies of several paths.
* `inclusion_keeps_paths` — what a projection keeps, and that it keeps it when it is repeated.
-/

namespace DocQuery

variable {source target changed doc : Document} {path other : String} {paths : List String}
  {value : Value}

namespace Document

/-! ## Copies -/

/-- The target is made of copies from the source: what is read in it is read in the source too, and
is the same there if it is no object. -/
structure IsPart (source target : Document) : Prop where
  ordered : target.IsOrdered
  reads : ∀ path found, (Value.object target.fields).descend path = some found →
    ∃ original, (Value.object source.fields).descend path = some original ∧
      (found.isObject = false → found = original)

theorem copyPath_cases (source target : Document) (path : String) :
    copyPath source target path = target ∨ ∃ value, source.getPath? path = some value ∧
      target.setPath path value = .ok (copyPath source target path) := by
  unfold copyPath
  cases source.getPath? path with
  | none => exact .inl rfl
  | some value =>
    dsimp only
    cases written : target.setPath path value with
    | error e => exact .inl rfl
    | ok changed => exact .inr ⟨value, rfl, written⟩

/-- On the way along a path that has been written there is nothing but objects. -/
theorem isOpen_of_setPath (written : doc.setPath path value = .ok changed) :
    IsOpen (segments path) changed.fields := by
  obtain ⟨result, -, onTop⟩ := (isWritten_setPath written).again value
  exact (setPath_isOk_iff.mp ⟨result, onTop⟩).2

/-- What is read below a path is read in the value at its end. -/
theorem descend_below (there : doc.getPath? path = some value) (rest : List String) :
    (Value.object doc.fields).descend (segments path ++ rest) = value.descend rest := by
  rw [getPath?] at there
  rw [Value.descend_append, there, Option.bind_some]

theorem isPart_copyPath (ordered : source.IsOrdered) (part : IsPart source target)
    (path : String) : IsPart source (copyPath source target path) := by
  rcases copyPath_cases source target path with same | ⟨value, there, written⟩
  · rwa [same]
  · refine ⟨part.ordered.setPath (ordered.getPath? there) written, fun pieces found read => ?_⟩
    by_cases below : segments path <+: pieces
    · obtain ⟨rest, rfl⟩ := below
      rw [descend_below (getPath?_setPath_self written)] at read
      exact ⟨found, by rw [descend_below there, read], fun _ => rfl⟩
    by_cases above : pieces <+: segments path
    · -- an object on the way, which the source has as well, since it goes on behind it
      have object : found.isObject = true :=
        isOpen_of_setPath written pieces above (fun same => below (same ▸ List.prefix_rfl)) found read
      obtain ⟨rest, whole⟩ := above
      rw [getPath?, ← whole, Value.descend_append] at there
      obtain ⟨original, here, -⟩ := Option.bind_eq_some_iff.mp there
      exact ⟨original, here, fun notObject => by rw [object] at notObject; cases notObject⟩
    · rw [descend_setSegments_of_unrelated (setPath_eq_ok_iff.mp written).2 ⟨below, above⟩] at read
      exact part.reads pieces found read

/-- A path that has been copied is read in the copy. -/
theorem getPath?_copyPath_self (part : IsPart source target)
    (filled : ∀ segment ∈ segments path, segment.isEmpty = false) :
    (copyPath source target path).getPath? path = source.getPath? path := by
  unfold copyPath
  cases there : source.getPath? path with
  | none =>
    cases read : target.getPath? path with
    | none => rfl
    | some found =>
      obtain ⟨original, here, -⟩ := part.reads (segments path) found read
      cases there.symm.trans here
  | some value =>
    dsimp only
    cases written : target.setPath path value with
    | ok changed => exact getPath?_setPath_self written
    | error e =>
      -- something is in the way that has been copied, with the value below it
      rcases setPath_isError_iff.mp ⟨e, written⟩ with ⟨segment, member, empty⟩ | inTheWay
      · rw [filled segment member] at empty
        cases empty
      · obtain ⟨front, found, ⟨rest, whole⟩, -, read, notObject⟩ := inTheWay
        obtain ⟨original, here, same⟩ := part.reads (segments front) found read
        have copied := same notObject
        subst copied
        rw [← there, getPath?, getPath?, ← whole, descend_below read, descend_below here]

/-- What is read along a path as in the source is read so after any copy. -/
theorem getPath?_copyPath (part : IsPart source target)
    (same : target.getPath? other = source.getPath? other) (path : String) :
    (copyPath source target path).getPath? other = source.getPath? other := by
  rcases copyPath_cases source target path with kept | ⟨value, there, written⟩
  · rw [kept, same]
  · by_cases below : segments path <+: segments other
    · obtain ⟨rest, whole⟩ := below
      rw [getPath?, getPath?, ← whole, descend_below (getPath?_setPath_self written),
        descend_below there]
    by_cases above : segments other <+: segments path
    · -- the value at the other path is there, so what is below it is there already
      obtain ⟨rest, whole⟩ := above
      have already : target.getPath? path = some value := by
        rw [← there, getPath?, getPath?, ← whole, Value.descend_append, Value.descend_append]
        exact congrArg (·.bind (·.descend rest)) same
      rw [setPath_eq_self part.ordered already written, same]
    · rw [getPath?_setPath_of_unrelated written ⟨below, above⟩, same]

/-! ## Several paths -/

theorem foldl_copyPath (ordered : source.IsOrdered) (part : IsPart source target)
    (paths : List String) : IsPart source (paths.foldl (copyPath source) target) ∧
      ∀ path, target.getPath? path = source.getPath? path ∨
        (path ∈ paths ∧ ∀ segment ∈ segments path, segment.isEmpty = false) →
          (paths.foldl (copyPath source) target).getPath? path = source.getPath? path := by
  induction paths generalizing target with
  | nil =>
    refine ⟨part, fun path read => ?_⟩
    rcases read with same | ⟨member, -⟩
    · exact same
    · cases member
  | cons first rest ih =>
    obtain ⟨partOfRest, kept⟩ := ih (isPart_copyPath ordered part first)
    refine ⟨partOfRest, fun path read => kept path ?_⟩
    rcases read with same | ⟨member, filled⟩
    · exact .inl (getPath?_copyPath part same first)
    · rcases List.mem_cons.mp member with rfl | later
      · exact .inl (getPath?_copyPath_self part filled)
      · exact .inr ⟨later, filled⟩

/-- A write along a path makes at most one field, of the name of the first segment. -/
theorem mem_keys_setPath {name : String} (written : doc.setPath path value = .ok changed)
    (member : name ∈ Named.keys changed.fields) :
    name ∈ Named.keys doc.fields ∨ (segments path).head? = some name := by
  have inside := (setPath_eq_ok_iff.mp written).2
  obtain ⟨first, rest, cut⟩ := List.exists_cons_of_ne_nil (segments_ne_nil path)
  rw [cut] at inside ⊢
  obtain ⟨inner, same, -⟩ := exists_insert_of_setSegments inside
  rw [same] at member
  obtain ⟨entry, there, rfl⟩ := List.mem_map.mp member
  rcases Named.mem_insert_cases there with rfl | before
  · exact .inr rfl
  · exact .inl (List.mem_map_of_mem before)

theorem mem_keys_foldl_copyPath {name : String}
    (member : name ∈ Named.keys (paths.foldl (copyPath source) target).fields) :
    name ∈ Named.keys target.fields ∨ ∃ path ∈ paths, (segments path).head? = some name := by
  induction paths generalizing target with
  | nil => exact .inl member
  | cons first rest ih =>
    rcases ih member with here | ⟨path, later, head⟩
    · rcases copyPath_cases source target first with same | ⟨value, -, written⟩
      · exact .inl (same ▸ here)
      · rcases mem_keys_setPath written here with before | head
        · exact .inl before
        · exact .inr ⟨first, List.mem_cons_self, head⟩
    · exact .inr ⟨path, List.mem_cons_of_mem _ later, head⟩

/-- Copies are the same from documents in which the same is read along the paths. -/
theorem foldl_copyPath_congr {one : Document}
    (same : ∀ path ∈ paths, one.getPath? path = source.getPath? path) (target : Document) :
    paths.foldl (copyPath one) target = paths.foldl (copyPath source) target := by
  refine List.foldl_ext _ _ _ fun target path member => ?_
  rw [copyPath, copyPath, same path member]

end Document

/-! ## Projections -/

namespace Projection

variable {p : Projection}

theorem keeps_idField_iff (inclusion : p.isInclusion = true) :
    p.keeps idField = true ↔ Named.get? idField p.fields ≠ some false := by
  rw [keeps, inclusion]
  cases Named.get? idField p.fields with
  | none => simp [idField]
  | some flag => cases flag <;> simp

theorem start_eq (p : Projection) (doc : Document) :
    p.start doc = .empty ∧ (p.keeps idField = true → doc.id? = none) ∨
      ∃ id, doc.id? = some id ∧ p.keeps idField = true ∧ p.start doc = ⟨[(idField, id)]⟩ := by
  unfold start
  cases doc.id? with
  | none => exact .inl ⟨rfl, fun _ => rfl⟩
  | some id =>
    cases p.keeps idField with
    | false => exact .inl ⟨rfl, nofun⟩
    | true => exact .inr ⟨id, rfl, rfl, rfl⟩

theorem isPart_start (ordered : doc.IsOrdered) (p : Projection) : doc.IsPart (p.start doc) := by
  rcases p.start_eq doc with ⟨nothing, -⟩ | ⟨id, there, -, alone⟩
  · rw [nothing]
    refine ⟨Value.isOrdered_emptyObject, fun path found read => ?_⟩
    cases path with
    | nil =>
      cases read
      exact ⟨_, rfl, nofun⟩
    | cons name rest => cases read
  · rw [alone]
    refine ⟨.object (List.pairwise_singleton _ _) ?_, fun path found read => ?_⟩
    · simpa using ordered.get? there
    · cases path with
      | nil =>
        cases read
        exact ⟨_, rfl, nofun⟩
      | cons name rest =>
        obtain ⟨inner, here, read⟩ := Option.bind_eq_some_iff.mp read
        rw [Named.get?] at here
        split at here
        · rename_i same
          cases here
          subst same
          exact ⟨found, Option.bind_eq_some_iff.mpr ⟨id, there, read⟩, fun _ => rfl⟩
        · cases here

theorem pointless_idField : '.' ∉ idField.toList := by decide

theorem getPath?_idField (doc : Document) : doc.getPath? idField = doc.id? :=
  Document.getPath?_eq_get? pointless_idField doc

theorem id?_start (kept : p.keeps idField = true) (doc : Document) :
    (p.start doc).id? = doc.id? := by
  rcases p.start_eq doc with ⟨nothing, absent⟩ | ⟨id, there, -, alone⟩
  · rw [nothing, absent kept]
    rfl
  · rw [alone, there]
    rfl

theorem start_congr {one : Document} (same : p.keeps idField = true → one.id? = doc.id?) :
    p.start one = p.start doc := by
  unfold start
  cases kept : p.keeps idField with
  | true => rw [same kept]
  | false => cases one.id? <;> cases doc.id? <;> rfl

theorem mem_keys_start {name : String} (member : name ∈ Named.keys (p.start doc).fields) :
    name = idField ∧ p.keeps idField = true := by
  rcases p.start_eq doc with ⟨nothing, -⟩ | ⟨id, -, kept, alone⟩
  · rw [nothing] at member
    cases member
  · rw [alone] at member
    exact ⟨List.mem_singleton.mp member, kept⟩

end Projection

open Document Projection in
/-- With a projection that includes paths, none of which has an empty segment, every included path
reads as before. The fields of the result are those that included paths begin with, and the
identifier, which is kept whole unless it is excluded. A second time the projection changes
nothing. -/
theorem inclusion_keeps_paths {p : Projection} {doc : Document} (ordered : doc.IsOrdered)
    (inclusion : p.isInclusion = true)
    (filled : ∀ path ∈ p.included, ∀ segment ∈ segments path, segment.isEmpty = false) :
    (∀ path ∈ p.included, (p.apply doc).getPath? path = doc.getPath? path) ∧
    (∀ name ∈ Named.keys (p.apply doc).fields,
      name = idField ∧ Named.get? idField p.fields ≠ some false ∨
        ∃ path ∈ p.included, (segments path).head? = some name) ∧
    (Named.get? idField p.fields ≠ some false → (p.apply doc).id? = doc.id?) ∧
    p.apply (p.apply doc) = p.apply doc := by
  have copies (doc : Document) : p.apply doc = p.included.foldl (copyPath doc) (p.start doc) :=
    if_pos inclusion
  obtain ⟨-, read⟩ := foldl_copyPath ordered (isPart_start ordered p) p.included
  have paths : ∀ path ∈ p.included, (p.apply doc).getPath? path = doc.getPath? path := by
    intro path member
    rw [copies]
    exact read path (.inr ⟨member, filled path member⟩)
  have identifier : p.keeps idField = true → (p.apply doc).id? = doc.id? := by
    intro kept
    rw [copies, ← getPath?_idField, ← getPath?_idField]
    refine read idField (.inl ?_)
    rw [getPath?_idField, getPath?_idField, id?_start kept]
  refine ⟨paths, fun name member => ?_, ?_, ?_⟩
  · rw [copies] at member
    refine (mem_keys_foldl_copyPath member).imp_left fun atStart => ?_
    rw [← keeps_idField_iff inclusion]
    exact mem_keys_start atStart
  · rw [← keeps_idField_iff inclusion]
    exact identifier
  · rw [copies (p.apply doc), start_congr identifier, foldl_copyPath_congr paths, ← copies]

namespace Projection

/-- A projection to an object, to a field of it once more, and to a field behind an array. -/
def ofNests : Projection := ⟨[("a", true), ("a.b", true), ("c.0.d", true)]⟩

end Projection

open Document Projection in
/-- Objects take the place of an array, and what was read through it is read through them. -/
theorem inclusion_keeps_paths_through_array :
    ofNests.apply twoNests =
        ⟨[("a", .object [("b", .bool true)]), ("c", .object [("0", .object [("d", .null)])])]⟩ ∧
      (ofNests.apply twoNests).getPath? "c.0.d" = twoNests.getPath? "c.0.d" ∧
      (ofNests.apply twoNests).id? = twoNests.id? ∧
      ofNests.apply (ofNests.apply twoNests) = ofNests.apply twoNests := by
  have filled : ∀ path ∈ ofNests.included, ∀ segment ∈ segments path, segment.isEmpty = false := by
    decide
  obtain ⟨paths, -, identifier, again⟩ := inclusion_keeps_paths isOrdered_twoNests rfl filled
  exact ⟨rfl, paths "c.0.d" (by decide), identifier nofun, again⟩

end DocQuery
