import DocQuery.Proofs.Value.OrderedFields

/-! # Paths that are blocked

A write along a path fails if a segment is empty, or if a value is in the way that is no object.
The objects that are missing on the way are made while the path is walked, and none of them is made
before a value that is in the way: below a new object there is nothing.

* `setSegments_isOk_iff` — which paths can be written along.
* `walkSegments`, `Document.setPathInPlace` — the write in place, with what a failure leaves.
* `Document.setPathInPlace_eq` — a failure leaves the document as it was.
* `written_path_laws` — what a write does, and when there is none.
-/

namespace DocQuery

open DocQuery.Text

section Segments

variable {value found : Value} {fields inner changed : Named Value} {name : String}
  {path front : List String}

/-- On the way along the segments nothing is read but objects. -/
def IsOpen (path : List String) (fields : Named Value) : Prop :=
  ∀ front, front <+: path → front ≠ path → ∀ found,
    (Value.object fields).descend front = some found → found.isObject = true

theorem isOpen_single (name : String) (fields : Named Value) : IsOpen [name] fields := by
  intro front leads shorter found read
  have empty : front = [] := by
    rcases List.prefix_cons_iff.mp leads with empty | ⟨rest, rfl, nothing⟩
    · exact empty
    · rw [List.prefix_nil.mp nothing] at shorter
      exact absurd rfl shorter
  subst empty
  cases read
  rfl

/-- Behind the first of several segments the way goes on in the fields below it. -/
theorem isOpen_cons_iff (more : path ≠ []) : IsOpen (name :: path) fields ↔
    ∃ inner, below? name fields = some inner ∧ IsOpen path inner := by
  constructor
  · intro isOpen
    cases below : below? name fields with
    | some inner =>
      refine ⟨inner, rfl, fun front leads shorter found read => ?_⟩
      by_cases empty : front = []
      · subst empty
        cases read
        rfl
      · refine isOpen (name :: front) (List.cons_prefix_cons.mpr ⟨rfl, leads⟩)
          (by simpa using shorter) found ?_
        rwa [descend_of_below? below empty]
    | none =>
      -- there is a value below the name, and it is no object
      exfalso
      rw [below?] at below
      split at below
      · cases below
      · cases below
      · rename_i there notObject found
        have read : (Value.object fields).descend [name] = some there := by
          rw [descend_cons, found]
          rfl
        have object := isOpen [name] ⟨path, rfl⟩ (by simpa using Ne.symm more) there read
        cases there with
        | object inner => exact notObject inner rfl
        | _ => cases object
  · rintro ⟨inner, below, isOpen⟩ front leads shorter found read
    rcases List.prefix_cons_iff.mp leads with rfl | ⟨rest, rfl, behind⟩
    · cases read
      rfl
    · by_cases empty : rest = []
      · subst empty
        obtain ⟨there, here, same⟩ := Option.bind_eq_some_iff.mp read
        cases same
        rw [below?, here] at below
        cases found <;> cases below
        rfl
      · rw [descend_of_below? below empty] at read
        exact isOpen rest behind (by simpa using shorter) found read

/-- A value can be written along a path exactly if nothing but objects is in the way. -/
theorem setSegments_isOk_iff (value : Value) (nonempty : path ≠ []) :
    (∃ changed, setSegments value path fields = .ok changed) ↔ IsOpen path fields := by
  induction path generalizing fields with
  | nil => exact absurd rfl nonempty
  | cons name rest ih =>
    by_cases more : rest = []
    · subst more
      exact ⟨fun _ => isOpen_single name fields, fun _ => ⟨_, rfl⟩⟩
    · rw [isOpen_cons_iff more]
      constructor
      · rintro ⟨changed, written⟩
        obtain ⟨before, after, below, inside, -⟩ := (setSegments_cons_eq_ok_iff more).mp written
        exact ⟨before, below, (ih more).mp ⟨after, inside⟩⟩
      · rintro ⟨before, below, isOpen⟩
        obtain ⟨after, inside⟩ := (ih more).mpr isOpen
        exact ⟨_, (setSegments_cons_eq_ok_iff more).mpr ⟨before, after, below, inside, rfl⟩⟩

/-- In a new object every path can be written along. -/
theorem isOpen_nil (path : List String) : IsOpen path [] := by
  intro front leads shorter found read
  cases front with
  | nil =>
    cases read
    rfl
  | cons name rest => cases read

/-! ## In place -/

/-- The fields with an object below a name, if nothing is there. -/
def makeObject (name : String) (fields : Named Value) : Named Value :=
  if Named.contains name fields then fields else Named.insert name (.object []) fields

/-- Sets the value at the end of a list of segments in place. Objects that are missing are made while
the segments are walked, and they are there also if the walk fails behind them. -/
def walkSegments (value : Value) :
    List String → Named Value → Named Value × Option DocumentError
  | [], fields => (fields, none)
  | [name], fields => (Named.insert name value fields, none)
  | name :: next :: rest, fields =>
    let made := makeObject name fields
    match Named.get? name made with
    | some (.object inner) =>
      let (walked, failure) := walkSegments value (next :: rest) inner
      (Named.insert name (.object walked) made, failure)
    | _ => (made, some (if rest.isEmpty then .parentNotObject else .throughNonObject))

/-- What is left of a write in place, with the failure that ended it. -/
def outcome (fields : Named Value) :
    Except DocumentError (Named Value) → Named Value × Option DocumentError
  | .ok changed => (changed, none)
  | .error e => (fields, some e)

/-- A walk in place ends with the fields that are written, or it fails and leaves the fields as they
were. -/
theorem walkSegments_eq (ordered : (Value.object fields).IsOrdered) :
    walkSegments value path fields = outcome fields (setSegments value path fields) := by
  fun_induction walkSegments value path fields with
  | case1 fields => rfl
  | case2 name fields => rfl
  | case3 name next rest fields made inner found walked failure walk ih =>
    rw [setSegments]
    cases there : Named.get? name fields with
    | none =>
      have new : made = Named.insert name (.object []) fields := by
        simp [made, makeObject, Named.contains, there]
      rw [new, Named.get?_insert_self] at found
      cases found
      -- the object is new, so that nothing in it can be in the way
      obtain ⟨after, inside⟩ :=
        (setSegments_isOk_iff value (List.cons_ne_nil next rest)).mpr
          (isOpen_nil (next :: rest))
      rw [ih Value.isOrdered_emptyObject, inside] at walk
      cases walk
      simp [inside, outcome, new, bind, Except.bind]
    | some old =>
      have kept : made = fields := by simp [made, makeObject, Named.contains, there]
      rw [kept, there] at found
      cases found
      rw [ih (ordered.get? there)] at walk
      cases inside : setSegments value (next :: rest) inner with
      | ok after =>
        rw [inside] at walk
        cases walk
        simp [outcome, kept, inside, bind, Except.bind]
      | error e =>
        rw [inside] at walk
        cases walk
        have same := Named.insert_eq_self (Value.isOrdered_object_iff.mp ordered).1 there
        simp [outcome, kept, inside, same, bind, Except.bind]
  | case4 name next rest fields made notObject =>
    rw [setSegments]
    cases there : Named.get? name fields with
    | none =>
      have found : Named.get? name made = some (.object []) := by
        simp [made, makeObject, Named.contains, there]
      exact absurd found (notObject [])
    | some old =>
      have kept : made = fields := by simp [made, makeObject, Named.contains, there]
      rw [kept, there] at notObject
      cases old with
      | object inner => exact absurd rfl (notObject inner)
      | _ => rw [kept]; rfl

end Segments

/-! ## Paths of documents -/

theorem exists_path {pieces : List String} (nonempty : pieces ≠ [])
    (pointless : ∀ piece ∈ pieces, '.' ∉ piece.toList) : ∃ path, segments path = pieces := by
  obtain ⟨first, others, rfl⟩ := List.exists_cons_of_ne_nil nonempty
  obtain ⟨absent, lack⟩ := List.forall_mem_cons.mp pointless
  have behind : ∀ piece ∈ others.map String.toList, '.' ∉ piece := by simpa using lack
  have cut := splitAt_pieces absent behind
  refine ⟨String.ofList (first.toList ++ (others.map String.toList).flatMap ('.' :: ·)), ?_⟩
  simp [segments, cut]

namespace Document

variable {doc changed : Document} {path : String} {value : Value}

/-- Sets a value along a path in place: what is left of the document, and the failure if there is
one. -/
def setPathInPlace (doc : Document) (path : String) (value : Value) :
    Document × Option DocumentError :=
  let parts := segments path
  if parts.any (·.isEmpty) then (doc, some (.emptySegment path))
  else
    let (fields, failure) := walkSegments value parts doc.fields
    (⟨fields⟩, failure)

/-- A segment of the path is empty, or a value that is no object is read on the way along it. -/
def Blocks (doc : Document) (path : String) : Prop :=
  (∃ segment ∈ segments path, segment.isEmpty = true) ∨
    ∃ front found, segments front <+: segments path ∧ segments front ≠ segments path ∧
      doc.getPath? front = some found ∧ found.isObject = false

/-- What a write along a path makes of a document. The value is read at the path, what is read along
unrelated paths was read before, and a later write along the path makes of the document what it would
have made of it at once. -/
structure IsWritten (doc : Document) (path : String) (value : Value) (changed : Document) :
    Prop where
  there : changed.getPath? path = some value
  elsewhere : ∀ other, Unrelated (segments path) (segments other) →
    changed.getPath? other = doc.getPath? other
  again : ∀ later, ∃ result, doc.setPath path later = .ok result ∧
    changed.setPath path later = .ok result

theorem isWritten_setPath (written : doc.setPath path value = .ok changed) :
    doc.IsWritten path value changed where
  there := getPath?_setPath_self written
  elsewhere _ unrelated := getPath?_setPath_of_unrelated written unrelated
  again _ := setPath_absorb List.prefix_rfl written

theorem setPathInPlace_eq (ordered : doc.IsOrdered) (path : String) (value : Value) :
    doc.setPathInPlace path value = match doc.setPath path value with
      | .ok changed => (changed, none)
      | .error e => (doc, some e) := by
  rw [setPathInPlace, setPath]
  dsimp only
  split
  · rfl
  · rw [walkSegments_eq ordered]
    cases setSegments value (segments path) doc.fields <;> rfl

theorem setPath_isOk_iff : (∃ changed, doc.setPath path value = .ok changed) ↔
    (∀ segment ∈ segments path, segment.isEmpty = false) ∧ IsOpen (segments path) doc.fields := by
  rw [← setSegments_isOk_iff value (segments_ne_nil path)]
  constructor
  · rintro ⟨changed, written⟩
    obtain ⟨filled, inside⟩ := setPath_eq_ok_iff.mp written
    exact ⟨filled, changed.fields, inside⟩
  · rintro ⟨filled, fields, inside⟩
    exact ⟨⟨fields⟩, setPath_eq_ok_iff.mpr ⟨filled, inside⟩⟩

/-- What is in the way is read along a path of its own. -/
theorem not_isOpen_iff : ¬ IsOpen (segments path) doc.fields ↔
    ∃ front found, segments front <+: segments path ∧ segments front ≠ segments path ∧
      doc.getPath? front = some found ∧ found.isObject = false := by
  constructor
  · intro closed
    simp only [IsOpen, not_forall, Bool.not_eq_true] at closed
    obtain ⟨pieces, leads, shorter, found, read, notObject⟩ := closed
    have nonempty : pieces ≠ [] := by
      rintro rfl
      cases read
      cases notObject
    obtain ⟨front, rfl⟩ := exists_path nonempty
      fun piece member => pointless_of_mem_segments (leads.mem member)
    exact ⟨front, found, leads, shorter, read, notObject⟩
  · rintro ⟨front, found, leads, shorter, read, notObject⟩ isOpen
    rw [isOpen (segments front) leads shorter found read] at notObject
    cases notObject

theorem setPath_isError_iff :
    (∃ e, doc.setPath path value = .error e) ↔ doc.Blocks path := by
  have failed : (∃ e, doc.setPath path value = .error e) ↔
      ¬ ∃ changed, doc.setPath path value = .ok changed := by
    cases doc.setPath path value <;> simp
  rw [failed, setPath_isOk_iff, not_and_or, not_isOpen_iff, Blocks]
  simp

end Document

/-- A write along a path that succeeds is read at the path and nowhere but along related paths, and a
later one takes its place. In place the write ends in the same document, or it fails with the same
error and leaves the document as it was, whatever it has walked by then. It fails exactly if a segment
of the path is empty, or if a value that is no object is read on the way. -/
theorem written_path_laws (doc : Document) (path : String) (value : Value) :
    (∀ changed, doc.setPath path value = .ok changed → doc.IsWritten path value changed) ∧
    (doc.IsOrdered → doc.setPathInPlace path value = match doc.setPath path value with
      | .ok changed => (changed, none)
      | .error e => (doc, some e)) ∧
    ((∃ e, doc.setPath path value = .error e) ↔ doc.Blocks path) :=
  ⟨fun _ => Document.isWritten_setPath, fun ordered => Document.setPathInPlace_eq ordered path value,
    Document.setPath_isError_iff⟩

namespace Document

/-- A document with an object, and with an array that holds another one. -/
def twoNests : Document :=
  ⟨[("a", .object [("b", .bool true)]), ("c", .array [.object [("d", .null)]])]⟩

/-- The document with a value two objects further down. -/
def twoNestsFilled : Document :=
  ⟨[("a", .object [("b", .bool true), ("x", .object [("y", .null)])]),
    ("c", .array [.object [("d", .null)]])]⟩

theorem isOrdered_twoNests : twoNests.IsOrdered := by
  have single {name : String} {inner : Value} (noArray : inner.isArray = false)
      (noObject : inner.isObject = false) : (Value.object [(name, inner)]).IsOrdered :=
    .object (List.pairwise_singleton _ _) (by simpa using .scalar noArray noObject)
  have built : twoNests = ofList twoNests.fields := rfl
  rw [built]
  refine isOrdered_ofList (List.forall_mem_cons.mpr ⟨single rfl rfl, ?_⟩)
  simpa using .array (by simpa using single rfl rfl)

end Document

open Document in
/-- Below an object two more are made; through an array nothing is written, although it is read. -/
theorem written_path_laws_of_nests :
    twoNests.IsWritten "a.x.y" .null twoNestsFilled ∧
      twoNests.setPathInPlace "a.x.y" .null = (twoNestsFilled, none) ∧
      twoNests.getPath? "c.0.d" = some .null ∧ twoNests.Blocks "c.0.d" ∧
      twoNests.setPathInPlace "c.0.d" .null = (twoNests, some .throughNonObject) := by
  obtain ⟨laws, inPlace, -⟩ := written_path_laws twoNests "a.x.y" .null
  obtain ⟨-, inPlace', blocked⟩ := written_path_laws twoNests "c.0.d" .null
  exact ⟨laws _ rfl, inPlace isOrdered_twoNests, rfl, blocked.mp ⟨_, rfl⟩,
    inPlace' isOrdered_twoNests⟩

end DocQuery
