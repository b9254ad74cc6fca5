import DocQuery.Proofs.Condition.Pieces

/-! # Substitution in one pass

Parameters are written in one after the other, so a value may hold a marker that is taken later and
is replaced in it. Where the pieces of a text stay apart this is the only difference from writing
all parameters in at once.

* `Diverges` — a difference of two texts that nothing behind it makes up for.
* `substitute_eq_onePass_iff` — both ways agree exactly if no value holds a later marker.
-/

namespace DocQuery.Parameters

variable {c : Char} {s t : List Char} {m n r : Marker} {ms done todo : List Marker}

/-! ## Markers in written values -/

/-- The first difference of two texts is a mark in the first and none in the second. -/
inductive Diverges : List Char → List Char → Prop
  | here {c d : Char} {s t : List Char} (mark : isMark c = true) (noMark : isMark d = false) :
      Diverges (c :: s) (d :: t)
  | later {c : Char} {s t : List Char} (apart : Diverges s t) : Diverges (c :: s) (c :: t)

theorem Diverges.append_ne (apart : Diverges s t) (rest others : List Char) :
    t ++ others ≠ s ++ rest := by
  induction apart with
  | here mark noMark =>
    intro same
    rw [(List.cons.inj same).1, mark] at noMark
    cases noMark
  | later _ ih => exact fun same => ih (List.cons.inj same).2

theorem Diverges.ne (apart : Diverges s t) : t ≠ s := by
  simpa using apart.append_ne [] []

/-- Replacing a marker that occurs puts something else in the place of its mark. -/
theorem diverges_replaceAll (found : r.letters <:+: s) :
    Diverges s (replaceAll r.letters r.written s) := by
  induction s with
  | nil => exact absurd (List.infix_nil.mp found) r.letters_ne_nil
  | cons c s ih =>
    by_cases begins : r.letters <+: c :: s
    · obtain ⟨mark, d, rest, replaced, noMark⟩ := replaceAll_of_begins begins
      exact replaced ▸ .here mark noMark
    · rw [replaceAll_cons begins]
      exact .later (ih ((List.infix_cons_iff.mp found).resolve_left begins))

theorem Diverges.replaceAll (apart : Diverges s t) (r : Marker) :
    Diverges s (replaceAll r.letters r.written t) := by
  induction apart with
  | @here c d s t mark noMark =>
    have begins : ¬ r.letters <+: d :: t := fun begins => by
      rw [(replaceAll_of_begins begins).1] at noMark
      cases noMark
    rw [replaceAll_cons begins]
    exact .here mark noMark
  | @later c s t _ ih =>
    by_cases begins : r.letters <+: c :: t
    · obtain ⟨mark, d, rest, replaced, noMark⟩ := replaceAll_of_begins begins
      exact replaced ▸ .here mark noMark
    · rw [replaceAll_cons begins]
      exact .later ih

/-- Markers that are taken keep a text exactly if none of them is in it. -/
theorem settle_cases (ms : List Marker) (s : List Char) :
    settle ms s = s ∧ (∀ m ∈ ms, ¬ m.letters <:+: s) ∨
      Diverges s (settle ms s) ∧ ∃ m ∈ ms, m.letters <:+: s := by
  induction ms using List.reverseRecOn with
  | nil => exact .inl ⟨rfl, by simp⟩
  | append_singleton ms r ih =>
    rw [settle_concat]
    rcases ih with ⟨same, absent⟩ | ⟨apart, m, member, found⟩
    · rw [same]
      by_cases found : r.letters <:+: s
      · exact .inr ⟨diverges_replaceAll found, r, by simp, found⟩
      · refine .inl ⟨replaceAll_absent found, ?_⟩
        rw [List.forall_mem_append, List.forall_mem_singleton]
        exact ⟨absent, found⟩
    · exact .inr ⟨apart.replaceAll r, m, by simp [member], found⟩

theorem pair_sublist_iff (fresh : m ∉ done) :
    [m, n].Sublist (done ++ m :: todo) ↔ n ∈ todo := by
  induction done with
  | nil => rw [List.nil_append, List.cons_sublist_cons, List.singleton_sublist]
  | cons r done ih =>
    rw [List.mem_cons, not_or] at fresh
    rw [List.cons_append, ← ih fresh.2]
    exact ⟨fun pair => pair.of_cons_of_ne fresh.1, fun pair => pair.cons r⟩

/-- The value of a marker stays exactly if none of the markers taken later is in its text. -/
theorem settle_letters_cases (plain : PlainNames ms)
    (found : first? ms (m.letters ++ s) = some m) :
    settle ms m.letters = m.written ∧ (∀ n, [m, n].Sublist ms → ¬ n.letters <:+: m.written) ∨
      Diverges m.written (settle ms m.letters) ∧
        ∃ n, [m, n].Sublist ms ∧ n.letters <:+: m.written := by
  obtain ⟨done, todo, split, fresh⟩ := List.eq_append_cons_of_mem (mem_of_first? found)
  have same : settle done m.letters = m.letters := by
    rcases settle_letters plain split found with ⟨-, same⟩ | ⟨taken, -⟩
    · exact same
    · exact absurd taken fresh
  have later : settle ms m.letters = settle todo m.written := by
    rw [split, settle_append, same, settle_cons, replaceAll_self]
  have pairs (n : Marker) : [m, n].Sublist ms ↔ n ∈ todo := split ▸ pair_sublist_iff fresh
  simp only [later, pairs]
  exact settle_cases todo m.written

/-- A difference in one piece is not made up for by the pieces behind it. -/
theorem settled_eq_iff {ps : List Piece} (each : ∀ m, .marker m ∈ ps →
      settle ms m.letters = m.written ∨ Diverges m.written (settle ms m.letters)) :
    settled ms ps = ps.flatMap Piece.written ↔
      ∀ m, .marker m ∈ ps → settle ms m.letters = m.written := by
  induction ps with
  | nil => simp
  | cons p ps ih =>
    have others := ih fun m member => each m (List.mem_cons_of_mem _ member)
    rw [settled_cons, List.flatMap_cons]
    cases p with
    | plain c =>
      rw [Piece.letters, Piece.written, settle_single, List.append_cancel_left_eq, others]
      simp
    | marker m =>
      rw [Piece.letters, Piece.written]
      rcases each m List.mem_cons_self with same | apart
      · rw [same, List.append_cancel_left_eq, others]
        simp only [List.mem_cons, Piece.marker.injEq, forall_eq_or_imp, same, true_and]
      · exact iff_of_false (apart.append_ne _ _) fun all => apart.ne (all m List.mem_cons_self)

theorem Cut.first?_of_mem {ps : List Piece} (cut : Cut ms s ps) (member : .marker m ∈ ps) :
    ∃ rest, first? ms (m.letters ++ rest) = some m := by
  induction cut with
  | nil => cases member
  | plain _ _ ih => exact ih (by simpa using member)
  | marker found _ ih =>
    rcases List.mem_cons.mp member with here | later
    · cases here
      exact ⟨_, found⟩
    · exact ih later

/-- Writing the parameters in one after the other is writing them in at once exactly if the text of
no value holds a marker that is taken later. -/
theorem substitute_eq_onePass_iff (text : String) (params : Parameters)
    (plain : PlainNames (markers params)) (apart : MarkersApart (markers params) text.toList) :
    substitute text params = onePass text params ↔
      ∀ m n, .marker m ∈ pieces text params → [m, n].Sublist (markers params) →
        ¬ n.letters <:+: m.written := by
  have cut := cut_piecesFrom params text.toList
  have each (m : Marker) (member : .marker m ∈ pieces text params) :=
    let ⟨_, found⟩ := cut.first?_of_mem member
    settle_letters_cases plain found
  rw [substitute_eq_settle, onePass, String.ofList_inj, cut.settle_eq_settled plain apart]
  refine (settled_eq_iff fun m member => (each m member).imp And.left And.left).trans ?_
  constructor
  · intro all m n member pair
    rcases each m member with ⟨-, absent⟩ | ⟨apart, -⟩
    · exact absent n pair
    · exact absurd (all m member) apart.ne
  · intro absent m member
    rcases each m member with ⟨same, -⟩ | ⟨-, n, pair, found⟩
    · exact same
    · exact absurd found (absent m n member pair)

/-- An address in a value is no marker of the parameter. -/
theorem substitute_address :
    substitute "f = @p" [("p", .string "joe@example.com")] =
      onePass "f = @p" [("p", .string "joe@example.com")] := by
  have both : markers [("p", .string "joe@example.com")] =
      Marker.both ("p", .string "joe@example.com") := markers_single ⟨by decide, by decide⟩ _
  have names : ∀ m ∈ Marker.both ("p", .string "joe@example.com"), ∀ c ∈ m.name.toList,
      isMark c = false ∧ c ∉ closers := by decide
  have absent : ∀ m ∈ Marker.both ("p", .string "joe@example.com"),
      ∀ n ∈ Marker.both ("p", .string "joe@example.com"), ¬ n.letters <:+: m.written := by decide
  refine (substitute_eq_onePass_iff _ _ ?_ (markersApart_of_countP (by decide))).mpr ?_
  · rw [both]
    exact names
  · intro m n _ pair
    rw [both] at pair
    exact absent m (pair.subset (by simp)) n (pair.subset (by simp))

/-- The name behind a colon in a value is replaced although it was not in the text. -/
theorem substitute_marker_ne_onePass :
    substitute "f = @p" [("p", .string "a:p")] ≠ onePass "f = @p" [("p", .string "a:p")] := by
  rw [substitute_eq_settle, onePass, pieces, markers_single ⟨by decide, by decide⟩]
  decide

end DocQuery.Parameters
