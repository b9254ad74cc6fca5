import DocQuery.Proofs.Condition.Markers

/-! # Pieces of a text

A text is cut from the left into the longest markers that fit and the characters that stay. Taking
the markers one after the other takes them in each piece on its own, since no marker that is taken
reaches across the end of a piece.

* `pieces`, `onePass` — the pieces of a text, and the text with each marker replaced by its value.
* `PlainNames`, `MarkersApart` — names and texts in which pieces stay apart.
* `Cut.replaceAll_settled`, `Cut.settle_eq_settled` — one marker, and all of them.
-/

namespace DocQuery.Parameters

variable {c : Char} {s t : List Char} {m n r : Marker} {ms done todo : List Marker}

/-! ## One pass -/

/-- A part of a text: a character that stays or a marker. -/
inductive Piece
  | plain (c : Char)
  | marker (m : Marker)

namespace Piece

/-- The part as it stands in the text. -/
def letters : Piece → List Char
  | .plain c => [c]
  | .marker m => m.letters

/-- The part with the value in place of the marker. -/
def written : Piece → List Char
  | .plain c => [c]
  | .marker m => m.written

end Piece

/-- The pieces of a text. `skip` counts the characters that still belong to the marker before. -/
def piecesFrom (ms : List Marker) : Nat → List Char → List Piece
  | _, [] => []
  | skip + 1, _ :: rest => piecesFrom ms skip rest
  | 0, c :: rest =>
    match longest? ms (c :: rest) with
    | some m => .marker m :: piecesFrom ms (m.letters.length - 1) rest
    | none => .plain c :: piecesFrom ms 0 rest

/-- The pieces of a text from the left, with the longest marker that fits at each place. -/
def pieces (text : String) (params : Parameters) : List Piece :=
  piecesFrom (markers params) 0 text.toList

/-- The text with each marker of the original replaced by its value. -/
def onePass (text : String) (params : Parameters) : String :=
  String.ofList ((pieces text params).flatMap Piece.written)

/-- A text cut into its pieces. -/
inductive Cut (ms : List Marker) : List Char → List Piece → Prop
  | nil : Cut ms [] []
  | plain {c : Char} {s : List Char} {ps : List Piece}
      (none_ : first? ms (c :: s) = none) (rest : Cut ms s ps) :
      Cut ms (c :: s) (.plain c :: ps)
  | marker {m : Marker} {s : List Char} {ps : List Piece}
      (found : first? ms (m.letters ++ s) = some m) (rest : Cut ms s ps) :
      Cut ms (m.letters ++ s) (.marker m :: ps)

theorem piecesFrom_drop (ms : List Marker) (skip : Nat) (s : List Char) :
    piecesFrom ms skip s = piecesFrom ms 0 (s.drop skip) := by
  induction skip generalizing s with
  | zero => rfl
  | succ skip ih =>
    cases s with
    | nil => rfl
    | cons c rest => rw [piecesFrom, ih, List.drop_succ_cons]

theorem cut_piecesFrom (params : Parameters) (s : List Char) :
    Cut (markers params) s (piecesFrom (markers params) 0 s) := by
  induction h : s.length using Nat.strong_induction_on generalizing s with
  | _ size ih =>
    subst h
    cases s with
    | nil => exact .nil
    | cons c rest =>
      rw [piecesFrom]
      cases found : longest? (markers params) (c :: rest) with
      | none =>
        rw [longest?_eq_first?] at found
        exact .plain found (ih rest.length (by simp) rest rfl)
      | some m =>
        rw [longest?_eq_first?] at found
        obtain ⟨back, same⟩ := prefix_of_first? found
        have dropped : rest.drop (m.letters.length - 1) = back := by
          rw [← List.drop_succ_cons (a := c), ← same]
          simp [Marker.letters]
        have shorter : back.length < (c :: rest).length := by
          rw [← same, List.length_append, Marker.letters, List.length_cons]
          omega
        dsimp only
        rw [piecesFrom_drop, dropped]
        rw [← same] at found ⊢
        exact .marker found (ih back.length shorter back rfl)

/-! ## Texts with markers apart -/

/-- Names that neither hold a mark nor what a written value ends with. -/
def PlainNames (ms : List Marker) : Prop :=
  ∀ m ∈ ms, ∀ c ∈ m.name.toList, isMark c = false ∧ c ∉ closers

/--
Wherever a marker stands in the text, no other marker has begun in front of it: what stands there is
not the beginning of a longer one.
-/
def MarkersApart (ms : List Marker) (s : List Char) : Prop :=
  ∀ front begun back, s = front ++ (begun ++ back) → begun ≠ [] →
    (∃ m ∈ ms, m.letters <+: back) → ∀ n ∈ ms, begun <+: n.letters → n.letters = begun

theorem MarkersApart.drop (front : List Char) (apart : MarkersApart ms (front ++ s)) :
    MarkersApart ms s := by
  intro front' begun back same
  exact apart (front ++ front') begun back (by rw [same, List.append_assoc])

theorem MarkersApart.tail (apart : MarkersApart ms (c :: s)) : MarkersApart ms s :=
  MarkersApart.drop [c] apart

/-- In a text with one mark no two markers meet. -/
theorem markersApart_of_countP (single : s.countP isMark ≤ 1) : MarkersApart ms s := by
  intro front begun back same some_ ⟨m, _, fits⟩ n _ begins
  obtain ⟨c, begun, rfl⟩ := List.exists_cons_of_ne_nil some_
  obtain ⟨rest, rfl⟩ := fits
  have first : n.mark = c := (List.cons_prefix_cons.mp begins).1.symm
  subst first
  rw [same] at single
  simp only [Marker.letters, List.cons_append, List.countP_append, List.countP_cons,
    n.isMark_mark, m.isMark_mark, ↓reduceIte] at single
  omega

/-! ## Replacing part by part -/

variable {needle written front back : List Char} {d : Char}

theorem prefix_of_stop (front : List Char) (absent : d ∉ needle)
    (found : needle <+: front ++ d :: back) :
    needle <+: front := by
  rcases Nat.lt_or_ge front.length needle.length with longer | within
  · have inside : front ++ [d] <+: needle :=
      List.prefix_of_prefix_length_le ⟨back, by simp⟩ found (by simp; omega)
    exact absurd (inside.subset (by simp)) absent
  · exact List.prefix_of_prefix_length_le found (List.prefix_append front _) within

/-- A character that is not in the needle keeps the text behind it apart. -/
theorem replaceFrom_stop (filled : needle ≠ []) (absent : d ∉ needle) (skip : Nat)
    (bound : skip ≤ front.length) :
    replaceFrom needle written skip (front ++ d :: back) =
      replaceFrom needle written skip front ++ d :: replaceFrom needle written 0 back := by
  induction front generalizing skip with
  | nil =>
    have skipNone : skip = 0 := by simpa using bound
    have apart : ¬ needle <+: d :: back := fun found =>
      filled (List.prefix_nil.mp (prefix_of_stop [] absent found))
    simp [skipNone, replaceFrom, apart]
  | cons c front ih =>
    cases skip with
    | succ skip => exact ih skip (by simpa using bound)
    | zero =>
      by_cases here : needle <+: c :: front
      · have later : needle <+: c :: (front ++ d :: back) := here.trans ⟨d :: back, by simp⟩
        have within := here.length_le
        rw [List.length_cons] at within
        simp [replaceFrom, here, later, ih (needle.length - 1) (by omega)]
      · have later : ¬ needle <+: c :: (front ++ d :: back) := fun found =>
          here (prefix_of_stop (c :: front) absent found)
        simp [replaceFrom, here, later, ih 0 (Nat.zero_le _)]

theorem replaceAll_cons (apart : ¬ needle <+: c :: s) :
    replaceAll needle written (c :: s) = c :: replaceAll needle written s := by
  simp [replaceAll, replaceFrom, apart]

/-- A text without the mark is kept. -/
theorem replaceAll_append_of_notMem (absent : r.mark ∉ front) :
    replaceAll r.letters written (front ++ s) = front ++ replaceAll r.letters written s := by
  induction front with
  | nil => rfl
  | cons c front ih =>
    rw [List.mem_cons, not_or] at absent
    rw [List.cons_append, replaceAll_cons (by simp [Marker.letters, absent.1]), ih absent.2,
      List.cons_append]

theorem replaceAll_of_notMem (absent : r.mark ∉ s) : replaceAll r.letters written s = s := by
  refine replaceAll_absent fun found => absent (found.subset ?_)
  exact List.mem_cons_self

theorem replaceAll_append_self (r : Marker) (written s : List Char) :
    replaceAll r.letters written (r.letters ++ s) = written ++ replaceAll r.letters written s := by
  simp [replaceAll, replaceFrom, Marker.letters, replaceFrom_drop _ _ r.name.toList.length]

/-- What is written in place of a marker does not begin with a mark. -/
theorem replaceAll_of_begins (begins : r.letters <+: c :: s) :
    isMark c = true ∧ ∃ d rest, replaceAll r.letters r.written (c :: s) = d :: rest ∧
      isMark d = false := by
  obtain ⟨back, same⟩ := begins
  obtain ⟨d, rest, first, noMark⟩ := r.first_written
  have mark : r.mark = c := (List.cons.inj same).1
  rw [← same, replaceAll_append_self, first]
  exact ⟨mark ▸ r.isMark_mark, d, _, rfl, noMark⟩

theorem replaceAll_self (r : Marker) (written : List Char) :
    replaceAll r.letters written r.letters = written := by
  simpa [replaceAll, replaceFrom] using replaceAll_append_self r written []

/-- Another marker is kept if this one does not begin where it does. -/
theorem replaceAll_append_letters (absent : r.mark ∉ m.name.toList)
    (apart : ¬ r.letters <+: m.letters ++ s) :
    replaceAll r.letters written (m.letters ++ s) =
      m.letters ++ replaceAll r.letters written s := by
  have first : replaceAll r.letters written (m.letters ++ s) =
      m.mark :: replaceAll r.letters written (m.name.toList ++ s) := replaceAll_cons apart
  rw [first, replaceAll_append_of_notMem absent]
  rfl

theorem replaceAll_letters (absent : r.mark ∉ m.name.toList) (apart : ¬ r.letters <+: m.letters) :
    replaceAll r.letters written m.letters = m.letters := by
  simpa [replaceAll, replaceFrom] using
    @replaceAll_append_letters [] m r written absent (by simpa using apart)

theorem notMem_letters (plain : PlainNames ms) (member : r ∈ ms) (closer : d ∈ closers) :
    d ∉ r.letters := by
  intro inside
  rcases List.mem_cons.mp inside with rfl | inName
  · exact (show ∀ c ∈ closers, isMark c ≠ true by decide) _ closer r.isMark_mark
  · exact (plain r member d inName).2 closer

theorem mark_notMem (r : Marker) (noMarks : ∀ c ∈ s, isMark c = false) : r.mark ∉ s := by
  intro member
  have mark := r.isMark_mark
  rw [noMarks r.mark member] at mark
  cases mark

theorem PlainNames.mark_notMem (plain : PlainNames ms) (member : m ∈ ms) (r : Marker) :
    r.mark ∉ m.name.toList :=
  Parameters.mark_notMem r fun c inName => (plain m member c inName).1

theorem Sealed.replaceAll (closed : Sealed s) (plain : PlainNames ms) (member : r ∈ ms) :
    Sealed (replaceAll r.letters r.written s) := by
  rcases closed with noMarks | ⟨front, d, closer, rfl⟩
  · rw [replaceAll_of_notMem (mark_notMem r noMarks)]
    exact .inl noMarks
  · rw [Parameters.replaceAll, replaceFrom_stop r.letters_ne_nil
      (notMem_letters plain member closer) 0 (Nat.zero_le _)]
    exact .inr ⟨_, d, closer, rfl⟩

/-- Replacing does not go across the end of a sealed text. -/
theorem replaceAll_append_of_sealed (closed : Sealed s) (plain : PlainNames ms) (member : r ∈ ms) :
    replaceAll r.letters r.written (s ++ t) =
      replaceAll r.letters r.written s ++ replaceAll r.letters r.written t := by
  rcases closed with noMarks | ⟨front, d, closer, rfl⟩
  · have absent := mark_notMem r noMarks
    rw [replaceAll_append_of_notMem absent, replaceAll_of_notMem absent]
  · have stop (back : List Char) :
        replaceFrom r.letters r.written 0 (front ++ d :: back) =
          replaceFrom r.letters r.written 0 front ++ d :: replaceFrom r.letters r.written 0 back :=
      replaceFrom_stop r.letters_ne_nil (notMem_letters plain member closer) 0 (Nat.zero_le _)
    rw [List.append_assoc, List.singleton_append]
    simp only [Parameters.replaceAll, stop, replaceFrom, List.append_assoc, List.cons_append,
      List.nil_append]

/-! ## Markers on their own -/

theorem settle_single (ms : List Marker) (c : Char) : settle ms [c] = [c] := by
  induction ms with
  | nil => rfl
  | cons r ms ih =>
    have apart : ¬ r.letters <:+: [c] := by
      intro found
      have short := found.length_le
      have long : 0 < r.name.toList.length := by
        rw [List.length_pos_iff, Ne, String.toList_eq_nil_iff]
        exact r.named
      simp only [Marker.letters, List.length_cons, List.length_nil] at short
      omega
    rw [settle_cons, replaceAll_absent apart, ih]

/-- Of the markers taken before the longest one, none fits where it does. -/
theorem not_prefix_of_waiting (split : ms = done ++ r :: todo)
    (found : first? ms (m.letters ++ s) = some m) (waiting : m ∉ done) (other : m ≠ r) :
    ¬ r.letters <+: m.letters ++ s := by
  intro fits
  rcases mem_of_first?_append (split ▸ found) fits with before | same
  · exact waiting before
  · exact other same

/-- A marker that has been taken is a sealed text, and one that has not been stands as it did. -/
theorem settle_letters (plain : PlainNames ms) (split : ms = done ++ todo)
    (found : first? ms (m.letters ++ s) = some m) :
    m ∉ done ∧ settle done m.letters = m.letters ∨ m ∈ done ∧ Sealed (settle done m.letters) := by
  induction done using List.reverseRecOn generalizing todo with
  | nil => simp
  | append_singleton done r ih =>
    rw [List.append_assoc, List.singleton_append] at split
    rcases ih split with ⟨waiting, same⟩ | ⟨taken, closed⟩
    · rw [settle_concat, same]
      by_cases taken : m = r
      · subst taken
        rw [replaceAll_self]
        exact .inr ⟨by simp, m.sealed_written⟩
      · have apart := not_prefix_of_waiting split found waiting taken
        have kept : replaceAll r.letters r.written m.letters = m.letters :=
          replaceAll_letters (plain.mark_notMem (mem_of_first? found) r)
            fun begins => apart (begins.trans (List.prefix_append _ s))
        exact .inl ⟨by simp [waiting, taken], kept⟩
    · right
      rw [settle_concat]
      exact ⟨by simp [taken], closed.replaceAll plain (split ▸ by simp)⟩

/-! ## The pieces on their own -/

/-- The text of the pieces, each settled on its own. -/
def settled (done : List Marker) (ps : List Piece) : List Char :=
  ps.flatMap fun p => settle done p.letters

@[simp] theorem settled_nil (done : List Marker) : settled done [] = [] := rfl

@[simp] theorem settled_cons (done : List Marker) (p : Piece) (ps : List Piece) :
    settled done (p :: ps) = settle done p.letters ++ settled done ps := by
  simp [settled]

theorem Cut.settled_nil {ps : List Piece} (cut : Cut ms s ps) : settled [] ps = s := by
  induction cut with
  | nil => rfl
  | plain _ _ ih => rw [settled_cons, ih]; rfl
  | marker _ _ ih => rw [settled_cons, ih]; rfl

/-- What the settled text begins with the text begins with too, unless a marker comes before its
end. -/
theorem Cut.prefix_of_settled {ps : List Piece} {front : List Char} (cut : Cut ms s ps)
    (begins : front <+: settled done ps) :
    front <+: s ∨ ∃ before back, before <+: front ∧ before ≠ front ∧ s = before ++ back ∧
      ∃ m ∈ ms, m.letters <+: back := by
  induction cut generalizing front with
  | nil => exact .inl begins
  | @plain c s ps _ _ ih =>
    cases front with
    | nil => exact .inl List.nil_prefix
    | cons d front =>
      rw [settled_cons, Piece.letters, settle_single, List.singleton_append,
        List.cons_prefix_cons] at begins
      obtain ⟨rfl, rest⟩ := begins
      rcases ih rest with whole | ⟨before, back, inside, shorter, rfl, marker⟩
      · exact .inl (List.cons_prefix_cons.mpr ⟨rfl, whole⟩)
      · exact .inr ⟨d :: before, back, List.cons_prefix_cons.mpr ⟨rfl, inside⟩,
          by simpa using shorter, rfl, marker⟩
  | @marker m s ps found _ _ =>
    by_cases empty : front = []
    · exact .inl (empty ▸ List.nil_prefix)
    · exact .inr ⟨[], m.letters ++ s, List.nil_prefix, Ne.symm empty, rfl, m, mem_of_first? found,
        List.prefix_append _ _⟩

/-- A marker that the text begins with, once the pieces behind a beginning are settled, it begins
with before. -/
theorem Cut.prefix_of_begun {ps : List Piece} (cut : Cut ms s ps) (begun : List Char)
    (some_ : begun ≠ []) (apart : MarkersApart ms (begun ++ s)) (member : r ∈ ms)
    (begins : r.letters <+: begun ++ settled done ps) : r.letters <+: begun ++ s := by
  rcases Nat.le_total r.letters.length begun.length with within | longer
  · exact (List.prefix_of_prefix_length_le begins (List.prefix_append _ _) within).trans
      (List.prefix_append _ _)
  · obtain ⟨tail, same⟩ := List.prefix_of_prefix_length_le (List.prefix_append _ _) begins longer
    rw [← same, List.prefix_append_right_inj] at begins ⊢
    rcases cut.prefix_of_settled begins with whole | ⟨before, back, inside, shorter, rfl, marker⟩
    · exact whole
    · -- a marker stands where this one has only begun
      have ended := apart [] (begun ++ before) back (by simp) (by simp [some_]) marker r member
        (same ▸ (List.prefix_append_right_inj begun).mpr inside)
      rw [← same, List.append_cancel_left_eq] at ended
      exact absurd ended.symm shorter

/-- Taking a marker takes it in each piece on its own. -/
theorem Cut.replaceAll_settled {ps : List Piece} (cut : Cut ms s ps) (plain : PlainNames ms)
    (split : ms = done ++ r :: todo) (apart : MarkersApart ms s) :
    replaceAll r.letters r.written (settled done ps) = settled (done ++ [r]) ps := by
  have member : r ∈ ms := split ▸ by simp
  induction cut with
  | nil => rfl
  | @plain c s ps none_ cut ih =>
    have apartHere : ¬ r.letters <+: c :: settled done ps := fun begins =>
      first?_eq_none_iff.mp none_ r member
        (cut.prefix_of_begun [c] (by simp) apart member begins)
    simp only [settled_cons, Piece.letters, settle_single, List.singleton_append]
    rw [replaceAll_cons apartHere, ih apart.tail]
  | @marker m s ps found cut ih =>
    rw [settled_cons, settled_cons, ← ih (apart.drop m.letters), Piece.letters, settle_concat]
    rcases settle_letters plain split found with ⟨waiting, same⟩ | ⟨-, closed⟩
    · rw [same]
      by_cases here : m = r
      · subst here
        rw [replaceAll_append_self, replaceAll_self]
      · -- this marker is the longest, and no other one begins where it does
        have apartHere : ¬ r.letters <+: m.letters ++ settled done ps := fun begins =>
          not_prefix_of_waiting split found waiting here
            (cut.prefix_of_begun m.letters m.letters_ne_nil apart member begins)
        have absent := plain.mark_notMem (mem_of_first? found) r
        rw [replaceAll_append_letters absent apartHere, replaceAll_letters absent
          fun begins => apartHere (begins.trans (List.prefix_append _ _))]
    · exact replaceAll_append_of_sealed closed plain member

/-- The text with all markers taken is that of the pieces, each settled on its own. -/
theorem Cut.settle_eq_settled {ps : List Piece} (cut : Cut ms s ps) (plain : PlainNames ms)
    (apart : MarkersApart ms s) :
    settle ms s = settled ms ps := by
  have run (done todo : List Marker) (split : ms = done ++ todo) :
      settle done s = settled done ps := by
    induction done using List.reverseRecOn generalizing todo with
    | nil => exact cut.settled_nil.symm
    | append_singleton done r ih =>
      rw [List.append_assoc, List.singleton_append] at split
      rw [settle_concat, ih (r :: todo) split]
      exact cut.replaceAll_settled plain split apart
  exact run ms [] (List.append_nil ms).symm

end DocQuery.Parameters
