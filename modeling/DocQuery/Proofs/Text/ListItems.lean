import DocQuery.Proofs.Text.Search
import DocQuery.Text.Quoting

/-! # Items of lists

How a list is cut at its commas. What holds no comma outside quotes and brackets becomes part of
one item.

* `prepend` — a text in front of the first piece.
* `isPlain` — characters that neither cut nor shield.
* `listPieces_plain` — plain text goes to the piece that is being read.
* `eq_of_splitAt` — a text is made of its pieces.
* `splitAt_absent`, `splitAt_of_mem` — without a separator there is one piece, and with one more.
-/

namespace DocQuery.Text

variable {c : Char} {w s rest : List Char} {depth : Nat}

/-- The pieces with a text in front of the first one. -/
def prepend (front : List Char) : List (List Char) → List (List Char)
  | [] => [front]
  | piece :: pieces => (front ++ piece) :: pieces

theorem consPiece_eq_prepend (c : Char) (pieces : List (List Char)) :
    consPiece c pieces = prepend [c] pieces := by
  cases pieces <;> rfl

theorem prepend_prepend (front back : List Char) (pieces : List (List Char)) :
    prepend front (prepend back pieces) = prepend (front ++ back) pieces := by
  cases pieces <;> simp [prepend]

theorem prepend_ne_nil (front : List Char) (pieces : List (List Char)) :
    prepend front pieces ≠ [] := by
  cases pieces <;> simp [prepend]

theorem prepend_nil {pieces : List (List Char)} (some_ : pieces ≠ []) :
    prepend [] pieces = pieces := by
  cases pieces with
  | nil => exact absurd rfl some_
  | cons piece pieces => rfl

/-- Also nothing is one piece. -/
theorem listPieces_ne_nil (quoting : Quoting) (depth : Nat) (s : List Char) :
    listPieces quoting depth s ≠ [] := by
  fun_cases listPieces quoting depth s <;> simp [consPiece_eq_prepend, prepend_ne_nil]

/-- A character that is neither a comma nor part of quotes or brackets. -/
def isPlain (c : Char) : Bool := c != ',' && !isQuote c && !isOpening c && !isClosing c

theorem isPlain_of_isWordChar (member : isWordChar c = true) : isPlain c = true := by
  have other : c ∉ [',', '\'', '"', '(', '[', ')', ']'] := notMem_of_all (by decide) member
  simp only [List.mem_cons, List.not_mem_nil, or_false, not_or] at other
  simp [isPlain, isQuote, isOpening, isClosing, other]

theorem IsColumn.isPlain (column : IsColumn w) : ∀ c ∈ w, isPlain c = true := by
  cases column with
  | all => decide
  | named _ members => exact fun c member => isPlain_of_isWordChar (members c member)

theorem listPieces_plain (plain : ∀ c ∈ w, isPlain c = true) (depth : Nat) (rest : List Char) :
    listPieces .outside depth (w ++ rest) = prepend w (listPieces .outside depth rest) := by
  induction w with
  | nil => exact (prepend_nil (listPieces_ne_nil _ _ _)).symm
  | cons c w ih =>
    obtain ⟨here, others⟩ := List.forall_mem_cons.mp plain
    simp only [isPlain, Bool.and_eq_true, bne_iff_ne, ne_eq, Bool.not_eq_true'] at here
    obtain ⟨⟨⟨notComma, notQuote⟩, notOpening⟩, notClosing⟩ := here
    simp [listPieces, notComma, Quoting.next, notQuote, nextDepth, notOpening, notClosing,
      ih others, consPiece_eq_prepend, prepend_prepend]

/-- Characters in quotes, up to the closing mark. -/
theorem listPieces_inQuotes {mark : Char} (isMark : isQuote mark = true)
    (inside : ∀ c ∈ w, c ≠ mark ∧ c ≠ '\\') (depth : Nat) (rest : List Char) :
    listPieces (.inside mark) depth (w ++ mark :: rest) =
      prepend (w ++ [mark]) (listPieces .outside depth rest) := by
  induction w with
  | nil =>
    have closes : Quoting.next (.inside mark) mark = .outside := by
      simp only [isQuote, Bool.or_eq_true, beq_iff_eq] at isMark
      rcases isMark with rfl | rfl <;> rfl
    simp [listPieces, closes, consPiece_eq_prepend]
  | cons c w ih =>
    obtain ⟨⟨notMark, notBackslash⟩, others⟩ := List.forall_mem_cons.mp inside
    have stays : Quoting.next (.inside mark) c = .inside mark := by
      simp [Quoting.next, notMark, notBackslash]
    simp [listPieces, stays, ih others, consPiece_eq_prepend, prepend_prepend]

/-- No comma in quotes cuts. -/
theorem listPieces_quoted {mark : Char} (isMark : isQuote mark = true)
    (inside : ∀ c ∈ w, c ≠ mark ∧ c ≠ '\\') (depth : Nat) (rest : List Char) :
    listPieces .outside depth ((mark :: (w ++ [mark])) ++ rest) =
      prepend (mark :: (w ++ [mark])) (listPieces .outside depth rest) := by
  have notComma : mark ≠ ',' := by
    rintro rfl
    cases isMark
  have shields : nextDepth depth mark = depth := by
    simp only [isQuote, Bool.or_eq_true, beq_iff_eq] at isMark
    rcases isMark with rfl | rfl <;> rfl
  have opens : Quoting.next .outside mark = .inside mark := by simp [Quoting.next, isMark]
  simp [listPieces, notComma, opens, shields, listPieces_inQuotes isMark inside,
    consPiece_eq_prepend, prepend_prepend]

/-- What stays together inside brackets stays together with them. -/
theorem listPieces_bracketed {opening closing : Char} (opens : isOpening opening = true)
    (closes : isClosing closing = true)
    (inside : listPieces .outside (depth + 1) (w ++ closing :: rest) =
      prepend w (listPieces .outside (depth + 1) (closing :: rest))) :
    listPieces .outside depth ((opening :: (w ++ [closing])) ++ rest) =
      prepend (opening :: (w ++ [closing])) (listPieces .outside depth rest) := by
  have first : opening ≠ ',' ∧ isQuote opening = false := by
    simp only [isOpening, Bool.or_eq_true, beq_iff_eq] at opens
    rcases opens with rfl | rfl <;> decide
  have last : closing ≠ ',' ∧ isQuote closing = false ∧ isOpening closing = false := by
    simp only [isClosing, Bool.or_eq_true, beq_iff_eq] at closes
    rcases closes with rfl | rfl <;> decide
  simp [listPieces, first, last, Quoting.next, nextDepth, opens, closes, inside,
    consPiece_eq_prepend, prepend_prepend]

theorem splitList_plain (plain : ∀ c ∈ w, isPlain c = true) : splitList w = [trim w] := by
  have single := listPieces_plain plain 0 []
  rw [List.append_nil] at single
  simp [splitList, single, listPieces, prepend]

theorem splitAt_absent (absent : c ∉ s) : splitAt c s = [s] := by
  induction s with
  | nil => rfl
  | cons d rest ih =>
    rw [List.mem_cons, not_or] at absent
    rw [splitAt, if_neg (Ne.symm absent.1), ih absent.2]

theorem splitAt_ne_nil (c : Char) (s : List Char) : splitAt c s ≠ [] := by
  cases s with
  | nil => simp [splitAt]
  | cons d rest =>
    rw [splitAt]
    split
    · simp
    · split <;> simp

/-- A text is its pieces with the separator in front of all but the first. -/
theorem eq_of_splitAt {first : List Char} {others : List (List Char)}
    (pieces : splitAt c s = first :: others) : s = first ++ others.flatMap (c :: ·) := by
  induction s generalizing first others with
  | nil =>
    cases pieces
    rfl
  | cons d rest ih =>
    obtain ⟨piece, more, split⟩ := List.exists_cons_of_ne_nil (splitAt_ne_nil c rest)
    have regained := ih split
    rw [splitAt, split] at pieces
    split at pieces
    · rename_i same
      cases pieces
      simp [same, regained]
    · cases pieces
      simp [regained]

theorem splitAt_append_cons (absent : c ∉ w) (rest : List Char) :
    splitAt c (w ++ c :: rest) = w :: splitAt c rest := by
  induction w with
  | nil => simp [splitAt]
  | cons d w ih =>
    rw [List.mem_cons, not_or] at absent
    rw [List.cons_append, splitAt, if_neg (Ne.symm absent.1), ih absent.2]

/-- Pieces without the separator are those of the text that is made of them. -/
theorem splitAt_pieces {first : List Char} {others : List (List Char)} (absent : c ∉ first)
    (lack : ∀ piece ∈ others, c ∉ piece) :
    splitAt c (first ++ others.flatMap (c :: ·)) = first :: others := by
  induction others generalizing first with
  | nil => simpa using splitAt_absent absent
  | cons piece others ih =>
    obtain ⟨next, rest⟩ := List.forall_mem_cons.mp lack
    rw [List.flatMap_cons, List.cons_append, splitAt_append_cons absent, ih next rest]

theorem notMem_of_mem_splitAt {piece : List Char} (member : piece ∈ splitAt c s) : c ∉ piece := by
  induction s generalizing piece with
  | nil =>
    rw [List.mem_singleton.mp member]
    exact List.not_mem_nil
  | cons d rest ih =>
    obtain ⟨first, others, more⟩ := List.exists_cons_of_ne_nil (splitAt_ne_nil c rest)
    rw [more] at ih
    rw [splitAt, more] at member
    split at member
    · rcases List.mem_cons.mp member with rfl | later
      · exact List.not_mem_nil
      · exact ih later
    · rename_i other
      rcases List.mem_cons.mp member with rfl | later
      · rw [List.mem_cons, not_or]
        exact ⟨Ne.symm other, ih List.mem_cons_self⟩
      · exact ih (List.mem_cons_of_mem _ later)

/-- With a separator there are two pieces at least, and the separator is not in the first one. -/
theorem splitAt_of_mem (member : c ∈ s) :
    ∃ first second others, splitAt c s = first :: second :: others ∧ c ∉ first := by
  induction s with
  | nil => cases member
  | cons d rest ih =>
    by_cases here : d = c
    · obtain ⟨piece, pieces, more⟩ := List.exists_cons_of_ne_nil (splitAt_ne_nil c rest)
      exact ⟨[], piece, pieces, by rw [splitAt, if_pos here, more], by simp⟩
    · have later : c ∈ rest := by simpa [Ne.symm here] using member
      obtain ⟨first, second, others, same, apart⟩ := ih later
      refine ⟨d :: first, second, others, by simp [splitAt, here, same], ?_⟩
      simp [apart, Ne.symm here]

end DocQuery.Text
