import DocQuery.Proofs.Text.Cleaning
import DocQuery.Proofs.Text.ListItems
import DocQuery.Proofs.Text.WholeWords

/-! # Comma lists

Lists as they are written, with or without spaces around their commas, and how they are cut again.

* `Gap` — a place where a space may stand.
* `IsListItem` — a text that is one item of a list.
* `CommaList` — items with commas between them.
* `CommaList.splitList_spaced`, `CommaList.splitAt_spaced` — the items are found again.
* `CommaList.lacks` — a list holds no keyword that none of its items holds.
-/

namespace DocQuery.Text

variable {word : String} {c : Char} {s t w front back : List Char}

/-! ## Gaps -/

/-- A place where a space may stand, since other characters separate what is around it. -/
inductive Gap
  | closed
  | space
  deriving DecidableEq

namespace Gap

def text : Gap → List Char
  | .closed => []
  | .space => [' ']

theorem eq_of_mem {gap : Gap} (member : c ∈ gap.text) : c = ' ' := by
  cases gap with
  | closed => cases member
  | space => exact List.mem_singleton.mp member

theorem isBlank_of_mem (gap : Gap) : ∀ c ∈ gap.text, isBlank c = true := by
  cases gap <;> decide

theorem isPlain_of_mem (gap : Gap) : ∀ c ∈ gap.text, isPlain c = true := by
  cases gap <;> decide

theorem skipBlanks_append (gap : Gap) (s : List Char) :
    skipBlanks (gap.text ++ s) = skipBlanks s := by
  rw [skipBlanks, List.dropWhile_append_of_pos gap.isBlank_of_mem, skipBlanks]

theorem lacks_append (gap : Gap) (keyword : IsKeyword word) :
    Lacks word (gap.text ++ s) ↔ Lacks word s := by
  cases gap with
  | closed => exact Iff.rfl
  | space => exact lacks_blank keyword rfl

/-- A gap and a separator behind it keep two texts apart. -/
theorem lacks_append_cons (gap : Gap) (keyword : IsKeyword word) (separates : isWordChar c = false) :
    Lacks word (s ++ (gap.text ++ c :: t)) ↔ Lacks word s ∧ Lacks word t := by
  have parts : s ++ (gap.text ++ c :: t) = s ++ ((gap.text ++ [c]) ++ t) := by simp
  rw [parts]
  refine lacks_append_separator keyword (by simp) fun d member => ?_
  rcases List.mem_append.mp member with inGap | last
  · exact isWordChar_of_isBlank (gap.isBlank_of_mem d inGap)
  · rwa [List.mem_singleton.mp last]

theorem avoids_append (gap : Gap) : Avoids word (gap.text ++ s) ↔ Avoids word s := by
  cases gap with
  | closed => exact Iff.rfl
  | space => rw [Avoids, text, List.singleton_append, words_cons_blank rfl, Avoids]

theorem avoids_append_cons (gap : Gap) (keyword : IsKeyword word) (first : Avoids word s)
    (second : Avoids word t) (separates : isWordChar c = false) :
    Avoids word (s ++ (gap.text ++ c :: t)) := by
  cases gap with
  | closed => exact first.append_cons keyword second separates
  | space =>
    have nothing : Avoids word [] := by simp [Avoids, words]
    exact first.append_cons keyword (nothing.append_cons keyword second separates) rfl

/-- A bracket behind a gap is read, and what follows the gap behind it. -/
theorem char?_append {c : Char} (gap : Gap) (solid : isBlank c = false) (s : List Char) :
    char? c (skipBlanks (gap.text ++ c :: s)) = some s := by
  rw [gap.skipBlanks_append, skipBlanks_eq_self (by simp [solid]), char?, if_pos rfl]

/-- Whether or not there is a space, two tidy texts are tidy together. -/
theorem isTidy_append (gap : Gap) (front : IsTidy s) (back : IsTidy t) :
    IsTidy (s ++ (gap.text ++ t)) := by
  cases gap with
  | closed => exact front.append back
  | space => exact front.append_space back

end Gap

/-- Blanks at the ends of a text are taken off. -/
theorem trim_blanks (inFront : ∀ c ∈ front, isBlank c = true) (behind : ∀ c ∈ back, isBlank c = true)
    (first : w.head?.all (!isBlank ·) = true) (ends : EndsSolid w) :
    trim (front ++ (w ++ back)) = w := by
  have some_ : w ≠ [] := by
    rintro rfl
    cases ends
  have start : skipBlanks (front ++ (w ++ back)) = w ++ back := by
    rw [skipBlanks, List.dropWhile_append_of_pos inFront, ← skipBlanks]
    exact skipBlanks_eq_self (by rwa [List.head?_append_of_ne_nil _ some_])
  have reversed : w.reverse.dropWhile isBlank = w.reverse :=
    skipBlanks_eq_self (by simpa using ends.all)
  rw [trim, start, List.reverse_append,
    List.dropWhile_append_of_pos (by simpa using behind), reversed, List.reverse_reverse]

/-! ## Items -/

/-- No comma of the text cuts a list. -/
def StaysTogether (w : List Char) : Prop :=
  ∀ rest, listPieces .outside 0 (w ++ rest) = prepend w (listPieces .outside 0 rest)

namespace StaysTogether

theorem plain (plain : ∀ c ∈ w, isPlain c = true) : StaysTogether w :=
  fun rest => listPieces_plain plain 0 rest

theorem append (first : StaysTogether s) (second : StaysTogether t) : StaysTogether (s ++ t) := by
  intro rest
  rw [List.append_assoc, first, second, prepend_prepend]

theorem quoted {mark : Char} (isMark : isQuote mark = true) (inside : ∀ c ∈ w, c ≠ mark ∧ c ≠ '\\') :
    StaysTogether (mark :: (w ++ [mark])) :=
  fun rest => listPieces_quoted isMark inside 0 rest

theorem parenthesised (inside : ∀ rest, listPieces .outside 1 (w ++ ')' :: rest) =
    prepend w (listPieces .outside 1 (')' :: rest))) : StaysTogether ('(' :: (w ++ [')'])) :=
  fun rest => listPieces_bracketed rfl rfl (inside rest)

end StaysTogether

/-- A tidy text that is one item of a list. -/
structure IsListItem (w : List Char) : Prop extends IsTidy w where
  together : StaysTogether w

theorem IsColumn.isListItem (column : IsColumn w) : IsListItem w where
  toIsTidy := column.isWord.isTidy
  together := .plain column.isPlain

/-! ## Lists -/

/-- Items with commas between them. -/
inductive CommaList (α : Type)
  | last (item : α)
  | cons (item : α) (before after : Gap) (rest : CommaList α)

namespace CommaList

variable {α : Type} {print : α → List Char} {list : CommaList α}

def items : CommaList α → List α
  | .last item => [item]
  | .cons item _ _ rest => item :: rest.items

def text (print : α → List Char) : CommaList α → List Char
  | .last item => print item
  | .cons item before after rest =>
    print item ++ (before.text ++ ',' :: (after.text ++ rest.text print))

/-- A list is cut into its items, also with spaces around it. -/
theorem splitList_spaced (first last : Gap)
    (areItems : ∀ item ∈ list.items, IsListItem (print item)) :
    splitList (first.text ++ (list.text print ++ last.text)) = list.items.map print := by
  rw [splitList]
  -- a gap belongs to the item next to it until that is trimmed
  induction list generalizing first with
  | last item =>
    have isItem := areItems item List.mem_cons_self
    have whole : StaysTogether (first.text ++ (print item ++ last.text)) :=
      .append (.plain first.isPlain_of_mem) (isItem.together.append (.plain last.isPlain_of_mem))
    have trimmed := trim_blanks first.isBlank_of_mem last.isBlank_of_mem isItem.first isItem.ends
    have pieces := whole []
    rw [List.append_nil] at pieces
    rw [text, pieces]
    simp [listPieces, prepend, trimmed, items]
  | cons item before after rest ih =>
    obtain ⟨isItem, others⟩ := List.forall_mem_cons.mp areItems
    have together : StaysTogether (first.text ++ (print item ++ before.text)) :=
      .append (.plain first.isPlain_of_mem) (isItem.together.append (.plain before.isPlain_of_mem))
    have parts : first.text ++ ((cons item before after rest).text print ++ last.text) =
        (first.text ++ (print item ++ before.text)) ++ ',' ::
          (after.text ++ (rest.text print ++ last.text)) := by
      simp [text]
    have cuts : listPieces .outside 0 (',' :: (after.text ++ (rest.text print ++ last.text))) =
        [] :: listPieces .outside 0 (after.text ++ (rest.text print ++ last.text)) := by
      simp [listPieces]
    have trimmed := trim_blanks first.isBlank_of_mem before.isBlank_of_mem isItem.first isItem.ends
    rw [parts, together, cuts, prepend, List.map_cons, ih after others, List.append_nil, trimmed]
    rfl

theorem splitList_text (areItems : ∀ item ∈ list.items, IsListItem (print item)) :
    splitList (list.text print) = list.items.map print := by
  have spaced := splitList_spaced .closed .closed areItems
  rwa [Gap.text, List.nil_append, List.append_nil] at spaced

theorem mem_text (member : c ∈ list.text print) :
    c = ',' ∨ c = ' ' ∨ ∃ item ∈ list.items, c ∈ print item := by
  induction list with
  | last item => exact .inr (.inr ⟨item, List.mem_cons_self, member⟩)
  | cons item before after rest ih =>
    rw [text, List.mem_append, List.mem_append, List.mem_cons, List.mem_append] at member
    rcases member with inItem | inGap | comma | inGap | later
    · exact .inr (.inr ⟨item, List.mem_cons_self, inItem⟩)
    · exact .inr (.inl (Gap.eq_of_mem inGap))
    · exact .inl comma
    · exact .inr (.inl (Gap.eq_of_mem inGap))
    · exact (ih later).imp_right fun found => found.imp_right fun ⟨other, listed, inside⟩ =>
        ⟨other, List.mem_cons_of_mem item listed, inside⟩

theorem isTidy_text (areItems : ∀ item ∈ list.items, IsListItem (print item)) :
    IsTidy (list.text print) := by
  induction list with
  | last item => exact (areItems item List.mem_cons_self).toIsTidy
  | cons item before after rest ih =>
    obtain ⟨isItem, others⟩ := List.forall_mem_cons.mp areItems
    have comma : IsTidy ([','] ++ (after.text ++ rest.text print)) :=
      after.isTidy_append (isTidy_char rfl) (ih others)
    exact before.isTidy_append isItem.toIsTidy comma

/-- A list holds no keyword that none of its items holds. -/
theorem lacks (keyword : IsKeyword word) (every : ∀ item ∈ list.items, Lacks word (print item)) :
    Lacks word (list.text print) := by
  induction list with
  | last item => exact every item List.mem_cons_self
  | cons item before after rest ih =>
    obtain ⟨here, others⟩ := List.forall_mem_cons.mp every
    rw [text, before.lacks_append_cons keyword rfl, after.lacks_append keyword]
    exact ⟨here, ih others⟩

theorem avoids (keyword : IsKeyword word) (every : ∀ item ∈ list.items, Avoids word (print item)) :
    Avoids word (list.text print) := by
  induction list with
  | last item => exact every item List.mem_cons_self
  | cons item before after rest ih =>
    obtain ⟨here, others⟩ := List.forall_mem_cons.mp every
    exact before.avoids_append_cons keyword here (after.avoids_append.mpr (ih others)) rfl

end CommaList

/-! ## Lists without quotes and brackets -/

/-- A character that opens or closes nothing. -/
def isBare (c : Char) : Bool := !isQuote c && !isOpening c && !isClosing c

theorem isBare_of_isPlain (plain : isPlain c = true) : isBare c = true := by
  simp only [isPlain, Bool.and_eq_true] at plain
  simp only [isBare, Bool.and_eq_true]
  exact ⟨⟨plain.1.1.2, plain.1.2⟩, plain.2⟩

/-- Without quotes and brackets all commas cut. -/
theorem listPieces_eq_splitAt (bare : ∀ c ∈ s, isBare c = true) :
    listPieces .outside 0 s = splitAt ',' s := by
  induction s with
  | nil => rfl
  | cons c s ih =>
    obtain ⟨here, others⟩ := List.forall_mem_cons.mp bare
    simp only [isBare, Bool.and_eq_true, Bool.not_eq_true'] at here
    obtain ⟨⟨notQuote, notOpening⟩, notClosing⟩ := here
    have later := ih others
    rw [splitAt]
    by_cases comma : c = ','
    · simp [listPieces, comma, later]
    · rw [if_neg comma]
      simp only [listPieces, comma, Quoting.next, notQuote, nextDepth, notOpening, notClosing, later,
        beq_iff_eq, Bool.and_eq_true, false_and, if_false, Bool.false_eq_true]
      cases splitAt ',' s <;> rfl

/-- The names of a list are found also where quotes and brackets do not matter. -/
theorem CommaList.splitAt_spaced {α : Type} {print : α → List Char} {list : CommaList α}
    (first last : Gap) (columns : ∀ item ∈ list.items, IsColumn (print item)) :
    (splitAt ',' (first.text ++ (list.text print ++ last.text))).map trim =
      list.items.map print := by
  have bare : ∀ c ∈ first.text ++ (list.text print ++ last.text), isBare c = true := by
    intro c member
    rw [List.mem_append, List.mem_append] at member
    rcases member with inGap | inList | inGap
    · exact isBare_of_isPlain (first.isPlain_of_mem c inGap)
    · rcases list.mem_text inList with rfl | rfl | ⟨item, listed, inside⟩
      · rfl
      · rfl
      · exact isBare_of_isPlain ((columns item listed).isPlain c inside)
    · exact isBare_of_isPlain (last.isPlain_of_mem c inGap)
  rw [← listPieces_eq_splitAt bare]
  exact splitList_spaced first last fun item listed => (columns item listed).isListItem

end DocQuery.Text
