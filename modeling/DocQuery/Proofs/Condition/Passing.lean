import DocQuery.Condition.Compile
import Mathlib.Data.List.Infix

/-! # Passing over text

How a condition is scanned for connectors: what becomes part of the piece that is being read, and
what ends it.

* `cutFrom_quoted`, `cutFrom_plain`, … — one equation for each kind of step.
* `joiningWord?_of_first`, `joiningWord?_word` — where no joining word stands.
* `Passes` — a text becomes part of the piece.
* `Passes.append`, `passes_word`, `passes_quoted`, `passes_bracketed` — what passes.
-/

namespace DocQuery.Condition

open DocQuery.Text

variable {quoting : Quoting} {depth : Nat} {between between' between'' : Bool}
  {before : Option Char} {c : Char} {s t w rest : List Char}

/-! ## Steps -/

/-- In quotes every character is passed over, and so is the mark that opens them. -/
theorem cutFrom_quoted (quoted : (quoting != .outside || isQuote c) = true) (rest : List Char) :
    cutFrom quoting depth between before (c :: rest) =
      (cutFrom (quoting.next c) depth between (some c) rest).map (.extend [c]) := by
  rw [cutFrom, if_pos quoted]

theorem cutFrom_plain (notQuote : isQuote c = false) (notOpening : isOpening c = false)
    (notClosing : isClosing c = false)
    (noWord : depth = 0 → joiningWord? before (c :: rest) = none) :
    cutFrom .outside depth between before (c :: rest) =
      (cutFrom .outside depth between (some c) rest).map (.extend [c]) := by
  have noWord : (if depth = 0 then joiningWord? before (c :: rest) else none) = none := by
    split
    · rename_i outer
      exact noWord outer
    · rfl
  rw [cutFrom]
  simp [notQuote, notOpening, notClosing, noWord]

theorem cutFrom_opening (opening : isOpening c = true) (rest : List Char) :
    cutFrom .outside depth between before (c :: rest) =
      (cutFrom .outside (depth + 1) between (some c) rest).map (.extend [c]) := by
  have notQuote : isQuote c = false := by
    simp only [isOpening, Bool.or_eq_true, beq_iff_eq] at opening
    rcases opening with rfl | rfl <;> rfl
  rw [cutFrom]
  simp [notQuote, opening]

theorem cutFrom_closing (closing : isClosing c = true) (rest : List Char) :
    cutFrom .outside (depth + 1) between before (c :: rest) =
      (cutFrom .outside depth between (some c) rest).map (.extend [c]) := by
  have other : isQuote c = false ∧ isOpening c = false := by
    simp only [isClosing, Bool.or_eq_true, beq_iff_eq] at closing
    rcases closing with rfl | rfl <;> exact ⟨rfl, rfl⟩
  rw [cutFrom]
  simp [other, closing]

/-! ## Joining words -/

theorem first_of_startsWith {word : JoiningWord} (starts : startsWith word (c :: rest) = true) :
    c.toUpper ∈ ['A', 'B', 'O'] := by
  simp only [startsWith, Bool.and_eq_true, beq_iff_eq] at starts
  have first : word.letters.head? = some c.toUpper := by
    rw [← starts.1]
    cases word <;> rfl
  have letters : word.letters.head?.all (['A', 'B', 'O'].contains ·) = true := by
    cases word <;> rfl
  rw [first] at letters
  simpa using letters

theorem joiningWord?_of_first (before : Option Char) (rest : List Char)
    (other : c.toUpper ∉ ['A', 'B', 'O']) : joiningWord? before (c :: rest) = none := by
  have never : ∀ word, startsWith word (c :: rest) = false := by
    intro word
    by_contra starts
    exact other (first_of_startsWith (by simpa using starts))
  simp [joiningWord?, never]

theorem joiningWord?_inside {b : Char} (inside : continuesWord b = true) (s : List Char) :
    joiningWord? (some b) s = none := by
  simp [joiningWord?, inside]

/-- The text begins with nothing that goes on with a word. -/
def EndsWord (rest : List Char) : Prop := rest.head?.any continuesWord = false

theorem continuesWord_of_toUpper (upper : c.toUpper.isUpper = true) : continuesWord c = true := by
  have letter : c.isUpper = true ∨ c.isLower = true := by
    by_cases lower : c.isLower = true
    · exact .inr lower
    · have same : c.toUpper = c := dif_neg fun inRange =>
        lower (Bool.and_eq_true_iff.mpr (inRange.imp decide_eq_true decide_eq_true))
      exact .inl (same ▸ upper)
  have ascii : c.toNat < 0x80 := by
    rcases letter with upper | lower
    · have inRange : 65 ≤ c.toNat ∧ c.toNat ≤ 90 := of_decide_eq_true upper
      omega
    · have inRange : 97 ≤ c.toNat ∧ c.toNat ≤ 122 :=
        (Bool.and_eq_true_iff.mp lower).imp of_decide_eq_true of_decide_eq_true
      omega
  have alpha : c.isAlpha = true := (Bool.or_eq_true _ _).mpr letter
  simp [continuesWord, isAlphanumeric, ascii, Char.isAlphanum, alpha]

/-- A joining word behind which no word goes on is the whole word. -/
theorem eq_letters_of_startsWith {word : JoiningWord}
    (continues : ∀ c ∈ w, continuesWord c = true) (ends : EndsWord rest)
    (starts : startsWith word (w ++ rest) = true) : w.map Char.toUpper = word.letters := by
  simp only [startsWith, Bool.and_eq_true, beq_iff_eq, Bool.not_eq_true'] at starts
  obtain ⟨letters, notOn⟩ := starts
  by_cases short : w.length < word.length
  · -- the character behind the word would be one of the letters
    cases rest with
    | nil =>
      rw [List.append_nil, List.take_of_length_le (Nat.le_of_lt short)] at letters
      exact letters
    | cons d rest =>
      have member : d.toUpper ∈ word.letters := by
        rw [← letters]
        refine List.mem_map_of_mem ?_
        obtain ⟨n, same⟩ := Nat.exists_eq_add_of_lt short
        rw [List.take_append, show word.length - w.length = n + 1 by omega]
        exact List.mem_append_right _ List.mem_cons_self
      have upper : word.letters.all Char.isUpper = true := by cases word <;> decide
      have continues := continuesWord_of_toUpper (List.all_eq_true.mp upper _ member)
      simp [EndsWord, continues] at ends
  · rw [List.drop_append_of_le_length (by omega)] at notOn
    rw [List.take_append_of_le_length (by omega)] at letters
    -- otherwise a letter of the word would stand right behind the connector
    cases left : w.drop word.length with
    | nil =>
      rw [List.take_of_length_le (List.drop_eq_nil_iff.mp left)] at letters
      exact letters
    | cons c back =>
      have member : c ∈ w := List.mem_of_mem_drop (left ▸ List.mem_cons_self)
      rw [left] at notOn
      simp [continues c member] at notOn

theorem joiningWord?_word (continues : ∀ c ∈ w, continuesWord c = true)
    (other : ∀ word : JoiningWord, w.map Char.toUpper ≠ word.letters) (ends : EndsWord rest)
    (before : Option Char) : joiningWord? before (w ++ rest) = none := by
  have never : ∀ word, startsWith word (w ++ rest) = false := by
    intro word
    by_contra starts
    exact other word (eq_letters_of_startsWith continues ends (by simpa using starts))
  simp [joiningWord?, never]

theorem not_isQuote_of_continuesWord (continues : continuesWord c = true) :
    isQuote c = false ∧ isOpening c = false ∧ isClosing c = false := by
  have none : (['\'', '"', '(', '[', ')', ']'].all (!continuesWord ·)) = true := by decide
  have other : ∀ d ∈ ['\'', '"', '(', '[', ')', ']'], c ≠ d := by
    rintro d member rfl
    simpa [continues] using List.all_eq_true.mp none c member
  simp only [List.forall_mem_cons, List.not_mem_nil, false_implies, implies_true, and_true] at other
  simp [isQuote, isOpening, isClosing, other]

/-! ## What passes -/

theorem map_extend_extend (front back : List Char) (result : Except ConditionFault Pieces) :
    (result.map (.extend back)).map (.extend front) =
      result.map (Pieces.extend (front ++ back)) := by
  cases result <;> simp [Except.map, Pieces.extend]

/-- In front of the given rest, a text becomes part of the piece that is read, and the scan goes on
behind it; the expectation of an AND that belongs to a BETWEEN goes from the one to the other. -/
def Passes (depth : Nat) (between between' : Bool) (s rest : List Char) : Prop :=
  ∀ before, ∃ after, cutFrom .outside depth between before (s ++ rest) =
    (cutFrom .outside depth between' after rest).map (.extend s)

namespace Passes

theorem nil : Passes depth between between [] rest := by
  intro before
  refine ⟨before, ?_⟩
  cases h : cutFrom .outside depth between before rest <;> simp [h, Except.map, Pieces.extend]

theorem append (first : Passes depth between between' s (t ++ rest))
    (second : Passes depth between' between'' t rest) :
    Passes depth between between'' (s ++ t) rest := by
  intro before
  obtain ⟨middle, one⟩ := first before
  obtain ⟨after, other⟩ := second middle
  refine ⟨after, ?_⟩
  rw [List.append_assoc, one, other, map_extend_extend]

/-- A character in front of a text that passes. -/
theorem cons (first : Passes depth between between [c] (s ++ rest))
    (second : Passes depth between between' s rest) :
    Passes depth between between' (c :: s) rest :=
  first.append second

end Passes

theorem passes_plain (notQuote : isQuote c = false) (notOpening : isOpening c = false)
    (notClosing : isClosing c = false)
    (noWord : depth = 0 → ∀ before, joiningWord? before (c :: rest) = none) :
    Passes depth between between [c] rest :=
  fun before => ⟨some c,
    cutFrom_plain notQuote notOpening notClosing fun outer => noWord outer before⟩

/-- The characters that stand between the parts of a condition. -/
theorem passes_separator (member : c ∈ [' ', '=', '!', '<', '>', '.', ',', '-'])
    (rest : List Char) : Passes depth between between [c] rest := by
  have plain : ([' ', '=', '!', '<', '>', '.', ',', '-'].all fun d => decide (isQuote d = false ∧
      isOpening d = false ∧ isClosing d = false ∧ d.toUpper ∉ ['A', 'B', 'O'])) = true := by decide
  obtain ⟨notQuote, notOpening, notClosing, notFirst⟩ :=
    of_decide_eq_true (List.all_eq_true.mp plain c member)
  exact passes_plain notQuote notOpening notClosing fun _ before =>
    joiningWord?_of_first before rest notFirst

/-- The rest of a word. -/
theorem cutFrom_inside {b : Char} (inside : continuesWord b = true)
    (continues : ∀ c ∈ w, continuesWord c = true) (rest : List Char) :
    ∃ after, cutFrom .outside depth between (some b) (w ++ rest) =
      (cutFrom .outside depth between after rest).map (.extend w) := by
  induction w generalizing b with
  | nil => exact Passes.nil (some b)
  | cons c w ih =>
    obtain ⟨here, others⟩ := List.forall_mem_cons.mp continues
    obtain ⟨notQuote, notOpening, notClosing⟩ := not_isQuote_of_continuesWord here
    obtain ⟨after, passed⟩ := ih here others
    refine ⟨after, ?_⟩
    rw [List.cons_append, cutFrom_plain notQuote notOpening notClosing fun _ =>
      joiningWord?_inside inside _, passed, map_extend_extend]
    rfl

/-- A word other than those that join conditions; in brackets any word. -/
theorem passes_word (continues : ∀ c ∈ w, continuesWord c = true)
    (other : depth = 0 → ∀ word : JoiningWord, w.map Char.toUpper ≠ word.letters)
    (ends : EndsWord rest) : Passes depth between between w rest := by
  intro before
  cases w with
  | nil => exact Passes.nil before
  | cons c w =>
    obtain ⟨here, others⟩ := List.forall_mem_cons.mp continues
    obtain ⟨notQuote, notOpening, notClosing⟩ := not_isQuote_of_continuesWord here
    obtain ⟨after, passed⟩ : ∃ after, cutFrom .outside depth between (some c) (w ++ rest) =
        (cutFrom .outside depth between after rest).map (.extend w) :=
      cutFrom_inside here others rest
    have noWord (outer : depth = 0) : joiningWord? before (c :: (w ++ rest)) = none :=
      joiningWord?_word continues (other outer) ends before
    refine ⟨after, ?_⟩
    rw [List.cons_append, cutFrom_plain notQuote notOpening notClosing noWord, passed,
      map_extend_extend]
    rfl

/-- Characters in quotes, up to the closing mark. -/
theorem cutFrom_inQuotes {mark : Char} (isMark : isQuote mark = true)
    (inside : ∀ c ∈ w, c ≠ mark ∧ c ≠ '\\') (before : Option Char) (rest : List Char) :
    cutFrom (.inside mark) depth between before (w ++ mark :: rest) =
      (cutFrom .outside depth between (some mark) rest).map (.extend (w ++ [mark])) := by
  induction w generalizing before with
  | nil =>
    have closes : Quoting.next (.inside mark) mark = .outside := by
      simp only [isQuote, Bool.or_eq_true, beq_iff_eq] at isMark
      rcases isMark with rfl | rfl <;> rfl
    rw [List.nil_append, cutFrom_quoted rfl, closes]
    rfl
  | cons c w ih =>
    obtain ⟨⟨notMark, notBackslash⟩, others⟩ := List.forall_mem_cons.mp inside
    have stays : Quoting.next (.inside mark) c = .inside mark := by
      simp [Quoting.next, notMark, notBackslash]
    rw [List.cons_append, cutFrom_quoted rfl, stays, ih others, map_extend_extend]
    rfl

theorem passes_quoted {mark : Char} (isMark : isQuote mark = true)
    (inside : ∀ c ∈ w, c ≠ mark ∧ c ≠ '\\') (rest : List Char) :
    Passes depth between between (mark :: (w ++ [mark])) rest := by
  intro before
  have opens : Quoting.next .outside mark = .inside mark := by simp [Quoting.next, isMark]
  refine ⟨some mark, ?_⟩
  rw [List.cons_append, List.append_assoc, List.singleton_append,
    cutFrom_quoted (by simp [isMark]), opens, cutFrom_inQuotes isMark inside, map_extend_extend]
  rfl

/-- What passes inside brackets passes with them. -/
theorem passes_bracketed {opening closing : Char} (opens : isOpening opening = true)
    (closes : isClosing closing = true)
    (inside : Passes (depth + 1) between between w (closing :: rest)) :
    Passes depth between between (opening :: (w ++ [closing])) rest := by
  intro before
  obtain ⟨after, passed⟩ := inside (some opening)
  refine ⟨some closing, ?_⟩
  rw [List.cons_append, List.append_assoc, List.singleton_append, cutFrom_opening opens, passed,
    cutFrom_closing closes, map_extend_extend, map_extend_extend]
  simp

/-! ## Joining words that count -/

theorem letters_between : JoiningWord.between.letters = ['B', 'E', 'T', 'W', 'E', 'E', 'N'] := rfl

theorem letters_and : JoiningWord.and.letters = ['A', 'N', 'D'] := rfl

theorem letters_or : JoiningWord.or.letters = ['O', 'R'] := rfl

theorem joiningWord?_letters (word : JoiningWord) (ends : EndsWord rest) :
    joiningWord? (some ' ') (word.letters ++ rest) = some word := by
  have free : continuesWord ' ' = false := by decide
  rw [EndsWord] at ends
  cases word <;>
    simp [joiningWord?, free, List.find?, startsWith, letters_between, letters_and, letters_or,
      JoiningWord.length, ends]

theorem cutFrom_space (before : Option Char) (rest : List Char) :
    cutFrom .outside depth between before (' ' :: rest) =
      (cutFrom .outside depth between (some ' ') rest).map (.extend [' ']) :=
  cutFrom_plain rfl rfl rfl fun _ => joiningWord?_of_first before rest (by decide)

/-- BETWEEN makes the next AND part of the condition. -/
theorem passes_between (ends : EndsWord rest) :
    Passes 0 between true (' ' :: JoiningWord.between.letters) rest := by
  intro before
  have here : joiningWord? (some ' ')
      ('B' :: 'E' :: 'T' :: 'W' :: 'E' :: 'E' :: 'N' :: rest) = some .between :=
    joiningWord?_letters .between ends
  have reads : cutFrom .outside 0 between (some ' ') (JoiningWord.between.letters ++ rest) =
      (cutFrom .outside 0 true (some 'N') rest).map (.extend JoiningWord.between.letters) := by
    change cutFrom _ _ _ _ ('B' :: 'E' :: 'T' :: 'W' :: 'E' :: 'E' :: 'N' :: rest) = _
    rw [cutFrom]
    simp [here, isQuote, isOpening, isClosing, letters_between]
  refine ⟨some 'N', ?_⟩
  rw [List.cons_append, cutFrom_space, reads, map_extend_extend]
  rfl

/-- The first AND behind a BETWEEN is passed over. -/
theorem passes_bound (ends : EndsWord rest) :
    Passes 0 true false (' ' :: JoiningWord.and.letters) rest := by
  intro before
  have here : joiningWord? (some ' ') ('A' :: 'N' :: 'D' :: rest) = some .and :=
    joiningWord?_letters .and ends
  have reads : cutFrom .outside 0 true (some ' ') (JoiningWord.and.letters ++ rest) =
      (cutFrom .outside 0 false (some 'D') rest).map (.extend JoiningWord.and.letters) := by
    change cutFrom _ _ _ _ ('A' :: 'N' :: 'D' :: rest) = _
    rw [cutFrom]
    simp [here, isQuote, isOpening, isClosing, letters_and]
  refine ⟨some 'D', ?_⟩
  rw [List.cons_append, cutFrom_space, reads, map_extend_extend]
  rfl

/-- The word of a connector, behind which a piece begins. -/
def Connector.word : Connector → JoiningWord
  | .and => .and
  | .or => .or

/-- A connector that belongs to no BETWEEN ends the piece. -/
theorem cutFrom_connector (connector : Connector) (ends : EndsWord rest) :
    ∃ after, cutFrom .outside 0 false (some ' ') (connector.word.letters ++ rest) =
      (cutFrom .outside 0 false after rest).map (.cut connector) := by
  cases connector with
  | and =>
    have here : joiningWord? (some ' ') ('A' :: 'N' :: 'D' :: rest) = some .and :=
      joiningWord?_letters .and ends
    refine ⟨some 'D', ?_⟩
    change cutFrom _ _ _ _ ('A' :: 'N' :: 'D' :: rest) = _
    rw [cutFrom]
    simp [here, isQuote, isOpening, isClosing]
  | or =>
    have here : joiningWord? (some ' ') ('O' :: 'R' :: rest) = some .or :=
      joiningWord?_letters .or ends
    refine ⟨some 'R', ?_⟩
    change cutFrom _ _ _ _ ('O' :: 'R' :: rest) = _
    rw [cutFrom]
    simp [here, isQuote, isOpening, isClosing]

end DocQuery.Condition
