import DocQuery.Proofs.Condition.Blank
import DocQuery.Proofs.Condition.Cut
import DocQuery.Proofs.Condition.Shapes
import DocQuery.Proofs.Text.ListItems

/-! # Conditions on a path

A condition that begins with a path and stays in one piece behind it, and among them a comparison
with a value. A joining word among the words of the path cuts it, and the front that is left of the
path is no condition. The connectors are looked for among words of other characters than those of a
path: a mark belongs to a word of a path, but to no connector, so a connector can stand in front of
it.

* `cutFrom_path` — a text is cut inside its path or not at all in it.
* `leafFilter_front` — what has neither blanks nor signs is no condition.
* `compileText_path` — a condition that compiles is in one piece, if what is behind its path is.
* `compileText_pathComparison` — a comparison that compiles is the one that is written.
* `whole_append_space_iff` — a text is cut where its front is.
* `compileText_path_iff` — which conditions on a path compile, and to what.
* `whole_of_segments` — paths that are not cut.
-/

namespace DocQuery.Condition

open DocQuery.Text

variable {scope : Scope} {between : Bool} {before : Option Char} {c : Char}
  {f s w rest value : List Char} {pieces : Pieces}

/-! ## Cutting -/

/-- The rest of a joining word stands in front of the next blank. -/
theorem length_le_of_startsWith {word : JoiningWord}
    (starts : startsWith word (w ++ ' ' :: rest) = true) : word.length ≤ w.length := by
  by_contra short
  simp only [startsWith, Bool.and_eq_true, beq_iff_eq] at starts
  -- the blank would be one of the letters
  have member : Char.toUpper ' ' ∈ word.letters := by
    rw [← starts.1]
    refine List.mem_map_of_mem ?_
    rw [List.take_append]
    obtain ⟨n, same⟩ := Nat.exists_eq_add_of_lt (Nat.lt_of_not_le short)
    rw [show word.length - w.length = n + 1 by omega]
    exact List.mem_append_right _ List.mem_cons_self
  cases word <;> simp [letters_between, letters_and, letters_or] at member

theorem startsWith_of_joiningWord? {word : JoiningWord}
    (found : joiningWord? before s = some word) :
    startsWith word s = true := by
  unfold joiningWord? at found
  split at found
  · cases found
  · exact List.find?_some (p := (startsWith · s)) found

/-- Where the scan of a text in front of a blank leads: the text is cut inside, or the scan goes on
at the blank. -/
def Passed (w rest : List Char) (pieces : Pieces) : Prop :=
  pieces.first <+: w ∨ ∃ between after tail,
    cutFrom .outside 0 between after (' ' :: rest) = .ok tail ∧ pieces = tail.extend w

theorem Passed.extend (passed : Passed w rest pieces) (front : List Char) :
    Passed (front ++ w) rest (pieces.extend front) := by
  rcases passed with inside | ⟨between, after, tail, cut, rfl⟩
  · exact .inl ((List.prefix_append_right_inj front).mpr inside)
  · exact .inr ⟨between, after, tail, cut, by simp [Pieces.extend]⟩

/-- A text without quotes and brackets in front of a blank is passed over, or cut inside. -/
theorem cutFrom_path
    (plain : ∀ c ∈ w, isQuote c = false ∧ isOpening c = false ∧ isClosing c = false)
    (cut : cutFrom .outside 0 between before (w ++ ' ' :: rest) = .ok pieces) :
    Passed w rest pieces := by
  induction h : w.length using Nat.strong_induction_on generalizing w between before pieces with
  | _ n ih =>
    cases w with
    | nil => exact .inr ⟨between, before, pieces, cut, rfl⟩
    | cons c w =>
      -- a step takes the front of the text, and the rest is shorter
      have goesOn {front back : List Char} (parts : c :: w = front ++ back) (some_ : front ≠ [])
          {between : Bool} {before : Option Char} (cut : (cutFrom .outside 0 between before
            (back ++ ' ' :: rest)).map (.extend front) = .ok pieces) :
          Passed (c :: w) rest pieces := by
        cases later : cutFrom .outside 0 between before (back ++ ' ' :: rest) with
        | error fault =>
          rw [later] at cut
          cases cut
        | ok tail =>
          rw [later] at cut
          cases cut
          have shorter : back.length < n := by
            have := List.length_pos_iff.mpr some_
            rw [← h, parts, List.length_append]
            omega
          rw [parts] at plain ⊢
          exact (ih _ shorter (fun c member => plain c (List.mem_append_right front member)) later
            rfl).extend front
      obtain ⟨notQuote, notOpening, notClosing⟩ := plain c List.mem_cons_self
      cases found : joiningWord? before (c :: (w ++ ' ' :: rest)) with
      | none =>
        rw [List.cons_append, cutFrom_plain notQuote notOpening notClosing fun _ => found] at cut
        exact goesOn (List.singleton_append).symm (List.cons_ne_nil c []) cut
      | some word =>
        have long := length_le_of_startsWith (w := c :: w) (startsWith_of_joiningWord? found)
        have jumps {n : Nat} (short : n + 1 ≤ (c :: w).length) {between : Bool}
            {before : Option Char} (cut : (cutFrom .outside 0 between before
              ((w ++ ' ' :: rest).drop n)).map (.extend (c :: (w ++ ' ' :: rest).take n)) =
              .ok pieces) : Passed (c :: w) rest pieces := by
          have short : n ≤ w.length := Nat.le_of_succ_le_succ short
          rw [List.drop_append_of_le_length short, List.take_append_of_le_length short] at cut
          exact goesOn (by simp) (List.cons_ne_nil c _) cut
        have ends {result : Except ConditionFault Pieces} {connector : Connector}
            (cut : result.map (.cut connector) = .ok pieces) : Passed (c :: w) rest pieces := by
          cases result with
          | error fault => cases cut
          | ok tail =>
            cases cut
            exact .inl List.nil_prefix
        rw [List.cons_append, cutFrom] at cut
        simp only [notQuote, notOpening, notClosing, found, bne_self_eq_false, Bool.or_self,
          Bool.false_eq_true, if_false, beq_self_eq_true, if_true] at cut
        cases word with
        | between => exact jumps long cut
        | and =>
          cases between with
          | true => exact jumps long cut
          | false => exact ends cut
        | or => exact ends cut

/-! ## What is left of the path -/

theorem leafFilter_front (scope : Scope)
    (solid : ∀ c ∈ s, isBlank c = false ∧ c ∉ ['<', '>', '!', '=']) :
    ∃ fault, leafFilter scope s = .error fault := by
  cases s with
  | nil => exact ⟨_, rfl⟩
  | cons c s =>
  have behind {field rest : List Char} (read : path? (c :: s) = some (field, rest)) :
      blanks? rest = none ∧ sign? (skipBlanks rest) = none := by
    have members : ∀ d ∈ rest, isBlank d = false ∧ d ∉ ['<', '>', '!', '='] :=
      fun d member => solid d (path?_append read ▸ List.mem_append_right field member)
    cases rest with
    | nil => exact ⟨rfl, rfl⟩
    | cons d rest =>
      obtain ⟨notBlank, noSign⟩ := members d List.mem_cons_self
      simp only [List.mem_cons, List.not_mem_nil, or_false, not_or] at noSign
      refine ⟨by simp [blanks?, notBlank], ?_⟩
      rw [skipBlanks_eq_self (by simpa using notBlank)]
      unfold sign?
      split <;> simp_all
  have none : between? (c :: s) = none ∧ membership? (c :: s) = none ∧ presence? (c :: s) = none ∧
      pattern? (c :: s) = none ∧ comparison? (c :: s) = none := by
    cases read : path? (c :: s) with
    | none => simp [between?, membership?, presence?, pattern?, comparison?, read]
    | some found =>
      obtain ⟨noBlanks, noSign⟩ := behind read
      simp [between?, membership?, presence?, pattern?, comparison?, read, noBlanks, noSign]
  obtain ⟨one, two, three, four, five⟩ := none
  exact ⟨.unrecognized, by simp [leafFilter, one, two, three, four, five]⟩

/-! ## Conditions -/

section

variable (path : path? f = some (f, []))

include path

theorem plain_of_path? :
    ∀ c ∈ f, isPlain c = true ∧ isBlank c = false ∧ c ∉ ['<', '>', '!', '='] := by
  intro c member
  rcases (isPath_of_path? path).2 c member with rfl | isWord
  · decide
  · exact ⟨isPlain_of_isWordChar isWord, isBlank_of_isWordChar isWord,
      notMem_of_all (by decide) isWord⟩

theorem unquoted_of_path? :
    ∀ c ∈ f, isQuote c = false ∧ isOpening c = false ∧ isClosing c = false := by
  intro c member
  have plain := (plain_of_path? path c member).1
  simp only [isPlain, Bool.and_eq_true, bne_iff_ne, ne_eq, Bool.not_eq_true'] at plain
  exact ⟨plain.1.1.2, plain.1.2, plain.2⟩

theorem isWord_of_path? : IsWord f := by
  refine ⟨?_, fun c member => (plain_of_path? path c member).2.1⟩
  rintro rfl
  cases path

theorem first_path (rest : List Char) : (f ++ rest).head?.all (!isBlank ·) = true := by
  cases f with
  | nil => cases path
  | cons c w => simpa using (plain_of_path? path c List.mem_cons_self).2.1

theorem trim_path (ends : EndsSolid rest) : trim (f ++ rest) = f ++ rest :=
  trim_eq_self (first_path path rest) (EndsSolid.append ends).all

/-- A condition that compiles is passed over up to the end of its path. -/
theorem cutConditions_path (ends : EndsSolid (' ' :: rest)) {filter : Filter}
    (compiled : compileText scope (f ++ ' ' :: rest) = .ok filter) :
    ∃ between after tail, cutFrom .outside 0 between after (' ' :: rest) = .ok tail ∧
      cutConditions (f ++ ' ' :: rest) = .ok (tail.extend f) := by
  have trimmed := trim_path path ends
  obtain ⟨pieces, filters, cut, mapped, -⟩ := compileText_eq_ok compiled (by simp [trimmed])
  rw [trimmed] at cut
  rcases cutFrom_path (unquoted_of_path? path) cut with inside | ⟨between, after, tail, later, rfl⟩
  · -- the front of the path is compiled on its own
    obtain ⟨filter, others, -, front, -⟩ := mapM_pieceFilter_cons mapped
    have solid : ∀ c ∈ trim pieces.first, isBlank c = false ∧ c ∉ ['<', '>', '!', '='] :=
      fun c member => (plain_of_path? path c (inside.subset (mem_of_mem_trim member))).2
    obtain ⟨fault, fails⟩ := leafFilter_front scope solid
    rw [pieceFilter_eq_ok_iff, fails] at front
    cases front
  · exact ⟨between, after, tail, later, cut⟩

/-- A condition that compiles is one condition, if what is behind its path stays in one piece. -/
theorem compileText_path
    (behind : ∀ between before, Whole .outside 0 between before (' ' :: rest))
    (ends : EndsSolid (' ' :: rest)) {filter : Filter}
    (compiled : compileText scope (f ++ ' ' :: rest) = .ok filter) :
    cutConditions (f ++ ' ' :: rest) = .ok ⟨f ++ ' ' :: rest, []⟩ ∧
      leafFilter scope (f ++ ' ' :: rest) = .ok filter := by
  obtain ⟨between, after, tail, reached, cut⟩ := cutConditions_path path ends compiled
  have whole : tail = ⟨' ' :: rest, []⟩ :=
    Except.ok.inj (reached.symm.trans (behind between after))
  have uncut : cutConditions (f ++ ' ' :: rest) = .ok ⟨f ++ ' ' :: rest, []⟩ := by
    rw [cut, whole]
    rfl
  rw [compileText_whole scope (trim_path path ends) (by simp) uncut] at compiled
  refine ⟨uncut, ?_⟩
  cases leaf : leafFilter scope (f ++ ' ' :: rest) with
  | error fault =>
    rw [leaf] at compiled
    cases compiled
  | ok other =>
    rw [leaf] at compiled
    cases compiled
    rfl

end

/-! ## Comparisons -/

/-- Quotes that are not closed are a fault. -/
theorem cutFrom_unclosed {mark : Char} {depth : Nat} (inside : ∀ c ∈ w, c ≠ mark ∧ c ≠ '\\')
    (before : Option Char) :
    cutFrom (.inside mark) depth between before w = .error .openQuote := by
  induction w generalizing before with
  | nil => simp [cutFrom]
  | cons c w ih =>
    obtain ⟨⟨notMark, notBackslash⟩, others⟩ := List.forall_mem_cons.mp inside
    have stays : Quoting.next (.inside mark) c = .inside mark := by
      simp [Quoting.next, notMark, notBackslash]
    rw [cutFrom_quoted rfl, stays, ih others]
    rfl

/-- An equals sign between a path and a value. -/
def pathComparison (f value : List Char) : List Char := f ++ ([' ', '=', ' '] ++ value)

theorem passes_equals (value : List Char) : Passes 0 between between [' ', '=', ' '] value :=
  .cons (passes_separator (by decide) _) <| .cons (passes_separator (by decide) _) <|
    passes_separator (by decide) _

section

variable (path : path? f = some (f, []))

include path

theorem first_pathComparison (value : List Char) :
    (pathComparison f value).head?.all (!isBlank ·) = true :=
  first_path path _

theorem trim_pathComparison (ends : EndsSolid value) :
    trim (pathComparison f value) = pathComparison f value :=
  trim_path path (.append ends)

/-- A comparison of a path with a value that stays in one piece compiles to nothing else. -/
theorem compileText_pathComparison (passes : ∀ between, Passes 0 between between value [])
    (first : value.head?.all (!isBlank ·) = true) (ends : EndsSolid value)
    (oneLine : '\n' ∉ value) {filter : Filter}
    (compiled : compileText scope (pathComparison f value) = .ok filter) :
    comparisonFilter (scope.resolve (String.ofList f)) .eq value = .ok filter := by
  have tail (between : Bool) : Passes 0 between between ([' ', '=', ' '] ++ value) [] :=
    (passes_equals _).append (passes between)
  obtain ⟨-, leaf⟩ := compileText_path path (whole_of_passes tail)
    (.append (s := [' ', '=', ' ']) ends) compiled
  obtain ⟨noBetween, noMembership, noPresence, noPattern, comparison⟩ :=
    shapes_comparison (isPath_of_path? path).1 .eq (show pathComparison f value =
      f ++ ' ' :: (Comparison.eq.sign.toList ++ ' ' :: value) from rfl)
  have text : line? (skipBlanks value) = some value := by
    rw [skipBlanks_eq_self first, line?, if_neg (by simpa using oneLine)]
  rw [text, Option.map_some] at comparison
  have compared : leafFilter scope (pathComparison f value) =
      comparisonFilter (scope.resolve (String.ofList f)) .eq value := by
    have something : (pathComparison f value).isEmpty = false := by simp [pathComparison]
    simp [leafFilter, something, noBetween, noMembership, noPresence, noPattern, comparison]
  exact compared ▸ leaf

/-- A comparison with quotes that are not closed does not compile. -/
theorem compileText_unclosed {mark : Char} (isMark : isQuote mark = true)
    (inside : ∀ c ∈ w, c ≠ mark ∧ c ≠ '\\') (ends : EndsSolid (mark :: w)) {filter : Filter} :
    compileText scope (pathComparison f (mark :: w)) ≠ .ok filter := by
  intro compiled
  obtain ⟨between, after, tail, reached, -⟩ :=
    cutConditions_path path (.append (s := [' ', '=', ' ']) ends) compiled
  obtain ⟨_, passed⟩ := (passes_equals _ : Passes 0 between between _ (mark :: w)) after
  have opens : Quoting.next .outside mark = .inside mark := by simp [Quoting.next, isMark]
  rw [cutFrom_quoted (by simp [isMark]), opens, cutFrom_unclosed inside] at passed
  cases reached.symm.trans passed

end

/-! ## In front of a blank -/

theorem length_letters (word : JoiningWord) : word.letters.length = word.length := by
  cases word <;> rfl

/-- A blank ends a word like the end of the text. -/
theorem startsWith_append_space (word : JoiningWord) (w rest : List Char) :
    startsWith word (w ++ ' ' :: rest) = startsWith word w := by
  by_cases long : word.length ≤ w.length
  · have free : continuesWord ' ' = false := by decide
    rw [startsWith, startsWith, List.take_append_of_le_length long,
      List.drop_append_of_le_length long]
    cases w.drop word.length <;> simp [free]
  · have one : startsWith word (w ++ ' ' :: rest) = false := by
      by_contra starts
      exact long (length_le_of_startsWith (by simpa using starts))
    have other : startsWith word w = false := by
      by_contra starts
      simp only [startsWith, Bool.not_eq_false, Bool.and_eq_true, beq_iff_eq] at starts
      have lengths := congrArg List.length starts.1
      rw [List.length_map, List.length_take, length_letters] at lengths
      omega
    rw [one, other]

theorem joiningWord?_append_space (before : Option Char) (w rest : List Char) :
    joiningWord? before (w ++ ' ' :: rest) = joiningWord? before w := by
  simp only [joiningWord?, startsWith_append_space]

/-- What a joining word decides outside quotes and brackets. -/
theorem whole_plain_iff (notQuote : isQuote c = false) (notOpening : isOpening c = false)
    (notClosing : isClosing c = false) (t : List Char) :
    Whole .outside 0 between before (c :: t) ↔
      match joiningWord? before (c :: t) with
      | none => Whole .outside 0 between (some c) t
      | some .between => Whole .outside 0 true (some 'N') (t.drop 6)
      | some .and => between = true ∧ Whole .outside 0 false (some 'D') (t.drop 2)
      | some .or => False := by
  have front (n : Nat) : c :: t = (c :: t.take n) ++ t.drop n := by simp
  rw [Whole, cutFrom]
  simp only [notQuote, notOpening, notClosing, bne_self_eq_false, Bool.or_self, Bool.false_eq_true,
    if_false, beq_self_eq_true, if_true]
  cases joiningWord? before (c :: t) with
  | none => exact map_extend_eq_ok_iff [c]
  | some word =>
    cases word with
    | between =>
      simp only [Whole]
      rw [front 6]
      exact map_extend_eq_ok_iff _
    | and =>
      cases between with
      | true =>
        simp only [Whole, if_true, true_and]
        rw [front 2]
        exact map_extend_eq_ok_iff _
      | false => simpa using cut_ne_ok
    | or => simpa using cut_ne_ok

/-- A text in front of a blank is cut as it is by itself, if it is not cut from the blank on. -/
theorem whole_append_space_iff
    (plain : ∀ c ∈ w, isQuote c = false ∧ isOpening c = false ∧ isClosing c = false)
    (behind : ∀ between before, Whole .outside 0 between before (' ' :: rest)) :
    Whole .outside 0 between before (w ++ ' ' :: rest) ↔ Whole .outside 0 between before w := by
  -- a joining word is passed over at once, so the induction is on the length
  induction h : w.length using Nat.strong_induction_on generalizing w between before with
  | _ n ih =>
    cases w with
    | nil => exact iff_of_true (behind between before) (whole_nil between before)
    | cons c w =>
      obtain ⟨notQuote, notOpening, notClosing⟩ := plain c List.mem_cons_self
      have later (k : Nat) (short : k ≤ w.length) (between : Bool) (before : Option Char) :
          Whole .outside 0 between before ((w ++ ' ' :: rest).drop k) ↔
            Whole .outside 0 between before (w.drop k) := by
        rw [List.drop_append_of_le_length short]
        refine ih (w.drop k).length ?_ (fun c member => ?_) rfl
        · rw [← h, List.length_drop, List.length_cons]
          omega
        · exact plain c (List.mem_cons_of_mem _ (List.mem_of_mem_drop member))
      rw [List.cons_append, whole_plain_iff notQuote notOpening notClosing,
        whole_plain_iff notQuote notOpening notClosing, ← List.cons_append,
        joiningWord?_append_space]
      cases found : joiningWord? before (c :: w) with
      | none => simpa using later 0 (Nat.zero_le _) between (some c)
      | some word =>
        -- the rest of the word is in front of the blank
        have long : word.length ≤ w.length + 1 := by
          have starts := startsWith_of_joiningWord? found
          rw [← startsWith_append_space word _ rest] at starts
          exact length_le_of_startsWith starts
        cases word with
        | between => exact later 6 (Nat.le_of_succ_le_succ long) _ _
        | and => exact and_congr_right fun _ => later 2 (Nat.le_of_succ_le_succ long) _ _
        | or => exact Iff.rfl

/-! ## Conditions -/

/-- A condition on a path compiles if its path is not cut and what is read of it in one piece is a
condition, as long as it is not cut behind the path. -/
theorem compileText_path_iff (path : path? f = some (f, [])) {scope : Scope} {filter : Filter}
    (behind : ∀ between before, Whole .outside 0 between before (' ' :: rest))
    (ends : EndsSolid (' ' :: rest)) :
    compileText scope (f ++ ' ' :: rest) = .ok filter ↔
      cutConditions f = .ok ⟨f, []⟩ ∧ leafFilter scope (f ++ ' ' :: rest) = .ok filter := by
  have uncut : cutConditions (f ++ ' ' :: rest) = .ok ⟨f ++ ' ' :: rest, []⟩ ↔
      cutConditions f = .ok ⟨f, []⟩ :=
    whole_append_space_iff (unquoted_of_path? path) behind
  constructor
  · intro compiled
    obtain ⟨whole, leaf⟩ := compileText_path path behind ends compiled
    exact ⟨uncut.mp whole, leaf⟩
  · rintro ⟨whole, leaf⟩
    rw [compileText_whole scope (trim_path path ends) (by simp) (uncut.mpr whole), leaf, reporting]

/-! ## Segments -/

/-- The characters of the text go on with a word for a connector too, and it is no joining word. -/
def IsPlainSegment (w : List Char) : Prop :=
  (∀ c ∈ w, continuesWord c = true) ∧ ∀ word : JoiningWord, w.map Char.toUpper ≠ word.letters

theorem endsWord_segments (others : List (List Char)) : EndsWord (others.flatMap ('.' :: ·)) := by
  cases others <;> rfl

theorem passes_segment (plain : IsPlainSegment w) (others : List (List Char)) :
    Passes 0 between between w (others.flatMap ('.' :: ·)) :=
  passes_word plain.1 (fun _ => plain.2) (by simpa using endsWord_segments others)

theorem passes_segments {others : List (List Char)} (plain : ∀ w ∈ others, IsPlainSegment w) :
    Passes 0 between between (others.flatMap ('.' :: ·)) [] := by
  induction others with
  | nil => exact .nil
  | cons w others ih =>
    obtain ⟨first, later⟩ := List.forall_mem_cons.mp plain
    rw [List.flatMap_cons]
    exact .append (.cons (passes_separator (by decide) _)
      (by simpa using passes_segment first others)) (ih later)

/-- A path of plain segments is not cut. -/
theorem whole_of_segments (plain : ∀ w ∈ splitAt '.' f, IsPlainSegment w) :
    cutConditions f = .ok ⟨f, []⟩ := by
  obtain ⟨first, others, pieces⟩ := List.exists_cons_of_ne_nil (splitAt_ne_nil '.' f)
  rw [pieces] at plain
  obtain ⟨start, later⟩ := List.forall_mem_cons.mp plain
  have passes (between : Bool) : Passes 0 between between f [] := by
    rw [eq_of_splitAt pieces]
    exact .append (by simpa using passes_segment start others) (passes_segments later)
  exact whole_of_passes passes false none

end DocQuery.Condition
