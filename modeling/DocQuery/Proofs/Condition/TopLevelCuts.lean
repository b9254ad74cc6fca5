import DocQuery.Proofs.Condition.Passing
import DocQuery.Proofs.Text.Balance

/-! # Cuts at the top level

Cutting a condition at its connectors loses nothing and cuts only where no quote and no bracket is
open, so each piece is balanced on its own; it fails exactly for texts that are not balanced.

* `IsJoined` — a text that is made of pieces and the words of the connectors between them.
* `Advance`, `advance_cutFrom` — what one step of the cut can do.
* `IsCut`, `isCut_cutFrom` — what a whole run gives, from any place.
* `cutConditions_at_top_level` — both for a whole text.
-/

namespace DocQuery.Condition

open DocQuery.Text

variable {quoting : Quoting} {depth : Nat} {between : Bool} {before : Option Char} {c : Char}
  {s w rest : List Char} {p : Place} {pieces : Pieces}

/-- The word of a connector, in some letter case. -/
def Connector.IsSpelled (connector : Connector) (w : List Char) : Prop :=
  w.map Char.toUpper = connector.word.letters

theorem Connector.IsSpelled.ne_nil {connector : Connector} (spelled : connector.IsSpelled w) :
    w ≠ [] := by
  rintro rfl
  cases connector <;> cases spelled

/-- A text that is made of a first piece and of others, each behind the word of its connector. -/
inductive IsJoined : List Char → List (Connector × List Char) → List Char → Prop
  | last (piece : List Char) : IsJoined piece [] piece
  | cons {connector : Connector} {w next s : List Char} {others : List (Connector × List Char)}
      (first : List Char) (spelled : connector.IsSpelled w) (joined : IsJoined next others s) :
      IsJoined first ((connector, next) :: others) (first ++ (w ++ s))

theorem IsJoined.append {first : List Char} {others : List (Connector × List Char)}
    (joined : IsJoined first others s) (front : List Char) :
    IsJoined (front ++ first) others (front ++ s) := by
  cases joined with
  | last => exact .last _
  | cons first spelled joined =>
    rw [← List.append_assoc]
    exact .cons _ spelled joined

/-! ## One step -/

/-- What the cut can do at a place with some text left: pass over some of it, cut at a connector, or
fail at a bracket that is closed too early. -/
inductive Advance (p : Place) : List Char → Except ConditionFault Pieces → Prop
  | pass {w rest : List Char} {q : Place} {between : Bool} {before : Option Char} (nonempty : w ≠ [])
      (walks : p.walk? w = some q) :
      Advance p (w ++ rest) ((cutFrom q.quoting q.depth between before rest).map (.extend w))
  | cut {connector : Connector} {w rest : List Char} {between : Bool} {before : Option Char}
      (outer : p = .start) (spelled : connector.IsSpelled w) :
      Advance p (w ++ rest) ((cutFrom .outside 0 between before rest).map (.cut connector))
  | fail {c : Char} {rest : List Char} (early : p.step? c = none) :
      Advance p (c :: rest) (.error .unbalanced)

theorem Advance.step {q : Place} {between : Bool} {before : Option Char}
    (steps : p.step? c = some q) (rest : List Char) :
    Advance p (c :: rest) ((cutFrom q.quoting q.depth between before rest).map (.extend [c])) :=
  .pass (w := [c]) (by simp) (by simp [steps])

/-- The characters of words open and close nothing. -/
theorem walk?_of_continuesWord (continues : ∀ c ∈ w, continuesWord c = true) (depth : Nat) :
    Place.walk? ⟨.outside, depth⟩ w = some ⟨.outside, depth⟩ := by
  induction w with
  | nil => rfl
  | cons c w ih =>
    obtain ⟨here, others⟩ := List.forall_mem_cons.mp continues
    obtain ⟨notQuote, notOpening, notClosing⟩ := not_isQuote_of_continuesWord here
    simp [Place.step?, Quoting.next, nextDepth, notQuote, notOpening, notClosing, ih others]

theorem walk?_of_letters {word : JoiningWord} (spelled : w.map Char.toUpper = word.letters)
    (depth : Nat) : Place.walk? ⟨.outside, depth⟩ w = some ⟨.outside, depth⟩ := by
  have upper : word.letters.all Char.isUpper = true := by cases word <;> decide
  refine walk?_of_continuesWord (fun c member => continuesWord_of_toUpper ?_) depth
  exact List.all_eq_true.mp upper _ (spelled ▸ List.mem_map_of_mem member)

theorem letters_of_joiningWord? {word : JoiningWord} (found : joiningWord? before s = some word) :
    (s.take word.length).map Char.toUpper = word.letters := by
  rw [joiningWord?] at found
  split at found
  · cases found
  · have starts := List.find?_some found
    rw [startsWith, Bool.and_eq_true, beq_iff_eq] at starts
    exact starts.1

theorem advance_cutFrom (quoting : Quoting) (depth : Nat) (between : Bool) (before : Option Char)
    (c : Char) (rest : List Char) :
    Advance ⟨quoting, depth⟩ (c :: rest) (cutFrom quoting depth between before (c :: rest)) := by
  by_cases covered : quoting = .outside
  · subst covered
    by_cases opens : isOpening c = true
    · rw [cutFrom_opening opens]
      exact .step (Place.step?_opening opens depth) rest
    by_cases closes : isClosing c = true
    · cases depth with
      | zero =>
        have fails : cutFrom .outside 0 between before (c :: rest) = .error .unbalanced := by
          have notQuote : isQuote c = false := by
            by_contra quote
            simpa [Quoting.next, quote] using (Place.next_of_isClosing closes).1
          rw [cutFrom]
          simp [notQuote, opens, closes]
        rw [fails]
        exact .fail (Place.step?_early closes)
      | succ depth =>
        rw [cutFrom_closing closes]
        exact .step (Place.step?_closing closes depth) rest
    rw [Bool.not_eq_true] at opens closes
    have passes := Place.step?_other opens closes depth
    by_cases quote : isQuote c = true
    · rw [cutFrom_quoted (by simp [quote])]
      exact .step passes rest
    rw [Bool.not_eq_true] at quote
    by_cases plain : depth = 0 → joiningWord? before (c :: rest) = none
    · rw [cutFrom_plain quote opens closes plain]
      rw [Quoting.next, quote] at passes
      exact .step passes rest
    · rw [Classical.not_imp, ← Ne, Option.ne_none_iff_exists'] at plain
      obtain ⟨rfl, word, found⟩ := plain
      have letters := letters_of_joiningWord? found
      have walks := walk?_of_letters letters 0
      have parts := (c :: rest).take_append_drop word.length
      rw [cutFrom]
      simp only [quote, opens, closes, found]
      cases word with
      | between => exact parts ▸ .pass (by simp [JoiningWord.length]) walks
      | and =>
        cases between with
        | true => exact parts ▸ .pass (by simp [JoiningWord.length]) walks
        | false => exact parts ▸ .cut rfl (show Connector.and.IsSpelled _ from letters)
      | or => exact parts ▸ .cut rfl (show Connector.or.IsSpelled _ from letters)
  · rw [cutFrom_quoted (by simp [covered])]
    exact .step (Place.step?_covered covered depth c) rest

/-! ## A whole run -/

/-- What the cut of a text gives from a place on: pieces that make up the text and end where nothing
is open, or a failure because the text does not end there. -/
inductive IsCut (p : Place) (s : List Char) : Except ConditionFault Pieces → Prop
  | ok {pieces : Pieces} (joined : IsJoined pieces.first pieces.others s)
      (first : p.walk? pieces.first = some .start)
      (others : ∀ other ∈ pieces.others, Place.start.walk? other.2 = some .start)
      (whole : p.walk? s = some .start) : IsCut p s (.ok pieces)
  | error {fault : ConditionFault} (unbalanced : p.walk? s ≠ some .start) : IsCut p s (.error fault)

/-- What is passed over belongs to the first piece. -/
theorem IsCut.extend {q : Place} {result : Except ConditionFault Pieces}
    (walks : p.walk? w = some q) (isCut : IsCut q s result) :
    IsCut p (w ++ s) (result.map (.extend w)) := by
  have whole (t : List Char) : p.walk? (w ++ t) = q.walk? t := by simp [Place.walk?_append, walks]
  cases isCut with
  | ok joined first others walked =>
    exact .ok (joined.append w) ((whole _).trans first) others ((whole s).trans walked)
  | error unbalanced => exact .error (whole s ▸ unbalanced)

/-- At a connector a piece ends, and the next one begins behind its word. -/
theorem IsCut.cut {connector : Connector} {result : Except ConditionFault Pieces}
    (spelled : connector.IsSpelled w) (isCut : IsCut .start s result) :
    IsCut .start (w ++ s) (result.map (.cut connector)) := by
  have whole : Place.start.walk? (w ++ s) = Place.start.walk? s := by
    rw [Place.walk?_append, Place.start, walk?_of_letters spelled, Option.bind_some]
  cases isCut with
  | ok joined first others walked =>
    exact .ok (.cons [] spelled joined) rfl (List.forall_mem_cons.mpr ⟨first, others⟩)
      (whole.trans walked)
  | error unbalanced => exact .error (whole ▸ unbalanced)

theorem isCut_cutFrom (p : Place) (between : Bool) (before : Option Char) (s : List Char) :
    IsCut p s (cutFrom p.quoting p.depth between before s) := by
  -- a step takes at least a character, and the rest of the text is cut by the same rules
  induction size : s.length using Nat.strong_induction_on generalizing p between before s with
  | _ n ih =>
    subst size
    cases s with
    | nil =>
      rw [cutFrom]
      split
      · rename_i covered
        refine .error fun walked => ?_
        cases walked
        cases covered
      · split
        · rename_i inside
          refine .error fun walked => ?_
          cases walked
          cases inside
        · rename_i outside outer
          have atStart : p = .start := by
            obtain ⟨quoting, depth⟩ := p
            simpa [Place.start] using And.intro outside outer
          subst atStart
          exact .ok (.last []) rfl (by simp) rfl
    | cons c rest =>
      have step := advance_cutFrom p.quoting p.depth between before c rest
      generalize cutFrom p.quoting p.depth between before (c :: rest) = result at step ⊢
      generalize c :: rest = s at step ih ⊢
      cases step with
      | pass some_ walks =>
        refine .extend walks (ih _ ?_ _ _ _ _ rfl)
        simpa [List.length_pos_iff] using some_
      | cut outer spelled =>
        have atStart : p = .start := outer
        subst atStart
        refine .cut spelled (ih _ ?_ .start _ _ _ rfl)
        simpa [List.length_pos_iff] using spelled.ne_nil
      | fail early => exact .error (by simp [show p.step? _ = none from early])

/-! ## Whole texts -/

/-- A condition that can be cut is made of its pieces and the words of the connectors between them,
and each piece is balanced; a condition cannot be cut exactly if it ends in quotes, closes a bracket
that is not open, or leaves one open. -/
theorem cutConditions_at_top_level (s : List Char) :
    (∀ pieces, cutConditions s = .ok pieces →
      pieces.toList.length = pieces.others.length + 1 ∧
        IsJoined pieces.first pieces.others s ∧ ∀ piece ∈ pieces.toList, IsBalanced piece) ∧
    ((∃ fault, cutConditions s = .error fault) ↔
      Quoting.outside.after s ≠ .outside ∨
        (∃ front, front <+: s ∧ Quoting.outside.opened front < Quoting.outside.closed front) ∨
        Quoting.outside.closed s < Quoting.outside.opened s) := by
  have isCut := isCut_cutFrom .start false none s
  rw [← not_isBalanced_iff, isBalanced_iff, cutConditions]
  change IsCut .start s (cutFrom .outside 0 false none s) at isCut
  generalize cutFrom .outside 0 false none s = result at isCut
  cases isCut with
  | ok joined first others whole =>
    refine ⟨?_, by simp [whole]⟩
    rintro pieces ⟨⟩
    refine ⟨by simp [Pieces.toList], joined, List.forall_mem_cons.mpr ?_⟩
    refine ⟨isBalanced_iff.mpr first, fun piece member => ?_⟩
    obtain ⟨other, listed, rfl⟩ := List.mem_map.mp member
    exact isBalanced_iff.mpr (others other listed)
  | error unbalanced => exact ⟨by simp, by simp [unbalanced]⟩

/-- A connector in another letter case cuts; a bracket in quotes and a connector in brackets do not
count. -/
theorem cutConditions_at_top_level_nested :
    cutConditions "a = ')' aNd (b oR c)".toList =
        .ok ⟨"a = ')' ".toList, [(.and, " (b oR c)".toList)]⟩ ∧
      IsJoined "a = ')' ".toList [(.and, " (b oR c)".toList)] "a = ')' aNd (b oR c)".toList ∧
      ∀ piece ∈ ["a = ')' ".toList, " (b oR c)".toList], IsBalanced piece := by
  have cut : cutConditions "a = ')' aNd (b oR c)".toList =
      .ok ⟨"a = ')' ".toList, [(.and, " (b oR c)".toList)]⟩ := by
    have apart : continuesWord ' ' = false ∧ continuesWord '=' = false := by decide
    have inside : continuesWord 'a' = true ∧ continuesWord 'N' = true ∧ continuesWord 'd' = true ∧
        continuesWord 'D' = true := by decide
    simp [cutConditions, cutFrom, joiningWord?, startsWith, apart, inside, isQuote, isOpening,
      isClosing, Quoting.next, JoiningWord.length, letters_and, letters_or, letters_between,
      Except.map, Pieces.extend, Pieces.cut]
  obtain ⟨-, joined, balanced⟩ := (cutConditions_at_top_level _).1 _ cut
  exact ⟨cut, joined, balanced⟩

end DocQuery.Condition
