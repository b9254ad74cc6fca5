import DocQuery.Proofs.Statement.InnerStatement
import DocQuery.Proofs.Statement.Phrases

/-! # The text that clauses are read from

The clauses of a SELECT are read from what is left of its text when the modifiers and an EXISTS
clause are cut out. Without an EXISTS clause no phrase is in there that is not in the statement.

* `clausesOf`, `clauses_of_extractSelect` — the text that is left, and what is read from it.
* `isPart_of_clauseText?` — the text of a clause is a part of it.
* `occurs_of_takeWindow`, `occurs_of_takeDistinct` — taking out modifiers brings no phrase.
* `occurs_of_clausesOf` — a phrase in the text that is left is in the statement.
-/

namespace DocQuery.Select

open DocQuery.Text Safety

variable {β : Type} {sql word : String} {read : List Char → Option β} {s t w r text : List Char}

/-! ## Clauses -/

/-- What the clauses of a statement are read from: an EXISTS clause and the text without it. -/
def clausesOf (sql : String) : Except SqlError (Option ExistsClause × List Char) := do
  let (_, _, text) ← takeWindow sql ((clean sql.toList).take maxLength)
  return takeExists (takeDistinct text).2

/-- The conditions and the order of a plan are clauses of the text. -/
theorem clauses_of_extractSelect {plan : SelectPlan} (extracted : extractSelect sql = .ok plan) :
    ∃ text, clausesOf sql = .ok (plan.exists_, text) ∧
      plan.predicate = (whereText? text).bind nonBlank? ∧
      plan.orderBy = (orderByText? text).bind nonBlank? ∧
      plan.groupBy = (groupByText? text).map fun keys =>
        ⟨groupKeys keys, (havingText? text).bind nonBlank?⟩ := by
  cases window : takeWindow sql ((clean sql.toList).take maxLength) with
  | error e => simp [extractSelect, window, bind, Except.bind] at extracted
  | ok taken =>
    obtain ⟨top, skip, text⟩ := taken
    have left : clausesOf sql = .ok (takeExists (takeDistinct text).2) := by
      simp [clausesOf, window, bind, Except.bind, pure, Except.pure]
    simp only [extractSelect, window, bind, Except.bind] at extracted
    split at extracted
    · split at extracted
      · split at extracted
        · cases extracted
        · cases extracted
          exact ⟨_, left, rfl, rfl, rfl⟩
      · cases extracted
    · cases extracted

theorem toList_of_nonBlank? {written : String} (some_ : nonBlank? s = some written) :
    written.toList = trim s := by
  unfold nonBlank? at some_
  split at some_
  · cases some_
  · cases some_
    rw [String.toList_ofList]

/-- The text of a clause, without blanks at its ends, is a part of the text that it is read from. -/
theorem isPart_of_clauseText? {start : List Char → Option (List Char)}
    {stop : List Char → Option Unit} (leaves : ∀ s r, start s = some r → r <:+ s) {written : String}
    (found : (clauseText? start stop s).bind nonBlank? = some written) :
    IsPart written.toList s := by
  obtain ⟨whole, found, some_⟩ := Option.bind_eq_some_iff.mp found
  rw [toList_of_nonBlank? some_]
  refine IsPart.trans ?_ (trim_isPart whole)
  rw [clauseText?_eq_map, Option.map_eq_some_iff] at found
  obtain ⟨⟨front, _⟩, searched, rfl⟩ := found
  obtain ⟨rest, isSuffix, read⟩ := searchWord?_eq_some searched
  simp only [clause?, bind, Option.bind_eq_some_iff] at read
  obtain ⟨behind, starts, next, blank, ⟨piece, _⟩, cut, same⟩ := read
  cases same
  obtain ⟨gap, b, rfl, blanks⟩ := blanks?_eq_some blank
  obtain ⟨c, more, back, rfl, rfl, -⟩ := cutAt?_eq_some cut
  have inside : b :: (c :: more) <:+: gap ++ b :: (c :: more ++ back) := ⟨gap, back, by simp⟩
  refine ⟨b, isWordChar_of_isBlank (blanks b (by simp)), ?_⟩
  exact inside.trans ((leaves rest _ starts).isInfix.trans isSuffix.isInfix)

theorem isSuffix_of_keyword? (read : keyword? word s = some r) : r <:+ s := by
  obtain ⟨p, rfl, -⟩ := letters?_eq_some read
  exact List.suffix_append p r

theorem isSuffix_of_keywords? {first second : String} (read : keywords? first second s = some r) :
    r <:+ s := by
  simp only [keywords?, bind, Option.bind_eq_some_iff] at read
  obtain ⟨behind, one, next, blank, two⟩ := read
  obtain ⟨gap, b, rfl, -⟩ := blanks?_eq_some blank
  refine (isSuffix_of_keyword? two).trans (.trans ?_ (isSuffix_of_keyword? one))
  exact ⟨gap ++ [b], by simp⟩

/-- Where the text of an order is read, its words stand in front of it. -/
theorem occurs_atOrder? (found : orderByText? s = some w) : occurs atOrder? s = true := by
  rw [orderByText?, clauseText?_eq_map, Option.map_eq_some_iff] at found
  obtain ⟨found, searched, -⟩ := found
  have clause : occurs (clause? (keywords? "ORDER" "BY") end?) s = true := by rw [occurs, searched]; rfl
  obtain ⟨front, rest, rfl, starts, here⟩ := occurs_iff.mp clause
  refine occurs_iff.mpr ⟨front, rest, rfl, starts, ?_⟩
  obtain ⟨_, here⟩ := Option.isSome_iff_exists.mp here
  simp only [clause?, keywords?, bind, Option.bind_eq_some_iff] at here
  obtain ⟨behind, ⟨afterOrder, order, next, gap, by_⟩, start, blank, ⟨piece, _⟩, cut, -⟩ := here
  obtain ⟨c, more, back, rfl, rfl, -⟩ := cutAt?_eq_some cut
  have solid : isBlank c = false := by
    cases behind with
    | nil => cases blank
    | cons b behind =>
      simp only [blanks?, Option.ite_none_right_eq_some, Option.some.injEq, skipBlanks] at blank
      have first := List.head?_dropWhile_not isBlank behind
      rwa [blank.2] at first
  simp [atOrder?, order, gap, by_, blank, solid?, solid]

/-! ## Modifiers -/

/-- The words of the head of a SELECT. -/
def headWords : List String := ["SELECT", "DISTINCT", "TOP", "SKIP"]

theorem isKeyword_of_mem_headWords : ∀ word ∈ headWords, IsKeyword word := by decide

/-- What spells a word of the head lacks every other keyword. -/
theorem lacks_of_spells {head : String} (isHead : head ∈ headWords) (apart : word ∉ headWords)
    (isKeyword : IsKeyword word) (spelled : Spells head.toList w) : Lacks word w := by
  have known := isKeyword_of_mem_headWords head isHead
  refine lacks_word (known.members spelled).2 fun other => apart ?_
  have same := Spells.unique isKeyword.upper known.upper other spelled
  rwa [String.toList_inj.mp same]

/-- A letter of a keyword is not a digit, in whatever case it is written. -/
theorem isDigit_of_spells {k c : Char} (upper : k.isUpper = true) (spelled : spells k c = true) :
    isDigit c = false := by
  simp only [spells, Bool.or_eq_true, Bool.and_eq_true, beq_iff_eq] at spelled
  rcases spelled with (same | ⟨-, rfl⟩) | ⟨-, rfl⟩
  · have range : 65 ≤ c.toUpper.toNat ∧ c.toUpper.toNat ≤ 90 := by
      rw [same]
      exact of_decide_eq_true upper
    have code : 65 ≤ c.toNat ∧ c.toNat ≤ 122 := by
      by_cases lower : 97 ≤ c.toNat ∧ c.toNat ≤ 122
      · omega
      · have unchanged : c.toUpper = c := dif_neg fun small => lower ⟨small.1, small.2⟩
        rw [unchanged] at range
        omega
    have notDigit : ¬ c.toNat ≤ 57 := by omega
    rw [isDigit, if_pos (by omega)]
    simpa [Char.isDigit, UInt32.le_iff_toNat_le] using fun _ => Nat.not_le.mp notDigit
  · decide +kernel
  · decide +kernel

theorem lacks_digits (isKeyword : IsKeyword word) (digits : ∀ c ∈ w, isDigit c = true) :
    Lacks word w := by
  rw [lacks_iff]
  intro front rest same _
  cases read : wholeKeyword? word rest with
  | none => rfl
  | some r =>
    obtain ⟨p, rfl, spelled, -⟩ := wholeKeyword?_eq_some_iff.mp read
    obtain ⟨k, ks, letters⟩ := List.exists_cons_of_ne_nil isKeyword.nonempty
    rw [letters] at spelled
    obtain ⟨c, more, first, -, rfl⟩ := List.forall₂_cons_left_iff.mp spelled
    have upper := isKeyword.upper k (by simp [letters])
    have digit := digits c (by simp [same])
    rw [isDigit_of_spells upper first] at digit
    cases digit

/-- The text of a modifier lacks every keyword but the words of the head. -/
theorem lacks_modifier {m : WrittenModifier} (isKeyword : IsKeyword word)
    (apart : word ∉ headWords) (taken : modifier? s = some (m, r)) :
    Lacks word m.source ∧ ∃ gap b, s = m.source ++ (gap ++ b :: r) ∧ isBlank b = true := by
  simp only [modifier?, bind, Option.bind_eq_some_iff] at taken
  obtain ⟨⟨modifier, after⟩, bare, rest, blank, same⟩ := taken
  cases same
  obtain ⟨gap, b, rfl, blanks⟩ := blanks?_eq_some blank
  have counted {head : String} {digits after : List Char} (isHead : head ∈ headWords)
      (count : counted? head s = some (digits, after)) :
      ∃ p, s = p ++ after ∧ Lacks word p := by
    simp only [counted?, bind, Option.bind_eq_some_iff] at count
    obtain ⟨behind, first, start, blank, number⟩ := count
    obtain ⟨p, rfl, spelled⟩ := letters?_eq_some first
    obtain ⟨gap, b, rfl, blanks⟩ := blanks?_eq_some blank
    obtain ⟨rfl, isNumber⟩ : start = digits ++ after ∧ ∀ c ∈ digits, isDigit c = true := by
      unfold digits? run? at number
      split at number
      · cases number
      · cases number
        exact ⟨List.takeWhile_append_dropWhile.symm, fun c => List.mem_takeWhile_imp⟩
    refine ⟨p ++ ((gap ++ [b]) ++ digits), by simp, ?_⟩
    rw [lacks_append_separator isKeyword (by simp)
      fun c member => isWordChar_of_isBlank (blanks c member)]
    exact ⟨lacks_of_spells isHead apart isKeyword spelled, lacks_digits isKeyword isNumber⟩
  obtain ⟨p, rfl, lacks⟩ : ∃ p, s = p ++ (gap ++ b :: r) ∧ Lacks word p := by
    unfold bareModifier? at bare
    split at bare
    · rename_i found
      cases bare
      obtain ⟨p, rfl, spelled⟩ := letters?_eq_some found
      exact ⟨p, rfl, lacks_of_spells (by decide) apart isKeyword spelled⟩
    · split at bare
      · rename_i found
        cases bare
        exact counted (by decide) found
      · obtain ⟨⟨digits, rest⟩, found, same⟩ := Option.map_eq_some_iff.mp bare
        cases same
        exact counted (by decide) found
  have source : (p ++ (gap ++ b :: r)).take ((p ++ (gap ++ b :: r)).length -
      (gap ++ b :: r).length) = p := by
    rw [List.length_append, Nat.add_sub_cancel, List.take_left]
  rw [source]
  exact ⟨lacks, gap, b, rfl, blanks b (by simp)⟩

/-- All modifiers lack the keyword, and behind them the text goes on where a word can start. -/
theorem lacks_takeModifiers (isKeyword : IsKeyword word) (apart : word ∉ headWords) (fuel : Nat)
    (s : List Char) : (∀ m ∈ (takeModifiers fuel s).1, Lacks word m.source) ∧
      ∃ front, s = front ++ (takeModifiers fuel s).2 ∧ startsWord front.getLast? = true := by
  induction fuel generalizing s with
  | zero => exact ⟨by simp [takeModifiers], [], rfl, rfl⟩
  | succ fuel ih =>
    rw [takeModifiers]
    split
    · exact ⟨by simp, [], rfl, rfl⟩
    · rename_i m rest taken
      obtain ⟨lacks, gap, b, rfl, blank⟩ := lacks_modifier isKeyword apart taken
      obtain ⟨others, front, same, starts⟩ := ih rest
      refine ⟨List.forall_mem_cons.mpr ⟨lacks, others⟩, (m.source ++ (gap ++ [b])) ++ front, ?_, ?_⟩
      · rw [same]
        simp [← same]
      · refine startsWord_append ?_ starts
        rw [← List.append_assoc]
        exact startsWord_concat (isWordChar_of_isBlank blank)

theorem subset_of_takeFirst? {α : Type} {test : Modifier → Option α} {first : α}
    {modifiers others : List WrittenModifier}
    (taken : takeFirst? test modifiers = some (first, others)) : others ⊆ modifiers := by
  induction modifiers generalizing others with
  | nil => cases taken
  | cons m rest ih =>
    rw [takeFirst?] at taken
    split at taken
    · cases taken
      exact List.subset_cons_self m rest
    · obtain ⟨⟨_, kept⟩, later, same⟩ := Option.map_eq_some_iff.mp taken
      cases same
      exact List.cons_subset_cons m (ih later)

/-- Taking out row limit and offset brings no phrase. -/
theorem occurs_of_takeWindow (phrase : IsPhrase word read) (apart : word ∉ headWords)
    {top skip : Option Nat} (taken : takeWindow sql s = .ok (top, skip, text))
    (found : occurs read text = true) : occurs read s = true := by
  have kept {test : Modifier → Option (List Char)} {count : Option Nat}
      {modifiers others : List WrittenModifier}
      (counted : takeCount sql test modifiers = .ok (count, others)) : others ⊆ modifiers := by
    unfold takeCount at counted
    split at counted
    · cases counted
      exact List.Subset.refl _
    · rename_i first
      split at counted
      · cases counted
        exact subset_of_takeFirst? first
      · cases counted
  unfold takeWindow at taken
  split at taken
  · cases taken
    exact found
  · rename_i modifiers body head
    simp only [splitHead?, bind, Option.bind_eq_some_iff] at head
    obtain ⟨behind, select, start, blank, same⟩ := head
    obtain ⟨p, rfl, spelled⟩ := letters?_eq_some select
    obtain ⟨gap, b, rfl, blanks⟩ := blanks?_eq_some blank
    obtain ⟨lacks, front, split, starts⟩ :=
      lacks_takeModifiers phrase.isKeyword apart start.length start
    rw [Option.some.inj same] at lacks split
    simp only [bind, Except.bind] at taken
    split at taken
    · cases taken
    · rename_i limited
      split at taken
      · cases taken
      · rename_i rest
        cases taken
        rw [phrase.cleaned] at found
        have lacksSelect : Lacks word "SELECT".toList :=
          lacks_of_spells (by decide : "SELECT" ∈ headWords) apart phrase.isKeyword (by decide)
        -- what is put in front of the body again are words of the head
        have inBody : occurs read body = true := by
          refine phrase.occurs_unwords (List.forall_mem_cons.mpr ⟨lacksSelect, ?_⟩) found
          intro w member
          obtain ⟨m, listed, rfl⟩ := List.mem_map.mp member
          exact lacks m (kept limited (kept rest listed))
        rw [split]
        have begins : startsWord (p ++ (gap ++ [b]) ++ front).getLast? = true := by
          refine startsWord_append ?_ starts
          rw [← List.append_assoc]
          exact startsWord_concat (isWordChar_of_isBlank (blanks b (by simp)))
        simpa using occurs_behind begins inBody

/-- Taking out DISTINCT brings no phrase. -/
theorem occurs_of_takeDistinct (phrase : IsPhrase word read) (apart : word ∉ headWords)
    (found : occurs read (takeDistinct s).2 = true) : occurs read s = true := by
  unfold takeDistinct at found
  split at found
  · rename_i rest distinct
    simp only [bind, Option.bind_eq_some_iff] at distinct
    obtain ⟨behind, select, start, blank, distinct⟩ := distinct
    obtain ⟨p, rfl, -⟩ := letters?_eq_some select
    obtain ⟨gap, b, rfl, -⟩ := blanks?_eq_some blank
    obtain ⟨q, rfl, -, ends⟩ := wholeKeyword?_eq_some_iff.mp distinct
    have lacksSelect : Lacks word "SELECT".toList :=
      lacks_of_spells (by decide : "SELECT" ∈ headWords) apart phrase.isKeyword (by decide)
    have inRest := phrase.occurs_append lacksSelect ends found
    simpa using phrase.occurs_prepend ends inRest (p ++ (gap ++ b :: q))
  · exact found

/-- Without an EXISTS clause, a phrase in the text that clauses are read from is in the
statement. -/
theorem occurs_of_clausesOf (phrase : IsPhrase word read) (apart : word ∉ headWords)
    (source : clausesOf sql = .ok (none, text)) (found : occurs read text = true) :
    occurs read sql.toList = true := by
  cases window : takeWindow sql ((clean sql.toList).take maxLength) with
  | error e => simp [clausesOf, window, bind, Except.bind] at source
  | ok taken =>
    obtain ⟨top, skip, whole⟩ := taken
    have cut : takeExists (takeDistinct whole).2 = (none, text) := by
      simpa [clausesOf, window, bind, Except.bind, pure, Except.pure] using source
    have same : (takeDistinct whole).2 = text := by
      unfold takeExists at cut
      split at cut
      · exact (Prod.ext_iff.mp cut).2
      · cases cut
    rw [← same] at found
    have inFront := occurs_of_takeWindow phrase apart window
      (occurs_of_takeDistinct phrase apart found)
    have longer := phrase.readsOn.occurs inFront ((clean sql.toList).drop maxLength)
    rwa [List.take_append_drop, phrase.cleaned] at longer

end DocQuery.Select
