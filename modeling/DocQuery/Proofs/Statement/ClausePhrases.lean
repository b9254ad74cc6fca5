import DocQuery.Proofs.Statement.EqualsText
import DocQuery.Proofs.Statement.InnerStatement
import DocQuery.Proofs.Statement.SelectClauses

/-! # Words that are taken for clauses

Where in a text a clause is found. A grouping and an order are looked for behind any character that
is not one of words; the condition ends only behind a blank.

* `HoldsPhrase` — two keywords behind one another, where a word can begin.
* `clauseText?_eq_none_iff` — a later clause is found exactly if its keywords are.
* `exists_of_not_avoids` — a keyword in quotes stands between blanks.
* `cutAt?_quoted_iff` — which strings end the condition that they stand in.
-/

namespace DocQuery.Select

open DocQuery.Text Condition

variable {first second word : String} {v w s back next : List Char} {mark : Char}
  {start : List Char → Option (List Char)} {stop : List Char → Option Unit}

/-! ## Phrases -/

/-- Two keywords with blanks between and behind them, where a word can begin. -/
def HoldsPhrase (first second : String) (s : List Char) : Prop :=
  ∃ front rest, s = front ++ rest ∧ startsWord front.getLast? = true ∧
    ∃ p gap q b back, rest = p ++ (gap ++ (q ++ b :: back)) ∧ Spells first.toList p ∧
      gap ≠ [] ∧ (∀ c ∈ gap, isBlank c = true) ∧ Spells second.toList q ∧ isBlank b = true

/-- The keywords are read where they stand. -/
theorem isSome_phrase_iff (isKeyword : IsKeyword second) :
    ((keywords? first second s).bind blanks?).isSome = true ↔
      ∃ p gap q b back, s = p ++ (gap ++ (q ++ b :: back)) ∧ Spells first.toList p ∧
        gap ≠ [] ∧ (∀ c ∈ gap, isBlank c = true) ∧ Spells second.toList q ∧ isBlank b = true := by
  constructor
  · intro read
    obtain ⟨left, read⟩ := Option.isSome_iff_exists.mp read
    simp only [keywords?, bind, Option.bind_eq_some_iff] at read
    obtain ⟨behind, ⟨r, isFirst, next, blank, isSecond⟩, ends⟩ := read
    obtain ⟨p, rfl, spelled⟩ := letters?_eq_some isFirst
    obtain ⟨front, d, rfl, blanks⟩ := blanks?_eq_some blank
    obtain ⟨q, rfl, spelledToo⟩ := letters?_eq_some isSecond
    cases behind with
    | nil => cases ends
    | cons b behind =>
      simp only [blanks?, Option.ite_none_right_eq_some] at ends
      exact ⟨p, front ++ [d], q, b, behind, by simp, spelled, by simp, blanks, spelledToo, ends.1⟩
  · rintro ⟨p, gap, q, b, back, rfl, spelled, some_, gaps, spelledToo, blank⟩
    obtain ⟨d, gap, rfl⟩ := List.exists_cons_of_ne_nil some_
    obtain ⟨here, gaps⟩ := List.forall_mem_cons.mp gaps
    have isWord : IsWord q :=
      ⟨(isKeyword.members spelledToo).1, spelledToo.unbroken isKeyword.upper⟩
    have skipped : skipBlanks (gap ++ (q ++ b :: back)) = q ++ b :: back := by
      rw [skipBlanks, List.dropWhile_append_of_pos gaps]
      exact isWord.isTidy.skipBlanks_append _
    simp [keywords?, keyword?, letters?_append spelled, blanks?, here, skipped,
      letters?_append spelledToo, blank]

theorem not_holdsPhrase_iff (isKeyword : IsKeyword second) : ¬ HoldsPhrase first second s ↔
    searchWord? (fun r => (keywords? first second r).bind blanks?) s = none := by
  rw [searchWord?_eq_none_iff]
  simp only [← Option.not_isSome_iff_eq_none, isSome_phrase_iff isKeyword, HoldsPhrase, not_exists,
    not_and]

theorem HoldsPhrase.of_suffix (isKeyword : IsKeyword second) (isSuffix : back <:+ s)
    (blank : blanks? back = some next)
    (read : ((keywords? first second next).bind blanks?).isSome = true) :
    HoldsPhrase first second s := by
  obtain ⟨gap, b, rfl, blanks⟩ := blanks?_eq_some blank
  obtain ⟨front, rfl⟩ := isSuffix
  refine ⟨front ++ (gap ++ [b]), next, by simp, ?_, (isSome_phrase_iff isKeyword).mp read⟩
  have separates := isWordChar_of_isBlank (blanks b (by simp))
  simp [startsWord, separates]

/-! ## Later clauses -/

theorem first_of_blanks? (blank : blanks? s = some next) :
    next.head?.all (!isBlank ·) = true := by
  cases s with
  | nil => cases blank
  | cons c s =>
    simp only [blanks?, Option.ite_none_right_eq_some, Option.some.injEq] at blank
    rw [← blank.2, skipBlanks]
    have := List.head?_dropWhile_not isBlank s
    cases left : s.dropWhile isBlank <;> simp_all

/-- The text of a clause begins with no blank. -/
theorem nonBlank?_clauseText (found : clauseText? start stop s = some w) :
    nonBlank? w ≠ none := by
  rw [clauseText?_eq_map, Option.map_eq_some_iff] at found
  obtain ⟨⟨front, text⟩, searched, rfl⟩ := found
  obtain ⟨rest, -, read⟩ := searchWord?_eq_some searched
  simp only [clause?, bind, Option.bind_eq_some_iff, Option.some.injEq] at read
  obtain ⟨_, -, next, blank, ⟨text, answer⟩, cut, rfl⟩ := read
  obtain ⟨c, more, back, rfl, rfl, -⟩ := cutAt?_eq_some cut
  have solid : isBlank c = false := by simpa using first_of_blanks? blank
  have some_ : trim (c :: more) ≠ [] := by
    rw [ne_eq, trim_eq_nil_iff, not_not]
    exact ⟨c, List.mem_cons_self, solid⟩
  simp [nonBlank?]

theorem keywords?_suffix (read : keywords? first second s = some next) : next <:+ s := by
  simp only [keywords?, bind, Option.bind_eq_some_iff] at read
  obtain ⟨_, isFirst, _, blank, isSecond⟩ := read
  obtain ⟨p, rfl, -⟩ := letters?_eq_some isFirst
  obtain ⟨gap, b, rfl, -⟩ := blanks?_eq_some blank
  obtain ⟨q, rfl, -⟩ := letters?_eq_some isSecond
  exact ⟨p ++ (gap ++ b :: q), by simp⟩

/-- In a line that does not end with a blank a clause has a text wherever its keywords stand. -/
theorem clauseText?_eq_none_iff (isKeyword : IsKeyword second) (ends : EndsSolid s)
    (oneLine : '\n' ∉ s) (atEnd : stop [] = some ()) :
    clauseText? (keywords? first second) stop s = none ↔ ¬ HoldsPhrase first second s := by
  rw [not_holdsPhrase_iff isKeyword, clauseText?_eq_map, Option.map_eq_none_iff,
    searchWord?_eq_none_iff, searchWord?_eq_none_iff]
  refine forall₄_congr fun front rest same _ => ?_
  have parts : clause? (keywords? first second) stop rest =
      ((keywords? first second rest).bind blanks?).bind fun next =>
        (cutAt? stop next).map Prod.fst := by
    simp only [clause?, bind, Option.bind_assoc, Option.map_eq_bind]
    rfl
  rw [parts]
  cases read : (keywords? first second rest).bind blanks? with
  | none => simp
  | some next =>
    -- there is a text up to the end at least
    have inside : next ⊆ s ∧ next ≠ [] := by
      obtain ⟨behind, isRead, blank⟩ := Option.bind_eq_some_iff.mp read
      obtain ⟨front', rfl⟩ := keywords?_suffix isRead
      obtain ⟨gap, b, rfl, blanks⟩ := blanks?_eq_some blank
      refine ⟨fun c member => by simp [same, member], ?_⟩
      rintro rfl
      simp [same, EndsSolid, blanks b (by simp)] at ends
    obtain ⟨c, text, back, answer, -, cut⟩ :=
      cutAt?_isSome inside.2 (fun member => oneLine (inside.1 member)) atEnd
    rw [List.append_nil] at cut
    simp [cut]

/-! ## Quoted texts -/

/-- What holds no quotation mark stands between other characters of a text in quotes. -/
theorem exists_between (isMark : isQuote mark = true) (member : w ∈ words (mark :: (s ++ [mark])))
    (absent : mark ∉ w) : ∃ front b d back, mark :: (s ++ [mark]) = front ++ b :: (w ++ d :: back) ∧
      front ≠ [] ∧ isBlank b = true ∧ isBlank d = true := by
  have solid := not_isBlank_of_isQuote isMark
  obtain ⟨front, back, same, isWord, before, behind⟩ := mem_words_iff.mp member
  obtain ⟨e, rest, rfl⟩ := List.exists_cons_of_ne_nil isWord.nonempty
  rcases List.eq_nil_or_concat front with rfl | ⟨front, b, rfl⟩
  · obtain ⟨rfl, -⟩ := List.cons.inj same
    exact absurd List.mem_cons_self absent
  rw [List.concat_eq_append] at same before
  have blank : isBlank b = true := by simpa using before
  cases back with
  | nil =>
    -- the text ends with its quotation mark
    have last := congrArg List.getLast? same
    rw [List.append_nil, List.getLast?_append_of_ne_nil _ (List.cons_ne_nil e rest),
      ← List.cons_append, List.getLast?_concat] at last
    exact absurd (List.mem_of_getLast? last.symm) absent
  | cons d back =>
    refine ⟨front, b, d, back, by simp [same], ?_, blank, behind⟩
    rintro rfl
    obtain ⟨rfl, -⟩ := List.cons.inj same
    rw [solid] at blank
    cases blank

/-- A keyword in quotes stands between blanks. -/
theorem exists_of_not_avoids (isKeyword : IsKeyword word) (isMark : isQuote mark = true)
    (holds : ¬ Avoids word (mark :: (s ++ [mark]))) :
    ∃ front b w d back, mark :: (s ++ [mark]) = front ++ b :: (w ++ d :: back) ∧ front ≠ [] ∧
      Spells word.toList w ∧ isBlank b = true ∧ isBlank d = true := by
  simp only [Avoids, not_forall, not_not] at holds
  obtain ⟨w, member, spelled⟩ := holds
  have absent : mark ∉ w := by
    intro inside
    have isMember := (isKeyword.members spelled).2 mark inside
    simp only [isQuote, Bool.or_eq_true, beq_iff_eq] at isMark
    rcases isMark with rfl | rfl <;> cases isMember
  obtain ⟨front, b, d, back, same, some_, blank, blankBehind⟩ := exists_between isMark member absent
  exact ⟨front, b, w, d, back, same, some_, spelled, blank, blankBehind⟩

/-- A keyword in quotes is not the last word. -/
theorem words_of_not_avoids (isKeyword : IsKeyword word) (isMark : isQuote mark = true)
    (holds : ¬ Avoids word (mark :: (s ++ [mark]))) :
    ∃ front w back, words (mark :: (s ++ [mark])) = front ++ w :: back ∧ Spells word.toList w ∧
      back ≠ [] := by
  obtain ⟨front, b, w, d, back, same, -, spelled, blank, blankBehind⟩ :=
    exists_of_not_avoids isKeyword isMark holds
  have isWord : IsWord w := ⟨(isKeyword.members spelled).1, spelled.unbroken isKeyword.upper⟩
  refine ⟨words front, w, words back, ?_, spelled, ?_⟩
  · rw [same, words_append_blank blank, words_append isWord (s := d :: back) blankBehind,
      words_cons_blank blankBehind]
  · -- the quotation mark stands behind it
    have last := congrArg List.getLast? same
    rw [← List.cons_append, List.getLast?_concat, ← List.cons_append, ← List.append_assoc,
      List.getLast?_append_of_ne_nil _ (List.cons_ne_nil d back)] at last
    have solid := not_isBlank_of_isQuote isMark
    rcases List.mem_cons.mp (List.mem_of_getLast? last.symm) with rfl | behind
    · rw [solid] at blankBehind
      cases blankBehind
    · exact words_ne_nil_of_mem behind solid

/-- Which texts in quotes a condition is read to the end of. -/
theorem cutAt?_quoted_iff (isMark : isQuote mark = true) (oneLine : '\n' ∉ mark :: (s ++ [mark]))
    (noGrouping : ¬ HoldsPhrase "GROUP" "BY" (mark :: (s ++ [mark])))
    (noOrder : ¬ HoldsPhrase "ORDER" "BY" (mark :: (s ++ [mark]))) :
    cutAt? conditionEnds? (mark :: (s ++ [mark])) = some (mark :: (s ++ [mark]), ()) ↔
      Avoids "HAVING" (mark :: (s ++ [mark])) := by
  have isBy : IsKeyword "BY" := by decide
  have ends : EndsSolid (mark :: (s ++ [mark])) :=
    .cons (.append (by simp [EndsSolid, not_isBlank_of_isQuote isMark]))
  constructor
  · intro cut
    by_contra holds
    obtain ⟨front, b, w, d, back, same, some_, spelled, blank, blankBehind⟩ :=
      exists_of_not_avoids (by decide) isMark holds
    -- the condition ends in front of the word at the latest
    have isWord : IsWord w := ⟨((show IsKeyword "HAVING" by decide).members spelled).1,
      spelled.unbroken (by decide)⟩
    have next : blanks? (b :: (w ++ d :: back)) = some (w ++ d :: back) := by
      rw [blanks?, if_pos blank, isWord.isTidy.skipBlanks_append]
    have isHaving : keyword? "HAVING" (w ++ d :: back) = some (d :: back) := letters?_append spelled
    have behind : blanks? (d :: back) = some (skipBlanks back) := if_pos blankBehind
    have having : atHaving? (b :: (w ++ d :: back)) = some () := by
      simp only [atHaving?, next, isHaving, bind, Option.bind_some, beforeBlank?, behind,
        Option.map_some]
    obtain ⟨found, stops⟩ : ∃ found, conditionEnds? (b :: (w ++ d :: back)) = some found := by
      rw [conditionEnds?, having]
      cases atGroupBy? (b :: (w ++ d :: back)) <;> simp
    rw [same] at oneLine cut
    obtain ⟨c, text, rest, answer, parts, early⟩ :=
      cutAt?_isSome some_ (fun member => oneLine (by simp [member])) stops
    rw [early, Option.some.injEq, Prod.mk.injEq] at cut
    have long := congrArg List.length cut.1
    have short := congrArg List.length parts
    simp only [List.length_append, List.length_cons] at long short
    omega
  · intro avoids
    have cut : cutAt? conditionEnds? (mark :: (s ++ [mark]) ++ []) = _ :=
      cutAt?_first (List.cons_ne_nil _ _) oneLine rfl fun front back _ more same => ?_
    · rwa [List.append_nil] at cut
    have isSuffix : back <:+ mark :: (s ++ [mark]) := ⟨front, same.symm⟩
    have noPhrase {first : String} (absent : ¬ HoldsPhrase first "BY" (mark :: (s ++ [mark]))) :
        ((blanks? back).bind fun next => (keywords? first "BY" next).bind beforeBlank?) = none := by
      rw [Option.bind_eq_none_iff]
      intro next blank
      by_contra read
      refine absent (.of_suffix isBy isSuffix blank ?_)
      cases found : keywords? first "BY" next <;> simp_all [beforeBlank?, Option.isSome_iff_ne_none]
    have noHaving : atHaving? back = none := by
      simp only [atHaving?, bind, Option.bind_eq_none_iff]
      intro next blank behind read
      have := avoids.inside ends isSuffix more (t := []) (by rwa [List.append_nil]) (by decide) rfl
      rw [read, Option.bind_some] at this
      rw [beforeBlank?, this, Option.map_none]
    have noGroup : atGroupBy? back = none := noPhrase noGrouping
    have noOrder : atOrderBy? back = none := noPhrase noOrder
    have notEnd : end? back = none := by
      cases back with
      | nil => exact absurd rfl more
      | cons c back => rfl
    rw [List.append_nil, conditionEnds?, noGroup, noHaving, noOrder, notEnd]
    rfl

end DocQuery.Select
