import DocQuery.Proofs.Statement.SelectClauses

/-! # Cutting out an EXISTS clause

An EXISTS clause is cut out of a statement together with a connector next to it. Both are words, so
what the cut leaves can be told from the words on both sides.

* `exists_append_of_words` — a text up to its last word.
* `bind_blanks?_backwards` — a keyword that is read backwards is the last word.
* `words_closeCut` — the words that the cut leaves.
* `dropLastWhere_unwords`, `dropEmptyWhere_append` — a WHERE at the end is left out, and one in front
  of another clause.
* `existsClause?_fails`, `searchExists_append` — where no clause is read.
-/

namespace DocQuery.Text

variable {s w gap front : List Char} {ws : List (List Char)} {b : Char}

theorem words_gap_append (gaps : ∀ c ∈ gap, isBlank c = true) (s : List Char) :
    words (gap ++ s) = words s := by
  induction gap with
  | nil => rfl
  | cons c gap ih =>
    obtain ⟨here, others⟩ := List.forall_mem_cons.mp gaps
    rw [List.cons_append, words_cons_blank here, ih others]

theorem words_append_gap (gaps : ∀ c ∈ gap, isBlank c = true) (s : List Char) :
    words (s ++ gap) = words s := by
  cases gap with
  | nil => rw [List.append_nil]
  | cons c gap =>
    obtain ⟨here, others⟩ := List.forall_mem_cons.mp gaps
    have nothing := words_gap_append others []
    rw [List.append_nil] at nothing
    rw [words_append_blank here, nothing, words, List.append_nil]

/-- What begins with a blank ends the word in front of it. -/
theorem words_append_of_first {t : List Char} (first : t.head?.all isBlank = true)
    (s : List Char) : words (s ++ t) = words s ++ words t := by
  cases t with
  | nil => rw [List.append_nil, words, List.append_nil]
  | cons c t =>
    have blank : isBlank c = true := first
    rw [words_append_blank blank, words_cons_blank blank]

theorem words_skipBlanks (s : List Char) : words (skipBlanks s) = words s := by
  have gaps : ∀ c ∈ s.takeWhile isBlank, isBlank c = true := fun c => List.mem_takeWhile_imp
  have whole := words_gap_append gaps (s.dropWhile isBlank)
  rw [List.takeWhile_append_dropWhile] at whole
  exact whole.symm

theorem words_reverse_skipBlanks (s : List Char) :
    words (skipBlanks s.reverse).reverse = words s := by
  have gaps : ∀ c ∈ (s.reverse.takeWhile isBlank).reverse, isBlank c = true :=
    fun c member => List.mem_takeWhile_imp (List.mem_reverse.mp member)
  have whole := words_append_gap gaps (s.reverse.dropWhile isBlank).reverse
  rw [← List.reverse_append, List.takeWhile_append_dropWhile, List.reverse_reverse] at whole
  exact whole.symm

/-- A text up to its last word. -/
theorem exists_append_of_words (same : words s = ws ++ [w]) :
    ∃ front gap, s = front ++ (w ++ gap) ∧ words front = ws ∧ (∀ c ∈ gap, isBlank c = true) ∧
      front.getLast?.all isBlank = true := by
  induction s using words_induction generalizing ws with
  | nil => simp [words] at same
  | blank c s blank ih =>
    rw [words_cons_blank blank] at same
    obtain ⟨front, gap, rfl, inFront, gaps, ends⟩ := ih same
    refine ⟨c :: front, gap, rfl, by rw [words_cons_blank blank, inFront], gaps, ?_⟩
    rw [List.getLast?_cons]
    cases last : front.getLast? with
    | none => exact blank
    | some d => simpa [last] using ends
  | word v s isWord first ih =>
    rw [words_append isWord first] at same
    cases ws with
    | nil =>
      -- the word is followed by blanks only
      obtain ⟨rfl, nothing⟩ := List.cons.inj same
      refine ⟨[], s, rfl, rfl, fun c member => ?_, rfl⟩
      by_contra solid
      exact words_ne_nil_of_mem member (by simpa using solid) nothing
    | cons u ws =>
      obtain ⟨rfl, later⟩ := List.cons.inj same
      obtain ⟨front, gap, rfl, inFront, gaps, ends⟩ := ih later
      have isLast : IsWord w := by
        refine isWord_of_mem_words (s := front ++ (w ++ gap)) ?_
        rw [later]
        exact List.mem_append_right ws List.mem_cons_self
      cases front with
      | nil =>
        obtain ⟨c, rest, rfl⟩ := List.exists_cons_of_ne_nil isLast.nonempty
        have blank : isBlank c = true := first
        rw [isLast.unbroken c List.mem_cons_self] at blank
        cases blank
      | cons c front =>
        refine ⟨v ++ c :: front, gap, by simp, ?_, gaps, ?_⟩
        · have next : (c :: front).head?.all isBlank = true := first
          rw [words_append isWord next, inFront]
        · rwa [List.getLast?_append_of_ne_nil _ (List.cons_ne_nil c front)]

/-- A keyword that is read backwards in front of a blank is the whole last word. -/
theorem bind_blanks?_backwards {letters : List Char} (front : List Char)
    (upper : ∀ k ∈ letters, k.isUpper = true) (isWord : IsWord w)
    (gaps : ∀ c ∈ gap, isBlank c = true) (blank : isBlank b = true) :
    (letters? letters.reverse ((front ++ b :: (w ++ gap)).reverse.dropWhile isBlank)).bind blanks? =
      if Spells letters w then some (skipBlanks front.reverse) else none := by
  have backwards : (front ++ b :: (w ++ gap)).reverse.dropWhile isBlank =
      w.reverse ++ b :: front.reverse := by
    have parts : (front ++ b :: (w ++ gap)).reverse =
        gap.reverse ++ (w.reverse ++ b :: front.reverse) := by simp
    rw [parts, List.dropWhile_append_of_pos (by simpa using gaps)]
    refine skipBlanks_eq_self ?_
    rw [List.head?_append_of_ne_nil _ (by simpa using isWord.nonempty), List.head?_reverse]
    exact isWord.ends.all
  have upperBackwards : ∀ k ∈ letters.reverse, k.isUpper = true :=
    fun k member => upper k (List.mem_reverse.mp member)
  have spells : Spells letters.reverse w.reverse ↔ Spells letters w := List.forall₂_reverse_iff
  rw [backwards, bind_blanks?_letters? upperBackwards (by simpa using isWord.unbroken) blank]
  simp only [spells]

end DocQuery.Text

namespace DocQuery.Select

open DocQuery.Text

variable {before after s w : List Char} {ws : List (List Char)}

/-! ## Connectors -/

/-- A word that joins conditions. -/
def IsConnector (w : List Char) : Prop := Spells "AND".toList w ∨ Spells "OR".toList w

instance (w : List Char) : Decidable (IsConnector w) :=
  inferInstanceAs (Decidable (Spells "AND".toList w ∨ Spells "OR".toList w))

/-- A connector is taken off if it is the last word of several. -/
theorem dropLastConnector?_eq (same : words s = ws ++ [w]) (more : ws ≠ []) :
    (dropLastConnector? s).map words = if IsConnector w then some ws else none := by
  have isWord : IsWord w := isWord_of_mem_words (s := s) (by simp [same])
  obtain ⟨front, gap, rfl, rfl, gaps, ends⟩ := exists_append_of_words same
  rcases List.eq_nil_or_concat front with rfl | ⟨front, b, rfl⟩
  · exact absurd rfl more
  have blank : isBlank b = true := by simpa using ends
  have parts : front.concat b ++ (w ++ gap) = front ++ b :: (w ++ gap) := by simp
  have inFront : words (front.concat b) = words front := by
    rw [List.concat_eq_append]
    exact words_append_gap (by simpa using blank) front
  have upperAnd : ∀ k ∈ "AND".toList, k.isUpper = true := by decide
  have upperOr : ∀ k ∈ "OR".toList, k.isUpper = true := by decide
  have isAnd := bind_blanks?_backwards front upperAnd isWord gaps blank
  have isOr := bind_blanks?_backwards front upperOr isWord gaps blank
  have left : words (skipBlanks front.reverse).reverse = words front :=
    words_reverse_skipBlanks front
  rw [parts, inFront, dropLastConnector?]
  generalize (front ++ b :: (w ++ gap)).reverse.dropWhile isBlank = backwards at *
  cases first : letters? "AND".toList.reverse backwards with
  | some rest =>
    rw [first, Option.bind_some] at isAnd
    have read : (letters? "DNA".toList backwards <|> letters? "RO".toList backwards) = some rest := by
      rw [show letters? "DNA".toList backwards = some rest from first]
      rfl
    -- a word that is read as the one connector is not the other one
    have isConnector : IsConnector w ↔ Spells "AND".toList w := by
      refine ⟨fun connects => connects.resolve_right fun spelled => ?_, .inl⟩
      rw [if_pos spelled] at isOr
      obtain ⟨behind, other, -⟩ := Option.bind_eq_some_iff.mp isOr
      obtain ⟨p, same, readAnd⟩ := letters?_eq_some first
      obtain ⟨q, rfl, readOr⟩ := letters?_eq_some other
      obtain ⟨c, p, here, -, rfl⟩ := List.forall₂_cons_left_iff.mp readAnd
      obtain ⟨d, q, there, -, rfl⟩ := List.forall₂_cons_left_iff.mp readOr
      obtain ⟨rfl, -⟩ := List.cons.inj same
      exact absurd (spells_unique rfl rfl here there) (by decide)
    simp only [bind, read, Option.bind_some, isAnd, isConnector]
    split <;> simp [left]
  | none =>
    rw [first, Option.bind_none] at isAnd
    have read : (letters? "DNA".toList backwards <|> letters? "RO".toList backwards) =
        letters? "OR".toList.reverse backwards := by
      rw [show letters? "DNA".toList backwards = none from first]
      rfl
    have isConnector : IsConnector w ↔ Spells "OR".toList w := by
      refine ⟨fun connects => connects.resolve_left fun spelled => ?_, .inr⟩
      rw [if_pos spelled] at isAnd
      cases isAnd
    simp only [bind, read, ← Option.bind_assoc, isOr, isConnector]
    split <;> simp [left]

/-- The connector next to a cut goes with it. -/
theorem words_closeCut (same : words before = ws ++ [w]) (more : ws ≠ []) :
    words (closeCut before after) =
      if IsConnector w then ws ++ words after else ws ++ w :: words (dropFirstConnector after) := by
  have last := dropLastConnector?_eq same more
  unfold closeCut
  split
  · rename_i front found
    rw [found, Option.map_some] at last
    split
    · rename_i connects
      rw [if_pos connects, Option.some.injEq] at last
      rw [words_append_blank rfl, last]
    · rename_i other
      rw [if_neg other] at last
      cases last
  · rename_i none
    rw [none, Option.map_none] at last
    split
    · rename_i connects
      rw [if_pos connects] at last
      cases last
    · rw [words_append_blank rfl, same]
      simp

theorem mem_words_dropFirstConnector {v : List Char} (member : v ∈ words (dropFirstConnector s)) :
    v ∈ words s := by
  unfold dropFirstConnector at member
  cases cut : (connector? (skipBlanks s)).bind blanks? with
  | none => simpa [cut] using member
  | some rest =>
    rw [cut, Option.getD_some] at member
    obtain ⟨behind, read, blank⟩ := Option.bind_eq_some_iff.mp cut
    obtain ⟨p, parts⟩ : ∃ p, skipBlanks s = p ++ behind := by
      unfold connector? at read
      cases first : keyword? "AND" (skipBlanks s) with
      | some rest =>
        rw [first] at read
        cases read
        obtain ⟨p, same, -⟩ := letters?_eq_some first
        exact ⟨p, same⟩
      | none =>
        rw [first] at read
        have readOr : letters? "OR".toList (skipBlanks s) = some behind := read
        obtain ⟨p, same, -⟩ := letters?_eq_some readOr
        exact ⟨p, same⟩
    obtain ⟨gap, b, rfl, blanks⟩ := blanks?_eq_some blank
    rw [← words_skipBlanks, parts, ← List.append_assoc,
      words_append_blank (blanks b (List.mem_append_right gap List.mem_cons_self))]
    exact List.mem_append_right _ member

/-- What a cut in a condition leaves does not depend on what is in front of the condition. -/
theorem words_closeCut_condition (front back : List Char) :
    ∃ left, (∀ v ∈ left, v ∈ words front ∨ v ∈ words back) ∧
      ∀ before ws w, words before = ws ++ w :: words front → ws ≠ [] → ¬ IsConnector w →
        words (closeCut before back) = ws ++ w :: left := by
  rcases List.eq_nil_or_concat (words front) with none | ⟨others, last, some_⟩
  · refine ⟨words (dropFirstConnector back),
      fun v member => .inr (mem_words_dropFirstConnector member),
      fun before ws w same more other => ?_⟩
    rw [none] at same
    rw [words_closeCut same more, if_neg other]
  · rw [some_, List.concat_eq_append]
    have same {before : List Char} {ws : List (List Char)} {w : List Char}
        (parts : words before = ws ++ w :: (others ++ [last])) :
        words before = (ws ++ w :: others) ++ [last] ∧ ws ++ w :: others ≠ [] := by simp [parts]
    by_cases connects : IsConnector last
    · refine ⟨others ++ words back, fun v member => ?_, fun before ws w parts more _ => ?_⟩
      · exact (List.mem_append.mp member).imp_left (List.mem_append_left _)
      · rw [words_closeCut (same parts).1 (same parts).2, if_pos connects]
        simp
    · refine ⟨others ++ last :: words (dropFirstConnector back), fun v member => ?_,
        fun before ws w parts more _ => ?_⟩
      · rw [List.mem_append, List.mem_cons] at member
        rcases member with inOthers | rfl | behind
        · exact .inl (List.mem_append_left _ inOthers)
        · exact .inl (List.mem_append_right _ List.mem_cons_self)
        · exact .inr (mem_words_dropFirstConnector behind)
      · rw [words_closeCut (same parts).1 (same parts).2, if_neg connects]
        simp

/-! ## A WHERE without a condition -/

/-- A WHERE that is the last word of several is taken off. -/
theorem dropLastWhere_unwords (every : ∀ v ∈ ws ++ [w], IsWord v) (more : ws ≠ []) :
    dropLastWhere (unwords (ws ++ [w])) =
      if Spells "WHERE".toList w then unwords ws else unwords (ws ++ [w]) := by
  obtain ⟨others, last⟩ := List.forall_mem_append.mp every
  have isWord : IsWord w := last w List.mem_cons_self
  have parts : unwords (ws ++ [w]) = unwords ws ++ ' ' :: (w ++ []) := by
    rw [unwords_append more (List.cons_ne_nil w []), unwords, List.append_nil]
  have upper : ∀ k ∈ "WHERE".toList, k.isUpper = true := by decide
  have noGap : ∀ c ∈ ([] : List Char), isBlank c = true := List.forall_mem_nil _
  have blank : isBlank ' ' = true := rfl
  have backwards := bind_blanks?_backwards (unwords ws) upper isWord noGap blank
  have front : skipBlanks (unwords ws).reverse = (unwords ws).reverse := by
    refine skipBlanks_eq_self ?_
    rw [List.head?_reverse]
    exact last_unwords others
  have read :
      (letters? "EREHW".toList ((unwords (ws ++ [w])).reverse.dropWhile isBlank)).bind blanks? =
      if Spells "WHERE".toList w then some (unwords ws).reverse else none := by
    rw [parts, ← front]
    exact backwards
  by_cases isWhere : Spells "WHERE".toList w
  · rw [if_pos isWhere] at read ⊢
    simp only [dropLastWhere, read, List.reverse_reverse]
  · rw [if_neg isWhere] at read ⊢
    simp only [dropLastWhere, read]

theorem dropLastWhere_where (front : IsTidy s) :
    dropLastWhere (s ++ ' ' :: "WHERE".toList) = s := by
  have every : ∀ v ∈ words s ++ ["WHERE".toList], IsWord v := by
    rw [List.forall_mem_append, List.forall_mem_singleton]
    exact ⟨fun v => isWord_of_mem_words, by decide, by decide⟩
  have parts : s ++ ' ' :: "WHERE".toList = unwords (words s ++ ["WHERE".toList]) := by
    rw [unwords_append front.words_ne_nil (List.cons_ne_nil _ _), ← clean, front.cleaned, unwords]
  rw [parts, dropLastWhere_unwords every front.words_ne_nil, if_pos (by decide), ← clean,
    front.cleaned]

/-- Behind what lacks WHERE nothing is taken off. -/
theorem dropLastWhere_append (front : IsTidy s) (back : IsTidy t) (lacks : Lacks "WHERE" t) :
    dropLastWhere (s ++ ' ' :: t) = s ++ ' ' :: t := by
  rcases List.eq_nil_or_concat (words t) with none | ⟨ws, w, some_⟩
  · exact absurd none back.words_ne_nil
  have other : ¬ Spells "WHERE".toList w := lacks.avoids (by decide) w (by simp [some_])
  have whole : words (s ++ ' ' :: t) = (words s ++ ws) ++ [w] := by
    rw [words_append_blank rfl, some_, List.concat_eq_append, List.append_assoc]
  have every : ∀ v ∈ (words s ++ ws) ++ [w], IsWord v :=
    whole ▸ fun v => isWord_of_mem_words
  have more : words s ++ ws ≠ [] := by simp [front.words_ne_nil]
  rw [← (front.append_space back).cleaned, clean, whole, dropLastWhere_unwords every more,
    if_neg other]

theorem dropEmptyWhere_lacks (lacks : Lacks "WHERE" s) : dropEmptyWhere s = s := by
  have nowhere : searchWord? emptyWhere? s = none :=
    searchWord?_eq_none (needs_keyword "WHERE" _).needsWord lacks
  simp only [dropEmptyWhere, nowhere]

/-- The only WHERE of a statement goes if another clause follows it. -/
theorem dropEmptyWhere_append (lacks : Lacks "WHERE" s) (first : t.head?.all (!isBlank ·) = true)
    (lacksBehind : Lacks "WHERE" t) :
    dropEmptyWhere (s ++ ' ' :: ("WHERE".toList ++ ' ' :: t)) =
      if (clauseAfterWhere? t).isSome then s ++ ' ' :: t
      else s ++ ' ' :: ("WHERE".toList ++ ' ' :: t) := by
  have needs : NeedsWord "WHERE" emptyWhere? := (needs_keyword "WHERE" _).needsWord
  have next : blanks? (' ' :: t) = some t := by
    rw [blanks?, if_pos (show isBlank ' ' = true from rfl), skipBlanks_eq_self first]
  have isWhere : keyword? "WHERE" ("WHERE".toList ++ ' ' :: t) = some (' ' :: t) := rfl
  have read : emptyWhere? ("WHERE".toList ++ ' ' :: t) = (clauseAfterWhere? t).map fun _ => t := by
    simp only [emptyWhere?, bind, isWhere, Option.bind_some, next]
    cases clauseAfterWhere? t <;> rfl
  have passed := searchWord?_append needs lacks (by decide) ("WHERE".toList ++ ' ' :: t)
  cases follows : clauseAfterWhere? t with
  | some rest =>
    rw [follows, Option.map_some] at read
    have here : searchWord? emptyWhere? ("WHERE".toList ++ ' ' :: t) = some ([], t) :=
      search?_here rfl read
    rw [here, Option.map_some] at passed
    simp only [dropEmptyWhere, passed, Option.isSome_some, if_true, List.append_assoc,
      List.cons_append, List.nil_append]
  | none =>
    rw [follows, Option.map_none] at read
    have nowhere : searchWord? emptyWhere? ("WHERE".toList ++ ' ' :: t) = none := by
      rw [searchWord?, search?_name (by decide) (by decide) none read, search?_start _ rfl,
        searchWord?_eq_none needs lacksBehind, Option.map_none]
    rw [nowhere, Option.map_none] at passed
    simp only [dropEmptyWhere, passed, Option.isSome_none, Bool.false_eq_true, if_false]

/-- No clause is read where none of their first words stands. -/
theorem clauseAfterWhere?_eq_none
    (absent : ∀ word ∈ ["GROUP", "HAVING", "ORDER"], wholeKeyword? word s = none) :
    clauseAfterWhere? s = none := by
  have noGroup := (needs_keyword "GROUP" (wholeKeyword? "BY")).needsWord s (absent _ (by decide))
  have noOrder := (needs_keyword "ORDER" (wholeKeyword? "BY")).needsWord s (absent _ (by decide))
  have noHaving : wholeKeyword? "HAVING" s = none := absent _ (by decide)
  simp only [clauseAfterWhere?, bind, noGroup, noOrder, noHaving]
  rfl

/-! ## Where a clause is read -/

theorem endsWord_of_bracket {inner : List Char} (read : char? '(' (skipBlanks s) = some inner) :
    endsWord s = true := by
  cases s with
  | nil => rfl
  | cons c s =>
    by_contra notEnds
    have member : isWordChar c = true := by simpa [endsWord] using notEnds
    have solid : skipBlanks (c :: s) = c :: s :=
      skipBlanks_eq_self (by simp [isBlank_of_isWordChar member])
    rw [solid, char?, Option.ite_none_right_eq_some] at read
    rw [read.1] at member
    cases member

/-- A clause begins with the whole word EXISTS, or with NOT and this word. -/
theorem existsClause?_fails (notHere : wholeKeyword? "EXISTS" s = none)
    (notBehind : ((keyword? "NOT" s).bind fun rest =>
      (blanks? rest).bind (wholeKeyword? "EXISTS")) = none) : existsClause? s = none := by
  refine Option.bind_eq_none_iff.mpr fun ⟨negated, behind⟩ read => ?_
  refine Option.bind_eq_none_iff.mpr fun inner bracket => ?_
  have ends := endsWord_of_bracket bracket
  unfold existsWord? at read
  split at read
  · rename_i rest found
    cases read
    simp [wholeKeyword?, found, ends] at notHere
  · obtain ⟨after, read, pair⟩ := Option.map_eq_some_iff.mp read
    cases pair
    obtain ⟨rest, first, read⟩ := Option.bind_eq_some_iff.mp read
    obtain ⟨next, blank, found⟩ := Option.bind_eq_some_iff.mp read
    simp [first, blank, wholeKeyword?, found, ends] at notBehind

/-- Where the word EXISTS does not stand, no clause is found. -/
theorem existsClause?_eq_none (lacks : Lacks "EXISTS" s) : searchWord? existsClause? s = none := by
  rw [lacks_iff] at lacks
  rw [searchWord?_eq_none_iff]
  intro front rest same starts
  refine existsClause?_fails (lacks front rest same starts) ?_
  rw [Option.bind_eq_none_iff]
  intro behind first
  rw [Option.bind_eq_none_iff]
  intro next blank
  obtain ⟨p, rfl, -⟩ := letters?_eq_some first
  obtain ⟨gap, b, rfl, blanks⟩ := blanks?_eq_some blank
  refine lacks (front ++ (p ++ (gap ++ [b]))) next (by simp [same]) ?_
  simp [startsWord, isWordChar_of_isBlank (blanks b (by simp))]

theorem takeExists_lacks (lacks : Lacks "EXISTS" s) : takeExists s = (none, s) := by
  simp only [takeExists, existsClause?_eq_none lacks]

/-- NOT is not the end of a text that ends with another letter than T. -/
theorem not_spells_not {p : List Char} {c : Char} (last : s.getLast? = some c)
    (other : spells 'T' c = false) (isSuffix : p <:+ s) : ¬ Spells "NOT".toList p := by
  have letters : "NOT".toList = ['N', 'O', 'T'] := rfl
  rw [letters, Spells]
  simp only [List.forall₂_cons_left_iff, List.forall₂_nil_left_iff]
  rintro ⟨a, _, -, ⟨b, _, -, ⟨d, _, isT, rfl, rfl⟩, rfl⟩, rfl⟩
  obtain ⟨front, rfl⟩ := isSuffix
  rw [List.getLast?_append_of_ne_nil _ (List.cons_ne_nil _ _),
    show [a, b, d].getLast? = some d from rfl, Option.some.injEq] at last
  rw [last, other] at isT
  cases isT

/-- No clause is found in front of a space, unless NOT stands there. -/
theorem searchExists_append (lacks : Lacks "EXISTS" s) (ends : EndsSolid s)
    (notNot : ∀ p, p <:+ s → ¬ Spells "NOT".toList p) (t : List Char) :
    searchWord? existsClause? (s ++ ' ' :: t) =
      (searchWord? existsClause? t).map fun (front, found) => (s ++ ' ' :: front, found) := by
  have isKeyword : IsKeyword "EXISTS" := by decide
  refine searchWord?_passes (fun front rest same more starts => ?_) rfl
  refine existsClause?_fails ?_ ?_
  · rw [wholeKeyword?_append isKeyword rfl, lacks_iff.mp lacks front rest same starts,
      Option.map_none]
  rw [Option.bind_eq_none_iff]
  intro behind first
  rw [Option.bind_eq_none_iff]
  intro next blank
  obtain ⟨p, cut, spelled⟩ := letters?_eq_some first
  -- the word ends in front of the space, and not at it
  rcases List.append_eq_append_iff.mp cut with ⟨back, rfl, beyond⟩ | ⟨back, rfl, rfl⟩
  · cases back with
    | nil =>
      rw [List.append_nil] at spelled
      exact absurd spelled (notNot rest ⟨front, same.symm⟩)
    | cons d back =>
      obtain ⟨rfl, -⟩ := List.cons.inj beyond
      cases spelled.unbroken (by decide) ' ' (by simp)
  · cases back with
    | nil =>
      rw [List.append_nil] at same
      exact absurd spelled (notNot p ⟨front, same.symm⟩)
    | cons d back =>
      have isSuffix : d :: back <:+ s := ⟨front ++ p, by simp [same]⟩
      exact wholeKeyword?_inside ends isSuffix (List.cons_ne_nil d back) blank isKeyword lacks rfl

end DocQuery.Select
