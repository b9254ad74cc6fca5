import DocQuery.Proofs.Text.Words

/-! # Searching through words

A keyword is looked for at the starts of words. A search passes over a word that the reader does
not accept, and over the blank behind it.

* `bind_blanks?_letters?`, `blanks?_keyword?` — a keyword in front of a blank is a whole word.
* `IsColumn` — what stands in a field list without blanks: a name or the wildcard.
* `search?_column` — a search for a keyword passes over every other column.
* `keywords?_word` — two keywords stand behind one another.
* `cutAt?_word` — a piece that ends in front of a blank ends with a word.
-/

namespace DocQuery.Text

variable {β : Type} {c : Char} {s w : List Char} {before : Option Char}

/-! ## Keywords -/

/-- Among ASCII characters only the letters of a keyword spell it. -/
theorem map_toUpper_of_spells {letters : List Char} (ascii : ∀ c ∈ w, c.toNat < 128)
    (spelled : Spells letters w) : w.map Char.toUpper = letters := by
  induction spelled with
  | nil => rfl
  | cons first _ ih =>
    obtain ⟨here, others⟩ := List.forall_mem_cons.mp ascii
    rw [List.map_cons, ih others]
    simp only [spells, Bool.or_eq_true, Bool.and_eq_true, beq_iff_eq] at first
    -- the long s and the Kelvin sign are not ASCII
    rcases first with (same | ⟨-, rfl⟩) | ⟨-, rfl⟩
    · rw [same]
    · simp at here
    · simp at here

/-- Letters that are read in front of a blank are a whole word. -/
theorem bind_blanks?_letters? {letters : List Char} {b : Char}
    (upper : ∀ k ∈ letters, k.isUpper = true) (unbroken : ∀ c ∈ w, isBlank c = false)
    (blank : isBlank b = true) (s : List Char) :
    (letters? letters (w ++ b :: s)).bind blanks? =
      if Spells letters w then some (skipBlanks s) else none := by
  split
  · rename_i spelled
    rw [letters?_append spelled, Option.bind_some, blanks?, if_pos blank]
  rename_i other
  rw [Option.bind_eq_none_iff]
  intro rest read
  obtain ⟨p, cut, spelled⟩ := letters?_eq_some read
  have solid := spelled.unbroken upper
  cases rest with
  | nil => rfl
  | cons d rest =>
    by_contra next
    have gap : isBlank d = true := by
      by_contra solid
      simp [blanks?, solid] at next
    -- both the word and the letters end at the first blank
    have split := congrArg (List.takeWhile (!isBlank ·)) cut
    rw [List.takeWhile_append_of_pos (by simpa using unbroken),
      List.takeWhile_append_of_pos (by simpa using solid)] at split
    simp only [List.takeWhile_cons, blank, gap, Bool.not_true, Bool.false_eq_true, if_false,
      List.append_nil] at split
    exact other (split ▸ spelled)

/-- A keyword in front of a blank is a whole word. -/
theorem blanks?_keyword? {word : String} (upper : word.toList.all Char.isUpper = true)
    (unbroken : ∀ c ∈ w, isBlank c = false) (other : ¬ Spells word.toList w) (s : List Char) :
    (keyword? word (w ++ ' ' :: s)).bind blanks? = none := by
  rw [keyword?, bind_blanks?_letters? (List.all_eq_true.mp upper) unbroken rfl, if_neg other]

/-- Two keywords are not read where the second one does not stand behind the first word. -/
theorem keywords?_word {first second : String} (upper : first.toList.all Char.isUpper = true)
    (unbroken : ∀ c ∈ w, isBlank c = false) (solid : s.head?.all (!isBlank ·) = true)
    (other : keyword? second s = none) : keywords? first second (w ++ ' ' :: s) = none := by
  have next : blanks? (' ' :: s) = some s := by
    rw [blanks?, if_pos (show isBlank ' ' = true from rfl), skipBlanks_eq_self solid]
  by_cases spelled : Spells first.toList w
  · simp only [keywords?, keyword?, letters?_append spelled, bind, Option.bind_some, next]
    exact other
  · have fails := blanks?_keyword? upper unbroken spelled s
    simp only [keywords?, bind, ← Option.bind_assoc, fails, Option.bind_none]

/-- At the end of a text no keyword is followed by a blank. -/
theorem blanks?_keyword?_end (word : String) (unbroken : ∀ c ∈ w, isBlank c = false) :
    (keyword? word w).bind blanks? = none := by
  rw [Option.bind_eq_none_iff]
  intro rest read
  obtain ⟨p, rfl, -⟩ := letters?_eq_some read
  cases rest with
  | nil => rfl
  | cons c rest => simp [blanks?, unbroken c (by simp)]

/-! ## Searching -/

theorem search?_cons {read : Option Char → List Char → Option β}
    (notHere : read before (c :: s) = none) :
    search? read before (c :: s) =
      (search? read (some c) s).map fun (front, found) => (c :: front, found) := by
  rw [search?, notHere]

/-- Nothing is found where the reader fails on every rest of the text. -/
theorem search?_eq_none {read : Option Char → List Char → Option β}
    (fails : ∀ rest before, rest <:+ s → read before rest = none) (before : Option Char) :
    search? read before s = none := by
  induction s generalizing before with
  | nil => rw [search?, fails [] before (List.suffix_refl []), Option.map_none]
  | cons c s ih =>
    have later : ∀ rest before, rest <:+ s → read before rest = none :=
      fun rest before isSuffix => fails rest before (isSuffix.trans (List.suffix_cons c s))
    rw [search?_cons (fails _ before (List.suffix_refl _)), ih later, Option.map_none]

/-- What is found is read somewhere. -/
theorem search?_eq_some {read : Option Char → List Char → Option β} {front : List Char}
    {found : β} (searched : search? read before s = some (front, found)) :
    ∃ rest previous, rest <:+ s ∧ read previous rest = some found := by
  induction s generalizing before front with
  | nil =>
    obtain ⟨_, here, ⟨⟩⟩ := Option.map_eq_some_iff.mp searched
    exact ⟨[], before, List.suffix_refl _, here⟩
  | cons c s ih =>
    rw [search?] at searched
    split at searched
    · rename_i here
      cases searched
      exact ⟨c :: s, before, List.suffix_refl _, here⟩
    · obtain ⟨_, later, ⟨⟩⟩ := Option.map_eq_some_iff.mp searched
      obtain ⟨rest, previous, isSuffix, here⟩ := ih later
      exact ⟨rest, previous, isSuffix.trans (List.suffix_cons c s), here⟩

theorem searchWord?_eq_some {read : List Char → Option β} {front : List Char} {found : β}
    (searched : searchWord? read s = some (front, found)) :
    ∃ rest, rest <:+ s ∧ read rest = some found := by
  obtain ⟨rest, previous, isSuffix, here⟩ := search?_eq_some searched
  rw [atWordStart] at here
  split at here
  · exact ⟨rest, isSuffix, here⟩
  · cases here

/-- No word starts behind a character of a word. -/
theorem atWordStart_inside (read : List Char → Option β) (member : isWordChar c = true)
    (s : List Char) : atWordStart read (some c) s = none := by
  simp [atWordStart, startsWord, member]

theorem atWordStart_eq_none {read : List Char → Option β} (fails : read s = none) :
    atWordStart read before s = none := by
  simp [atWordStart, fails]

theorem search?_here {read : List Char → Option β} {found : β} (starts : startsWord before = true)
    (here : read s = some found) : search? (atWordStart read) before s = some ([], found) := by
  have accepted : atWordStart read before s = some found := by rw [atWordStart, if_pos starts, here]
  cases s with
  | nil => rw [search?, accepted, Option.map_some]
  | cons c rest => rw [search?, accepted]

/-- A search passes over the rest of a word. -/
theorem search?_inside (read : List Char → Option β) (member : isWordChar c = true)
    (members : ∀ d ∈ w, isWordChar d = true) (s : List Char) :
    ∃ last, isWordChar last = true ∧
      search? (atWordStart read) (some c) (w ++ s) =
        (search? (atWordStart read) (some last) s).map fun (front, found) =>
          (w ++ front, found) := by
  induction w generalizing c with
  | nil => exact ⟨c, member, by simp⟩
  | cons d w ih =>
    obtain ⟨here, others⟩ := List.forall_mem_cons.mp members
    obtain ⟨last, inside, passed⟩ := ih here others
    refine ⟨last, inside, ?_⟩
    rw [List.cons_append, search?_cons (atWordStart_inside read member _), passed, Option.map_map]
    rfl

/-- A search passes over a word that the reader does not accept. -/
theorem search?_word {read : List Char → Option β} (nonempty : w ≠ [])
    (members : ∀ d ∈ w, isWordChar d = true) (before : Option Char)
    (notHere : read (w ++ s) = none) :
    ∃ last, isWordChar last = true ∧
      search? (atWordStart read) before (w ++ s) =
        (search? (atWordStart read) (some last) s).map fun (front, found) =>
          (w ++ front, found) := by
  obtain ⟨c, rest, rfl⟩ := List.exists_cons_of_ne_nil nonempty
  obtain ⟨here, others⟩ := List.forall_mem_cons.mp members
  obtain ⟨last, inside, passed⟩ := search?_inside read here others s
  refine ⟨last, inside, ?_⟩
  rw [List.cons_append] at notHere ⊢
  rw [search?_cons (atWordStart_eq_none notHere), passed, Option.map_map]
  rfl

/-! ## Columns -/

/-- What stands in a field list without blanks: a name or the wildcard. -/
inductive IsColumn : List Char → Prop
  | all : IsColumn ['*']
  | named {w : List Char} : w ≠ [] → (∀ c ∈ w, isWordChar c = true) → IsColumn w

namespace IsColumn

theorem isWord (column : IsColumn w) : IsWord w := by
  cases column with
  | all => exact ⟨by decide, by decide⟩
  | named nonempty members =>
    exact ⟨nonempty, fun c member => isBlank_of_isWordChar (members c member)⟩

end IsColumn

/-- A reader of a keyword that a blank follows. -/
def Needs (word : String) (read : List Char → Option β) : Prop :=
  ∀ s, (keyword? word s).bind blanks? = none → read s = none

theorem needs_keyword (word : String) (next : List Char → Option β) :
    Needs word fun s => (keyword? word s).bind fun rest => (blanks? rest).bind next := by
  intro s fails
  simp only [← Option.bind_assoc, fails, Option.bind_none]

variable {word : String} {read : List Char → Option β}

/-- A search passes over a name that the reader does not accept, and over the blank behind it. -/
theorem search?_name (nonempty : w ≠ []) (members : ∀ d ∈ w, isWordChar d = true)
    (before : Option Char) (notHere : read (w ++ ' ' :: s) = none) :
    search? (atWordStart read) before (w ++ ' ' :: s) =
      (search? (atWordStart read) (some ' ') s).map fun (front, found) =>
        (w ++ ' ' :: front, found) := by
  obtain ⟨last, inside, passed⟩ := search?_word nonempty members before notHere
  rw [passed, search?_cons (atWordStart_inside read inside _), Option.map_map]
  rfl

/-- A search for a keyword passes over every other column and the blank behind it. -/
theorem search?_column (needs : Needs word read) (letters : word.toList ≠ [])
    (upper : word.toList.all Char.isUpper = true) (column : IsColumn w)
    (other : ¬ Spells word.toList w) (before : Option Char) (s : List Char) :
    search? (atWordStart read) before (w ++ ' ' :: s) =
      (search? (atWordStart read) (some ' ') s).map fun (front, found) =>
        (w ++ ' ' :: front, found) := by
  have notHere : read (w ++ ' ' :: s) = none :=
    needs _ (blanks?_keyword? upper column.isWord.unbroken other s)
  have notBlank : read (' ' :: s) = none :=
    needs _ (blanks?_keyword? (w := []) upper (by simp)
      (fun spelled => letters (List.forall₂_nil_right_iff.mp spelled)) s)
  cases column with
  | all =>
    rw [List.cons_append, List.nil_append] at notHere ⊢
    rw [search?_cons (atWordStart_eq_none notHere), search?_cons (atWordStart_eq_none notBlank),
      Option.map_map]
    rfl
  | named nonempty members => exact search?_name nonempty members before notHere

/-- No keyword is found in a name that ends the text. -/
theorem search?_end (needs : Needs word read) (nonempty : w ≠ [])
    (members : ∀ c ∈ w, isWordChar c = true) (before : Option Char) :
    search? (atWordStart read) before w = none := by
  have unbroken : ∀ c ∈ w, isBlank c = false :=
    fun c member => isBlank_of_isWordChar (members c member)
  have notHere : read (w ++ []) = none := by
    rw [List.append_nil]
    exact needs _ (blanks?_keyword?_end word unbroken)
  obtain ⟨last, inside, passed⟩ := search?_word nonempty members before notHere
  rw [List.append_nil, search?, atWordStart_inside read inside] at passed
  exact passed

/-! ## Cutting -/

/-- What stops a piece begins with a blank, so the piece ends with a word. -/
theorem cutAt?_word {stop : List Char → Option β}
    (solid : ∀ {c : Char}, isBlank c = false → ∀ s, stop (c :: s) = none) (word : IsWord w)
    (s : List Char) :
    cutAt? stop (w ++ s) =
      match stop s with
      | some found => some (w, found)
      | none => (cutAt? stop s).map fun (front, found) => (w ++ front, found) := by
  obtain ⟨nonempty, unbroken⟩ := word
  induction w with
  | nil => exact absurd rfl nonempty
  | cons c more ih =>
    have here := unbroken c List.mem_cons_self
    have inLine : c ≠ '\n' := by
      rintro rfl
      cases here
    cases more with
    | nil =>
      -- the end of the word, where the piece may end
      cases ended : stop s <;> simp [cutAt?, inLine, ended]
    | cons d more =>
      have next := unbroken d (List.mem_cons_of_mem c List.mem_cons_self)
      have later := ih (List.cons_ne_nil d more)
        fun x member => unbroken x (List.mem_cons_of_mem c member)
      rw [List.cons_append, cutAt?, if_neg inLine, List.cons_append, solid next,
        ← List.cons_append, later]
      cases stop s with
      | some found => rfl
      | none => simp [Function.comp_def]

/-- A piece is not empty, and what stops it stands behind it. -/
theorem cutAt?_eq_some {stop : List Char → Option β} {front : List Char} {found : β}
    (cut : cutAt? stop s = some (front, found)) :
    ∃ c more back, front = c :: more ∧ s = front ++ back ∧ stop back = some found := by
  induction s generalizing front with
  | nil => cases cut
  | cons c s ih =>
    simp only [cutAt?, Option.ite_none_left_eq_some] at cut
    obtain ⟨-, cut⟩ := cut
    cases stops : stop s with
    | some answer =>
      rw [stops] at cut
      cases cut
      exact ⟨c, [], s, rfl, rfl, stops⟩
    | none =>
      rw [stops, Option.map_eq_some_iff] at cut
      obtain ⟨⟨more, answer⟩, cut, same⟩ := cut
      cases same
      obtain ⟨d, later, back, rfl, rfl, ends⟩ := ih cut
      exact ⟨c, d :: later, back, rfl, rfl, ends⟩

/-- A line behind which a piece may end has a shortest piece at its start. -/
theorem cutAt?_isSome {stop : List Char → Option β} {found : β} (nonempty : w ≠ [])
    (oneLine : '\n' ∉ w) (ends : stop s = some found) :
    ∃ c front back answer,
      w = c :: front ++ back ∧ cutAt? stop (w ++ s) = some (c :: front, answer) := by
  induction w with
  | nil => exact absurd rfl nonempty
  | cons c w ih =>
    rw [List.mem_cons, not_or] at oneLine
    rw [List.cons_append, cutAt?, if_neg (Ne.symm oneLine.1)]
    cases stops : stop (w ++ s) with
    | some answer => exact ⟨c, [], w, answer, rfl, rfl⟩
    | none =>
      have more : w ≠ [] := by
        rintro rfl
        rw [List.nil_append, ends] at stops
        cases stops
      obtain ⟨d, front, back, answer, rfl, cut⟩ := ih more oneLine.2
      exact ⟨c, d :: front, back, answer, rfl, by rw [cut]; rfl⟩

/-- What stops a piece first is where the piece ends. -/
theorem cutAt?_first {stop : List Char → Option β} {found : β} (nonempty : w ≠ [])
    (oneLine : '\n' ∉ w) (stops : stop s = some found)
    (first : ∀ front back, front ≠ [] → back ≠ [] → w = front ++ back → stop (back ++ s) = none) :
    cutAt? stop (w ++ s) = some (w, found) := by
  induction w with
  | nil => exact absurd rfl nonempty
  | cons c w ih =>
    rw [List.mem_cons, not_or] at oneLine
    rw [List.cons_append, cutAt?, if_neg (Ne.symm oneLine.1)]
    by_cases last : w = []
    · subst last
      rw [List.nil_append, stops]
    · have later := ih last oneLine.2 fun front back _ some_ same =>
        first (c :: front) back (List.cons_ne_nil c front) some_ (by rw [same, List.cons_append])
      rw [first [c] w (List.cons_ne_nil c []) last rfl, later]
      rfl

end DocQuery.Text
