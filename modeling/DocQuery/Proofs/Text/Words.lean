import DocQuery.Text.Scan
import Mathlib.Data.List.Forall2
import Mathlib.Data.List.TakeWhile

/-! # Words and blanks

A text is read word by word. What stands between blanks is kept by cleaning, and a reader that
takes no blanks stops at the end of a word.

* `IsWord` — a nonempty text without blanks.
* `words_unwords`, `words_clean` — cleaning keeps the words.
* `unwords_eq_append` — a piece without blanks that is followed by one is the first word.
* `EndsSolid` — a text whose last character is no blank.
* `keyword?_eq_some`, `word?_eq_some` — what these readers take has no blanks.
-/

namespace DocQuery.Text

open DocQuery.Unicode

variable {c k : Char} {s r p w : List Char} {ws : List (List Char)}

/-! ## Characters -/

/-- What holds of the characters of a text is decided by going through the text. There are only
finitely many characters, but it would take too long to go through all of them. -/
instance (priority := high) decidableForallMem {p : Char → Prop} [DecidablePred p]
    (s : List Char) : Decidable (∀ c ∈ s, p c) :=
  List.decidableBAll p s

/-- Stretches of code points that hold all blanks and no character of a name. -/
def blankStretches : Ranges :=
  [(0x00, 0x20), (0x80, 0xa0), (0x1680, 0x1680), (0x2000, 0x200a), (0x2028, 0x202f),
    (0x205f, 0x205f), (0x3000, 0x3000)]

theorem contains_blankStretches (blank : isBlank c = true) :
    blankStretches.contains c.toNat = true := by
  simp only [isBlank, Bool.or_eq_true, Bool.and_eq_true, beq_iff_eq, decide_eq_true_eq] at blank
  simp only [blankStretches, Ranges.contains_cons, Ranges.contains_nil, Bool.or_eq_true,
    Bool.and_eq_true, decide_eq_true_eq, Bool.false_eq_true, or_false]
  omega

theorem wordCharacters_apart : (wordCharacters.all fun range => Nat.blt 0x3000 range.1 ||
    blankStretches.all fun stretch => Nat.blt stretch.2 range.1 || Nat.blt range.2 stretch.1) =
      true := by
  decide +kernel

theorem isBlank_of_isWordChar (member : isWordChar c = true) : isBlank c = false := by
  by_contra blank
  rw [Bool.not_eq_false] at blank
  obtain ⟨stretch, known, low, high⟩ :
      ∃ stretch ∈ blankStretches, stretch.1 ≤ c.toNat ∧ c.toNat ≤ stretch.2 := by
    simpa [Ranges.contains] using contains_blankStretches blank
  by_cases ascii : c.toNat < 0x80
  · have low : c.toNat < 0x21 := by
      simp only [isBlank, Bool.or_eq_true, Bool.and_eq_true, beq_iff_eq, decide_eq_true_eq] at blank
      omega
    -- below the first stretch of names there are few enough to go through
    have none : ∀ n < 0x21, isWordChar (Char.ofNat n) = false := by decide
    have found := none c.toNat low
    rw [Char.ofNat_toNat, member] at found
    cases found
  · obtain ⟨range, listed, first, last⟩ :
        ∃ range ∈ wordCharacters, range.1 ≤ c.toNat ∧ c.toNat ≤ range.2 := by
      simpa [isWordChar, ascii, Ranges.contains] using member
    have bounded : ∀ stretch ∈ blankStretches, stretch.2 ≤ 0x3000 := by decide
    have below := bounded stretch known
    have apart := List.all_eq_true.mp wordCharacters_apart range listed
    simp only [Bool.or_eq_true, Nat.blt_eq, List.all_eq_true] at apart
    rcases apart with far | apart
    · omega
    · have := apart stretch known
      omega

/-- A character of a class is none of those outside the class. -/
theorem notMem_of_all {p : Char → Bool} {others : List Char} (apart : others.all (!p ·) = true)
    (member : p c = true) : c ∉ others := by
  intro listed
  simpa [member] using List.all_eq_true.mp apart c listed

/-- The blanks. -/
def blanks : List Char :=
  [' ', '\t', '\n', '\x0b', '\x0c', '\r', '\u0085', '\u00a0', '\u1680', '\u2000', '\u2001',
    '\u2002', '\u2003', '\u2004', '\u2005', '\u2006', '\u2007', '\u2008', '\u2009', '\u200a',
    '\u2028', '\u2029', '\u202f', '\u205f', '\u3000']

theorem mem_blanks (blank : isBlank c = true) : c ∈ blanks := by
  have code : c.toNat ∈ blanks.map Char.toNat := by
    simp only [isBlank, Bool.or_eq_true, Bool.and_eq_true, beq_iff_eq, decide_eq_true_eq] at blank
    simp [blanks]
    omega
  obtain ⟨d, listed, same⟩ := List.mem_map.mp code
  rwa [← Char.toNat_inj.mp same]

/-- A letter of a keyword is not a blank, in whatever case it is written. -/
theorem isBlank_of_spells (upper : k.isUpper = true) (spelled : spells k c = true) :
    isBlank c = false := by
  by_contra blank
  simp only [Bool.not_eq_false, isBlank, Bool.or_eq_true, Bool.and_eq_true, beq_iff_eq,
    decide_eq_true_eq] at blank
  simp only [spells, Bool.or_eq_true, Bool.and_eq_true, beq_iff_eq] at spelled
  -- the letter itself, or one of the two signs that are also spellings of S and K
  rcases spelled with (same | ⟨-, rfl⟩) | ⟨-, rfl⟩
  · have inRange : 'A'.val ≤ k.val ∧ k.val ≤ 'Z'.val := of_decide_eq_true upper
    have upperCode : 65 ≤ k.toNat ∧ k.toNat ≤ 90 := inRange
    have unchanged : c.toUpper = c := dif_neg fun small => by
      have low : 97 ≤ c.toNat := small.1
      have high : c.toNat ≤ 122 := small.2
      omega
    rw [← same, unchanged] at upperCode
    omega
  · simp at blank
  · simp at blank

/-! ## Words -/

/-- A nonempty text without blanks. -/
structure IsWord (w : List Char) : Prop where
  nonempty : w ≠ []
  unbroken : ∀ c ∈ w, isBlank c = false

theorem words_cons_blank (blank : isBlank c = true) (s : List Char) :
    words (c :: s) = words s := by
  cases s with
  | nil => simp [words, blank]
  | cons d rest => simp [words, blank]

theorem words_append (word : IsWord w) (ends : s.head?.all isBlank = true) :
    words (w ++ s) = w :: words s := by
  obtain ⟨nonempty, unbroken⟩ := word
  induction w with
  | nil => exact absurd rfl nonempty
  | cons d rest ih =>
    have solid := unbroken d List.mem_cons_self
    cases rest with
    | nil =>
      -- the last character of the word: what follows is nothing or a blank
      cases s with
      | nil => simp [words, solid]
      | cons b after =>
        have blank : isBlank b = true := ends
        simp [words, solid, blank]
    | cons e rest =>
      have next := unbroken e (List.mem_cons_of_mem d List.mem_cons_self)
      have later := ih (List.cons_ne_nil e rest)
        fun x member => unbroken x (List.mem_cons_of_mem d member)
      simp only [List.cons_append] at later ⊢
      simp [words, solid, next, later]

theorem isWord_of_mem_words (member : w ∈ words s) : IsWord w := by
  fun_induction words s generalizing w with
  | case1 => cases member
  | case2 c blank => cases member
  | case3 c solid =>
    simp only [List.mem_singleton] at member
    subst member
    exact ⟨List.cons_ne_nil c [], by simpa using solid⟩
  | case4 c d rest blank ih => exact ih member
  | case5 c d rest solid blank ih =>
    rcases List.mem_cons.mp member with same | later
    · subst same
      exact ⟨List.cons_ne_nil c [], by simpa using solid⟩
    · exact ih later
  | case6 c d rest solid next first others found ih =>
    rcases List.mem_cons.mp member with same | later
    · subst same
      have known := ih (found ▸ List.mem_cons_self)
      exact ⟨List.cons_ne_nil c first, by simpa using ⟨by simpa using solid, known.unbroken⟩⟩
    · exact ih (found ▸ List.mem_cons_of_mem first later)
  | case7 c d rest solid next found ih =>
    simp only [List.mem_singleton] at member
    subst member
    exact ⟨List.cons_ne_nil c [], by simpa using solid⟩

/-! ## Cleaning -/

theorem unwords_cons_cons (w v : List Char) (rest : List (List Char)) :
    unwords (w :: v :: rest) = w ++ ' ' :: unwords (v :: rest) := rfl

theorem words_unwords (every : ∀ w ∈ ws, IsWord w) : words (unwords ws) = ws := by
  induction ws with
  | nil => rfl
  | cons w rest ih =>
    obtain ⟨word, others⟩ := List.forall_mem_cons.mp every
    cases rest with
    | nil => simpa [words, unwords] using words_append (s := []) word rfl
    | cons v rest =>
      rw [unwords_cons_cons, words_append word rfl, words_cons_blank rfl, ih others]

theorem clean_unwords (every : ∀ w ∈ ws, IsWord w) : clean (unwords ws) = unwords ws := by
  rw [clean, words_unwords every]

theorem clean_word (word : IsWord w) : clean w = w := by
  have every : ∀ v ∈ [w], IsWord v := by simpa using word
  exact clean_unwords every

theorem words_clean (s : List Char) : words (clean s) = words s :=
  words_unwords fun _ member => isWord_of_mem_words member

theorem unwords_ne_nil (word : IsWord w) (rest : List (List Char)) : unwords (w :: rest) ≠ [] := by
  cases rest with
  | nil => exact word.nonempty
  | cons v rest => simp [unwords]

theorem skipBlanks_eq_self (first : s.head?.all (!isBlank ·) = true) : skipBlanks s = s := by
  cases s with
  | nil => rfl
  | cons c rest => simpa [skipBlanks] using first

theorem trim_eq_self (first : s.head?.all (!isBlank ·) = true)
    (last : s.getLast?.all (!isBlank ·) = true) : trim s = s := by
  have back : s.reverse.dropWhile isBlank = s.reverse := by
    rw [← List.head?_reverse] at last
    cases h : s.reverse with
    | nil => rfl
    | cons c rest => simpa [h] using last
  rw [trim, skipBlanks_eq_self first, back, List.reverse_reverse]

theorem first_unwords (every : ∀ w ∈ ws, IsWord w) :
    (unwords ws).head?.all (!isBlank ·) = true := by
  cases ws with
  | nil => rfl
  | cons w rest =>
    obtain ⟨nonempty, unbroken⟩ := every w List.mem_cons_self
    obtain ⟨c, more, rfl⟩ := List.exists_cons_of_ne_nil nonempty
    have solid := unbroken c List.mem_cons_self
    cases rest <;> simp [unwords, solid]

theorem last_unwords (every : ∀ w ∈ ws, IsWord w) :
    (unwords ws).getLast?.all (!isBlank ·) = true := by
  induction ws with
  | nil => rfl
  | cons w rest ih =>
    obtain ⟨⟨nonempty, unbroken⟩, others⟩ := List.forall_mem_cons.mp every
    cases rest with
    | nil =>
      rw [unwords, List.getLast?_eq_some_getLast nonempty]
      simp [unbroken _ (List.getLast_mem nonempty)]
    | cons v rest =>
      have some_ : unwords (v :: rest) ≠ [] := unwords_ne_nil (others v List.mem_cons_self) rest
      rw [unwords_cons_cons, List.getLast?_append, List.getLast?_cons_of_ne_nil some_,
        List.getLast?_eq_some_getLast some_, Option.some_or, ← List.getLast?_eq_some_getLast some_]
      exact ih others

theorem trim_unwords (every : ∀ w ∈ ws, IsWord w) : trim (unwords ws) = unwords ws :=
  trim_eq_self (first_unwords every) (last_unwords every)

theorem trim_word (word : IsWord w) : trim w = w := by
  have every : ∀ v ∈ [w], IsWord v := by simpa using word
  exact trim_unwords every

theorem newline_notMem_unwords (every : ∀ w ∈ ws, IsWord w) : '\n' ∉ unwords ws := by
  induction ws with
  | nil => simp [unwords]
  | cons w rest ih =>
    obtain ⟨word, others⟩ := List.forall_mem_cons.mp every
    have inside : '\n' ∉ w := fun member => by cases word.unbroken '\n' member
    cases rest with
    | nil => simpa [unwords] using inside
    | cons v rest => simpa [unwords, inside] using ih others

theorem mem_of_mem_trim (member : c ∈ trim s) : c ∈ s := by
  rw [trim, List.mem_reverse] at member
  have kept := (List.dropWhile_suffix isBlank).subset member
  exact (List.dropWhile_suffix isBlank).subset (List.mem_reverse.mp kept)

/-! ## Ends -/

/-- The text is not empty, and its last character is no blank. -/
def EndsSolid (s : List Char) : Prop := s.getLast?.any (!isBlank ·) = true

namespace EndsSolid

variable {t : List Char}

theorem append (ends : EndsSolid t) : EndsSolid (s ++ t) := by
  have some_ : t ≠ [] := by
    rintro rfl
    cases ends
  rwa [EndsSolid, List.getLast?_append_of_ne_nil _ some_]

theorem cons (ends : EndsSolid t) : EndsSolid (c :: t) := ends.append (s := [c])

theorem all (ends : EndsSolid s) : s.getLast?.all (!isBlank ·) = true := by
  rw [EndsSolid] at ends
  cases last : s.getLast? with
  | none => rfl
  | some c => simpa [last] using ends

end EndsSolid

theorem IsWord.first (word : IsWord w) : w.head?.all (!isBlank ·) = true := by
  cases w with
  | nil => rfl
  | cons c w => simp [word.unbroken c List.mem_cons_self]

theorem IsWord.ends (word : IsWord w) : EndsSolid w := by
  rw [EndsSolid, List.getLast?_eq_some_getLast word.nonempty]
  simp [word.unbroken _ (List.getLast_mem word.nonempty)]

/-- A text without blanks at its ends begins and ends with other characters. -/
theorem ends_of_trim (trimmed : trim s = s) (some_ : s ≠ []) :
    s.head?.all (!isBlank ·) = true ∧ EndsSolid s := by
  have short : (trim s).length ≤ (skipBlanks s).reverse.length := by
    rw [trim, List.length_reverse]
    exact (List.dropWhile_suffix isBlank).length_le
  rw [List.length_reverse] at short
  have start : skipBlanks s = s :=
    (List.dropWhile_suffix isBlank).eq_of_length_le (by rwa [trimmed] at short)
  have back : s.reverse.dropWhile isBlank = s.reverse := by
    rw [trim, start] at trimmed
    rw [← List.reverse_reverse (List.dropWhile isBlank s.reverse), trimmed]
  constructor
  · have := List.head?_dropWhile_not isBlank s
    rw [← skipBlanks, start] at this
    cases s <;> simp_all
  · have := List.head?_dropWhile_not isBlank s.reverse
    rw [back, List.head?_reverse, List.getLast?_eq_some_getLast some_] at this
    rw [EndsSolid, List.getLast?_eq_some_getLast some_]
    simpa using this

/-- Behind a text that ends with no blank only blanks at the end are taken off. -/
theorem trim_append (first : s.head?.all (!isBlank ·) = true) (ends : EndsSolid s)
    (t : List Char) :
    ∃ front, front <+: t ∧ EndsSolid (s ++ front) ∧ trim (s ++ t) = s ++ front := by
  have some_ : s ≠ [] := by
    rintro rfl
    cases ends
  have start : skipBlanks (s ++ t) = s ++ t :=
    skipBlanks_eq_self (by rwa [List.head?_append_of_ne_nil _ some_])
  have back : s.reverse.dropWhile isBlank = s.reverse :=
    skipBlanks_eq_self (by simpa using ends.all)
  have isPrefix : (t.reverse.dropWhile isBlank).reverse <+: t := by
    rw [← List.reverse_suffix, List.reverse_reverse]
    exact List.dropWhile_suffix isBlank
  refine ⟨(t.reverse.dropWhile isBlank).reverse, isPrefix, ?_, ?_⟩
  · cases left : t.reverse.dropWhile isBlank with
    | nil => simpa using ends
    | cons c rest =>
      have solid : isBlank c = false := by
        have := List.head?_dropWhile_not isBlank t.reverse
        simpa [left] using this
      exact EndsSolid.append (by simp [EndsSolid, solid])
  · rw [trim, start, List.reverse_append, List.dropWhile_append, back]
    split
    · rename_i none
      simp [List.isEmpty_iff.mp none]
    · simp

/-! ## Readers -/

/-- The word is a spelling of the keyword. -/
def Spells (letters w : List Char) : Prop := List.Forall₂ (fun k c => spells k c = true) letters w

instance (letters w : List Char) : Decidable (Spells letters w) :=
  inferInstanceAs (Decidable (List.Forall₂ (fun k c => spells k c = true) letters w))

theorem letters?_eq_some {letters : List Char} (read : letters? letters s = some r) :
    ∃ p, s = p ++ r ∧ Spells letters p := by
  fun_induction letters? letters s with
  | case1 s =>
    cases read
    exact ⟨[], rfl, .nil⟩
  | case2 => cases read
  | case3 k ks c s spelled ih =>
    obtain ⟨p, same, more⟩ := ih read
    exact ⟨c :: p, by rw [same, List.cons_append], .cons spelled more⟩
  | case4 => cases read

theorem blanks?_eq_some (read : blanks? s = some r) :
    ∃ front b, s = front ++ b :: r ∧ ∀ c ∈ front ++ [b], isBlank c = true := by
  cases s with
  | nil => cases read
  | cons c rest =>
    rw [blanks?] at read
    split at read
    · rename_i blank
      cases read
      have nonempty : c :: rest.takeWhile isBlank ≠ [] := List.cons_ne_nil _ _
      have blanks : ∀ d ∈ c :: rest.takeWhile isBlank, isBlank d = true :=
        List.forall_mem_cons.mpr ⟨blank, fun d member => List.mem_takeWhile_imp member⟩
      refine ⟨_, _, ?_, by rwa [List.dropLast_append_getLast nonempty]⟩
      rw [List.append_cons, List.dropLast_append_getLast nonempty, List.cons_append, skipBlanks,
        List.takeWhile_append_dropWhile]
    · cases read

theorem letters?_append {letters : List Char} (spelled : Spells letters p) :
    letters? letters (p ++ r) = some r := by
  induction spelled with
  | nil => rfl
  | cons first _ ih => simp [letters?, first, ih]

theorem Spells.unbroken {letters : List Char} (spelled : Spells letters p)
    (upper : ∀ k ∈ letters, k.isUpper = true) : ∀ c ∈ p, isBlank c = false := by
  induction spelled with
  | nil => simp
  | cons first _ ih =>
    intro c member
    rcases List.mem_cons.mp member with same | later
    · subst same
      exact isBlank_of_spells (upper _ List.mem_cons_self) first
    · exact ih (fun k found => upper k (List.mem_cons_of_mem _ found)) c later

/-- The letters other than S and K have no further case variants. -/
theorem spells_iff_map_toUpper {letters : List Char} (notS : 'S' ∉ letters)
    (notK : 'K' ∉ letters) : Spells letters w ↔ w.map Char.toUpper = letters := by
  induction letters generalizing w with
  | nil => simp [Spells]
  | cons k ks ih =>
    rw [List.mem_cons, not_or] at notS notK
    have others : ∀ v, Spells ks v ↔ v.map Char.toUpper = ks := fun _ => ih notS.2 notK.2
    cases w with
    | nil => simp [Spells]
    | cons c rest =>
      simpa [Spells, spells, Ne.symm notS.1, Ne.symm notK.1] using fun _ => others rest

theorem word?_eq_some (read : word? s = some (w, r)) :
    s = w ++ r ∧ w ≠ [] ∧ ∀ c ∈ w, isWordChar c = true := by
  unfold word? run? at read
  split at read
  · cases read
  · rename_i nonempty
    simp only [Option.some.injEq, Prod.mk.injEq] at read
    obtain ⟨front, back⟩ := read
    refine ⟨by rw [← front, ← back, List.takeWhile_append_dropWhile], ?_, ?_⟩
    · rw [← front]
      exact nonempty
    · intro c member
      rw [← front] at member
      exact List.mem_takeWhile_imp member

/-- A piece without blanks that is followed by one is the first word. -/
theorem unwords_eq_append (every : ∀ w ∈ ws, IsWord w) (cut : unwords ws = p ++ s)
    (word : IsWord p) (next : blanks? s = some r) :
    ∃ rest, rest ≠ [] ∧ ws = p :: rest ∧ r = unwords rest := by
  cases s with
  | nil => cases next
  | cons b after =>
    have blank : isBlank b = true := by
      by_contra solid
      simp [blanks?, solid] at next
    -- reading the words of both sides again separates the first from the others
    have split : ws = p :: words after := by
      rw [← words_unwords every, cut, words_append (s := b :: after) word blank,
        words_cons_blank blank]
    generalize words after = rest at split
    subst split
    cases rest with
    | nil => simp [unwords] at cut
    | cons v rest =>
      have same : ' ' :: unwords (v :: rest) = b :: after := List.append_cancel_left cut
      cases same
      simp only [blanks?, blank, if_true, Option.some.injEq] at next
      refine ⟨v :: rest, List.cons_ne_nil v rest, rfl, ?_⟩
      rw [← next]
      exact skipBlanks_eq_self (first_unwords (List.forall_mem_cons.mp every).2)

theorem keyword?_unwords {word : String} (letters : word.toList ≠ [])
    (upper : word.toList.all Char.isUpper = true) (every : ∀ w ∈ ws, IsWord w)
    (read : keyword? word (unwords ws) = some s) (next : blanks? s = some r) :
    ∃ w rest, rest ≠ [] ∧ ws = w :: rest ∧ r = unwords rest ∧ Spells word.toList w := by
  obtain ⟨p, cut, spelled⟩ := letters?_eq_some read
  have nonempty : p ≠ [] := by
    rintro rfl
    exact letters (List.forall₂_nil_right_iff.mp spelled)
  obtain ⟨rest, more, same, left⟩ :=
    unwords_eq_append every cut ⟨nonempty, spelled.unbroken (List.all_eq_true.mp upper)⟩ next
  exact ⟨p, rest, more, same, left, spelled⟩

theorem word?_unwords (every : ∀ w ∈ ws, IsWord w) (read : word? (unwords ws) = some (w, s))
    (next : blanks? s = some r) : ∃ rest, rest ≠ [] ∧ ws = w :: rest ∧ r = unwords rest := by
  obtain ⟨cut, nonempty, named⟩ := word?_eq_some read
  exact unwords_eq_append every cut
    ⟨nonempty, fun c member => isBlank_of_isWordChar (named c member)⟩ next

end DocQuery.Text
