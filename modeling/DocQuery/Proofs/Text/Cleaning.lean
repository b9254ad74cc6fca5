import DocQuery.Proofs.Text.Words

/-! # Cleaning written texts

A statement is cleaned before it is read. What is written without blanks at its ends is cleaned on
its own, wherever it stands in the statement.

* `clean_append`, `clean_word_append`, `clean_concat` — a text is cleaned behind what is written
  in front of it, and in front of what is written behind it.
* `clean_append_space`, `clean_append_solid` — the two parts of a text are cleaned on their own.
* `IsTidy`, `SpacedText` — texts that cleaning leaves as they are.
* `mem_clean` — which characters there are in a cleaned text.
* `cleanTail`, `clean_eq_cleanTail` — what becomes of a text behind a character.
* `squeeze`, `clean_enclosed` — what becomes of a text between two characters.
* `squeeze_eq_self_iff` — which texts stay as they are there.
-/

namespace DocQuery.Text

variable {c d : Char} {s t w : List Char}

/-! ## One character -/

theorem words_cons_ne_nil (solid : isBlank c = false) (s : List Char) : words (c :: s) ≠ [] := by
  cases s with
  | nil => simp [words, solid]
  | cons d rest =>
    rw [words]
    simp only [solid, Bool.false_eq_true, if_false]
    split
    · exact List.cons_ne_nil _ _
    · split <;> exact List.cons_ne_nil _ _

theorem clean_cons_blank (blank : isBlank c = true) (s : List Char) : clean (c :: s) = clean s := by
  rw [clean, words_cons_blank blank, clean]

theorem clean_cons_solid (solid : isBlank c = false) (next : isBlank d = false) (s : List Char) :
    clean (c :: d :: s) = c :: clean (d :: s) := by
  obtain ⟨w, ws, same⟩ := List.exists_cons_of_ne_nil (words_cons_ne_nil next s)
  rw [clean, clean, words]
  simp only [solid, next, same, Bool.false_eq_true, if_false]
  cases ws <;> rfl

theorem clean_cons_gap (solid : isBlank c = false) (next : isBlank d = true)
    (some_ : words s ≠ []) : clean (c :: d :: s) = c :: ' ' :: clean s := by
  obtain ⟨w, ws, same⟩ := List.exists_cons_of_ne_nil some_
  rw [clean, clean, words, words_cons_blank next]
  simp only [solid, next, same, Bool.false_eq_true, if_false, if_true]
  rfl

/-! ## Characters -/

theorem flatten_words (s : List Char) : (words s).flatten = s.filter (!isBlank ·) := by
  fun_induction words s with
  | case1 => rfl
  | case2 c blank => simp [blank]
  | case3 c solid => simp [solid]
  | case4 c d rest blank ih => simp [blank, ih]
  | case5 c d rest solid next ih => simp [solid, ih]
  | case6 c d rest solid next w ws same ih =>
    rw [same] at ih
    rw [List.filter_cons_of_pos (by simpa using solid), ← ih]
    rfl
  | case7 c d rest solid next none ih =>
    exact absurd none (words_cons_ne_nil (by simpa using next) rest)

theorem words_ne_nil_of_mem (member : c ∈ s) (solid : isBlank c = false) : words s ≠ [] := by
  intro none
  have kept : c ∈ s.filter (!isBlank ·) := List.mem_filter.mpr ⟨member, by simp [solid]⟩
  rw [← flatten_words, none] at kept
  cases kept

theorem mem_unwords {ws : List (List Char)} (member : c ∈ unwords ws) :
    c = ' ' ∨ ∃ w ∈ ws, c ∈ w := by
  induction ws with
  | nil => cases member
  | cons w ws ih =>
    cases ws with
    | nil => exact .inr ⟨w, List.mem_cons_self, member⟩
    | cons v ws =>
      rw [unwords_cons_cons, List.mem_append, List.mem_cons] at member
      rcases member with here | rfl | later
      · exact .inr ⟨w, List.mem_cons_self, here⟩
      · exact .inl rfl
      · exact (ih later).imp_right fun ⟨u, listed, inside⟩ =>
          ⟨u, List.mem_cons_of_mem w listed, inside⟩

/-- Cleaning brings no characters but spaces. -/
theorem mem_clean (member : c ∈ clean s) : c = ' ' ∨ c ∈ s := by
  rcases mem_unwords member with same | ⟨w, listed, inside⟩
  · exact .inl same
  · have kept : c ∈ (words s).flatten := List.mem_flatten_of_mem listed inside
    rw [flatten_words] at kept
    exact .inr (List.mem_filter.mp kept).1

/-! ## Parts -/

/-- A word is kept, and so is one blank behind it. -/
theorem clean_word_append (word : IsWord w) (some_ : words s ≠ []) :
    clean (w ++ ' ' :: s) = w ++ ' ' :: clean s := by
  obtain ⟨v, vs, same⟩ := List.exists_cons_of_ne_nil some_
  rw [clean, words_append word (by rfl), words_cons_blank rfl, clean, same]
  rfl

/-- What has no blanks is kept in front of a text that begins with none. -/
theorem clean_append (unbroken : ∀ c ∈ w, isBlank c = false) (solid : isBlank d = false)
    (s : List Char) : clean (w ++ d :: s) = w ++ clean (d :: s) := by
  induction w with
  | nil => rfl
  | cons c w ih =>
    obtain ⟨here, others⟩ := List.forall_mem_cons.mp unbroken
    have later := ih others
    cases w with
    | nil => exact clean_cons_solid here solid s
    | cons e w =>
      rw [List.cons_append, List.cons_append, clean_cons_solid here (others e List.mem_cons_self),
        ← List.cons_append, later]
      rfl

/-- A blank separates the words on its two sides. -/
theorem words_append_blank (blank : isBlank c = true) (s t : List Char) :
    words (s ++ c :: t) = words s ++ words t := by
  fun_induction words s with
  | case1 => rw [List.nil_append, List.nil_append, words_cons_blank blank]
  | case2 d before => rw [List.cons_append, words_cons_blank before, List.nil_append,
      words_cons_blank blank, List.nil_append]
  | case3 d solid =>
    have single : IsWord [d] := ⟨List.cons_ne_nil d [], by simpa using solid⟩
    rw [words_append single (by simpa using blank), words_cons_blank blank]
    rfl
  | case4 d e rest before ih =>
    rw [List.cons_append, words_cons_blank before]
    exact ih
  | case5 d e rest solid next ih =>
    have single : IsWord [d] := ⟨List.cons_ne_nil d [], by simpa using solid⟩
    rw [List.cons_append, ← List.singleton_append, words_append single (by simpa using next), ih]
    rfl
  | case6 d e rest solid next w ws same ih =>
    rw [List.cons_append, List.cons_append, words]
    simp only [solid, next, Bool.false_eq_true, if_false]
    rw [← List.cons_append, ih, same]
    rfl
  | case7 d e rest solid next none ih =>
    exact absurd none (words_cons_ne_nil (by simpa using next) rest)

theorem unwords_append {vs ws : List (List Char)} (some_ : vs ≠ []) (more : ws ≠ []) :
    unwords (vs ++ ws) = unwords vs ++ ' ' :: unwords ws := by
  induction vs with
  | nil => exact absurd rfl some_
  | cons v vs ih =>
    cases vs with
    | nil =>
      obtain ⟨w, ws, rfl⟩ := List.exists_cons_of_ne_nil more
      rfl
    | cons u vs =>
      rw [List.cons_append, List.cons_append, unwords_cons_cons, ← List.cons_append,
        ih (List.cons_ne_nil u vs), unwords_cons_cons, List.append_assoc, List.cons_append]

/-- The texts on both sides of a space are cleaned on their own. -/
theorem clean_append_space (some_ : words s ≠ []) (more : words t ≠ []) :
    clean (s ++ ' ' :: t) = clean s ++ ' ' :: clean t := by
  rw [clean, words_append_blank rfl, unwords_append some_ more, clean, clean]

/-- Texts that touch at other characters than blanks are cleaned on their own. -/
theorem clean_append_solid (last : s.getLast?.all (!isBlank ·) = true) (next : isBlank d = false)
    (t : List Char) : clean (s ++ d :: t) = clean s ++ clean (d :: t) := by
  induction s with
  | nil => rfl
  | cons c s ih =>
    cases s with
    | nil =>
      have here : isBlank c = false := by simpa using last
      have alone : clean [c] = [c] := by simp [clean, words, here, unwords]
      rw [alone, List.cons_append, List.nil_append, clean_cons_solid here next]
      rfl
    | cons e s =>
      rw [List.getLast?_cons_cons] at last
      have rest := ih last
      cases here : isBlank c with
      | true => rw [List.cons_append, clean_cons_blank here, clean_cons_blank here, rest]
      | false =>
        cases there : isBlank e with
        | false =>
          rw [List.cons_append, List.cons_append, clean_cons_solid here there, ← List.cons_append,
            rest, clean_cons_solid here there]
          rfl
        | true =>
          -- the text goes on, since it does not end with this blank
          have nonempty : s ≠ [] := by
            rintro rfl
            simp [there] at last
          rw [List.getLast?_cons_of_ne_nil nonempty, List.getLast?_eq_some_getLast nonempty] at last
          have some_ : words s ≠ [] :=
            words_ne_nil_of_mem (List.getLast_mem nonempty) (by simpa using last)
          have longer : words (s ++ d :: t) ≠ [] := words_ne_nil_of_mem (by simp) next
          rw [List.cons_append, clean_cons_blank there, clean_cons_blank there] at rest
          rw [List.cons_append, List.cons_append, clean_cons_gap here there longer, rest,
            clean_cons_gap here there some_]
          rfl

/-- A character is kept behind a text that does not end with a blank. -/
theorem clean_concat (last : s.getLast?.all (!isBlank ·) = true) (solid : isBlank c = false) :
    clean (s ++ [c]) = clean s ++ [c] := by
  have alone : clean [c] = [c] := by simp [clean, words, solid, unwords]
  rw [clean_append_solid last solid [], alone]

/-! ## Tidy texts -/

/-- A text that cleaning leaves as it is, with no blanks at its ends. -/
structure IsTidy (s : List Char) : Prop where
  first : s.head?.all (!isBlank ·) = true
  ends : EndsSolid s
  cleaned : clean s = s

theorem IsWord.isTidy (word : IsWord w) : IsTidy w := ⟨word.first, word.ends, clean_word word⟩

theorem isTidy_char (solid : isBlank c = false) : IsTidy [c] :=
  IsWord.isTidy ⟨List.cons_ne_nil c [], by simpa using solid⟩

namespace IsTidy

theorem of_clean (cleaned : clean s = s) (nonempty : s ≠ []) : IsTidy s := by
  have trimmed : trim s = s := by
    rw [← cleaned]
    exact trim_unwords fun w member => isWord_of_mem_words member
  obtain ⟨first, ends⟩ := ends_of_trim trimmed nonempty
  exact ⟨first, ends, cleaned⟩

theorem exists_cons (tidy : IsTidy s) : ∃ c rest, s = c :: rest ∧ isBlank c = false := by
  obtain ⟨first, ends, -⟩ := tidy
  cases s with
  | nil => cases ends
  | cons c rest => exact ⟨c, rest, rfl, by simpa using first⟩

theorem ne_nil (tidy : IsTidy s) : s ≠ [] := by
  obtain ⟨c, rest, rfl, -⟩ := tidy.exists_cons
  exact List.cons_ne_nil c rest

theorem words_ne_nil (tidy : IsTidy s) : words s ≠ [] := by
  obtain ⟨c, rest, rfl, solid⟩ := tidy.exists_cons
  exact words_cons_ne_nil solid rest

theorem trimmed (tidy : IsTidy s) : trim s = s := trim_eq_self tidy.first tidy.ends.all

theorem skipBlanks_append (tidy : IsTidy s) (t : List Char) : skipBlanks (s ++ t) = s ++ t := by
  refine skipBlanks_eq_self ?_
  rw [List.head?_append_of_ne_nil _ tidy.ne_nil]
  exact tidy.first

theorem blanks?_append (tidy : IsTidy s) (t : List Char) :
    blanks? (' ' :: (s ++ t)) = some (s ++ t) := by
  rw [blanks?, if_pos (show isBlank ' ' = true from rfl), tidy.skipBlanks_append]

theorem newline_notMem (tidy : IsTidy s) : '\n' ∉ s := by
  rw [← tidy.cleaned]
  exact newline_notMem_unwords fun w member => isWord_of_mem_words member

theorem append_space (front : IsTidy s) (back : IsTidy t) : IsTidy (s ++ ' ' :: t) where
  first := by rw [List.head?_append_of_ne_nil _ front.ne_nil]; exact front.first
  ends := .append (.cons back.ends)
  cleaned := by
    rw [clean_append_space front.words_ne_nil back.words_ne_nil, front.cleaned, back.cleaned]

theorem append (front : IsTidy s) (back : IsTidy t) : IsTidy (s ++ t) where
  first := by rw [List.head?_append_of_ne_nil _ front.ne_nil]; exact front.first
  ends := .append back.ends
  cleaned := by
    obtain ⟨c, rest, rfl, solid⟩ := back.exists_cons
    rw [clean_append_solid front.ends.all solid, front.cleaned, back.cleaned]

end IsTidy

/-- Words with single spaces between them. -/
structure SpacedText where
  text : List Char
  nonempty : text ≠ []
  cleaned : clean text = text

namespace SpacedText

variable (body : SpacedText)

theorem isTidy : IsTidy body.text := .of_clean body.cleaned body.nonempty

theorem nonBlank?_text : nonBlank? body.text = some (String.ofList body.text) := by
  have nonempty := body.nonempty
  simp only [nonBlank?, body.isTidy.trimmed]

end SpacedText

/-! ## Behind a character -/

/-- What cleaning makes of a text behind a character that is no blank: each run of blanks is one
space, but nothing at the end. -/
def cleanTail : List Char → List Char
  | [] => []
  | c :: s =>
    if isBlank c then
      if s.head?.all isBlank then cleanTail s else ' ' :: cleanTail s
    else c :: cleanTail s

theorem cleanTail_cons_solid (solid : isBlank c = false) (s : List Char) :
    cleanTail (c :: s) = c :: cleanTail s := by
  simp [cleanTail, solid]

theorem cleanTail_cons_more (blank : isBlank c = true) (more : s.head?.all isBlank = true) :
    cleanTail (c :: s) = cleanTail s := by
  simp [cleanTail, blank, more]

theorem cleanTail_cons_last (blank : isBlank c = true) (last : s.head?.all isBlank = false) :
    cleanTail (c :: s) = ' ' :: cleanTail s := by
  simp [cleanTail, blank, last]

theorem skipBlanks_cons_blank (blank : isBlank c = true) (s : List Char) :
    skipBlanks (c :: s) = skipBlanks s := List.dropWhile_cons_of_pos blank

theorem skipBlanks_cons_solid (solid : isBlank c = false) (s : List Char) :
    skipBlanks (c :: s) = c :: s := List.dropWhile_cons_of_neg (by simp [solid])

/-- A text that begins with a blank goes on with the words behind it, if there are any. -/
theorem cleanTail_cons_blank (blank : isBlank c = true) (s : List Char) :
    cleanTail (c :: s) = if skipBlanks s = [] then [] else ' ' :: cleanTail (skipBlanks s) := by
  induction s generalizing c with
  | nil => exact cleanTail_cons_more blank rfl
  | cons d s ih =>
    cases next : isBlank d with
    | true =>
      rw [cleanTail_cons_more blank (by simpa using next), ih next, skipBlanks_cons_blank next]
    | false =>
      rw [cleanTail_cons_last blank (by simpa using next), skipBlanks_cons_solid next,
        if_neg (List.cons_ne_nil d s)]

theorem skipBlanks_eq_nil_iff : skipBlanks s = [] ↔ words s = [] := by
  induction s with
  | nil => simp [skipBlanks, words]
  | cons c s ih =>
    cases here : isBlank c with
    | true => rw [skipBlanks_cons_blank here, words_cons_blank here, ih]
    | false =>
      rw [skipBlanks_cons_solid here]
      exact iff_of_false (List.cons_ne_nil c s) (words_cons_ne_nil here s)

/-- Behind a character that is no blank, and without one. -/
theorem clean_eq_cleanTail (s : List Char) :
    (∀ c, isBlank c = false → clean (c :: s) = c :: cleanTail s) ∧
      clean s = cleanTail (skipBlanks s) := by
  -- both together: a gap behind a word leads to the rest of the text without its blanks
  induction s with
  | nil => exact ⟨fun c solid => by simp [clean, words, solid, unwords, cleanTail], rfl⟩
  | cons d s ih =>
    obtain ⟨behind, whole⟩ := ih
    cases next : isBlank d with
    | false =>
      rw [skipBlanks_cons_solid next, cleanTail_cons_solid next, behind d next]
      exact ⟨fun c solid => by rw [clean_cons_solid solid next, behind d next], rfl⟩
    | true =>
      rw [skipBlanks_cons_blank next, clean_cons_blank next]
      refine ⟨fun c solid => ?_, whole⟩
      rw [cleanTail_cons_blank next, ← whole]
      split
      · rename_i none
        rw [skipBlanks_eq_nil_iff] at none
        have single : IsWord [c] := ⟨List.cons_ne_nil c [], by simpa using solid⟩
        have cut : words (c :: d :: s) = [[c]] := by
          rw [← List.singleton_append, words_append single (by simpa using next),
            words_cons_blank next, none]
        rw [clean, cut]
        rfl
      · rename_i some_
        rw [skipBlanks_eq_nil_iff] at some_
        exact clean_cons_gap solid next some_

theorem mem_cleanTail (member : c ∈ cleanTail s) : c = ' ' ∨ c ∈ s := by
  fun_induction cleanTail s <;> grind

theorem skipBlanks_cleanTail (s : List Char) :
    skipBlanks (cleanTail s) = cleanTail (skipBlanks s) := by
  induction s with
  | nil => rfl
  | cons c s ih =>
    cases here : isBlank c with
    | false =>
      rw [cleanTail_cons_solid here, skipBlanks_cons_solid here, skipBlanks_cons_solid here,
        cleanTail_cons_solid here]
    | true =>
      rw [skipBlanks_cons_blank here]
      cases more : s.head?.all isBlank with
      | true => rw [cleanTail_cons_more here more, ih]
      | false => rw [cleanTail_cons_last here more, skipBlanks_cons_blank rfl, ih]

/-! ## Enclosed texts -/

/-- The text with one space for each run of blanks, also at its ends. -/
def squeeze : List Char → List Char
  | [] => []
  | c :: rest =>
    if isBlank c then
      if rest.head?.any isBlank then squeeze rest else ' ' :: squeeze rest
    else c :: squeeze rest

theorem squeeze_cons_solid (solid : isBlank c = false) (s : List Char) :
    squeeze (c :: s) = c :: squeeze s := by
  simp [squeeze, solid]

theorem squeeze_cons_cons_blank (blank : isBlank c = true) (next : isBlank d = true)
    (s : List Char) : squeeze (c :: d :: s) = squeeze (d :: s) := by
  rw [squeeze]
  simp [blank, next]

theorem squeeze_cons_gap (blank : isBlank c = true) (last : s.head?.any isBlank = false) :
    squeeze (c :: s) = ' ' :: squeeze s := by
  rw [squeeze]
  simp [blank, last]

/-- Up to a character that is no blank a text is squeezed. -/
theorem cleanTail_append_cons (solid : isBlank d = false) (s t : List Char) :
    cleanTail (s ++ d :: t) = squeeze s ++ d :: cleanTail t := by
  induction s with
  | nil => exact cleanTail_cons_solid solid t
  | cons c s ih =>
    rw [List.cons_append]
    cases here : isBlank c with
    | false =>
      rw [cleanTail_cons_solid here, squeeze_cons_solid here, ih]
      rfl
    | true =>
      cases s with
      | nil =>
        rw [List.nil_append, cleanTail_cons_last here (by simpa using solid),
          squeeze_cons_gap here rfl, cleanTail_cons_solid solid]
        rfl
      | cons e s =>
        cases next : isBlank e with
        | true =>
          rw [cleanTail_cons_more here (by simpa using next), squeeze_cons_cons_blank here next, ih]
        | false =>
          rw [cleanTail_cons_last here (by simpa using next),
            squeeze_cons_gap here (by simpa using next), ih]
          rfl

/-- Between two characters that are no blanks, a text is squeezed. -/
theorem clean_enclosed (first : isBlank c = false) (last : isBlank d = false) (s : List Char) :
    clean (c :: (s ++ [d])) = c :: (squeeze s ++ [d]) := by
  rw [(clean_eq_cleanTail _).1 c first, cleanTail_append_cons last]
  rfl

theorem getLast?_squeeze (s : List Char) :
    (squeeze s).getLast? = s.getLast?.map fun c => if isBlank c then ' ' else c := by
  induction s with
  | nil => rfl
  | cons c s ih =>
    have behind (first : Char) (same : first = if isBlank c then ' ' else c) :
        (first :: squeeze s).getLast? =
          (c :: s).getLast?.map fun c => if isBlank c then ' ' else c := by
      rw [List.getLast?_cons, List.getLast?_cons, ih, Option.map_some]
      cases s.getLast? with
      | none => simp [same]
      | some last => rfl
    cases here : isBlank c with
    | false => rw [squeeze_cons_solid here, behind c (by simp [here])]
    | true =>
      cases next : s.head?.any isBlank with
      | false => rw [squeeze_cons_gap here next, behind ' ' (by simp [here])]
      | true =>
        cases s with
        | nil => cases next
        | cons d s =>
          rw [squeeze_cons_cons_blank here (by simpa using next), ih, List.getLast?_cons_cons]

theorem mem_squeeze (member : c ∈ squeeze s) : c = ' ' ∨ c ∈ s := by
  fun_induction squeeze s <;> grind

theorem notMem_squeeze (blank : isBlank c = true) (other : c ≠ ' ') : c ∉ squeeze s := by
  fun_induction squeeze s <;> grind

theorem length_squeeze_le (s : List Char) : (squeeze s).length ≤ s.length := by
  fun_induction squeeze s <;> simp <;> omega

/-- All blanks are spaces, and no two of them stand together. -/
def IsSingleSpaced (s : List Char) : Prop :=
  (∀ c ∈ s, isBlank c = true → c = ' ') ∧ ¬ [' ', ' '] <:+: s

theorem isSingleSpaced_cons_solid (solid : isBlank c = false) (s : List Char) :
    IsSingleSpaced (c :: s) ↔ IsSingleSpaced s := by
  have other : ' ' ≠ c := by
    rintro rfl
    cases solid
  simp [IsSingleSpaced, solid, List.infix_cons_iff, List.cons_prefix_cons, other]

theorem isSingleSpaced_cons_gap (last : s.head?.any isBlank = false) :
    IsSingleSpaced (c :: s) ↔ (isBlank c = true → c = ' ') ∧ IsSingleSpaced s := by
  have apart : ¬ [' '] <+: s := by
    rintro ⟨rest, rfl⟩
    cases last
  simp [IsSingleSpaced, List.infix_cons_iff, List.cons_prefix_cons, apart, and_assoc]

theorem squeeze_eq_self_iff (s : List Char) : squeeze s = s ↔ IsSingleSpaced s := by
  induction s with
  | nil => simp [squeeze, IsSingleSpaced]
  | cons c s ih =>
    cases here : isBlank c with
    | false =>
      rw [squeeze_cons_solid here, List.cons.injEq, ih, isSingleSpaced_cons_solid here]
      simp
    | true =>
      cases next : s.head?.any isBlank with
      | false =>
        rw [squeeze_cons_gap here next, List.cons.injEq, ih, isSingleSpaced_cons_gap next]
        simp [here, eq_comm]
      | true =>
        obtain ⟨d, rest, rfl⟩ : ∃ d rest, s = d :: rest := by
          cases s with
          | nil => cases next
          | cons d rest => exact ⟨d, rest, rfl⟩
        have next : isBlank d = true := by simpa using next
        rw [squeeze_cons_cons_blank here next]
        refine iff_of_false (fun same => ?_) fun ⟨spaces, apart⟩ => ?_
        · -- two blanks become one space at most
          have shorter := length_squeeze_le (d :: rest)
          rw [same, List.length_cons] at shorter
          omega
        · obtain rfl := spaces c (by simp) here
          obtain rfl := spaces d (by simp) next
          exact apart ⟨[], rest, rfl⟩

instance (s : List Char) : Decidable (IsSingleSpaced s) :=
  decidable_of_iff (squeeze s = s) (squeeze_eq_self_iff s)

end DocQuery.Text
