import DocQuery.Proofs.Text.Cleaning
import DocQuery.Proofs.Text.Search

/-! # Whole words

A keyword that stands in a text is a whole word of it: no word character touches it. A search for a
keyword passes over everything that holds no such word, whatever else is written there.

* `IsKeyword` — what is looked for: upper-case letters.
* `Lacks` — no whole word of a text spells a keyword.
* `lacks_append_separator`, `lacks_words_iff` — a text lacks a word if its parts do.
* `Avoids` — no word between blanks spells a keyword.
* `NeedsWord`, `searchWord?_append` — a search for a keyword passes over what lacks it.
* `wholeKeyword?_inside` — a text that lacks a keyword is not stopped at by a reader of it.
-/

namespace DocQuery.Text

variable {β : Type} {word : String} {c k : Char} {s t w front rest : List Char}
  {before : Option Char} {read : List Char → Option β}

/-! ## Keywords -/

/-- A nonempty text of upper-case letters. -/
structure IsKeyword (word : String) : Prop where
  nonempty : word.toList ≠ []
  upper : ∀ k ∈ word.toList, k.isUpper = true

instance (word : String) : Decidable (IsKeyword word) :=
  decidable_of_iff (word.toList ≠ [] ∧ ∀ k ∈ word.toList, k.isUpper = true)
    ⟨fun ⟨nonempty, upper⟩ => ⟨nonempty, upper⟩, fun ⟨nonempty, upper⟩ => ⟨nonempty, upper⟩⟩

/-- What spells a letter is a character of names. -/
theorem isWordChar_of_spells (upper : k.isUpper = true) (spelled : spells k c = true) :
    isWordChar c = true := by
  simp only [spells, Bool.or_eq_true, Bool.and_eq_true, beq_iff_eq] at spelled
  rcases spelled with (same | ⟨-, rfl⟩) | ⟨-, rfl⟩
  · subst same
    have range : 65 ≤ c.toUpper.toNat ∧ c.toUpper.toNat ≤ 90 := of_decide_eq_true upper
    -- a letter of either case, since the upper case of the others is not a letter
    have letter : c.isUpper = true ∨ c.isLower = true := by
      by_cases lower : c.isLower = true
      · exact .inr lower
      · have unchanged : c.toUpper = c := by
          unfold Char.toUpper
          rw [dif_neg]
          intro small
          exact lower (Bool.and_eq_true_iff.mpr ⟨decide_eq_true small.1, decide_eq_true small.2⟩)
        exact .inl (unchanged ▸ upper)
    have ascii : c.toNat < 0x80 := by
      rcases letter with here | here
      · have bounds : 65 ≤ c.toNat ∧ c.toNat ≤ 90 := of_decide_eq_true here
        omega
      · obtain ⟨-, high⟩ := Bool.and_eq_true_iff.mp here
        have bound : c.toNat ≤ 122 := UInt32.le_iff_toNat_le.mp (of_decide_eq_true high)
        omega
    have alphanumeric : c.isAlphanum = true :=
      Bool.or_eq_true_iff.mpr (.inl (Bool.or_eq_true_iff.mpr letter))
    rw [isWordChar, if_pos ascii, alphanumeric, Bool.true_or]
  · decide +kernel
  · decide +kernel

namespace IsKeyword

theorem members (keyword : IsKeyword word) {p : List Char} (spelled : Spells word.toList p) :
    p ≠ [] ∧ ∀ c ∈ p, isWordChar c = true := by
  obtain ⟨nonempty, upper⟩ := keyword
  constructor
  · rintro rfl
    exact nonempty (List.forall₂_nil_right_iff.mp spelled)
  · intro c member
    obtain ⟨k, listed, same⟩ : ∃ k ∈ word.toList, spells k c = true := by
      obtain ⟨i, bound, rfl⟩ := List.getElem_of_mem member
      have length := spelled.length_eq
      exact ⟨_, List.getElem_mem (by omega), spelled.get (by omega) bound⟩
    exact isWordChar_of_spells (upper k listed) same

end IsKeyword

theorem wholeKeyword?_eq_some_iff {r : List Char} : wholeKeyword? word s = some r ↔
    ∃ p, s = p ++ r ∧ Spells word.toList p ∧ endsWord r = true := by
  constructor
  · intro read
    unfold wholeKeyword? at read
    split at read
    · rename_i behind found
      simp only [Option.ite_none_right_eq_some, Option.some.injEq] at read
      obtain ⟨ends, rfl⟩ := read
      obtain ⟨p, same, spelled⟩ := letters?_eq_some found
      exact ⟨p, same, spelled, ends⟩
    · cases read
  · rintro ⟨p, rfl, spelled, ends⟩
    have found : keyword? word (p ++ r) = some r := letters?_append spelled
    simp [wholeKeyword?, found, ends]

/-- A keyword is cut off where a text ends in front of no word character. -/
theorem wholeKeyword?_append (keyword : IsKeyword word) (ends : endsWord t = true) :
    wholeKeyword? word (s ++ t) = (wholeKeyword? word s).map (· ++ t) := by
  apply Option.ext
  intro r
  rw [wholeKeyword?_eq_some_iff, Option.map_eq_some_iff]
  constructor
  · rintro ⟨p, same, spelled, last⟩
    obtain ⟨nonempty, members⟩ := keyword.members spelled
    rcases List.append_eq_append_iff.mp same with ⟨back, rfl, rfl⟩ | ⟨back, rfl, rfl⟩
    · cases back with
      | nil => exact ⟨[], wholeKeyword?_eq_some_iff.mpr ⟨s, by simp, by simpa using spelled, rfl⟩, rfl⟩
      | cons d back =>
        -- the keyword would go on in the text behind
        have member := members d (by simp)
        simp [endsWord, member] at ends
    · refine ⟨back, wholeKeyword?_eq_some_iff.mpr ⟨p, rfl, spelled, ?_⟩, rfl⟩
      cases back with
      | nil => rfl
      | cons d back => simpa [endsWord] using last
  · rintro ⟨back, found, rfl⟩
    obtain ⟨p, rfl, spelled, last⟩ := wholeKeyword?_eq_some_iff.mp found
    refine ⟨p, by simp, spelled, ?_⟩
    cases back with
    | nil => exact ends
    | cons d back => simpa [endsWord] using last

theorem wholeKeyword?_nil (keyword : IsKeyword word) (ends : endsWord s = true) :
    wholeKeyword? word s = none := by
  have none : wholeKeyword? word [] = none := by
    cases read : wholeKeyword? word [] with
    | none => rfl
    | some r =>
      obtain ⟨p, same, spelled, -⟩ := wholeKeyword?_eq_some_iff.mp read
      obtain ⟨rfl, rfl⟩ := List.append_eq_nil_iff.mp same.symm
      exact absurd rfl (keyword.members spelled).1
  have cut := wholeKeyword?_append (s := []) keyword ends
  rwa [List.nil_append, none, Option.map_none] at cut

/-! ## Searches -/

theorem getLast?_cons_or (c : Char) (s : List Char) (before : Option Char) :
    (c :: s).getLast?.or before = s.getLast?.or (some c) := by
  rw [List.getLast?_cons]
  cases s.getLast? <;> rfl

/-- A search passes over a text at every place of which the reader fails. -/
theorem search?_append (read : Option Char → List Char → Option β) (before : Option Char)
    (s t : List Char) (fails : ∀ front c rest, s = front ++ c :: rest →
      read (front.getLast?.or before) (c :: rest ++ t) = none) :
    search? read before (s ++ t) =
      (search? read (s.getLast?.or before) t).map fun (front, found) => (s ++ front, found) := by
  induction s generalizing before with
  | nil => simp
  | cons c s ih =>
    have notHere : read before (c :: (s ++ t)) = none := fails [] c s rfl
    have later := ih (some c) fun front d rest same => by
      have there := fails (c :: front) d rest (by rw [same, List.cons_append])
      rwa [getLast?_cons_or] at there
    rw [getLast?_cons_or, List.cons_append, search?_cons notHere, later, Option.map_map]
    rfl

theorem search?_eq_none_iff {read : Option Char → List Char → Option β} :
    search? read before s = none ↔
      ∀ front rest, s = front ++ rest → read (front.getLast?.or before) rest = none := by
  induction s generalizing before with
  | nil =>
    rw [search?, Option.map_eq_none_iff]
    constructor
    · intro atEnd front rest same
      obtain ⟨rfl, rfl⟩ := List.append_eq_nil_iff.mp same.symm
      exact atEnd
    · intro fails
      exact fails [] [] rfl
  | cons c s ih =>
    constructor
    · intro nowhere front rest same
      rw [search?] at nowhere
      split at nowhere
      · cases nowhere
      · rename_i notHere
        rw [Option.map_eq_none_iff] at nowhere
        cases front with
        | nil =>
          rw [List.nil_append] at same
          rwa [← same]
        | cons d front =>
          obtain ⟨rfl, later⟩ := List.cons.inj same
          rw [getLast?_cons_or]
          exact ih.mp nowhere front rest later
    · intro fails
      have notHere : read before (c :: s) = none := fails [] (c :: s) rfl
      rw [search?_cons notHere, Option.map_eq_none_iff, ih]
      intro front rest same
      rw [← getLast?_cons_or c front before]
      exact fails (c :: front) rest (by rw [same, List.cons_append])

/-- Nothing is found if the reader fails at all places where a word can start. -/
theorem searchWord?_eq_none_iff : searchWord? read s = none ↔
    ∀ front rest, s = front ++ rest → startsWord front.getLast? = true → read rest = none := by
  simp only [searchWord?, search?_eq_none_iff, Option.or_none, atWordStart, ite_eq_right_iff]

/-- What is found does not depend on the character in front, if a word can start behind it. -/
theorem search?_start (read : List Char → Option β) (starts : startsWord before = true)
    (s : List Char) : search? (atWordStart read) before s = searchWord? read s := by
  have same : ∀ r, atWordStart read before r = atWordStart read none r := by
    intro r
    rw [atWordStart, atWordStart, if_pos starts, if_pos (show startsWord none = true from rfl)]
  rw [searchWord?]
  cases s with
  | nil => rw [search?, search?, same]
  | cons c s => rw [search?, search?, same]

/-! ## Lacking a word -/

/-- No whole word of the text spells the keyword. -/
def Lacks (word : String) (s : List Char) : Prop := searchWord? (wholeKeyword? word) s = none

instance (word : String) (s : List Char) : Decidable (Lacks word s) :=
  inferInstanceAs (Decidable (searchWord? (wholeKeyword? word) s = none))

theorem lacks_iff : Lacks word s ↔ ∀ front rest, s = front ++ rest →
    startsWord front.getLast? = true → wholeKeyword? word rest = none :=
  searchWord?_eq_none_iff

theorem lacks_nil (keyword : IsKeyword word) : Lacks word [] := by
  rw [lacks_iff]
  intro front rest same _
  obtain ⟨rfl, rfl⟩ := List.append_eq_nil_iff.mp same.symm
  exact wholeKeyword?_nil keyword rfl

/-- A word lacks every keyword but itself. -/
theorem lacks_word (members : ∀ c ∈ w, isWordChar c = true)
    (other : ¬ Spells word.toList w) : Lacks word w := by
  rw [lacks_iff]
  intro front rest same starts
  have whole : front = [] := by
    rcases List.eq_nil_or_concat front with none | ⟨init, last, some_⟩
    · exact none
    · have member := members last (by simp [same, some_])
      simp [some_, startsWord, member] at starts
  subst whole
  cases read : wholeKeyword? word rest with
  | none => rfl
  | some r =>
    obtain ⟨p, cut, spelled, ends⟩ := wholeKeyword?_eq_some_iff.mp read
    cases r with
    | nil => exact absurd (by simpa [same, cut] using spelled) other
    | cons d r =>
      have member := members d (by simp [same, cut])
      simp [endsWord, member] at ends

theorem lacks_append_cons (keyword : IsKeyword word) (separates : isWordChar c = false) :
    Lacks word (s ++ c :: t) ↔ Lacks word s ∧ Lacks word t := by
  have ends (r : List Char) : endsWord (c :: r) = true := by simp [endsWord, separates]
  simp only [lacks_iff]
  constructor
  · intro whole
    constructor
    · intro front rest same starts
      have none := whole front (rest ++ c :: t) (by simp [same]) starts
      rwa [wholeKeyword?_append keyword (ends t), Option.map_eq_none_iff] at none
    · intro front rest same starts
      refine whole (s ++ c :: front) rest (by simp [same]) ?_
      rw [List.getLast?_append, List.getLast?_cons]
      cases last : front.getLast? with
      | none => simp [startsWord, separates]
      | some d => simpa [last] using starts
  · rintro ⟨first, second⟩ front rest same starts
    rcases List.append_eq_append_iff.mp same with ⟨back, rfl, cut⟩ | ⟨back, rfl, rfl⟩
    · cases back with
      | nil =>
        rw [List.nil_append] at cut
        rw [← cut]
        exact wholeKeyword?_nil keyword (ends t)
      | cons d back =>
        obtain ⟨rfl, rfl⟩ := List.cons.inj cut
        refine second back rest rfl ?_
        rw [List.getLast?_append, List.getLast?_cons] at starts
        cases last : back.getLast? with
        | none => rfl
        | some e => simpa [last] using starts
    · have none := first front back rfl starts
      rw [wholeKeyword?_append keyword (ends t), none, Option.map_none]

/-- The parts on both sides of a separator lack a word exactly if the text does. -/
theorem lacks_append_separator (keyword : IsKeyword word) (nonempty : w ≠ [])
    (separates : ∀ c ∈ w, isWordChar c = false) :
    Lacks word (s ++ (w ++ t)) ↔ Lacks word s ∧ Lacks word t := by
  induction w generalizing s with
  | nil => exact absurd rfl nonempty
  | cons c w ih =>
    obtain ⟨here, others⟩ := List.forall_mem_cons.mp separates
    rw [List.cons_append, lacks_append_cons keyword here]
    cases w with
    | nil => rfl
    | cons d w =>
      have later := ih (s := []) (List.cons_ne_nil d w) others
      rw [List.nil_append] at later
      rw [later, and_iff_right (lacks_nil keyword)]

/-- Blanks around a text do not matter. -/
theorem lacks_blank (keyword : IsKeyword word) (separates : isWordChar c = false) :
    Lacks word (c :: s) ↔ Lacks word s := by
  have cut := lacks_append_cons (s := []) (t := s) keyword separates
  rwa [List.nil_append, and_iff_right (lacks_nil keyword)] at cut

theorem isWordChar_of_isBlank (blank : isBlank c = true) : isWordChar c = false := by
  by_contra member
  rw [isBlank_of_isWordChar (by simpa using member)] at blank
  cases blank

/-! ## Word by word -/

/-- A text is nothing, or begins with a blank, or with a word that ends where the word is followed
by a blank or by nothing. -/
theorem words_induction {P : List Char → Prop} (nil : P [])
    (blank : ∀ c s, isBlank c = true → P s → P (c :: s))
    (word : ∀ w s, IsWord w → s.head?.all isBlank = true → P s → P (w ++ s)) (s : List Char) :
    P s := by
  induction length : s.length using Nat.strong_induction_on generalizing s with
  | _ n ih =>
    subst length
    cases s with
    | nil => exact nil
    | cons c s =>
      cases here : isBlank c with
      | true => exact blank c s here (ih s.length (by simp) s rfl)
      | false =>
        have isWord : IsWord ((c :: s).takeWhile (!isBlank ·)) :=
          ⟨by simp [here], fun d member => by simpa using List.mem_takeWhile_imp member⟩
        have first : ((c :: s).dropWhile (!isBlank ·)).head?.all isBlank = true := by
          have := List.head?_dropWhile_not (!isBlank ·) (c :: s)
          cases left : (c :: s).dropWhile (!isBlank ·) with
          | nil => rfl
          | cons d rest => simpa [left] using this
        have shorter : ((c :: s).dropWhile (!isBlank ·)).length ≤ s.length := by
          rw [List.dropWhile_cons, if_pos (by simp [here])]
          exact (List.dropWhile_suffix _).length_le
        have whole := word _ _ isWord first
          (ih ((c :: s).dropWhile (!isBlank ·)).length (by simp; omega) _ rfl)
        rwa [List.takeWhile_append_dropWhile] at whole

/-- A text lacks a word exactly if all that stands between its blanks does. -/
theorem lacks_words_iff (keyword : IsKeyword word) :
    Lacks word s ↔ ∀ w ∈ words s, Lacks word w := by
  induction s using words_induction with
  | nil => simpa [words] using lacks_nil keyword
  | blank c s blank ih =>
    rw [lacks_blank keyword (isWordChar_of_isBlank blank), words_cons_blank blank]
    exact ih
  | word w s isWord first ih =>
    rw [words_append isWord first, List.forall_mem_cons]
    cases s with
    | nil => simp [words]
    | cons b s =>
      have gap : isBlank b = true := first
      rw [lacks_append_cons keyword (isWordChar_of_isBlank gap), ← ih,
        lacks_blank keyword (isWordChar_of_isBlank gap)]

/-- The words of a text are its parts that blanks, or its ends, are around. -/
theorem mem_words_iff : w ∈ words s ↔ ∃ front back, s = front ++ (w ++ back) ∧ IsWord w ∧
    front.getLast?.all isBlank = true ∧ back.head?.all isBlank = true := by
  constructor
  · intro member
    induction s using words_induction with
    | nil => cases member
    | blank c s blank ih =>
      rw [words_cons_blank blank] at member
      obtain ⟨front, back, rfl, isWord, before, behind⟩ := ih member
      refine ⟨c :: front, back, rfl, isWord, ?_, behind⟩
      rw [List.getLast?_cons]
      cases last : front.getLast? with
      | none => exact blank
      | some d => simpa [last] using before
    | word v s isWord first ih =>
      rw [words_append isWord first, List.mem_cons] at member
      rcases member with rfl | later
      · exact ⟨[], s, rfl, isWord, rfl, first⟩
      · obtain ⟨front, back, rfl, isLater, before, behind⟩ := ih later
        refine ⟨v ++ front, back, by simp, isLater, ?_, behind⟩
        cases front with
        | nil =>
          -- the word behind would go on with the first one
          obtain ⟨c, rest, rfl⟩ := List.exists_cons_of_ne_nil isLater.nonempty
          have blank : isBlank c = true := first
          rw [isLater.unbroken c List.mem_cons_self] at blank
          cases blank
        | cons c front => rwa [List.getLast?_append_of_ne_nil _ (List.cons_ne_nil c front)]
  · rintro ⟨front, back, rfl, isWord, before, behind⟩
    rcases List.eq_nil_or_concat front with rfl | ⟨init, b, rfl⟩
    · rw [List.nil_append, words_append isWord behind]
      exact List.mem_cons_self
    · have blank : isBlank b = true := by simpa using before
      rw [List.concat_eq_append, List.append_assoc, List.singleton_append,
        words_append_blank blank, words_append isWord behind]
      exact List.mem_append_right _ List.mem_cons_self

/-- No word between blanks spells the keyword. -/
def Avoids (word : String) (s : List Char) : Prop := ∀ w ∈ words s, ¬ Spells word.toList w

theorem Lacks.avoids (lacks : Lacks word s) (keyword : IsKeyword word) : Avoids word s := by
  intro w member spelled
  have none : wholeKeyword? word w = none :=
    lacks_iff.mp ((lacks_words_iff keyword).mp lacks w member) [] w rfl rfl
  rw [wholeKeyword?_eq_some_iff.mpr ⟨w, (List.append_nil w).symm, spelled, rfl⟩] at none
  cases none

/-- What stands between two parts keeps a keyword from standing in both of them. -/
theorem Avoids.append_cons (keyword : IsKeyword word) (first : Avoids word s)
    (second : Avoids word t) (separates : isWordChar c = false) : Avoids word (s ++ c :: t) := by
  intro w member spelled
  have absent : c ∉ w := fun inside => by
    rw [(keyword.members spelled).2 c inside] at separates
    cases separates
  obtain ⟨front, back, same, isWord, before, behind⟩ := mem_words_iff.mp member
  rcases List.append_eq_append_iff.mp same with ⟨mid, rfl, cut⟩ | ⟨mid, rfl, cut⟩
  · -- the word begins behind the first part
    cases mid with
    | nil =>
      obtain ⟨d, rest, rfl⟩ := List.exists_cons_of_ne_nil isWord.nonempty
      obtain ⟨rfl, -⟩ := List.cons.inj cut
      exact absent List.mem_cons_self
    | cons d mid =>
      obtain ⟨rfl, rfl⟩ := List.cons.inj cut
      refine second w (mem_words_iff.mpr ⟨mid, back, rfl, isWord, ?_, behind⟩) spelled
      rw [List.getLast?_append, List.getLast?_cons] at before
      cases last : mid.getLast? with
      | none => rfl
      | some e => simpa [last] using before
  · rcases List.append_eq_append_iff.mp cut with ⟨left, rfl, rest⟩ | ⟨left, rfl, rest⟩
    · refine first w (mem_words_iff.mpr ⟨front, left, rfl, isWord, before, ?_⟩) spelled
      cases left with
      | nil => rfl
      | cons d left =>
        rw [rest] at behind
        exact behind
    · -- the word would reach over what separates
      cases left with
      | nil =>
        rw [List.append_nil] at isWord spelled
        exact first mid (mem_words_iff.mpr ⟨front, [], by simp, isWord, before, rfl⟩) spelled
      | cons d left =>
        obtain ⟨rfl, -⟩ := List.cons.inj rest
        exact absent (by simp)

/-! ## Readers of a keyword -/

/-- A reader that reads nothing where the keyword does not stand. -/
def NeedsWord (word : String) (read : List Char → Option β) : Prop :=
  ∀ s, wholeKeyword? word s = none → read s = none

/-- A keyword that a blank follows is a whole word. -/
theorem Needs.needsWord (needs : Needs word read) : NeedsWord word read := by
  intro s none
  refine needs s ?_
  rw [Option.bind_eq_none_iff]
  intro rest found
  cases rest with
  | nil => rfl
  | cons c rest =>
    by_contra next
    have blank : isBlank c = true := by
      by_contra solid
      simp [blanks?, solid] at next
    have ends : endsWord (c :: rest) = true := by simp [endsWord, isWordChar_of_isBlank blank]
    simp [wholeKeyword?, found, ends] at none

theorem searchWord?_eq_none (needs : NeedsWord word read) (lacks : Lacks word s) :
    searchWord? read s = none := by
  rw [lacks_iff] at lacks
  rw [searchWord?_eq_none_iff]
  exact fun front rest same starts => needs rest (lacks front rest same starts)

/-- A search passes over a text at all word starts of which the reader fails, and over the space
behind. -/
theorem searchWord?_passes (fails : ∀ front rest, s = front ++ rest → rest ≠ [] →
      startsWord front.getLast? = true → read (rest ++ ' ' :: t) = none)
    (atSpace : read (' ' :: t) = none) : searchWord? read (s ++ ' ' :: t) =
      (searchWord? read t).map fun (front, found) => (s ++ ' ' :: front, found) := by
  have passed := search?_append (atWordStart read) none (s ++ [' ']) t fun front c rest same => by
    unfold atWordStart
    split
    · rename_i starts
      -- the place is in the text or it is the space behind it
      rcases List.append_eq_append_iff.mp same with ⟨back, rfl, cut⟩ | ⟨back, rfl, cut⟩
      · cases back with
        | nil =>
          obtain ⟨rfl, rfl⟩ := List.cons.inj cut
          exact atSpace
        | cons d back => simp at cut
      · rw [cut, List.append_assoc]
        cases back with
        | nil => exact atSpace
        | cons d back =>
          exact fails front (d :: back) rfl (List.cons_ne_nil d back) (by simpa using starts)
    · rfl
  rw [List.append_assoc, List.getLast?_append] at passed
  have found : search? (atWordStart read) (some ' ') t = searchWord? read t :=
    search?_start read rfl t
  simpa [found, searchWord?] using passed

/-- A search for a keyword passes over what lacks it, and over the space behind. -/
theorem searchWord?_append (needs : NeedsWord word read) (lacks : Lacks word s)
    (keyword : IsKeyword word) (t : List Char) : searchWord? read (s ++ ' ' :: t) =
      (searchWord? read t).map fun (front, found) => (s ++ ' ' :: front, found) := by
  refine searchWord?_passes (fun front rest same _ starts => needs _ ?_)
    (needs _ (wholeKeyword?_nil keyword rfl))
  rw [wholeKeyword?_append keyword rfl, lacks_iff.mp lacks front rest same starts, Option.map_none]

/-! ## Behind a blank -/

section inside

variable {back next : List Char} (ends : EndsSolid w) (isSuffix : back <:+ w) (more : back ≠ [])
  (blank : blanks? (back ++ t) = some next)

include ends isSuffix more blank

/-- What follows a blank of a text that does not end with one begins in that text. -/
theorem blanks?_inside : ∃ front rest, w = front ++ rest ∧ next = rest ++ t ∧
    front.getLast?.any isBlank = true := by
  obtain ⟨b, m, rfl⟩ := List.exists_cons_of_ne_nil more
  obtain ⟨front, rfl⟩ := isSuffix
  simp only [List.cons_append, blanks?, Option.ite_none_right_eq_some, Option.some.injEq] at blank
  obtain ⟨gap, rfl⟩ := blank
  have parts := List.takeWhile_append_dropWhile (p := isBlank) (l := m)
  have every : ∀ c ∈ b :: m.takeWhile isBlank, isBlank c = true :=
    List.forall_mem_cons.mpr ⟨gap, fun c member => List.mem_takeWhile_imp member⟩
  have left : skipBlanks (m ++ t) = m.dropWhile isBlank ++ t := by
    rw [skipBlanks, List.dropWhile_append]
    -- the text does not end with blanks
    have some_ : m.dropWhile isBlank ≠ [] := by
      intro none
      rw [none, List.append_nil] at parts
      rw [parts] at every
      have last := every _ (List.getLast_mem (List.cons_ne_nil b m))
      rw [EndsSolid, List.getLast?_append_of_ne_nil _ (List.cons_ne_nil b m),
        List.getLast?_eq_some_getLast (List.cons_ne_nil b m)] at ends
      simp [last] at ends
    simp [some_]
  refine ⟨front ++ b :: m.takeWhile isBlank, m.dropWhile isBlank, by simp [parts], left, ?_⟩
  rw [List.getLast?_append_of_ne_nil _ (List.cons_ne_nil b _),
    List.getLast?_eq_some_getLast (List.cons_ne_nil b _)]
  exact every _ (List.getLast_mem _)

/-- Behind a blank in a text that lacks a keyword the keyword is not read. -/
theorem wholeKeyword?_inside (keyword : IsKeyword word) (lacks : Lacks word w)
    (behind : endsWord t = true) : wholeKeyword? word next = none := by
  obtain ⟨front, rest, rfl, rfl, last⟩ := blanks?_inside ends isSuffix more blank
  rw [wholeKeyword?_append keyword behind, Option.map_eq_none_iff]
  refine lacks_iff.mp lacks front rest rfl ?_
  cases final : front.getLast? with
  | none => rfl
  | some b =>
    have isLast : isBlank b = true := by simpa [final] using last
    simp [startsWord, isWordChar_of_isBlank isLast]

/-- Behind a blank in a text of which no word is the keyword, the keyword is not read in front of
another blank. -/
theorem Avoids.inside (avoids : Avoids word w) (keyword : IsKeyword word)
    (behind : t.head?.all isBlank = true) : (keyword? word next).bind blanks? = none := by
  obtain ⟨front, rest, rfl, rfl, last⟩ := blanks?_inside ends isSuffix more blank
  rw [Option.bind_eq_none_iff]
  intro left found
  obtain ⟨p, cut, spelled⟩ := letters?_eq_some found
  obtain ⟨nonempty, members⟩ := keyword.members spelled
  have isWord : IsWord p := ⟨nonempty, fun c member => isBlank_of_isWordChar (members c member)⟩
  cases left with
  | nil => rfl
  | cons b left =>
    by_contra next
    have gap : isBlank b = true := by
      by_contra solid
      simp [blanks?, solid] at next
    have before : front.getLast?.all isBlank = true := by
      cases same : front.getLast? with
      | none => rfl
      | some c => simpa [same] using last
    -- the keyword ends in the text, as what is behind begins with a blank
    rcases List.append_eq_append_iff.mp cut with ⟨back, rfl, same⟩ | ⟨back, rfl, same⟩
    · cases back with
      | nil =>
        rw [List.append_nil] at isWord spelled
        refine avoids _ (mem_words_iff.mpr ⟨front, [], by simp, isWord, before, rfl⟩) spelled
      | cons d back =>
        rw [same] at behind
        have solid := isWord.unbroken d (by simp)
        rw [show isBlank d = true from behind] at solid
        cases solid
    · refine avoids p (mem_words_iff.mpr ⟨front, back, rfl, isWord, before, ?_⟩) spelled
      cases back with
      | nil => rfl
      | cons d back =>
        obtain ⟨rfl, -⟩ := List.cons.inj same
        exact gap

end inside

end DocQuery.Text
