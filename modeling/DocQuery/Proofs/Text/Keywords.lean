import DocQuery.Proofs.Text.WholeWords

/-! # Written keywords

* `Spells.unique` — a text spells one keyword at most.
* `Keyword` — a keyword as it is written, in any letter case.
* `Keyword.keyword?_append`, `Keyword.keyword?_other` — it is read as that keyword and no other.
* `Keyword.lacks` — it holds no other keyword.
* `spaced` — what is written behind a space or not at all.
-/

namespace DocQuery.Text

variable {word other : String} {letters others w : List Char} {k l c : Char}

/-- A character spells one letter at most, also the long s and the Kelvin sign. -/
theorem spells_unique (upper : k.isUpper = true) (otherUpper : l.isUpper = true)
    (spelled : spells k c = true) (otherSpelled : spells l c = true) : k = l := by
  have notUpper : ('ſ'.toUpper).isUpper = false ∧ ('\u212a'.toUpper).isUpper = false := by decide
  simp only [spells, Bool.or_eq_true, Bool.and_eq_true, beq_iff_eq] at spelled otherSpelled
  rcases spelled with (same | ⟨rfl, rfl⟩) | ⟨rfl, rfl⟩
  · rcases otherSpelled with (otherSame | ⟨-, rfl⟩) | ⟨-, rfl⟩
    · rw [← same, otherSame]
    · rw [← same, notUpper.1] at upper
      cases upper
    · rw [← same, notUpper.2] at upper
      cases upper
  · rcases otherSpelled with (otherSame | ⟨rfl, -⟩) | ⟨-, differ⟩
    · rw [← otherSame, notUpper.1] at otherUpper
      cases otherUpper
    · rfl
    · cases differ
  · rcases otherSpelled with (otherSame | ⟨-, differ⟩) | ⟨rfl, -⟩
    · rw [← otherSame, notUpper.2] at otherUpper
      cases otherUpper
    · cases differ
    · rfl

/-- A text spells one keyword at most. -/
theorem Spells.unique (upper : ∀ k ∈ letters, k.isUpper = true)
    (otherUpper : ∀ k ∈ others, k.isUpper = true) (spelled : Spells letters w)
    (otherSpelled : Spells others w) : letters = others := by
  induction spelled generalizing others with
  | nil => exact (List.forall₂_nil_right_iff.mp otherSpelled).symm
  | cons first _ ih =>
    obtain ⟨l, rest, here, later, rfl⟩ := List.forall₂_cons_right_iff.mp otherSpelled
    obtain ⟨isUpper, laterUpper⟩ := List.forall_mem_cons.mp upper
    obtain ⟨otherIsUpper, otherLaterUpper⟩ := List.forall_mem_cons.mp otherUpper
    rw [spells_unique isUpper otherIsUpper first here, ih laterUpper otherLaterUpper later]

/-! ## Keywords -/

/-- A keyword as it is written, in any letter case. -/
structure Keyword (word : String) where
  letters : List Char
  spelled : letters.map Char.toUpper = word.toList

namespace Keyword

variable (keyword : Keyword word)

theorem spells : Spells word.toList keyword.letters := by
  rw [← keyword.spelled, Spells, List.forall₂_map_left_iff]
  exact List.forall₂_same.mpr fun c _ => by simp [DocQuery.Text.spells]

theorem keyword?_append (s : List Char) : keyword? word (keyword.letters ++ s) = some s :=
  letters?_append keyword.spells

theorem members (isKeyword : IsKeyword word) : ∀ c ∈ keyword.letters, isWordChar c = true :=
  (isKeyword.members keyword.spells).2

theorem nonempty (isKeyword : IsKeyword word) : keyword.letters ≠ [] :=
  (isKeyword.members keyword.spells).1

theorem isColumn (isKeyword : IsKeyword word) : IsColumn keyword.letters :=
  .named (keyword.nonempty isKeyword) (keyword.members isKeyword)

theorem isWord (isKeyword : IsKeyword word) : IsWord keyword.letters :=
  (keyword.isColumn isKeyword).isWord

theorem not_spells (isKeyword : IsKeyword word) (isOther : IsKeyword other)
    (differs : word ≠ other) : ¬ Spells other.toList keyword.letters := by
  intro spelled
  have same := Spells.unique isKeyword.upper isOther.upper keyword.spells spelled
  exact differs (String.toList_inj.mp same)

theorem lacks (isKeyword : IsKeyword word) (isOther : IsKeyword other) (differs : word ≠ other) :
    Lacks other keyword.letters :=
  lacks_word (keyword.members isKeyword) (keyword.not_spells isKeyword isOther differs)

/-- No keyword is read of which this one is no beginning, and which is no beginning of this one. -/
theorem keyword?_other (isKeyword : IsKeyword word) (isOther : IsKeyword other)
    (notLonger : ¬ word.toList <+: other.toList) (notShorter : ¬ other.toList <+: word.toList)
    (s : List Char) : keyword? other (keyword.letters ++ s) = none := by
  cases read : keyword? other (keyword.letters ++ s) with
  | none => rfl
  | some rest =>
    obtain ⟨p, same, spelled⟩ := letters?_eq_some read
    have written := keyword.spells
    rcases List.append_eq_append_iff.mp same with ⟨back, rfl, -⟩ | ⟨back, letters, -⟩
    · -- the first letters of the other keyword
      have front := List.forall₂_take_append _ _ _ spelled
      have unique := Spells.unique isKeyword.upper
        (fun k member => isOther.upper k (List.take_subset _ _ member)) written front
      exact absurd (unique ▸ List.take_prefix _ _) notLonger
    · rw [letters] at written
      have front := List.forall₂_take_append _ _ _ written
      have unique := Spells.unique isOther.upper
        (fun k member => isKeyword.upper k (List.take_subset _ _ member)) spelled front
      exact absurd (unique ▸ List.take_prefix _ _) notShorter

theorem keywords?_append {first second : String} (keyword : Keyword first)
    (other : Keyword second) (isKeyword : IsKeyword second) (s : List Char) :
    keywords? first second (keyword.letters ++ ' ' :: (other.letters ++ s)) = some s := by
  simp only [keywords?, keyword.keyword?_append, bind, Option.bind_some,
    (other.isWord isKeyword).isTidy.blanks?_append, other.keyword?_append]

end Keyword

/-! ## Optional parts -/

/-- What is written behind a space, if it is written at all. -/
def spaced {α : Type} (print : α → List Char) : Option α → List Char
  | none => []
  | some part => ' ' :: print part

section spaced

variable {α : Type} {print : α → List Char} {part : Option α} {s t : List Char}

/-- What is written behind a space ends the word in front of it. -/
theorem endsWord_spaced (print : α → List Char) (part : Option α) (ends : endsWord t = true) :
    endsWord (spaced print part ++ t) = true := by
  cases part with
  | none => exact ends
  | some a => rfl

theorem lacks_append_spaced (isKeyword : IsKeyword word) :
    Lacks word (s ++ spaced print part) ↔ Lacks word s ∧ ∀ a ∈ part, Lacks word (print a) := by
  cases part with
  | none => simp [spaced]
  | some a => simpa [spaced] using lacks_append_cons isKeyword rfl

theorem isTidy_append_spaced (tidy : IsTidy s) (tidyPart : ∀ a, IsTidy (print a)) :
    IsTidy (s ++ spaced print part) := by
  cases part with
  | none => rwa [spaced, List.append_nil]
  | some a => exact tidy.append_space (tidyPart a)

end spaced

end DocQuery.Text
