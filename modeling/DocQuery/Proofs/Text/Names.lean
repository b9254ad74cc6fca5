import DocQuery.Proofs.Text.Cleaning
import DocQuery.Proofs.Text.Search

/-! # Names

* `IsName` — a nonempty text of word characters.
* `IsAsciiName` — one of letters, digits and underscores.
* `IsAsciiName.not_spells` — such a name spells only its own letters.
-/

namespace DocQuery

open DocQuery.Text

/-- A nonempty text of word characters. -/
structure IsName (s : String) : Prop where
  nonempty : s.toList ≠ []
  members : ∀ c ∈ s.toList, isWordChar c = true

instance (s : String) : Decidable (IsName s) :=
  decidable_of_iff (s.toList ≠ [] ∧ s.toList.all isWordChar = true)
    ⟨fun ⟨nonempty, members⟩ => ⟨nonempty, List.all_eq_true.mp members⟩,
      fun ⟨nonempty, members⟩ => ⟨nonempty, List.all_eq_true.mpr members⟩⟩

/-- A nonempty text of ASCII letters, digits and underscores. -/
structure IsAsciiName (s : String) : Prop extends IsName s where
  ascii : ∀ c ∈ s.toList, c.toNat < 128

instance (s : String) : Decidable (IsAsciiName s) :=
  decidable_of_iff (IsName s ∧ s.toList.all (fun c => decide (c.toNat < 128)) = true)
    ⟨fun ⟨name, ascii⟩ => ⟨name, by simpa using ascii⟩,
      fun ⟨name, ascii⟩ => ⟨name, by simpa using ascii⟩⟩

variable {s : String}

namespace IsName

theorem isColumn (name : IsName s) : IsColumn s.toList := .named name.nonempty name.members

theorem isTidy (name : IsName s) : IsTidy s.toList := name.isColumn.isWord.isTidy

theorem pointless (name : IsName s) : '.' ∉ s.toList :=
  fun member => by cases name.members '.' member

theorem ne_empty (name : IsName s) : s ≠ "" := by
  rintro rfl
  exact name.nonempty rfl

theorem ne_star (name : IsName s) : s ≠ "*" := by
  rintro rfl
  exact absurd (name.members '*' (by decide)) (by decide)

end IsName

/-- A name of ASCII characters spells only its own letters. -/
theorem IsAsciiName.not_spells (name : IsAsciiName s) {letters : List Char}
    (other : s.toList.map Char.toUpper ≠ letters) : ¬ Spells letters s.toList :=
  fun spelled => other (map_toUpper_of_spells name.ascii spelled)

end DocQuery
