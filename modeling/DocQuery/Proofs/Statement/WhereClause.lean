import DocQuery.Proofs.Text.Search
import DocQuery.Statement.Write

/-! # WHERE clauses of writing statements

What the readers of UPDATE and DELETE take for the condition of a statement, in terms of the words
of the statement.

* `conditionWords?` — the words after the first WHERE that other words follow.
* `HasCondition` — there is such a WHERE.
* `extractUpdate_predicate`, `extractDelete_predicate` — the condition that is read.
-/

namespace DocQuery

open DocQuery.Text

/-- A spelling of the keyword WHERE. -/
def IsWhere (w : List Char) : Prop := w.map Char.toUpper = "WHERE".toList

instance (w : List Char) : Decidable (IsWhere w) :=
  inferInstanceAs (Decidable (w.map Char.toUpper = "WHERE".toList))

/-- The words after the first WHERE that is not the last word. -/
def conditionWords? : List (List Char) → Option (List (List Char))
  | [] => none
  | w :: rest => if IsWhere w ∧ rest ≠ [] then some rest else conditionWords? rest

/-- One of the words, but not the last, is WHERE. -/
def HasCondition (ws : List (List Char)) : Prop :=
  ∃ front w back, ws = front ++ w :: back ∧ IsWhere w ∧ back ≠ []

theorem isSome_conditionWords? (ws : List (List Char)) :
    (conditionWords? ws).isSome = true ↔ HasCondition ws := by
  induction ws with
  | nil => simp [conditionWords?, HasCondition]
  | cons w rest ih =>
    by_cases here : IsWhere w ∧ rest ≠ []
    · rw [conditionWords?, if_pos here]
      exact ⟨fun _ => ⟨[], w, rest, rfl, here⟩, fun _ => rfl⟩
    · rw [conditionWords?, if_neg here, ih]
      constructor
      · rintro ⟨front, v, back, same, found⟩
        exact ⟨w :: front, v, back, by rw [same, List.cons_append], found⟩
      · rintro ⟨front, v, back, same, found⟩
        cases front with
        | nil =>
          cases same
          exact absurd found here
        | cons u front =>
          cases same
          exact ⟨front, v, back, rfl, found⟩

/-- A bracket that touches the keyword hides it. -/
example : conditionWords? (words "1 WHERE(b = 2)".toList) = none := by decide

theorem conditionWords?_eq_some {ws back : List (List Char)}
    (found : conditionWords? ws = some back) : back ≠ [] ∧ back <:+ ws := by
  induction ws with
  | nil => cases found
  | cons w rest ih =>
    by_cases here : IsWhere w ∧ rest ≠ []
    · rw [conditionWords?, if_pos here] at found
      cases found
      exact ⟨here.2, List.suffix_cons w back⟩
    · rw [conditionWords?, if_neg here] at found
      obtain ⟨more, isSuffix⟩ := ih found
      exact ⟨more, isSuffix.trans (List.suffix_cons w rest)⟩

theorem spells_where_iff {w : List Char} : Spells "WHERE".toList w ↔ IsWhere w :=
  spells_iff_map_toUpper (by decide) (by decide)

namespace Write

variable {w s : List Char} {ws rest : List (List Char)}

/-! ## The optional clause -/

theorem someLine?_unwords (every : ∀ v ∈ w :: rest, IsWord v) :
    someLine? (unwords (w :: rest)) = some (unwords (w :: rest)) := by
  have nonempty := unwords_ne_nil (every w List.mem_cons_self) rest
  have oneLine := newline_notMem_unwords every
  simp [someLine?, line?, nonempty, oneLine]

theorem blanks?_space (every : ∀ v ∈ ws, IsWord v) :
    blanks? (' ' :: unwords ws) = some (unwords ws) := by
  rw [blanks?, if_pos (show isBlank ' ' = true from rfl), skipBlanks_eq_self (first_unwords every)]

/-- After a word, a WHERE clause is the word WHERE and at least one more. -/
theorem whereTail?_unwords (every : ∀ v ∈ w :: rest, IsWord v) :
    whereTail? (' ' :: unwords (w :: rest)) =
      if IsWhere w ∧ rest ≠ [] then some (unwords rest) else none := by
  have others := (List.forall_mem_cons.mp every).2
  split
  · rename_i here
    obtain ⟨isWhere, more⟩ := here
    obtain ⟨v, vs, rfl⟩ := List.exists_cons_of_ne_nil more
    have keyword : keyword? "WHERE" (unwords (w :: v :: vs)) = some (' ' :: unwords (v :: vs)) :=
      letters?_append (spells_where_iff.mpr isWhere)
    simp [whereTail?, blanks?_space every, keyword, blanks?_space others, someLine?_unwords others]
  · -- whatever the clause is read from, its keyword is the first word and its text the others
    rename_i notHere
    by_contra read
    obtain ⟨text, read⟩ := Option.ne_none_iff_exists'.mp read
    simp only [whereTail?, blanks?_space every, bind, Option.bind_eq_some_iff,
      Option.some.injEq] at read
    obtain ⟨_, rfl, _, keyword, _, next, _⟩ := read
    obtain ⟨p, left, more, same, -, spelled⟩ :=
      keyword?_unwords (by decide) (by decide) every keyword next
    cases same
    exact notHere ⟨spells_where_iff.mp spelled, more⟩

theorem optionalWhere?_unwords (every : ∀ v ∈ w :: rest, IsWord v) :
    optionalWhere? (' ' :: unwords (w :: rest)) =
      if IsWhere w ∧ rest ≠ [] then some (some (unwords rest)) else none := by
  rw [optionalWhere?, whereTail?_unwords every]
  by_cases here : IsWhere w ∧ rest ≠ [] <;> simp [here]

theorem optionalWhere?_solid {c : Char} (solid : isBlank c = false) (s : List Char) :
    optionalWhere? (c :: s) = none := by
  simp [optionalWhere?, whereTail?, blanks?, solid]

/-! ## UPDATE -/

/-- The assignments end before the first WHERE that is followed by a word. -/
theorem cutAt?_unwords (every : ∀ v ∈ w :: rest, IsWord v) :
    ∃ front, cutAt? optionalWhere? (unwords (w :: rest)) =
      some (front, (conditionWords? rest).map unwords) := by
  induction rest generalizing w with
  | nil =>
    refine ⟨w, ?_⟩
    have cut := cutAt?_word optionalWhere?_solid (every w List.mem_cons_self) []
    simpa [unwords, conditionWords?, optionalWhere?, whereTail?, blanks?] using cut
  | cons v rest ih =>
    obtain ⟨word, others⟩ := List.forall_mem_cons.mp every
    have clause := optionalWhere?_unwords others
    rw [unwords_cons_cons, cutAt?_word optionalWhere?_solid word, conditionWords?]
    by_cases here : IsWhere v ∧ rest ≠ []
    · rw [if_pos here] at clause
      refine ⟨w, ?_⟩
      simp [clause, here]
    · -- the blank and the next word belong to the assignments
      rw [if_neg here] at clause
      obtain ⟨front, cut⟩ := ih others
      obtain ⟨c, more, same⟩ := List.exists_cons_of_ne_nil
        (unwords_ne_nil (others v List.mem_cons_self) rest)
      have solid : isBlank c = false := by simpa [same] using first_unwords others
      have start := optionalWhere?_solid solid more
      rw [← same] at start
      refine ⟨w ++ ' ' :: front, ?_⟩
      simp [clause, here, cutAt?, start, cut]

/-- An UPDATE has its table as the second word, and the condition is looked for from the fifth word
on. -/
theorem updateFrame?_unwords {table assignments : List Char} {condition : Option (List Char)}
    (every : ∀ v ∈ ws, IsWord v)
    (read : updateFrame? (unwords ws) = some (table, assignments, condition)) :
    ∃ u v w rest, ws = u :: table :: v :: w :: rest ∧
      condition = (conditionWords? rest).map unwords := by
  simp only [updateFrame?, bind, Option.bind_eq_some_iff] at read
  obtain ⟨_, update, _, afterUpdate, ⟨name, left⟩, named, _, afterTable, _, set, _, afterSet,
    ⟨front, found⟩, cut, same⟩ := read
  cases same
  -- one word of the statement after another is taken by its reader
  obtain ⟨u, rest, -, rfl, rfl, -⟩ :=
    keyword?_unwords (by decide) (by decide) every update afterUpdate
  have every := (List.forall_mem_cons.mp every).2
  obtain ⟨rest, -, rfl, rfl⟩ := word?_unwords every named afterTable
  have every := (List.forall_mem_cons.mp every).2
  obtain ⟨v, rest, more, rfl, rfl, -⟩ :=
    keyword?_unwords (by decide) (by decide) every set afterSet
  have every := (List.forall_mem_cons.mp every).2
  obtain ⟨w, rest, rfl⟩ := List.exists_cons_of_ne_nil more
  obtain ⟨front, known⟩ := cutAt?_unwords every
  rw [known] at cut
  cases cut
  exact ⟨u, v, w, rest, rfl, rfl⟩

/-! ## DELETE -/

/-- A DELETE has its table as the third word, and what follows the table is a condition. -/
theorem deleteFrame?_unwords {table : List Char} {condition : Option (List Char)}
    (every : ∀ v ∈ ws, IsWord v) (read : deleteFrame? (unwords ws) = some (table, condition)) :
    ∃ u v rest, ws = u :: v :: table :: rest ∧
      condition = (conditionWords? rest).map unwords ∧ (condition = none → rest = []) := by
  simp only [deleteFrame?, keywords?, bind, Option.bind_eq_some_iff] at read
  obtain ⟨_, ⟨_, delete, _, afterDelete, from_⟩, _, afterFrom, ⟨name, left⟩, named, _, clause,
    same⟩ := read
  cases same
  obtain ⟨u, rest, -, rfl, rfl, -⟩ :=
    keyword?_unwords (by decide) (by decide) every delete afterDelete
  have every := (List.forall_mem_cons.mp every).2
  obtain ⟨v, rest, -, rfl, rfl, -⟩ :=
    keyword?_unwords (by decide) (by decide) every from_ afterFrom
  have every := (List.forall_mem_cons.mp every).2
  obtain ⟨cut, nonempty, wordChars⟩ := word?_eq_some named
  have solid : ∀ c ∈ name, isBlank c = false :=
    fun c member => isBlank_of_isWordChar (wordChars c member)
  cases left with
  | nil =>
    -- the table ends the statement
    have single : rest = [name] := by
      rw [← words_unwords every, cut, words_append ⟨nonempty, solid⟩ rfl, words]
    cases clause
    exact ⟨u, v, [], by rw [single], rfl, fun _ => rfl⟩
  | cons b after =>
    have blank : isBlank b = true := by
      by_contra notBlank
      rw [optionalWhere?_solid (by simpa using notBlank)] at clause
      cases clause
    obtain ⟨rest, more, rfl, -⟩ := word?_unwords every named (if_pos blank)
    have every := (List.forall_mem_cons.mp every).2
    obtain ⟨w, rest, rfl⟩ := List.exists_cons_of_ne_nil more
    have space : ' ' :: unwords (w :: rest) = b :: after := List.append_cancel_left cut
    rw [← space, optionalWhere?_unwords every] at clause
    by_cases here : IsWhere w ∧ rest ≠ []
    · rw [if_pos here] at clause
      cases clause
      exact ⟨u, v, w :: rest, rfl, by simp [conditionWords?, here], by simp⟩
    · rw [if_neg here] at clause
      cases clause

end Write

/-! ## Plans -/

open Write

variable {sql : String}

theorem nonBlank?_unwords {ws : List (List Char)} (every : ∀ w ∈ ws, IsWord w) (more : ws ≠ []) :
    nonBlank? (unwords ws) = some (String.ofList (unwords ws)) := by
  obtain ⟨w, rest, rfl⟩ := List.exists_cons_of_ne_nil more
  have nonempty := unwords_ne_nil (every w List.mem_cons_self) rest
  simp only [nonBlank?, trim_unwords every]

theorem bind_nonBlank? {ws : List (List Char)} (every : ∀ w ∈ ws, IsWord w) :
    ((conditionWords? ws).map unwords).bind nonBlank? =
      (conditionWords? ws).map fun found => String.ofList (unwords found) := by
  cases found : conditionWords? ws with
  | none => rfl
  | some back =>
    obtain ⟨more, isSuffix⟩ := conditionWords?_eq_some found
    exact nonBlank?_unwords (fun w member => every w (isSuffix.subset member)) more

theorem reporting_eq_ok {β : Type} {result : Except SyntaxFault β} {b : β}
    (read : reporting sql result = .ok b) : result = .ok b := by
  cases result with
  | ok a =>
    cases read
    rfl
  | error fault => cases read

/-- An UPDATE is conditional exactly if WHERE stands between other words after the first word of
its assignments; the condition is what follows the first such WHERE. -/
theorem extractUpdate_predicate {plan : UpdatePlan} (read : extractUpdate sql = .ok plan) :
    ∃ u v w rest, words sql.toList = u :: plan.table.toList :: v :: w :: rest ∧
      plan.predicate = (conditionWords? rest).map fun ws => String.ofList (unwords ws) := by
  have every : ∀ w ∈ words sql.toList, IsWord w := fun _ member => isWord_of_mem_words member
  have read := reporting_eq_ok read
  cases framed : updateFrame? (clean sql.toList) with
  | none =>
    rw [framed] at read
    cases read
  | some frame =>
    obtain ⟨table, assignments, condition⟩ := frame
    obtain ⟨u, v, w, rest, same, rfl⟩ := updateFrame?_unwords every framed
    rw [framed] at read
    simp only [bind, Except.bind] at read
    split at read
    · cases read
    · cases read
      rw [same, List.forall_mem_cons, List.forall_mem_cons, List.forall_mem_cons,
        List.forall_mem_cons] at every
      exact ⟨u, v, w, rest, by rw [same, String.toList_ofList], bind_nonBlank? every.2.2.2.2⟩

theorem extractDelete_predicate {plan : DeletePlan} (read : extractDelete sql = .ok plan) :
    ∃ u v rest, words sql.toList = u :: v :: plan.table.toList :: rest ∧
      plan.predicate = (conditionWords? rest).map (fun ws => String.ofList (unwords ws)) ∧
      (plan.predicate = none → rest = []) := by
  have every : ∀ w ∈ words sql.toList, IsWord w := fun _ member => isWord_of_mem_words member
  have read := reporting_eq_ok read
  cases framed : deleteFrame? (clean sql.toList) with
  | none =>
    rw [framed] at read
    cases read
  | some frame =>
    obtain ⟨table, condition⟩ := frame
    obtain ⟨u, v, rest, same, rfl, ends⟩ := deleteFrame?_unwords every framed
    rw [framed] at read
    cases read
    rw [same, List.forall_mem_cons, List.forall_mem_cons, List.forall_mem_cons] at every
    have predicate := bind_nonBlank? every.2.2.2
    refine ⟨u, v, rest, by rw [same, String.toList_ofList], predicate, fun nothing => ends ?_⟩
    simpa [predicate] using nothing

end DocQuery
