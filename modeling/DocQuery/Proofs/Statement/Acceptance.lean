import DocQuery.Proofs.Text.CommaLists
import DocQuery.Statement.Safety

/-! # Accepted statements

When a statement passes the check, and what this says about the words in it. A part of an accepted
statement, cut out between words, has no refused word either, and not more names of functions.

* `Accepted` — the conditions on a statement.
* `checkStatement_eq_ok_iff` — they are the check.
* `nothingRefused_iff` — every refused phrase ends with a word that is refused alone.
* `countFunctions_append`, `countFunctions_le` — the names of functions in the parts of a text.
-/

namespace DocQuery

open DocQuery.Text Safety

variable {word : String} {c : Char} {s t w front back r : List Char} {before : Option Char}

/-! ## Parts between words -/

theorem startsWord_append (first : startsWord s.getLast? = true)
    (second : startsWord t.getLast? = true) : startsWord (s ++ t).getLast? = true := by
  rw [List.getLast?_append]
  cases last : t.getLast? with
  | none => exact first
  | some d => rwa [last] at second

theorem startsWord_concat (separates : isWordChar c = false) :
    startsWord (s ++ [c]).getLast? = true := by
  simp [startsWord, separates]

theorem endsWord_append (first : endsWord s = true) (second : endsWord t = true) :
    endsWord (s ++ t) = true := by
  cases s with
  | nil => exact second
  | cons c s => exact first

theorem Text.Gap.startsWord (gap : Gap) : startsWord gap.text.getLast? = true := by
  cases gap <;> rfl

theorem Text.Gap.endsWord (gap : Gap) : endsWord gap.text = true := by
  cases gap <;> rfl

/-- What a text lacks, a part of it that is cut out between words lacks too. -/
theorem lacks_part (keyword : IsKeyword word) (starts : startsWord front.getLast? = true)
    (ends : endsWord back = true) (lacks : Lacks word (front ++ (w ++ back))) : Lacks word w := by
  rw [lacks_iff] at lacks ⊢
  rintro first rest rfl begins
  have none := lacks (front ++ first) (rest ++ back) (by simp) ?_
  · rwa [wholeKeyword?_append keyword ends, Option.map_eq_none_iff] at none
  · rw [List.getLast?_append]
    cases last : first.getLast? with
    | none => exact starts
    | some d => rwa [last] at begins

/-- An item of a list stands between words. -/
theorem Text.CommaList.exists_parts {α : Type} {print : α → List Char} {list : CommaList α}
    {item : α} (member : item ∈ list.items) :
    ∃ front back, list.text print = front ++ (print item ++ back) ∧
      startsWord front.getLast? = true ∧ endsWord back = true := by
  induction list with
  | last only =>
    obtain rfl := List.mem_singleton.mp member
    exact ⟨[], [], by simp [text], rfl, rfl⟩
  | cons first before after rest ih =>
    rcases List.mem_cons.mp member with rfl | later
    · exact ⟨[], _, rfl, rfl, endsWord_append before.endsWord rfl⟩
    · obtain ⟨front, back, parts, starts, ends⟩ := ih later
      have comma : startsWord (',' :: after.text ++ front).getLast? = true :=
        startsWord_append (by cases after <;> rfl) starts
      refine ⟨(print first ++ before.text) ++ (',' :: after.text ++ front), back, ?_, ?_, ends⟩
      · simp [text, parts]
      · rwa [List.getLast?_append_of_ne_nil _ (by simp)]

/-! ## Refused phrases -/

/-- The last words of the refused phrases. -/
def refusedWords : List String := refusedPhrases.filterMap List.getLast?

/-- Each of them is refused alone. -/
theorem refused_alone : ∀ word ∈ refusedWords, IsKeyword word ∧ [word] ∈ refusedPhrases := by decide

/-- A phrase that is read ends with its last word, which begins the phrase or follows a blank. -/
theorem phrase?_eq_some {phrase : List String} (read : phrase? phrase s = some r) :
    ∃ word front rest, phrase.getLast? = some word ∧ s = front ++ rest ∧
      front.getLast?.all isBlank = true ∧ wholeKeyword? word rest = some r := by
  induction phrase generalizing s with
  | nil => cases read
  | cons word more ih =>
    cases more with
    | nil => exact ⟨word, [], s, rfl, rfl, rfl, read⟩
    | cons next more =>
      obtain ⟨afterWord, spelled, goesOn⟩ := Option.bind_eq_some_iff.mp read
      obtain ⟨behind, blanks, later⟩ := Option.bind_eq_some_iff.mp goesOn
      obtain ⟨p, rfl, -⟩ := letters?_eq_some spelled
      obtain ⟨gap, b, rfl, blank⟩ := blanks?_eq_some blanks
      obtain ⟨last, front, rest, isLast, rfl, begins, found⟩ := ih later
      refine ⟨last, (p ++ gap) ++ b :: front, rest, by simpa using isLast, by simp, ?_, found⟩
      rw [List.getLast?_append, List.getLast?_cons]
      cases last : front.getLast? with
      | none => exact blank b (by simp)
      | some d => simpa [last] using begins

theorem refused?_eq_none_iff :
    refused? s = none ↔ ∀ phrase ∈ refusedPhrases, phrase? phrase s = none := by
  rw [refused?, Option.map_eq_none_iff, List.findSome?_eq_none_iff]

/-- A text has no refused phrase exactly if it has no word that ends one. -/
theorem nothingRefused_iff :
    searchWord? refused? s = none ↔ ∀ word ∈ refusedWords, Lacks word s := by
  constructor
  · intro nowhere word listed
    rw [lacks_iff]
    intro front rest same starts
    have fails := searchWord?_eq_none_iff.mp nowhere front rest same starts
    exact refused?_eq_none_iff.mp fails [word] (refused_alone word listed).2
  · intro lacks
    rw [searchWord?_eq_none_iff]
    rintro front rest rfl starts
    rw [refused?_eq_none_iff]
    intro phrase listed
    cases read : phrase? phrase rest with
    | none => rfl
    | some r =>
      -- the last word of the phrase is in the text too, at a place where a word can start
      obtain ⟨word, inner, last, isLast, rfl, begins, found⟩ := phrase?_eq_some read
      have none := lacks_iff.mp (lacks word (List.mem_filterMap.mpr ⟨phrase, listed, isLast⟩))
        (front ++ inner) last (by simp) ?_
      · cases none.symm.trans found
      · refine startsWord_append starts ?_
        cases ends : inner.getLast? with
        | none => rfl
        | some d =>
          rw [ends] at begins
          simp [startsWord, isWordChar_of_isBlank begins]

/-! ## Names of functions -/

theorem functionName?_eq_none_iff :
    functionName? s = none ↔ ∀ name ∈ functionNames, wholeKeyword? name s = none := by
  rw [functionName?, List.findSome?_eq_none_iff]

theorem isKeyword_functionNames : ∀ name ∈ functionNames, IsKeyword name := by decide

theorem isSome_functionName?_append (ends : endsWord t = true) :
    (functionName? (s ++ t)).isSome = (functionName? s).isSome := by
  have same : functionName? (s ++ t) = none ↔ functionName? s = none := by
    simp only [functionName?_eq_none_iff]
    refine forall₂_congr fun name listed => ?_
    rw [wholeKeyword?_append (isKeyword_functionNames name listed) ends, Option.map_eq_none_iff]
  rw [Bool.eq_iff_iff, Option.isSome_iff_ne_none, Option.isSome_iff_ne_none, ne_eq, ne_eq, same]

theorem functionName?_nil (ends : endsWord s = true) : functionName? s = none :=
  functionName?_eq_none_iff.mpr fun name listed =>
    wholeKeyword?_nil (isKeyword_functionNames name listed) ends

/-- What is counted does not depend on the character in front, if a word can start behind it. -/
theorem countFunctions_start (starts : startsWord before = true) (s : List Char) :
    countFunctions before s = countFunctions none s := by
  cases s with
  | nil => rfl
  | cons c s => simp [countFunctions, atWordStart, starts, show startsWord none = true from rfl]

/-- Nor does it where no word can start. -/
theorem countFunctions_ends (before : Option Char) (ends : endsWord t = true) :
    countFunctions before t = countFunctions none t := by
  cases t with
  | nil => rfl
  | cons c t => simp [countFunctions, atWordStart, functionName?_nil ends]

theorem countFunctions_append (before : Option Char) (s : List Char) (ends : endsWord t = true) :
    countFunctions before (s ++ t) = countFunctions before s + countFunctions none t := by
  induction s generalizing before with
  | nil => simp [countFunctions, countFunctions_ends before ends]
  | cons c s ih =>
    -- no name reaches over the end of the first text, since a word ends there
    have here : (atWordStart functionName? before (c :: s ++ t)).isSome =
        (atWordStart functionName? before (c :: s)).isSome := by
      unfold atWordStart
      split
      · exact isSome_functionName?_append ends
      · rfl
    rw [List.cons_append] at here ⊢
    rw [countFunctions, countFunctions, here, ih, Nat.add_assoc]

theorem countFunctions_append_cons (separates : isWordChar c = false) (s t : List Char) :
    countFunctions none (s ++ c :: t) = countFunctions none s + countFunctions none t := by
  have ends : endsWord (c :: t) = true := by simp [endsWord, separates]
  have starts : startsWord (some c) = true := by simp [startsWord, separates]
  rw [countFunctions_append none s ends, countFunctions, countFunctions_start starts, atWordStart,
    if_pos (show startsWord none = true from rfl), functionName?_nil ends]
  simp

/-- Behind the start of a text no more names are counted than in all of it. -/
theorem countFunctions_le (starts : startsWord s.getLast? = true) (t : List Char) :
    countFunctions none t ≤ countFunctions none (s ++ t) := by
  have general (before : Option Char) (s : List Char) :
      countFunctions (s.getLast?.or before) t ≤ countFunctions before (s ++ t) := by
    induction s generalizing before with
    | nil => simp
    | cons c s ih =>
      rw [getLast?_cons_or, List.cons_append, countFunctions]
      exact (ih (some c)).trans (Nat.le_add_left _ _)
  have counted := general none s
  rwa [Option.or_none, countFunctions_start starts] at counted

theorem countFunctions_eq_zero (lacks : ∀ name ∈ functionNames, Lacks name s) :
    countFunctions none s = 0 := by
  have general (before : Option Char) (s : List Char)
      (absent : ∀ front rest, s = front ++ rest → startsWord (front.getLast?.or before) = true →
        functionName? rest = none) : countFunctions before s = 0 := by
    induction s generalizing before with
    | nil => rfl
    | cons c s ih =>
      have here : atWordStart functionName? before (c :: s) = none := by
        unfold atWordStart
        split
        · rename_i starts
          exact absent [] (c :: s) rfl starts
        · rfl
      have later := ih (some c) fun front rest same starts =>
        absent (c :: front) rest (by rw [same, List.cons_append]) (by rwa [getLast?_cons_or])
      rw [countFunctions, here, later]
      rfl
  refine general none s fun front rest same starts => functionName?_eq_none_iff.mpr ?_
  exact fun name listed => lacks_iff.mp (lacks name listed) front rest same (by simpa using starts)

/-! ## The check -/

/-- The conditions on a statement. -/
structure Accepted (forbidCastSort : Bool) (s : List Char) : Prop where
  written : trim s ≠ []
  allowed : ∀ c ∈ s, isForbidden c = false
  lacks : ∀ word ∈ refusedWords, Lacks word s
  noCastSort : (forbidCastSort && occurs castCall? s && occurs orderBy? s) = false
  noInnerPattern : occurs innerPattern? s = false
  oneFunction : countFunctions none s ≤ 1

theorem accepted_iff {forbid : Bool} : Accepted forbid s ↔
    trim s ≠ [] ∧ (∀ c ∈ s, isForbidden c = false) ∧ searchWord? refused? s = none ∧
      (forbid && occurs castCall? s && occurs orderBy? s) = false ∧
      occurs innerPattern? s = false ∧ countFunctions none s ≤ 1 := by
  rw [nothingRefused_iff]
  exact ⟨fun ⟨written, allowed, lacks, noSort, noPattern, one⟩ =>
      ⟨written, allowed, lacks, noSort, noPattern, one⟩,
    fun ⟨written, allowed, lacks, noSort, noPattern, one⟩ =>
      ⟨written, allowed, lacks, noSort, noPattern, one⟩⟩

instance (forbid : Bool) (s : List Char) : Decidable (Accepted forbid s) :=
  decidable_of_iff _ accepted_iff.symm

theorem checkStatement_eq_ok_iff {forbid : Bool} {sql : String} :
    checkStatement forbid sql = .ok () ↔ Accepted forbid sql.toList := by
  have nonblank : (trim sql.toList).isEmpty = false ↔ trim sql.toList ≠ [] := by
    cases trim sql.toList <;> simp
  constructor
  · intro passes
    -- each test of the check gives one of the conditions
    simp only [checkStatement] at passes
    split at passes
    · cases passes
    rename_i written
    split at passes
    · cases passes
    rename_i allowed
    split at passes
    · cases passes
    rename_i nowhere
    split at passes
    · cases passes
    rename_i noCastSort
    split at passes
    · cases passes
    rename_i noInnerPattern
    split at passes
    · cases passes
    rename_i oneFunction
    exact ⟨nonblank.mp (by simpa using written), by simpa using allowed,
      nothingRefused_iff.mp nowhere, by simpa using noCastSort, by simpa using noInnerPattern,
      Nat.not_lt.mp oneFunction⟩
  · intro accepted
    have allowed : sql.toList.find? isForbidden = none := by
      rw [List.find?_eq_none]
      exact fun c member => by simp [accepted.allowed c member]
    have oneFunction : ¬ 1 < countFunctions none sql.toList := Nat.not_lt.mpr accepted.oneFunction
    simp only [checkStatement, nonblank.mpr accepted.written, allowed,
      nothingRefused_iff.mpr accepted.lacks, accepted.noCastSort, accepted.noInnerPattern,
      oneFunction, Bool.false_eq_true, if_false]

end DocQuery
