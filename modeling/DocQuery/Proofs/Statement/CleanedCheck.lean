import DocQuery.Client.Basic
import DocQuery.Proofs.Condition.Blank
import DocQuery.Proofs.Statement.Acceptance
import Mathlib.Data.List.DropRight

/-! # Checking cleaned statements

A statement is checked as it stands, but its clean form is read and run. Cleaning brings nothing to
a text that the check refuses, and it takes nothing away but the two blanks that are refused
themselves.

* `Reads`, `NeedsSolid` — readers that find the same behind cleaning, and nothing at a blank.
* `places_clean`, `searchWord?_clean` — such a reader succeeds at as many places.
* `occurs_clean`, `countFunctions_clean` — what the check looks for.
* `accepted_iff_clean`, `checkStatement_iff_clean` — the check before and after cleaning.
-/

namespace DocQuery

open DocQuery.Text Safety

variable {β : Type} {c e : Char} {s : List Char} {before : Option Char}

namespace Text

/-! ## Readers -/

/-- A reader that finds the same behind cleaning, and what it leaves is cleaned too. -/
def Reads (change : β → β) (read : List Char → Option β) : Prop :=
  ∀ s, read (cleanTail s) = (read s).map change

/-- A reader that does not succeed at a blank, nor at the end. -/
def NeedsSolid (read : List Char → Option β) : Prop :=
  ∀ s, s.head?.all isBlank = true → read s = none

theorem needsSolid_letters? {letters : List Char} (nonempty : letters ≠ [])
    (upper : ∀ k ∈ letters, k.isUpper = true) : NeedsSolid (letters? letters) := by
  intro s blank
  obtain ⟨k, ks, rfl⟩ := List.exists_cons_of_ne_nil nonempty
  cases s with
  | nil => rfl
  | cons c s =>
    refine if_neg fun spelled => ?_
    have solid := isBlank_of_spells (upper k List.mem_cons_self) spelled
    simp [solid] at blank

theorem needsSolid_keyword? {word : String} (isKeyword : IsKeyword word) :
    NeedsSolid (keyword? word) :=
  needsSolid_letters? isKeyword.nonempty isKeyword.upper

theorem needsSolid_wholeKeyword? {word : String} (isKeyword : IsKeyword word) :
    NeedsSolid (wholeKeyword? word) := by
  intro s blank
  rw [wholeKeyword?, needsSolid_keyword? isKeyword s blank]

theorem needsSolid_char? (solid : isBlank e = false) : NeedsSolid (char? e) := by
  intro s blank
  cases s with
  | nil => rfl
  | cons c s =>
    refine if_neg ?_
    rintro rfl
    simp [solid] at blank

theorem NeedsSolid.bind {first : List Char → Option (List Char)} (needs : NeedsSolid first)
    (next : List Char → Option β) : NeedsSolid fun s => (first s).bind next := by
  intro s blank
  simp only [needs s blank, Option.bind_none]

theorem NeedsSolid.findSome? {α : Type} {list : List α} {read : α → List Char → Option β}
    (each : ∀ a ∈ list, NeedsSolid (read a)) : NeedsSolid fun s => list.findSome? (read · s) :=
  fun s blank => List.findSome?_eq_none_iff.mpr fun a member => each a member s blank

theorem endsWord_cleanTail (s : List Char) : endsWord (cleanTail s) = endsWord s := by
  cases s with
  | nil => rfl
  | cons c s =>
    cases here : isBlank c with
    | false =>
      rw [cleanTail_cons_solid here]
      rfl
    | true =>
      rw [endsWord, isWordChar_of_isBlank here, cleanTail_cons_blank here]
      split <;> rfl

namespace Reads

variable {change : β → β}

theorem of_needsSolid {read : List Char → Option β} (needs : NeedsSolid read)
    (behind : ∀ c s, isBlank c = false → read (c :: cleanTail s) = (read (c :: s)).map change) :
    Reads change read := by
  intro s
  cases s with
  | nil => rw [needs [] rfl, cleanTail, needs [] rfl, Option.map_none]
  | cons c s =>
    cases here : isBlank c with
    | false => rw [cleanTail_cons_solid here, behind c s here]
    | true =>
      rw [needs (c :: s) (by simpa using here), cleanTail_cons_blank here, Option.map_none]
      split
      · exact needs [] rfl
      · exact needs _ rfl

theorem letters {letters : List Char} (upper : ∀ k ∈ letters, k.isUpper = true) :
    Reads cleanTail (letters? letters) := by
  induction letters with
  | nil => exact fun _ => rfl
  | cons k ks ih =>
    refine of_needsSolid (needsSolid_letters? (List.cons_ne_nil k ks) upper) fun c s _ => ?_
    rw [letters?, letters?]
    split
    · exact ih (fun l member => upper l (List.mem_cons_of_mem k member)) s
    · rfl

theorem keyword {word : String} (isKeyword : IsKeyword word) : Reads cleanTail (keyword? word) :=
  letters isKeyword.upper

theorem char (solid : isBlank e = false) : Reads cleanTail (char? e) := by
  refine of_needsSolid (needsSolid_char? solid) fun c s _ => ?_
  rw [char?, char?]
  split <;> rfl

theorem bind {first : List Char → Option (List Char)} {next : List Char → Option β}
    (reads : Reads cleanTail first) (readsNext : Reads change next) :
    Reads change fun s => (first s).bind next := by
  intro s
  simp only [reads s]
  cases first s with
  | none => rfl
  | some rest => exact readsNext rest

theorem findSome? {α : Type} {list : List α} {read : α → List Char → Option β}
    (each : ∀ a ∈ list, Reads change (read a)) :
    Reads change fun s => list.findSome? (read · s) := by
  intro s
  induction list with
  | nil => rfl
  | cons a list ih =>
    obtain ⟨here, others⟩ := List.forall_mem_cons.mp each
    simp only [List.findSome?_cons, here s]
    cases read a s with
    | none => exact ih others
    | some found => rfl

theorem skip {next : List Char → Option β} (reads : Reads change next) :
    Reads change fun s => next (skipBlanks s) := by
  intro s
  simp only [skipBlanks_cleanTail, reads (skipBlanks s)]

/-- Behind blanks a word has to follow, since cleaning takes off those at the end. -/
theorem blanks {next : List Char → Option β} (reads : Reads change next)
    (needs : NeedsSolid next) : Reads change fun s => (blanks? s).bind next := by
  intro s
  cases s with
  | nil => rfl
  | cons c s =>
    cases here : isBlank c with
    | false => simp [cleanTail_cons_solid here, blanks?, here]
    | true =>
      have found : blanks? (c :: s) = some (skipBlanks s) := if_pos here
      simp only [found, cleanTail_cons_blank here, Option.bind_some]
      split
      · rename_i none
        rw [none, needs [] rfl]
        rfl
      · have again : skipBlanks (skipBlanks s) = skipBlanks s :=
          List.dropWhile_idempotent isBlank s
        rw [blanks?, if_pos (show isBlank ' ' = true from rfl), skipBlanks_cleanTail, again,
          Option.bind_some, reads]

theorem wholeKeyword {word : String} (isKeyword : IsKeyword word) :
    Reads cleanTail (wholeKeyword? word) := by
  intro s
  rw [wholeKeyword?, wholeKeyword?, keyword isKeyword s]
  cases keyword? word s with
  | none => rfl
  | some rest =>
    simp only [Option.map_some, endsWord_cleanTail]
    split <;> rfl

end Reads

/-! ## Places -/

/-- The number of places where a word can start and the reader succeeds. -/
def places (read : List Char → Option β) : Option Char → List Char → Nat
  | _, [] => 0
  | before, c :: s =>
    (if (atWordStart read before (c :: s)).isSome then 1 else 0) + places read (some c) s

section places

variable {change : β → β} {read : List Char → Option β}

/-- Only the first place hangs on the character in front. -/
theorem places_before {other : Option Char}
    (same : s.head?.all isBlank = true ∨ startsWord before = startsWord other)
    (needs : NeedsSolid read) : places read before s = places read other s := by
  cases s with
  | nil => rfl
  | cons c s =>
    have here : (atWordStart read before (c :: s)).isSome =
        (atWordStart read other (c :: s)).isSome := by
      unfold atWordStart
      rcases same with blank | starts
      · rw [needs _ blank, ite_self, ite_self]
      · rw [starts]
    rw [places, places, here]

theorem places_cons_blank (blank : isBlank c = true) (needs : NeedsSolid read)
    (before : Option Char) (s : List Char) :
    places read before (c :: s) = places read none s := by
  have starts : startsWord (some c) = startsWord none := by
    simp [startsWord, isWordChar_of_isBlank blank]
  rw [places, atWordStart_eq_none (needs _ (by simpa using blank)),
    places_before (.inr starts) needs]
  simp

theorem places_cleanTail (reads : Reads change read) (needs : NeedsSolid read)
    (before : Option Char) (s : List Char) :
    places read before (cleanTail s) = places read before s := by
  induction s generalizing before with
  | nil => rfl
  | cons c s ih =>
    cases here : isBlank c with
    | false =>
      have first : (atWordStart read before (c :: cleanTail s)).isSome =
          (atWordStart read before (c :: s)).isSome := by
        unfold atWordStart
        split
        · rw [← cleanTail_cons_solid here, reads, Option.isSome_map]
        · rfl
      rw [cleanTail_cons_solid here, places, places, first, ih]
    | true =>
      -- no place is lost with the blank, and behind it a word can start as before
      rw [places_cons_blank here needs]
      cases more : s.head?.all isBlank with
      | true => rw [cleanTail_cons_more here more, ih, places_before (.inl more) needs]
      | false => rw [cleanTail_cons_last here more, places_cons_blank rfl needs, ih]

/-- Cleaning leaves as many places where the reader succeeds. -/
theorem places_clean (reads : Reads change read) (needs : NeedsSolid read) (s : List Char) :
    places read none (clean s) = places read none s := by
  rw [(clean_eq_cleanTail s).2, places_cleanTail reads needs]
  induction s with
  | nil => rfl
  | cons c s ih =>
    cases here : isBlank c with
    | false => rw [skipBlanks_cons_solid here]
    | true => rw [skipBlanks_cons_blank here, places_cons_blank here needs, ih]

theorem search?_eq_none_iff_places (needs : NeedsSolid read) (before : Option Char) :
    search? (atWordStart read) before s = none ↔ places read before s = 0 := by
  induction s generalizing before with
  | nil => simp [search?, places, atWordStart, needs [] rfl]
  | cons c s ih =>
    rw [places, search?]
    cases atWordStart read before (c :: s) with
    | none => simp [ih]
    | some found => simp

theorem searchWord?_clean (reads : Reads change read) (needs : NeedsSolid read) (s : List Char) :
    searchWord? read (clean s) = none ↔ searchWord? read s = none := by
  rw [searchWord?, searchWord?, search?_eq_none_iff_places needs,
    search?_eq_none_iff_places needs, places_clean reads needs]

end places

end Text

/-! ## What is refused -/

theorem countFunctions_eq_places (before : Option Char) (s : List Char) :
    countFunctions before s = places functionName? before s := by
  induction s generalizing before with
  | nil => rfl
  | cons c s ih => rw [countFunctions, places, ih]

theorem lacks_clean {word : String} (isKeyword : IsKeyword word) (s : List Char) :
    Lacks word (clean s) ↔ Lacks word s := by
  rw [lacks_words_iff isKeyword, lacks_words_iff isKeyword, words_clean]

theorem occurs_clean {change : β → β} {read : List Char → Option β} (reads : Reads change read)
    (needs : NeedsSolid read) (s : List Char) : occurs read (clean s) = occurs read s := by
  rw [Bool.eq_iff_iff, occurs, occurs, Option.isSome_iff_ne_none, Option.isSome_iff_ne_none,
    ne_eq, ne_eq, searchWord?_clean reads needs]

theorem occurs_castCall?_clean (s : List Char) :
    occurs castCall? (clean s) = occurs castCall? s :=
  occurs_clean ((Reads.keyword (by decide)).bind (Reads.char rfl).skip)
    ((needsSolid_keyword? (by decide)).bind _) s

theorem occurs_orderBy?_clean (s : List Char) : occurs orderBy? (clean s) = occurs orderBy? s :=
  occurs_clean ((Reads.keyword (by decide)).bind
      ((Reads.wholeKeyword (by decide)).blanks (needsSolid_wholeKeyword? (by decide))))
    ((needsSolid_keyword? (by decide)).bind _) s

/-- Whether a pattern that began with a wildcard ends with one, at the next quote. -/
def innerPatternEnd? (s : List Char) : Option Unit :=
  let body := s.takeWhile (· != '\'')
  if body.length < s.length && body.getLast? == some '%' then some () else none

theorem bne_of_notMem (absent : e ∉ s) : ∀ c ∈ s, (c != e) = true :=
  fun _ member => bne_iff_ne.mpr fun same => absent (same ▸ member)

theorem innerPatternEnd?_append (unquoted : '\'' ∉ s) (t : List Char) :
    innerPatternEnd? (s ++ '\'' :: t) = if s.getLast? = some '%' then some () else none := by
  have body : (s ++ '\'' :: t).takeWhile (· != '\'') = s := by
    rw [List.takeWhile_append_of_pos (bne_of_notMem unquoted)]
    simp
  simp [innerPatternEnd?, body]

theorem innerPatternEnd?_of_notMem (unquoted : '\'' ∉ s) : innerPatternEnd? s = none := by
  have body : s.takeWhile (· != '\'') = s :=
    List.takeWhile_eq_self_iff.mpr (bne_of_notMem unquoted)
  simp [innerPatternEnd?, body]

theorem reads_innerPatternEnd? : Reads id innerPatternEnd? := by
  intro s
  rw [Option.map_id, id]
  by_cases quoted : '\'' ∈ s
  · -- only the last character in front of the quote counts, and a blank there stays a blank
    obtain ⟨body, rest, rfl, unquoted⟩ := List.eq_append_cons_of_mem quoted
    have stays : '\'' ∉ squeeze body := fun member =>
      (mem_squeeze member).elim (by decide) unquoted
    have last : (squeeze body).getLast? = some '%' ↔ body.getLast? = some '%' := by
      rw [getLast?_squeeze]
      cases body.getLast? with
      | none => rfl
      | some c =>
        rw [Option.map_some, Option.some.injEq, Option.some.injEq]
        split
        · rename_i blank
          refine iff_of_false (by decide) ?_
          rintro rfl
          cases blank
        · rfl
    rw [cleanTail_append_cons rfl, innerPatternEnd?_append unquoted, innerPatternEnd?_append stays]
    simp only [last]
  · have stays : '\'' ∉ cleanTail s := fun member =>
      (mem_cleanTail member).elim (by decide) quoted
    rw [innerPatternEnd?_of_notMem quoted, innerPatternEnd?_of_notMem stays]

theorem occurs_innerPattern?_clean (s : List Char) :
    occurs innerPattern? (clean s) = occurs innerPattern? s :=
  occurs_clean ((Reads.keyword (by decide)).bind
      (((Reads.char rfl).bind ((Reads.char rfl).bind reads_innerPatternEnd?)).blanks
        ((needsSolid_char? rfl).bind _)))
    ((needsSolid_keyword? (by decide)).bind _) s

theorem countFunctions_clean (s : List Char) :
    countFunctions none (clean s) = countFunctions none s := by
  rw [countFunctions_eq_places, countFunctions_eq_places]
  exact places_clean
    (Reads.findSome? fun name listed => Reads.wholeKeyword (isKeyword_functionNames name listed))
    (NeedsSolid.findSome? fun name listed =>
      needsSolid_wholeKeyword? (isKeyword_functionNames name listed)) s

/-! ## The check -/

theorem mem_clean_iff_of_solid (solid : isBlank c = false) (s : List Char) :
    c ∈ clean s ↔ c ∈ s := by
  have same : (clean s).filter (!isBlank ·) = s.filter (!isBlank ·) := by
    rw [← flatten_words, ← flatten_words, words_clean]
  have kept (t : List Char) : c ∈ t.filter (!isBlank ·) ↔ c ∈ t := by simp [solid]
  rw [← kept (clean s), same, kept]

theorem isSolid_clean (s : List Char) : IsSolid (clean s) ↔ IsSolid s :=
  exists_congr fun _ => and_congr_left fun solid => mem_clean_iff_of_solid solid s

/-- The vertical tab and the form feed are blanks, and the only ones that are refused. -/
theorem isForbidden_of_mem_blanks :
    ∀ c ∈ blanks, isForbidden c = false ∨ c = '\x0b' ∨ c = '\x0c' := by
  decide

/-- A statement is accepted exactly if its clean form is, and no blank in it is refused. -/
theorem accepted_iff_clean (forbid : Bool) (s : List Char) :
    Accepted forbid s ↔ Accepted forbid (clean s) ∧ '\x0b' ∉ s ∧ '\x0c' ∉ s := by
  have written : trim (clean s) ≠ [] ↔ trim s ≠ [] := by
    rw [ne_eq, ne_eq, trim_eq_nil_iff, trim_eq_nil_iff, isSolid_clean]
  have lacks : (∀ word ∈ refusedWords, Lacks word (clean s)) ↔
      ∀ word ∈ refusedWords, Lacks word s :=
    forall₂_congr fun word listed => lacks_clean (refused_alone word listed).1 s
  constructor
  · rintro ⟨some_, allowed, nothing, noCastSort, noInnerPattern, oneFunction⟩
    rw [← occurs_castCall?_clean, ← occurs_orderBy?_clean] at noCastSort
    rw [← occurs_innerPattern?_clean] at noInnerPattern
    rw [← countFunctions_clean] at oneFunction
    have cleaned : ∀ c ∈ clean s, isForbidden c = false := fun c member => by
      rcases mem_clean member with rfl | inside
      · rfl
      · exact allowed c inside
    have noTab : '\x0b' ∉ s := fun member => by cases allowed _ member
    have noFeed : '\x0c' ∉ s := fun member => by cases allowed _ member
    exact ⟨⟨written.mpr some_, cleaned, lacks.mpr nothing, noCastSort, noInnerPattern,
      oneFunction⟩, noTab, noFeed⟩
  · rintro ⟨⟨some_, cleaned, nothing, noCastSort, noInnerPattern, oneFunction⟩, noTab, noFeed⟩
    rw [occurs_castCall?_clean, occurs_orderBy?_clean] at noCastSort
    rw [occurs_innerPattern?_clean] at noInnerPattern
    rw [countFunctions_clean] at oneFunction
    have allowed : ∀ c ∈ s, isForbidden c = false := fun c member => by
      cases here : isBlank c with
      | true =>
        rcases isForbidden_of_mem_blanks c (mem_blanks here) with fine | rfl | rfl
        · exact fine
        · exact absurd member noTab
        · exact absurd member noFeed
      | false => exact cleaned c ((mem_clean_iff_of_solid here s).mpr member)
    exact ⟨written.mp some_, allowed, lacks.mp nothing, noCastSort, noInnerPattern, oneFunction⟩

/-- The check accepts a statement exactly if it accepts the clean form and the statement has none of
the two blanks that are refused. So a client runs only what the check accepts: checking again what
it runs changes nothing. -/
theorem checkStatement_iff_clean {σ α : Type} (forbid : Bool) (sql : String) :
    (checkStatement forbid sql = .ok () ↔
        checkStatement forbid (cleanStatement sql) = .ok () ∧
          '\x0b' ∉ sql.toList ∧ '\x0c' ∉ sql.toList) ∧
      ∀ (client : Client σ) (next : String → Call σ α),
        client.run sql (fun text => do
          Call.ofExcept (checkStatement client.settings.forbidCastSort text)
          next text) = client.run sql next := by
  have iff (forbid : Bool) : checkStatement forbid sql = .ok () ↔
      checkStatement forbid (cleanStatement sql) = .ok () ∧
        '\x0b' ∉ sql.toList ∧ '\x0c' ∉ sql.toList := by
    rw [checkStatement_eq_ok_iff, checkStatement_eq_ok_iff, cleanStatement, String.toList_ofList]
    exact accepted_iff_clean forbid sql.toList
  refine ⟨iff forbid, fun client next => funext fun session => ?_⟩
  cases checked : checkStatement client.settings.forbidCastSort sql with
  | error e => simp [Client.run, Call.ofExcept, bind, Call.andThen, checked]
  | ok _ =>
    have again := ((iff _).mp checked).1
    simp [Client.run, Call.ofExcept, bind, Call.andThen, checked, again]

end DocQuery
