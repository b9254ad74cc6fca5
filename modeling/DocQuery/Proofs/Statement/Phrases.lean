import DocQuery.Proofs.Statement.CleanedCheck
import DocQuery.Proofs.Statement.ExistsCut

/-! # Phrases in parts of a text

What the check looks for begins with a keyword. A phrase that stands in a part of a text, behind a
character that separates words, stands in the text too, and what is cut off in front of a text holds
no phrase if it lacks the keyword.

* `IsPart` — a text that stands in another one and begins where a word can start.
* `occurs_of_isPart` — what is found at the start of a part is found in the text.
* `IsPhrase` — a reader of a phrase, with what its searches have in common.
* `occurs_append`, `occurs_unwords` — what stands in front of a text does not matter.
* `isPhrase_innerPattern?`, `isPhrase_castCall?`, `isPhrase_atOrder?` — what the check looks for.
-/

namespace DocQuery

open DocQuery.Text Safety

variable {β : Type} {word : String} {read : List Char → Option β} {c : Char}
  {s t w p : List Char}

/-! ## Parts -/

namespace Text

/-- A text that stands in another one, behind a character that separates words. -/
def IsPart (w s : List Char) : Prop := ∃ b, isWordChar b = false ∧ b :: w <:+: s

namespace IsPart

theorem isInfix (part : IsPart w s) : w <:+: s := by
  obtain ⟨b, -, inside⟩ := part
  exact (List.suffix_cons b w).isInfix.trans inside

theorem of_isInfix (part : IsPart w t) (inside : t <:+: s) : IsPart w s := by
  obtain ⟨b, separates, isInfix⟩ := part
  exact ⟨b, separates, isInfix.trans inside⟩

theorem of_isPrefix (part : IsPart w s) (leads : p <+: w) : IsPart p s := by
  obtain ⟨b, separates, isInfix⟩ := part
  exact ⟨b, separates, (List.prefix_cons_inj b |>.mpr leads).isInfix.trans isInfix⟩

/-- What stands in a part, behind some character of it or at its start, is a part as well. -/
theorem trans (part : IsPart w s) (inside : p <+: w ∨ IsPart p w) : IsPart p s := by
  rcases inside with leads | inner
  · exact part.of_isPrefix leads
  · obtain ⟨b, separates, isInfix⟩ := part
    exact inner.of_isInfix ((List.suffix_cons b w).isInfix.trans isInfix)

end IsPart

theorem isPrefix_or_isPart_of_blanks {front : List Char} (blanks : ∀ c ∈ front, isBlank c = true)
    (leads : w <+: t) : w <+: front ++ t ∨ IsPart w (front ++ t) := by
  rcases List.eq_nil_or_concat front with rfl | ⟨init, b, rfl⟩
  · exact .inl leads
  · refine .inr ⟨b, isWordChar_of_isBlank (blanks b (by simp)), ?_⟩
    obtain ⟨back, rfl⟩ := leads
    exact ⟨init, back, by simp⟩

/-- A text without the blanks at its ends. -/
theorem trim_isPart (s : List Char) : trim s <+: s ∨ IsPart (trim s) s := by
  have behind : trim s <+: skipBlanks s := by
    rw [trim, ← List.reverse_suffix, List.reverse_reverse]
    exact List.dropWhile_suffix isBlank
  have blanks : ∀ c ∈ s.takeWhile isBlank, isBlank c = true := fun c => List.mem_takeWhile_imp
  have parts := isPrefix_or_isPart_of_blanks blanks behind
  rwa [skipBlanks, List.takeWhile_append_dropWhile] at parts

theorem trim_isInfix (s : List Char) : trim s <:+: s := by
  rcases trim_isPart s with leads | part
  · exact leads.isInfix
  · exact part.isInfix

/-- The first piece between commas begins the text, and each other one stands behind a comma. -/
theorem listPieces_isPart (quoting : Quoting) (depth : Nat) (s : List Char) :
    ∃ first others, listPieces quoting depth s = first :: others ∧ first <+: s ∧
      ∀ piece ∈ others, IsPart piece s := by
  fun_induction listPieces quoting depth s with
  | case1 => exact ⟨[], [], rfl, List.nil_prefix, by simp⟩
  | case2 depth c rest comma ih =>
    obtain ⟨first, others, cut, leads, parts⟩ := ih
    rw [Bool.and_eq_true, beq_iff_eq] at comma
    obtain rfl := comma.1
    refine ⟨[], listPieces .outside 0 rest, rfl, List.nil_prefix, ?_⟩
    rw [cut, List.forall_mem_cons]
    refine ⟨⟨',', rfl, ((List.prefix_cons_inj ',').mpr leads).isInfix⟩, fun piece member => ?_⟩
    exact (parts piece member).of_isInfix (List.suffix_cons ',' rest).isInfix
  | case3 _ c rest _ ih | case4 _ _ c rest _ ih =>
    obtain ⟨first, others, cut, leads, parts⟩ := ih
    refine ⟨c :: first, others, by rw [cut, consPiece], (List.prefix_cons_inj c).mpr leads, ?_⟩
    exact fun piece member => (parts piece member).of_isInfix (List.suffix_cons c rest).isInfix

/-- An item of a list that is a part of a text is one of the text. -/
theorem IsPart.item (part : IsPart w s) {item : List Char} (member : item ∈ splitList w) :
    IsPart item s := by
  obtain ⟨piece, listed, rfl⟩ := List.mem_map.mp member
  obtain ⟨first, others, cut, leads, parts⟩ := listPieces_isPart .outside 0 w
  rw [cut, List.mem_cons] at listed
  refine IsPart.trans ?_ (trim_isPart piece)
  rcases listed with rfl | later
  · exact part.of_isPrefix leads
  · exact part.trans (.inr (parts piece later))

end Text

/-! ## Places -/

theorem occurs_iff : occurs read s = true ↔ ∃ front rest, s = front ++ rest ∧
    startsWord front.getLast? = true ∧ (read rest).isSome = true := by
  rw [occurs, Option.isSome_iff_ne_none, ne_eq, searchWord?_eq_none_iff]
  simp only [not_forall, Option.isSome_iff_ne_none, exists_prop, ne_eq]

/-- A reader that does not mind what follows. -/
def ReadsOn (read : List Char → Option β) : Prop :=
  ∀ s t, (read s).isSome = true → (read (s ++ t)).isSome = true

theorem ReadsOn.occurs (readsOn : ReadsOn read) (found : occurs read s = true) (t : List Char) :
    occurs read (s ++ t) = true := by
  obtain ⟨front, rest, rfl, starts, here⟩ := occurs_iff.mp found
  exact occurs_iff.mpr ⟨front, rest ++ t, by simp, starts, readsOn rest t here⟩

/-- What is found at the start of a part of a text is found in the text. -/
theorem occurs_of_isPart (readsOn : ReadsOn read) (part : IsPart w s)
    (found : (read w).isSome = true) : occurs read s = true := by
  obtain ⟨b, separates, front, back, rfl⟩ := part
  refine occurs_iff.mpr ⟨front ++ [b], w ++ back, by simp, ?_, readsOn w back found⟩
  exact startsWord_concat separates

theorem occurs_behind (starts : startsWord s.getLast? = true) (found : occurs read t = true) :
    occurs read (s ++ t) = true := by
  obtain ⟨front, rest, rfl, begins, here⟩ := occurs_iff.mp found
  exact occurs_iff.mpr ⟨s ++ front, rest, by simp, startsWord_append starts begins, here⟩

/-! ## Phrases -/

/-- A reader of a phrase that begins with a keyword: it does not mind the spacing of the phrase nor
what follows. -/
structure IsPhrase (word : String) (read : List Char → Option β) : Prop where
  isKeyword : IsKeyword word
  needs : NeedsWord word read
  readsOn : ReadsOn read
  cleaned : ∀ s, occurs read (clean s) = occurs read s

namespace IsPhrase

variable (phrase : IsPhrase word read)

include phrase

/-- Behind a text that lacks the keyword, and is followed by no more characters of a word, only the
rest counts. -/
theorem occurs_append (lacks : Lacks word s) (ends : endsWord t = true)
    (found : occurs read (s ++ t) = true) : occurs read t = true := by
  obtain ⟨front, rest, same, starts, here⟩ := occurs_iff.mp found
  have fails {r : List Char} (absent : wholeKeyword? word r = none) : (read r).isSome = false := by
    rw [phrase.needs r absent, Option.isSome_none]
  rcases List.append_eq_append_iff.mp same with ⟨back, rfl, rfl⟩ | ⟨back, rfl, rfl⟩
  · rcases List.eq_nil_or_concat back with rfl | ⟨init, d, rfl⟩
    · rw [List.nil_append] at ends
      rw [fails (wholeKeyword?_nil phrase.isKeyword ends)] at here
      cases here
    · exact occurs_iff.mpr ⟨init.concat d, rest, rfl, by simpa using starts, here⟩
  · have absent : wholeKeyword? word (back ++ t) = none := by
      rw [wholeKeyword?_append phrase.isKeyword ends, lacks_iff.mp lacks front back rfl starts,
        Option.map_none]
    rw [fails absent] at here
    cases here

/-- A text where no word begins can be put behind any other. -/
theorem occurs_prepend (ends : endsWord t = true) (found : occurs read t = true) (s : List Char) :
    occurs read (s ++ t) = true := by
  obtain ⟨front, rest, rfl, starts, here⟩ := occurs_iff.mp found
  rcases List.eq_nil_or_concat front with rfl | ⟨init, d, rfl⟩
  · have fails : read rest = none := phrase.needs rest (wholeKeyword?_nil phrase.isKeyword ends)
    rw [fails] at here
    cases here
  · exact occurs_iff.mpr ⟨s ++ init.concat d, rest, by simp, by simpa using starts, here⟩

/-- Words that lack the keyword do not count in front of a text. -/
theorem occurs_unwords {ws : List (List Char)} (lacks : ∀ w ∈ ws, Lacks word w)
    (found : occurs read (unwords (ws ++ [s])) = true) : occurs read s = true := by
  induction ws with
  | nil => exact found
  | cons w ws ih =>
    obtain ⟨here, others⟩ := List.forall_mem_cons.mp lacks
    have parts : unwords (w :: ws ++ [s]) = (w ++ [' ']) ++ unwords (ws ++ [s]) := by
      cases ws <;> simp [unwords]
    rw [parts, List.append_assoc] at found
    refine ih others ?_
    have behind := phrase.occurs_append here (by rfl) found
    obtain ⟨front, rest, same, starts, reads⟩ := occurs_iff.mp behind
    cases front with
    | nil =>
      -- no keyword begins with a space
      rw [List.nil_append] at same
      rw [← same, phrase.needs _ (wholeKeyword?_nil phrase.isKeyword rfl)] at reads
      cases reads
    | cons d front =>
      obtain ⟨rfl, later⟩ := List.cons.inj same
      refine occurs_iff.mpr ⟨front, rest, later, ?_, reads⟩
      cases last : front.getLast? with
      | none => rfl
      | some e => simpa [List.getLast?_cons, last] using starts

end IsPhrase

/-! ## What the check looks for -/

namespace ReadsOn

variable {next : List Char → Option β}

theorem char (readsOn : ReadsOn next) (e : Char) : ReadsOn fun s => (char? e s).bind next := by
  intro s t found
  cases s with
  | nil => cases found
  | cons c s =>
    by_cases same : c = e
    · subst same
      simpa [char?] using readsOn s t (by simpa [char?] using found)
    · simp [char?, same] at found

theorem keyword (readsOn : ReadsOn next) (word : String) :
    ReadsOn fun s => (keyword? word s).bind next := by
  intro s t found
  obtain ⟨b, found⟩ := Option.isSome_iff_exists.mp found
  obtain ⟨rest, read, goesOn⟩ := Option.bind_eq_some_iff.mp found
  obtain ⟨p, rfl, spelled⟩ := letters?_eq_some read
  have again : keyword? word (p ++ rest ++ t) = some (rest ++ t) := by
    rw [List.append_assoc, keyword?, letters?_append spelled]
  simpa only [again, Option.bind_some] using readsOn rest t (by rw [goesOn]; rfl)

/-- Blanks end in front of what is read next, so they are the same in a longer text. -/
theorem skip (readsOn : ReadsOn next) (needs : NeedsSolid next) :
    ReadsOn fun s => next (skipBlanks s) := by
  intro s t found
  have solid : s.dropWhile isBlank ≠ [] := by
    intro none
    simp [skipBlanks, none, needs [] rfl] at found
  have same : skipBlanks (s ++ t) = skipBlanks s ++ t := by
    rw [skipBlanks, skipBlanks, List.dropWhile_append]
    simp [solid]
  simpa only [same] using readsOn (skipBlanks s) t found

theorem blanks (readsOn : ReadsOn next) (needs : NeedsSolid next) :
    ReadsOn fun s => (blanks? s).bind next := by
  intro s t found
  cases s with
  | nil => cases found
  | cons c s =>
    cases blank : isBlank c with
    | false => simp [blanks?, blank] at found
    | true =>
      simp only [List.cons_append, blanks?, blank, if_true, Option.bind_some] at found ⊢
      exact readsOn.skip needs s t found

end ReadsOn

theorem readsOn_innerPatternEnd? : ReadsOn innerPatternEnd? := by
  intro s t found
  by_cases quoted : '\'' ∈ s
  · obtain ⟨body, rest, rfl, unquoted⟩ := List.eq_append_cons_of_mem quoted
    rw [innerPatternEnd?_append unquoted] at found
    rwa [List.append_assoc, List.cons_append, innerPatternEnd?_append unquoted]
  · rw [innerPatternEnd?_of_notMem quoted] at found
    cases found

theorem isPhrase_innerPattern? : IsPhrase "LIKE" innerPattern? where
  isKeyword := by decide
  needs := (needs_keyword "LIKE" _).needsWord
  readsOn := (ReadsOn.blanks ((readsOn_innerPatternEnd?.char '%').char '\'')
    ((needsSolid_char? rfl).bind _)).keyword "LIKE"
  cleaned := occurs_innerPattern?_clean

theorem isPhrase_castCall? : IsPhrase "CAST" castCall? where
  isKeyword := by decide
  needs := by
    intro s absent
    refine Option.bind_eq_none_iff.mpr fun rest read => ?_
    by_contra bracket
    obtain ⟨inner, bracket⟩ := Option.ne_none_iff_exists'.mp bracket
    have ends := Select.endsWord_of_bracket bracket
    simp [wholeKeyword?, read, ends] at absent
  readsOn := by
    have bracket : ReadsOn fun s => char? '(' (skipBlanks s) := by
      refine ReadsOn.skip (fun s t found => ?_) (needsSolid_char? rfl)
      cases s with
      | nil => cases found
      | cons c s =>
        simp only [List.cons_append, char?] at found ⊢
        split at found <;> simp_all
    exact bracket.keyword "CAST"
  cleaned := occurs_castCall?_clean

/-- Reads something other than a blank. -/
def solid? : List Char → Option Unit
  | [] => none
  | c :: _ => if isBlank c then none else some ()

/-- Reads the words of an order with something behind them. -/
def atOrder? (s : List Char) : Option Unit :=
  (keyword? "ORDER" s).bind fun s => (blanks? s).bind fun s =>
    (keyword? "BY" s).bind fun s => (blanks? s).bind solid?

theorem needsSolid_solid? : NeedsSolid solid? := by
  intro s blank
  cases s with
  | nil => rfl
  | cons c s => exact if_pos blank

theorem isPhrase_atOrder? : IsPhrase "ORDER" atOrder? where
  isKeyword := by decide
  needs := (needs_keyword "ORDER" _).needsWord
  readsOn := by
    have solid : ReadsOn solid? := by
      intro s t found
      cases s with
      | nil => cases found
      | cons c s => exact found
    exact ((((solid.blanks needsSolid_solid?).keyword "BY").blanks
      ((needsSolid_keyword? (by decide)).bind _)).keyword "ORDER")
  cleaned := by
    have solid : Reads id solid? := .of_needsSolid needsSolid_solid? fun c s here => by
      simp [solid?, here]
    exact occurs_clean
      ((Reads.keyword (by decide)).bind (.blanks
        ((Reads.keyword (by decide)).bind (solid.blanks needsSolid_solid?))
        ((needsSolid_keyword? (by decide)).bind _)))
      ((needsSolid_keyword? (by decide)).bind _)

theorem occurs_orderBy? (found : occurs atOrder? s = true) : occurs orderBy? s = true := by
  obtain ⟨front, rest, rfl, starts, here⟩ := occurs_iff.mp found
  refine occurs_iff.mpr ⟨front, rest, rfl, starts, ?_⟩
  obtain ⟨_, here⟩ := Option.isSome_iff_exists.mp here
  simp only [atOrder?, Option.bind_eq_some_iff] at here
  obtain ⟨afterOrder, order, next, blank, afterBy, by_, last, gap, -⟩ := here
  obtain ⟨inner, b, rfl, blanks⟩ := blanks?_eq_some gap
  have ends : endsWord (inner ++ b :: last) = true := by
    cases inner with
    | nil => simp [endsWord, isWordChar_of_isBlank (blanks b (by simp))]
    | cons c inner => simp [endsWord, isWordChar_of_isBlank (blanks c (by simp))]
  simp [orderBy?, order, blank, wholeKeyword?, by_, ends]

end DocQuery
