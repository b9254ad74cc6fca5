import DocQuery.Proofs.Condition.WrittenValues
import DocQuery.Proofs.Statement.ConditionText
import DocQuery.Proofs.Statement.InsertText
import DocQuery.Proofs.Time.Timestamps

/-! # Texts of literals

A literal is written alike in the rows of an INSERT and in a condition. Its text, as it stands in a
cleaned statement, is read as one value in both places.

* `IsLiteral` — the texts.
* `IsValueText` — a text that is one item of a row and one piece of a condition.
* `IsBareText` — one that begins with no quotation mark and looks like no clause.
* `IsLiteral.clean_cases` — a cleaned literal is the one or in quotes.
-/

namespace DocQuery

open DocQuery.Text Condition

variable {c mark : Char} {s v inner : List Char}

/-- The text of a literal. -/
inductive IsLiteral : List Char → Prop
  /-- One of the words null, true and false, in any case. -/
  | word {s : List Char} : (Literal.word? (String.ofList s)).isSome = true → IsLiteral s
  | integer {s : List Char} : Literal.isInteger s = true → IsLiteral s
  /-- An identifier with its digits in either case. -/
  | objectId {digits : List Char} {id : ObjectId}
      (spelled : digits.map Char.toLower = id.hexChars) :
      IsLiteral (WrittenValue.objectId digits id spelled).text
  /-- A timestamp without quotes. -/
  | instant {s : List Char} {t : Time.Instant} :
      Time.Instant.parse? (String.ofList s) = some t → trim s = s → IsLiteral s
  /-- A string without quotation marks in it. -/
  | quoted {mark : Char} {inner : List Char} : isQuote mark = true →
      (∀ c ∈ inner, isQuote c = false) → IsLiteral (mark :: (inner ++ [mark]))

/-! ## Values in statements -/

/-- The text of a value that stays together in a row and in a condition. -/
structure IsValueText (v : List Char) : Prop where
  first : v.head?.all (!isBlank ·) = true
  ends : EndsSolid v
  oneLine : '\n' ∉ v
  fillsRow : Write.FillsRow v
  oneItem : listPieces .outside 0 v = [v]
  passes : ∀ between, Passes 0 between between v []

/-- The text of a value that is read without quotes and looks like no clause. -/
structure IsBareText (v : List Char) : Prop extends IsValueText v where
  notQuote : v.head?.all (fun c => !isQuote c && c != '[') = true
  noClause : Select.HasNoClause v
  notClause : ∀ word ∈ ["GROUP", "BY", "HAVING", "ORDER"], keyword? word v = none
  /-- There is one bracket at most that opens, and behind no word that ends in S. -/
  noExists : '(' ∉ v ∨ ∃ front c back, v = front ++ c :: '(' :: back ∧ isBlank c = false ∧
    spells 'S' c = false ∧ '(' ∉ front ++ [c] ∧ '(' ∉ back

namespace IsValueText

theorem trimmed (value : IsValueText v) : trim v = v := trim_eq_self value.first value.ends.all

end IsValueText

/-! ## Characters -/

/-- The characters that shield or cut, and the letters that clauses begin with. -/
def guarded : List Char :=
  [',', '\'', '"', '(', '[', ')', ']', 'B', 'b', 'G', 'g', 'H', 'h', 'O', 'o']

/-- A character is written in upper case, or its code is above that of the upper case by 32. -/
theorem eq_or_eq_of_toUpper {k : Char} (same : c.toUpper = k) :
    c = k ∨ c = Char.ofNat (k.toNat + 32) := by
  subst same
  unfold Char.toUpper
  split
  · rename_i range
    have bounds : 97 ≤ c.toNat ∧ c.toNat ≤ 122 := range
    have code : (c.val + ('A'.val - 'a'.val)).toNat = c.toNat - 32 := by
      rw [UInt32.toNat_add]
      change (c.toNat + 4294967264) % _ = _
      omega
    right
    change c = Char.ofNat ((c.val + ('A'.val - 'a'.val)).toNat + 32)
    rw [code, Nat.sub_add_cancel (by omega), Char.ofNat_toNat]
  · exact .inl rfl

theorem isPlain_of_unguarded (other : c ∉ guarded) : isPlain c = true := by
  simp only [guarded, List.mem_cons, List.not_mem_nil, or_false, not_or] at other
  simp [isPlain, isQuote, isOpening, isClosing, other]

theorem toUpper_of_unguarded (other : c ∉ guarded) : c.toUpper ∉ ['B', 'G', 'H', 'O'] := by
  simp only [guarded, List.mem_cons, List.not_mem_nil, or_false, not_or] at other ⊢
  refine ⟨?_, ?_, ?_, ?_⟩ <;> intro same <;> rcases eq_or_eq_of_toUpper same with rfl | rfl <;>
    simp at other

theorem keyword?_of_unguarded (other : ∀ c ∈ v, c ∉ guarded) :
    ∀ word ∈ ["GROUP", "BY", "HAVING", "ORDER"], keyword? word v = none := by
  cases v with
  | nil => decide
  | cons c v =>
    have notFirst := toUpper_of_unguarded (other c List.mem_cons_self)
    simp only [List.mem_cons, List.not_mem_nil, or_false, not_or] at notFirst
    simp [keyword?, letters?, spells, notFirst]

/-- A text of characters that neither shield nor cut and begin no clause is bare, if it stays in
one piece. -/
theorem isBareText_of_unguarded (other : ∀ c ∈ v, c ∉ guarded)
    (first : v.head?.all (!isBlank ·) = true) (ends : EndsSolid v) (oneLine : '\n' ∉ v)
    (passes : ∀ between, Passes 0 between between v []) : IsBareText v := by
  have plain : ∀ c ∈ v, isPlain c = true := fun c member => isPlain_of_unguarded (other c member)
  have unshielded : ∀ c ∈ v, isQuote c = false ∧ c ≠ '(' ∧ c ≠ ')' ∧ c ≠ '[' := by
    intro c member
    have := plain c member
    simp only [isPlain, isOpening, isClosing, Bool.and_eq_true, bne_iff_ne, ne_eq,
      Bool.not_eq_true', Bool.or_eq_false_iff, beq_eq_false_iff_ne] at this
    exact ⟨this.1.1.2, this.1.2.1, this.2.1, this.1.2.2⟩
  have item := listPieces_plain plain 0 []
  rw [List.append_nil] at item
  exact {
    first, ends, oneLine, passes
    fillsRow := .plain fun c member =>
      ⟨(unshielded c member).1, (unshielded c member).2.1, (unshielded c member).2.2.1⟩
    oneItem := by rw [item]; simp [listPieces, prepend]
    notQuote := by
      cases v with
      | nil => rfl
      | cons c v => simpa using ⟨(unshielded c List.mem_cons_self).1,
          (unshielded c List.mem_cons_self).2.2.2⟩
    noClause := fun rest next isSuffix blank => keyword?_of_unguarded fun c member =>
      other c (isSuffix.subset (Select.blanks?_subset blank member))
    notClause := keyword?_of_unguarded other
    noExists := .inl fun member => (unshielded _ member).2.1 rfl }

theorem passes_unguarded {between : Bool} (other : ∀ c ∈ v, c ∉ guarded ∧ c ≠ 'A' ∧ c ≠ 'a')
    (rest : List Char) : Passes 0 between between v rest := by
  induction v with
  | nil => exact .nil
  | cons c v ih =>
    obtain ⟨⟨unguarded, notUpper, notLower⟩, others⟩ := List.forall_mem_cons.mp other
    have plain := isPlain_of_unguarded unguarded
    simp only [isPlain, Bool.and_eq_true, Bool.not_eq_true'] at plain
    have notFirst := toUpper_of_unguarded unguarded
    simp only [List.mem_cons, List.not_mem_nil, or_false, not_or] at notFirst
    have notA : c.toUpper ≠ 'A' := by
      intro same
      rcases eq_or_eq_of_toUpper same with rfl | rfl
      · exact notUpper rfl
      · exact notLower rfl
    refine .cons (passes_plain plain.1.1.2 plain.1.2 plain.2 fun _ before => ?_) (ih others)
    exact joiningWord?_of_first before _ (by simp [notA, notFirst])

/-- A text of a class of characters among which there is no letter of a clause or a connector, and
nothing that shields or cuts. -/
theorem isBareText_of_class {p : Char → Bool} (apart : ('A' :: 'a' :: guarded).all (!p ·) = true)
    (members : ∀ c ∈ v, p c = true) (first : v.head?.all (!isBlank ·) = true)
    (ends : EndsSolid v) (oneLine : '\n' ∉ v) : IsBareText v := by
  have other : ∀ c ∈ v, c ∉ guarded ∧ c ≠ 'A' ∧ c ≠ 'a' := by
    intro c member
    have outside := notMem_of_all apart (members c member)
    simp only [List.mem_cons, not_or] at outside
    exact ⟨outside.2.2, outside.1, outside.2.1⟩
  exact isBareText_of_unguarded (fun c member => (other c member).1) first ends oneLine
    fun _ => passes_unguarded other []

/-! ## Kinds of literals -/

theorem eq_of_word? (read : (Literal.word? (String.ofList s)).isSome = true) :
    ∃ word ∈ ["null".toList, "true".toList, "false".toList], s.map Char.toLower = word := by
  unfold Literal.word? at read
  simp only [eqIgnoreCase, String.toList_ofList, beq_iff_eq] at read
  split at read
  · rename_i same
    exact ⟨_, by simp, same⟩
  split at read
  · rename_i same
    exact ⟨_, by simp, same⟩
  split at read
  · rename_i same
    exact ⟨_, by simp, same⟩
  · cases read

/-- What the words of literals are spelled with. -/
theorem members_of_word? (read : (Literal.word? (String.ofList s)).isSome = true) :
    IsWord s ∧ ∀ c ∈ s, continuesWord c = true ∧ c ∉ guarded := by
  obtain ⟨word, listed, same⟩ := eq_of_word? read
  have letters : ∀ word ∈ ["null".toList, "true".toList, "false".toList], ∀ k ∈ word,
      k ∈ ['n', 'u', 'l', 't', 'r', 'e', 'f', 'a', 's'] := by decide
  let fits (c : Char) : Bool := continuesWord c && !isBlank c && !guarded.contains c
  have every : ∀ k ∈ ['n', 'u', 'l', 't', 'r', 'e', 'f', 'a', 's'],
      fits k = true ∧ fits (Char.ofNat (k.toNat - 32)) = true := by decide
  have members : ∀ c ∈ s, continuesWord c = true ∧ isBlank c = false ∧ c ∉ guarded := by
    intro c member
    have lower : c.toLower ∈ word := same ▸ List.mem_map_of_mem member
    obtain ⟨one, other⟩ := every _ (letters word listed _ lower)
    have fit : fits c = true := by
      rcases eq_or_eq_of_toLower (c := c) rfl with here | ⟨-, here⟩
      · rwa [← here] at one
      · rwa [← here] at other
    simpa [fits, and_assoc] using fit
  have nonempty : s ≠ [] := by
    rintro rfl
    cases same
    simp at listed
  exact ⟨⟨nonempty, fun c member => (members c member).2.1⟩,
    fun c member => ⟨(members c member).1, (members c member).2.2⟩⟩

theorem isBareText_word (read : (Literal.word? (String.ofList s)).isSome = true) :
    IsBareText s := by
  obtain ⟨whole, members⟩ := members_of_word? read
  obtain ⟨word, listed, same⟩ := eq_of_word? read
  have joinsNothing : ∀ joining : JoiningWord, s.map Char.toUpper ≠ joining.letters := by
    intro joining upper
    -- the words have four or five letters
    have long := congrArg List.length same
    have short := congrArg List.length upper
    rw [List.length_map] at long short
    simp only [List.mem_cons, List.not_mem_nil, or_false] at listed
    rcases listed with rfl | rfl | rfl <;> cases joining <;>
      simp [letters_between, letters_and, letters_or, long] at short
  exact isBareText_of_unguarded (fun c member => (members c member).2) whole.first whole.ends
    (fun member => by cases whole.unbroken _ member)
    fun _ => passes_word (fun c member => (members c member).1) (fun _ => joinsNothing) rfl

theorem Literal.parse_null (null : eqIgnoreCase (String.ofList s) "null" = true) :
    Literal.parse (String.ofList (clean s)) = .null := by
  have read : Literal.word? (String.ofList s) = some .null := if_pos null
  have some_ : (Literal.word? (String.ofList s)).isSome = true := by rw [read]; rfl
  have bare := isBareText_word some_
  have word := (members_of_word? some_).1
  rw [clean_word word]
  have trimmed := bare.trimmed
  have notQuote := bare.notQuote
  cases s with
  | nil => exact absurd rfl word.nonempty
  | cons c rest =>
    have unquoted : isQuote c = false := by
      simp only [List.head?_cons, Option.all_some, Bool.and_eq_true, Bool.not_eq_true'] at notQuote
      exact notQuote.1
    simp only [Literal.parse, String.toList_ofList, trimmed, unquote?_of_first unquoted, read]
    rfl

theorem members_of_isInteger (read : Literal.isInteger s = true) :
    IsWord s ∧ ∀ c ∈ s, (isDigit c || c == '-') = true := by
  have members : s ≠ [] ∧ ∀ c ∈ s, (isDigit c || c == '-') = true := by
    unfold Literal.isInteger Literal.magnitude at read
    split at read
    · rename_i digits
      have digits : ∀ c ∈ digits, isDigit c = true := by
        simp only [Bool.and_eq_true] at read
        exact List.all_eq_true.mp read.2
      exact ⟨List.cons_ne_nil _ _, List.forall_mem_cons.mpr
        ⟨rfl, fun c member => by simp [digits c member]⟩⟩
    · simp only [Bool.and_eq_true, Bool.not_eq_true', List.isEmpty_eq_false_iff] at read
      exact ⟨read.1, fun c member => by simp [List.all_eq_true.mp read.2 c member]⟩
  refine ⟨⟨members.1, fun c member => ?_⟩, members.2⟩
  by_contra blank
  exact notMem_of_all (p := fun c => isDigit c || c == '-') (by decide) (members.2 c member)
    (mem_blanks (by simpa using blank))

theorem isBareText_integer (read : Literal.isInteger s = true) : IsBareText s := by
  obtain ⟨whole, members⟩ := members_of_isInteger read
  exact isBareText_of_class (by decide) members whole.first whole.ends
    fun member => by cases whole.unbroken _ member

theorem isBareText_instant {t : Time.Instant}
    (read : Time.Instant.parse? (String.ofList s) = some t) (trimmed : trim s = s) :
    IsBareText (clean s) := by
  have every : ∀ w ∈ words s, IsWord w := fun w member => isWord_of_mem_words member
  have members : ∀ c ∈ clean s, Time.isTimeChar c = true := by
    intro c member
    rcases mem_clean member with rfl | member
    · rfl
    · exact Time.Instant.parse?_chars read c (by simpa using member)
  have ends : EndsSolid (clean s) := by
    cases s with
    | nil => cases read
    | cons c s =>
      obtain ⟨first, -⟩ := ends_of_trim trimmed (List.cons_ne_nil c s)
      have solid : isBlank c = false := by simpa using first
      obtain ⟨w, ws, same⟩ := List.exists_cons_of_ne_nil (words_cons_ne_nil solid s)
      have nonempty : clean (c :: s) ≠ [] := by
        rw [clean, same]
        exact unwords_ne_nil (every w (same ▸ List.mem_cons_self)) ws
      have last := last_unwords every
      rw [← clean, List.getLast?_eq_some_getLast nonempty] at last
      rwa [EndsSolid, List.getLast?_eq_some_getLast nonempty]
  exact isBareText_of_class (by decide) members (first_unwords every) ends
    (newline_notMem_unwords every)

theorem isBareText_objectId {digits : List Char} {id : ObjectId}
    (spelled : digits.map Char.toLower = id.hexChars) :
    IsBareText (WrittenValue.objectId digits id spelled).text := by
  have text := WrittenValue.text_objectId spelled
  have unbroken := (WrittenValue.objectId digits id spelled).unbroken_text fun _ _ => nofun
  have item := (WrittenValue.objectId digits id spelled).listPieces_text []
  rw [List.append_nil] at item
  have mark : '"' ∉ digits := fun member => (inside_objectId spelled _ member).1 rfl
  have bracket : '(' ∉ digits := fun member => by cases ((mapM_hexNibble? spelled).2 _ member).1
  have name : Write.FillsRow ['O', 'b', 'j', 'e', 'c', 't', 'I', 'd'] := .plain (by decide)
  exact {
    first := by simpa using (WrittenValue.objectId digits id spelled).first_text []
    ends := (WrittenValue.objectId digits id spelled).solid_text.2
    oneLine := (WrittenValue.objectId digits id spelled).newline_notMem_text
    fillsRow := text ▸ name.append (.parenthesised (.quoted rfl mark))
    oneItem := by rw [item]; simp [listPieces, prepend]
    passes := fun _ => (WrittenValue.objectId digits id spelled).passes rfl
    notQuote := by rw [text]; rfl
    noClause := by
      intro rest next isSuffix blank
      obtain ⟨gap, b, rfl, blanks⟩ := blanks?_eq_some blank
      have solid := unbroken b (isSuffix.subset (by simp))
      simp [blanks b (by simp)] at solid
    notClause := by rw [text]; simp [keyword?, letters?, spells]
    noExists := .inr ⟨['O', 'b', 'j', 'e', 'c', 't', 'I'], 'd', ('"' :: (digits ++ ['"'])) ++ [')'],
      text, rfl, rfl, by decide, by simp [bracket]⟩ }

theorem isValueText_quoted (isMark : isQuote mark = true)
    (inside : ∀ c ∈ inner, isQuote c = false ∧ c ≠ '\\') (oneLine : '\n' ∉ inner) :
    IsValueText (mark :: (inner ++ [mark])) := by
  have solid := not_isBlank_of_isQuote isMark
  have apart : ∀ c ∈ inner, c ≠ mark ∧ c ≠ '\\' := by
    intro c member
    obtain ⟨notQuote, notBackslash⟩ := inside c member
    refine ⟨?_, notBackslash⟩
    rintro rfl
    rw [isMark] at notQuote
    cases notQuote
  have item := listPieces_quoted isMark apart 0 []
  rw [List.append_nil] at item
  exact {
    first := by simp [solid]
    ends := .cons (.append (by simp [EndsSolid, solid]))
    oneLine := by
      have other : '\n' ≠ mark := by
        rintro rfl
        cases isMark
      simp [oneLine, other]
    fillsRow := .quoted isMark fun member => (apart mark member).1 rfl
    oneItem := by rw [item]; simp [listPieces, prepend]
    passes := fun _ => passes_quoted isMark apart [] }

/-! ## Cleaned literals -/

/-- Cleaning leaves the quotation marks around a text. -/
theorem clean_quoted (isMark : isQuote mark = true) (inner : List Char) :
    clean (mark :: (inner ++ [mark])) = mark :: (squeeze inner ++ [mark]) :=
  have solid := not_isBlank_of_isQuote isMark
  clean_enclosed solid solid inner

/-- A text in quotes is tidy if its blanks are single spaces. -/
theorem isTidy_quoted (isMark : isQuote mark = true) (single : IsSingleSpaced inner) :
    IsTidy (mark :: (inner ++ [mark])) := by
  refine .of_clean ?_ (List.cons_ne_nil _ _)
  rw [clean_quoted isMark, (squeeze_eq_self_iff inner).mpr single]

theorem IsLiteral.ends (literal : IsLiteral s) :
    s.head?.all (!isBlank ·) = true ∧ EndsSolid s := by
  cases literal with
  | word read => exact ⟨(isBareText_word read).first, (isBareText_word read).ends⟩
  | integer read => exact ⟨(isBareText_integer read).first, (isBareText_integer read).ends⟩
  | objectId spelled =>
    exact ⟨(isBareText_objectId spelled).first, (isBareText_objectId spelled).ends⟩
  | instant read trimmed =>
    refine ends_of_trim trimmed ?_
    rintro rfl
    cases read
  | quoted isMark inside =>
    have solid := not_isBlank_of_isQuote isMark
    exact ⟨by simp [solid], .cons (.append (by simp [EndsSolid, solid]))⟩

/-- The text of a string between quotation marks in a statement. -/
structure IsQuotedText (mark : Char) (inner : List Char) : Prop where
  isMark : isQuote mark = true
  inside : ∀ c ∈ inner, isQuote c = false ∧ c ≠ '\\'
  oneLine : '\n' ∉ inner

theorem IsQuotedText.isValueText (quoted : IsQuotedText mark inner) :
    IsValueText (mark :: (inner ++ [mark])) :=
  isValueText_quoted quoted.isMark quoted.inside quoted.oneLine

/-- In a cleaned statement a literal is bare or in quotes. -/
theorem IsLiteral.clean_cases (literal : IsLiteral s) (noBackslash : '\\' ∉ s) :
    IsBareText (clean s) ∨
      ∃ mark inner, IsQuotedText mark inner ∧ clean s = mark :: (inner ++ [mark]) := by
  have bare (word : IsWord s) (bare : IsBareText s) : IsBareText (clean s) := by
    rwa [clean_word word]
  cases literal with
  | word read => exact .inl (bare (members_of_word? read).1 (isBareText_word read))
  | integer read => exact .inl (bare (members_of_isInteger read).1 (isBareText_integer read))
  | objectId spelled =>
    have unbroken := (WrittenValue.objectId _ _ spelled).unbroken_text fun _ _ => nofun
    exact .inl (bare ⟨WrittenValue.text_ne_nil _, unbroken⟩ (isBareText_objectId spelled))
  | instant read trimmed => exact .inl (isBareText_instant read trimmed)
  | quoted isMark inside =>
    rename_i mark inner
    have cleaned := clean_quoted isMark inner
    have every : ∀ w ∈ words (mark :: (inner ++ [mark])), IsWord w :=
      fun w member => isWord_of_mem_words member
    have oneLine := newline_notMem_unwords every
    rw [← clean, cleaned] at oneLine
    refine .inr ⟨mark, squeeze inner, ⟨isMark, fun c member => ?_, ?_⟩, cleaned⟩
    · rcases mem_squeeze member with rfl | written
      · decide
      · refine ⟨inside c written, ?_⟩
        rintro rfl
        exact noBackslash (by simp [written])
    · exact fun member => oneLine (by simp [member])

/-! ## Values -/

theorem IsBareText.comparisonFilter_eq (bare : IsBareText v) (field : String) :
    comparisonFilter field .eq v =
      .ok (.compare .eq field (Literal.parse (String.ofList v)).toValue) := by
  have trimmed := bare.trimmed
  have notQuote := bare.notQuote
  cases v with
  | nil => cases bare.ends
  | cons c rest =>
    obtain ⟨notQuote, notList⟩ : isQuote c = false ∧ c ≠ '[' := by simpa using notQuote
    simp [comparisonFilter, trimmed, isNothing_of_first notQuote,
      operand_bare trimmed notQuote notList, bareValue, Except.map]

/-- A text in quotes is read as it stands. -/
theorem Literal.parse_quoted (isMark : isQuote mark = true) (inner : List Char) :
    Literal.parse (String.ofList (mark :: (inner ++ [mark]))) = .string (String.ofList inner) := by
  simp [Literal.parse, trim_quoted isMark, unquote?_quoted isMark]

theorem IsQuotedText.comparisonFilter_eq (quoted : IsQuotedText mark inner) (nonempty : inner ≠ [])
    (noId : ObjectId.parse? (String.ofList inner) = none)
    (noInstant : ∀ t, Time.Instant.parseInternet (String.ofList inner) ≠ .ok t) (field : String) :
    comparisonFilter field .eq (mark :: (inner ++ [mark])) = .ok (.compare .eq field
      (Literal.parse (String.ofList (mark :: (inner ++ [mark])))).toValue) := by
  have trimmed := quoted.isValueText.trimmed
  have noBackslash : '\\' ∉ inner := fun member => (quoted.inside _ member).2 rfl
  have denoted : quotedValue inner true = .string (String.ofList inner) := by
    cases read : Time.Instant.parseInternet (String.ofList inner) with
    | ok t => exact absurd read (noInstant t)
    | error e => simp [quotedValue, noId, read]
  rw [Literal.parse_quoted quoted.isMark]
  simp [comparisonFilter, trimmed, isNothing_quoted nonempty, operand_quoted quoted.isMark,
    unescape_absent noBackslash, denoted, Literal.toValue, Except.map]

end DocQuery
