import DocQuery.Proofs.Condition.Grammar
import DocQuery.Proofs.Condition.Operands
import DocQuery.Proofs.Text.ListItems

/-! # Reading written values

A written value stays in one piece where a condition or a list is cut, and is read as the value
that it stands for.

* `WrittenValue.passes`, `WrittenValue.listPieces_text` — no connector and no comma cuts a value.
* `WrittenValue.operand_text` — its value as an operand.
* `WrittenValue.itemValue_text` — its value as an item of a list.
-/

namespace DocQuery.Condition

open DocQuery.Text

variable {c : Char} {rest : List Char}

/-! ## Characters -/

theorem continuesWord_of_isAsciiName {s : String} (name : IsAsciiName s) :
    ∀ c ∈ s.toList, continuesWord c = true := by
  intro c member
  have ascii := name.ascii c member
  have wordChar := name.members c member
  simpa [isWordChar, ascii, continuesWord, isAlphanumeric] using wordChar

/-- A character is written in lower case, or its code is below that of the lower case by 32. -/
theorem eq_or_eq_of_toLower {k : Char} (same : c.toLower = k) :
    c = k ∨ c.isUpper = true ∧ c = Char.ofNat (k.toNat - 32) := by
  subst same
  unfold Char.toLower
  split
  · rename_i range
    have bounds : 65 ≤ c.toNat ∧ c.toNat ≤ 90 := range
    have code : (c.val + ('a'.val - 'A'.val)).toNat = c.toNat + 32 := by
      change (c.val + 32).toNat = _
      rw [UInt32.toNat_add]
      change (c.toNat + 32) % _ = _
      omega
    refine .inr ⟨decide_eq_true range, ?_⟩
    change c = Char.ofNat ((c.val + ('a'.val - 'A'.val)).toNat - 32)
    rw [code, Nat.add_sub_cancel, Char.ofNat_toNat]
  · exact .inl rfl

/-- A digit of an identifier, in either case. -/
theorem hexNibble?_of_toLower {d : Fin 16} (same : c.toLower = hexDigit d) :
    hexNibble? c = some d ∧ continuesWord c = true ∧ isBlank c = false := by
  have every : ∀ d : Fin 16, (hexNibble? (hexDigit d) = some d ∧
      continuesWord (hexDigit d) = true ∧ isBlank (hexDigit d) = false) ∧
      ((Char.ofNat ((hexDigit d).toNat - 32)).isUpper = true →
        hexNibble? (Char.ofNat ((hexDigit d).toNat - 32)) = some d ∧
          continuesWord (Char.ofNat ((hexDigit d).toNat - 32)) = true ∧
            isBlank (Char.ofNat ((hexDigit d).toNat - 32)) = false) := by
    decide
  rcases eq_or_eq_of_toLower same with here | ⟨upper, here⟩
  · rw [here]
    exact (every d).1
  · rw [here] at upper ⊢
    exact (every d).2 upper

theorem mapM_hexNibble? {chars : List Char} {digits : List (Fin 16)}
    (spelled : chars.map Char.toLower = digits.map fun d : Fin 16 => hexDigit d.val) :
    chars.mapM hexNibble? = some digits ∧
      ∀ c ∈ chars, continuesWord c = true ∧ isBlank c = false := by
  induction chars generalizing digits with
  | nil =>
    cases digits with
    | nil => simp
    | cons d digits => cases spelled
  | cons c chars ih =>
    cases digits with
    | nil => cases spelled
    | cons d digits =>
      rw [List.map_cons, List.map_cons, List.cons.injEq] at spelled
      obtain ⟨read, word⟩ := hexNibble?_of_toLower spelled.1
      obtain ⟨others, rest⟩ := ih spelled.2
      exact ⟨by simp [read, others], List.forall_mem_cons.mpr ⟨word, rest⟩⟩

/-- Digits in either case are read as the identifier that they spell. -/
theorem parse?_objectId {digits : List Char} {id : ObjectId}
    (spelled : digits.map Char.toLower = id.hexChars) :
    ObjectId.parse? (String.ofList digits) = some id := by
  simp [ObjectId.parse?, (mapM_hexNibble? spelled).1, ObjectId.ofDigits?, id.length_digits]

/-! ## Parts -/

def decimalDigits : List Char := ['0', '1', '2', '3', '4', '5', '6', '7', '8', '9']

theorem mem_decimalDigits (digit : c.isDigit = true) : c ∈ decimalDigits := by
  have range : 48 ≤ c.toNat ∧ c.toNat ≤ 57 := by
    simpa [Char.isDigit, UInt32.le_iff_toNat_le] using digit
  have every : ∀ n < 58, 48 ≤ n → Char.ofNat n ∈ decimalDigits := by decide
  simpa using every c.toNat (by omega) range.1

namespace PlainText

variable (s : PlainText)

theorem inside : ∀ c ∈ s.content.toList, c ≠ '\'' ∧ c ≠ '\\' := by
  refine fun c member => ⟨?_, ?_⟩
  · rintro rfl
    exact s.noQuote member
  · rintro rfl
    exact s.noBackslash member

end PlainText

namespace Numeral

variable (n : Numeral)

theorem all_digits {p : Char → Bool} (every : decimalDigits.all p = true) :
    ∀ c ∈ n.digits, p c = true :=
  fun c member => List.all_eq_true.mp every c (mem_decimalDigits (n.decimal c member))

/-- What holds for the minus sign and for all digits holds for the characters of a numeral. -/
theorem all_text {p : Char → Bool} (every : ('-' :: decimalDigits).all p = true) :
    ∀ c ∈ n.text, p c = true := by
  rw [List.all_cons, Bool.and_eq_true] at every
  have digits := n.all_digits every.2
  unfold text
  split
  · exact List.forall_mem_cons.mpr ⟨every.1, digits⟩
  · exact digits

theorem text_ne_nil : n.text ≠ [] := by
  unfold text
  split
  · exact List.cons_ne_nil _ _
  · exact n.nonempty

theorem not_letters (word : JoiningWord) : n.digits.map Char.toUpper ≠ word.letters := by
  obtain ⟨c, rest, same⟩ := List.exists_cons_of_ne_nil n.nonempty
  have other : (decimalDigits.all fun c => !(['A', 'B', 'O'].contains c.toUpper)) = true := by
    decide
  have notFirst := n.all_digits other c (same ▸ List.mem_cons_self)
  simp only [List.contains_cons, List.contains_nil, Bool.or_false, Bool.not_eq_true',
    Bool.or_eq_false_iff, beq_eq_false_iff_ne] at notFirst
  rw [same, List.map_cons]
  cases word <;> simp [letters_between, letters_and, letters_or, notFirst]

theorem passes {depth : Nat} {between : Bool} (ends : EndsWord rest) :
    Passes depth between between n.text rest := by
  have digits : Passes depth between between n.digits rest :=
    passes_word (n.all_digits (by decide)) (fun _ => n.not_letters) ends
  unfold text
  split
  · exact (passes_separator (by decide) _).cons digits
  · exact digits

/-- A numeral is read as its value. -/
theorem integer?_text : Literal.integer? n.text = some (.int (Int64.ofInt n.value)) := by
  obtain ⟨c, rest, same⟩ := List.exists_cons_of_ne_nil n.nonempty
  have member : c ∈ n.digits := same ▸ List.mem_cons_self
  have unsigned := n.all_digits (p := fun c => c != '-' && c != '+') (by decide) c member
  simp only [Bool.and_eq_true, bne_iff_ne, ne_eq] at unsigned
  -- the digits begin with no sign, so the sign is the one that is written
  have bare : Literal.magnitude n.digits = n.digits ∧
      Number.takeSign n.digits = (false, n.digits) := by
    rw [same]
    constructor
    · unfold Literal.magnitude
      split <;> simp_all
    · unfold Number.takeSign
      split <;> simp_all
  have signed : Literal.magnitude n.text = n.digits ∧
      Number.takeSign n.text = (n.negative, n.digits) := by
    cases negative : n.negative with
    | true => simp [text, negative, Literal.magnitude, Number.takeSign]
    | false => simpa [text, negative] using bare
  have isInteger : Literal.isInteger n.text = true := by
    simpa [Literal.isInteger, signed.1, n.nonempty] using n.all_digits (p := isDigit) (by decide)
  have read : Number.digitsValue? n.digits = some (Nat.ofDigitChars 10 n.digits 0) := by
    simpa [Number.digitsValue?, n.nonempty] using n.decimal
  have value := n.fits
  simp [Literal.integer?, isInteger, Number.parseInt64?, signed.2, read, value, Numeral.value]

end Numeral

/-- The digits of an identifier are neither a quotation mark nor a backslash. -/
theorem inside_objectId {digits : List Char} {id : ObjectId}
    (spelled : digits.map Char.toLower = id.hexChars) : ∀ c ∈ digits, c ≠ '"' ∧ c ≠ '\\' := by
  intro c member
  have continues := ((mapM_hexNibble? spelled).2 c member).1
  constructor <;> rintro rfl <;> cases continues

theorem objectIdCall?_text {digits : List Char} {id : ObjectId}
    (spelled : digits.map Char.toLower = id.hexChars) :
    Literal.objectIdCall? (WrittenValue.objectId digits id spelled).text = some id := by
  have length : digits.length = 24 := by
    simpa [ObjectId.hexChars, id.length_digits] using congrArg List.length spelled
  have word : "ObjectId(".toList = ['O', 'b', 'j', 'e', 'c', 't', 'I', 'd', '('] := rfl
  have blanks : isBlank '"' = false ∧ isBlank ')' = false := by decide
  simp [Literal.objectIdCall?, word, WrittenValue.text_objectId, skipBlanks, blanks, Literal.mark?,
    isQuote, length, parse?_objectId spelled, char?]

namespace WrittenValue

/-- Nothing in a value joins conditions. -/
theorem passes (v : WrittenValue) {depth : Nat} {between : Bool} (ends : EndsWord rest) :
    Passes depth between between v.text rest := by
  cases v with
  | null => exact passes_word (by decide) (fun _ word => by cases word <;> decide) ends
  | bool b =>
    cases b with
    | false => exact passes_word (by decide) (fun _ word => by cases word <;> decide) ends
    | true => exact passes_word (by decide) (fun _ word => by cases word <;> decide) ends
  | int n => exact n.passes ends
  | objectId digits id spelled =>
    rw [text_objectId]
    have name : Passes depth between between ['O', 'b', 'j', 'e', 'c', 't', 'I', 'd']
        (('(' :: (('"' :: (digits ++ ['"'])) ++ [')'])) ++ rest) :=
      passes_word (by decide) (fun _ word => by cases word <;> decide) rfl
    exact name.append <| passes_bracketed rfl rfl <| passes_quoted rfl (inside_objectId spelled) _
  | string s _ => exact passes_quoted rfl s.inside rest

/-- No comma in a value cuts a list. -/
theorem listPieces_text (v : WrittenValue) (rest : List Char) :
    listPieces .outside 0 (v.text ++ rest) = prepend v.text (listPieces .outside 0 rest) := by
  cases v with
  | null => exact listPieces_plain (by decide) 0 rest
  | bool b => cases b <;> exact listPieces_plain (by decide) 0 rest
  | int n => exact listPieces_plain (n.all_text (by decide)) 0 rest
  | objectId digits id spelled =>
    rw [text_objectId, List.append_assoc, listPieces_plain (by decide),
      listPieces_bracketed rfl rfl (listPieces_quoted rfl (inside_objectId spelled) 1 _),
      prepend_prepend]
  | string s _ => exact listPieces_quoted rfl s.inside 0 rest

theorem text_ne_nil (v : WrittenValue) : v.text ≠ [] := by
  cases v with
  | null => decide
  | bool b => cases b <;> decide
  | int n => exact n.text_ne_nil
  | objectId digits id spelled =>
    rw [text_objectId]
    exact List.cons_ne_nil _ _
  | string s _ => exact List.cons_ne_nil _ _

/-- Only in quotes a value can have blanks. -/
theorem unbroken_text (v : WrittenValue) (bare : ∀ s noInstant, v ≠ .string s noInstant) :
    ∀ c ∈ v.text, isBlank c = false := by
  cases v with
  | null => decide
  | bool b => cases b <;> decide
  | int n =>
    have solid := n.all_text (p := (!isBlank ·)) (by decide)
    exact fun c member => by simpa using solid c member
  | objectId digits id spelled =>
    have unbroken : ∀ c ∈ digits, isBlank c = false :=
      fun c member => ((mapM_hexNibble? spelled).2 c member).2
    have bracketed : ∀ c ∈ '(' :: (('"' :: (digits ++ ['"'])) ++ [')']), isBlank c = false := by
      rw [List.forall_mem_cons, List.forall_mem_append, List.forall_mem_cons,
        List.forall_mem_append]
      exact ⟨rfl, ⟨rfl, unbroken, by decide⟩, by decide⟩
    rw [text_objectId, List.forall_mem_append]
    exact ⟨by decide, bracketed⟩
  | string s noInstant => exact absurd rfl (bare s noInstant)

theorem newline_notMem_text (v : WrittenValue) : '\n' ∉ v.text := by
  cases v with
  | null => decide
  | bool b => cases b <;> decide
  | int n =>
    have inLine := n.all_text (p := (· != '\n')) (by decide)
    exact fun member => absurd (inLine _ member) (by decide)
  | objectId digits id spelled =>
    have digits : '\n' ∉ digits := fun member => by cases ((mapM_hexNibble? spelled).2 _ member).1
    rw [text_objectId]
    simp [digits]
  | string s _ =>
    change '\n' ∉ s.text
    simp [PlainText.text, s.oneLine]

/-- A value begins and ends with a character that is no blank. -/
theorem solid_text (v : WrittenValue) :
    (∃ c rest, v.text = c :: rest ∧ isBlank c = false) ∧ EndsSolid v.text := by
  by_cases bare : ∀ s noInstant, v ≠ .string s noInstant
  · have solid := v.unbroken_text bare
    obtain ⟨c, rest, same⟩ := List.exists_cons_of_ne_nil v.text_ne_nil
    refine ⟨⟨c, rest, same, solid c (same ▸ List.mem_cons_self)⟩, ?_⟩
    rw [EndsSolid, List.getLast?_eq_some_getLast v.text_ne_nil]
    simpa using solid _ (List.getLast_mem v.text_ne_nil)
  · push Not at bare
    obtain ⟨s, noInstant, rfl⟩ := bare
    exact ⟨⟨'\'', _, rfl, rfl⟩, .cons (.append rfl)⟩

theorem first_text (v : WrittenValue) (rest : List Char) :
    (v.text ++ rest).head?.all (!isBlank ·) = true := by
  obtain ⟨⟨c, inner, same, first⟩, -⟩ := v.solid_text
  rw [same]
  simpa using first

theorem skipBlanks_text (v : WrittenValue) : skipBlanks v.text = v.text :=
  skipBlanks_eq_self (by simpa using v.first_text [])

theorem trim_text (v : WrittenValue) : trim v.text = v.text :=
  trim_eq_self (by simpa using v.first_text []) v.solid_text.2.all

/-! ## Reading -/

/-- A value that is not in quotes begins with no quotation mark and is a bare literal. -/
theorem bareValue_text (v : WrittenValue) (bare : ∀ s noInstant, v ≠ .string s noInstant) :
    (∃ c rest, v.text = c :: rest ∧ isQuote c = false ∧ c ≠ '[') ∧ bareValue v.text = v.value := by
  cases v with
  | null => exact ⟨⟨'n', _, rfl, by decide, by decide⟩, rfl⟩
  | bool b =>
    cases b with
    | false => exact ⟨⟨'f', _, rfl, by decide, by decide⟩, rfl⟩
    | true => exact ⟨⟨'t', _, rfl, by decide, by decide⟩, rfl⟩
  | int n =>
    change (∃ c rest, n.text = c :: rest ∧ _) ∧ bareValue n.text = .int64 (Int64.ofInt n.value)
    have trimmed : trim n.text = n.text := trim_text (.int n)
    obtain ⟨c, rest, same⟩ := List.exists_cons_of_ne_nil n.text_ne_nil
    have first := n.all_text (p := fun c => !isQuote c && c != '[' &&
      !(['n', 't', 'f'].contains c.toLower) && c != 'O') (by decide) c (same ▸ List.mem_cons_self)
    simp only [Bool.and_eq_true, Bool.not_eq_true', bne_iff_ne] at first
    obtain ⟨⟨⟨notQuote, notList⟩, noWord⟩, notCall⟩ := first
    have notQuoted : unquote? n.text = none := same ▸ unquote?_of_first notQuote rest
    have noWord : Literal.word? (String.ofList n.text) = none :=
      same ▸ word?_of_first (by simpa using noWord) rest
    have noCall : Literal.objectIdCall? n.text = none := same ▸ objectIdCall?_of_first notCall rest
    refine ⟨⟨c, rest, same, notQuote, notList⟩, ?_⟩
    rw [bareValue_eq trimmed n.text_ne_nil notQuoted noWord, noCall, n.integer?_text]
    rfl
  | objectId digits id spelled =>
    have same := text_objectId spelled
    have notQuoted : unquote? (objectId digits id spelled).text = none :=
      same ▸ unquote?_of_first (by decide) _
    have noWord : Literal.word? (String.ofList (objectId digits id spelled).text) = none :=
      same ▸ word?_of_first (by decide) _
    refine ⟨⟨'O', _, same, by decide, by decide⟩, ?_⟩
    rw [bareValue_eq (trim_text _) (text_ne_nil _) notQuoted noWord, objectIdCall?_text spelled]
    rfl
  | string s noInstant => exact absurd rfl (bare s noInstant)

/-- Quotes around a string that is no timestamp are taken off; where an identifier may stand, the
string must not be its digits. -/
theorem quotedValue_content (s : PlainText)
    (noInstant : ∀ t, Time.Instant.parseInternet s.content ≠ .ok t) {idAllowed : Bool}
    (noId : idAllowed = true → ObjectId.parse? s.content = none) :
    quotedValue (unescape '\'' s.content.toList) idAllowed = .string s.content := by
  rw [unescape_absent s.noBackslash, quotedValue, String.ofList_toList]
  have notId : (if idAllowed then ObjectId.parse? s.content else none) = none := by
    cases idAllowed with
    | false => rfl
    | true => exact noId rfl
  rw [notId]
  cases read : Time.Instant.parseInternet s.content with
  | ok t => exact absurd read (noInstant t)
  | error e => rfl

/-- A value is read as it was written, unless it is in quotes and taken for an identifier. -/
theorem operand_text (v : WrittenValue) {idAllowed : Bool}
    (noId : ∀ s noInstant, v = .string s noInstant → idAllowed = true →
      ObjectId.parse? s.content = none) : operand idAllowed v.text = .ok v.value := by
  by_cases bare : ∀ s noInstant, v ≠ .string s noInstant
  · obtain ⟨⟨c, rest, same, notQuote, notList⟩, value⟩ := v.bareValue_text bare
    rw [← value, same]
    exact operand_bare (same ▸ v.trim_text) notQuote notList idAllowed
  · push Not at bare
    obtain ⟨s, noInstant, rfl⟩ := bare
    have read := quotedValue_content s noInstant (noId s noInstant rfl)
    exact (operand_quoted (by decide) _ _).trans (congrArg Except.ok read)

/-- A value in a list is read as it was written. -/
theorem itemValue_text (v : WrittenValue) : itemValue v.text = v.value := by
  by_cases bare : ∀ s noInstant, v ≠ .string s noInstant
  · obtain ⟨⟨c, rest, same, notQuote, -⟩, value⟩ := v.bareValue_text bare
    rw [← value, same, itemValue_bare notQuote]
  · push Not at bare
    obtain ⟨s, noInstant, rfl⟩ := bare
    exact (itemValue_quoted (by decide) _).trans (quotedValue_content s noInstant nofun)

/-- An operand of a comparison is not written for nothing, and is read as it was written. -/
theorem read_isOperand {v : WrittenValue} {op : Comparison} (isOperand : v.IsOperand op) :
    isNothing v.text = false ∧ operand (op == .eq) v.text = .ok v.value := by
  by_cases bare : ∀ s noInstant, v ≠ .string s noInstant
  · refine ⟨?_, v.operand_text fun s noInstant same => absurd same (bare s noInstant)⟩
    obtain ⟨⟨c, rest, same, notQuote, -⟩, -⟩ := v.bareValue_text bare
    rw [same]
    exact isNothing_of_first notQuote rest
  · push Not at bare
    obtain ⟨s, noInstant, rfl⟩ := bare
    obtain ⟨nonempty, noId⟩ := isOperand
    refine ⟨isNothing_quoted (by simpa using nonempty), operand_text _ ?_⟩
    rintro _ _ ⟨⟩ equality
    exact noId (by simpa using equality)

end WrittenValue

end DocQuery.Condition
