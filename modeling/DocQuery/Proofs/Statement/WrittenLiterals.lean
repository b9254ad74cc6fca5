import DocQuery.Proofs.Condition.ParameterItems
import DocQuery.Proofs.Statement.LiteralText
import DocQuery.Proofs.Text.CommaLists
import DocQuery.Proofs.Time.ReadAgain

/-! # Written literals

The literals of rows and assignments, each with its text. The written form of a literal is trimmed
and has a shape that only the rule for its kind fits. A string stands in quotes whatever is in it,
and nothing but a timestamp has a `T` among digits and separators. So what is written is read as the
same literal, but for an instant whose year has no four digits: its timestamp is read as a string.

* `WrittenLiteral` — what can be written, and the literal that it is.
* `WrittenLiteral.parse_text` — the text is read as this literal.
* `WrittenLiteral.isListItem`, `WrittenLiteral.fillsRow` — no comma and no bracket in it cuts.
* `Literal.parse_text` — what is read of a literal that is written, for every kind but doubles.
* `literal_read_again` — a literal that was read survives exactly if it has no other year.
-/

namespace DocQuery.Write

open DocQuery.Text DocQuery.Condition

/-- A literal as it can be written. -/
inductive WrittenLiteral
  | null
  | bool (b : Bool)
  | int (n : Numeral)
  /-- The digits may be written in either case. -/
  | objectId (digits : List Char) (id : ObjectId) (spelled : digits.map Char.toLower = id.hexChars)
  /-- A string whose blanks are single spaces. -/
  | string (s : PlainText) (single : IsSingleSpaced s.content.toList)

namespace WrittenLiteral

def text : WrittenLiteral → List Char
  | .null => "null".toList
  | .bool b => (if b then "true" else "false").toList
  | .int n => n.text
  | .objectId digits _ _ => "ObjectId(\"".toList ++ digits ++ "\")".toList
  | .string s _ => s.text

def literal : WrittenLiteral → Literal
  | .null => .null
  | .bool b => .bool b
  | .int n => .int (Int64.ofInt n.value)
  | .objectId _ id _ => .objectId id
  | .string s _ => .string s.content

/-- The literal is no string in which WHERE is a word. -/
def LacksWhere : WrittenLiteral → Prop
  | .string s _ => Lacks "WHERE" s.content.toList
  | _ => True

instance : DecidablePred LacksWhere
  | .string s _ => inferInstanceAs (Decidable (Lacks "WHERE" s.content.toList))
  | .null | .bool _ | .int _ | .objectId .. => inferInstanceAs (Decidable True)

variable (literal : WrittenLiteral)

/-- Apart from strings, literals are values that can be written in a condition. -/
theorem bare_or_string :
    (∃ value : WrittenValue, (∀ s noInstant, value ≠ .string s noInstant) ∧
      literal.text = value.text ∧ literal.literal.toValue = value.value) ∨
    ∃ s single, literal = .string s single := by
  cases literal with
  | null => exact .inl ⟨.null, by simp, rfl, rfl⟩
  | bool b => exact .inl ⟨.bool b, by simp, rfl, rfl⟩
  | int n => exact .inl ⟨.int n, by simp, rfl, rfl⟩
  | objectId digits id spelled => exact .inl ⟨.objectId digits id spelled, by simp, rfl, rfl⟩
  | string s single => exact .inr ⟨s, single, rfl⟩

/-! ## As an item -/

theorem isListItem : IsListItem literal.text := by
  rcases literal.bare_or_string with ⟨value, bare, same, -⟩ | ⟨s, single, rfl⟩
  · have word : IsWord value.text := ⟨value.text_ne_nil, value.unbroken_text bare⟩
    rw [same]
    exact ⟨word.isTidy, value.listPieces_text⟩
  · exact ⟨isTidy_quoted rfl single, .quoted rfl s.inside⟩

theorem fillsRow : FillsRow literal.text := by
  cases literal with
  | null => exact .plain (by decide)
  | bool b => cases b <;> exact .plain (by decide)
  | int n =>
    have plain := n.all_text (p := fun c => !isQuote c && c != '(' && c != ')') (by decide)
    exact .plain fun c member => by simpa [and_assoc] using plain c member
  | objectId digits id spelled => exact (isBareText_objectId spelled).fillsRow
  | string s single => exact .quoted rfl s.noQuote

/-- No word of the text is WHERE, unless one of a string is. -/
theorem avoids_where (lacks : literal.LacksWhere) : Avoids "WHERE" literal.text := by
  have isKeyword : IsKeyword "WHERE" := by decide
  have nothing : Avoids "WHERE" [] := by simp [Avoids, words]
  rcases literal.bare_or_string with ⟨value, bare, same, -⟩ | ⟨s, single, rfl⟩
  · -- the only word begins with another letter
    have word : IsWord value.text := ⟨value.text_ne_nil, value.unbroken_text bare⟩
    have single : words value.text = [value.text] := by
      simpa [words] using words_append (s := []) word rfl
    have letters : "WHERE".toList = ['W', 'H', 'E', 'R', 'E'] := rfl
    rw [same, Avoids, single, List.forall_mem_singleton, letters]
    cases value with
    | null => decide
    | bool b => cases b <;> decide
    | int n =>
      intro spelled
      obtain ⟨c, rest, first, -, cut⟩ := List.forall₂_cons_left_iff.mp spelled
      have other := n.all_text (p := fun c => !spells 'W' c) (by decide) c (by
        have : (WrittenValue.int n).text = n.text := rfl
        rw [← this, cut]
        exact List.mem_cons_self)
      rw [first] at other
      cases other
    | objectId digits id spelled =>
      rw [WrittenValue.text_objectId]
      intro spelled
      obtain ⟨c, rest, first, -, cut⟩ := List.forall₂_cons_left_iff.mp spelled
      obtain ⟨rfl, -⟩ := List.cons.inj cut
      cases first
    | string s noInstant => exact absurd rfl (bare s noInstant)
  · have content : Avoids "WHERE" s.content.toList := Lacks.avoids lacks isKeyword
    have closed := content.append_cons isKeyword nothing (c := '\'') rfl
    exact nothing.append_cons isKeyword closed rfl

/-! ## Reading -/

theorem toValue_injective : Function.Injective Literal.toValue := by
  intro a b same
  cases a <;> cases b <;> simp_all [Literal.toValue]

theorem parse_text : Literal.parse (String.ofList literal.text) = literal.literal := by
  rcases literal.bare_or_string with ⟨value, bare, same, denotes⟩ | ⟨s, single, rfl⟩
  · apply toValue_injective
    rw [same, denotes]
    exact (value.bareValue_text bare).2
  · have isMark : isQuote '\'' = true := rfl
    have read := Literal.parse_quoted isMark s.content.toList
    rw [String.ofList_toList] at read
    exact read

end WrittenLiteral

end DocQuery.Write

namespace DocQuery

open DocQuery.Text DocQuery.Condition

variable {s : List Char}

namespace Literal

/-! ## Timestamps as literals -/

theorem members_of_isDecimal (read : isDecimal s = true) :
    ∀ c ∈ s, (isDigit c || c == '-' || c == '.') = true := by
  have signed : ∀ c ∈ s, c = '-' ∨ c ∈ magnitude s := by
    intro c member
    unfold magnitude
    split
    · exact List.mem_cons.mp member
    · exact .inr member
  intro c member
  rcases signed c member with rfl | member
  · rfl
  -- behind the digits in front there are the point and digits only
  unfold isDecimal at read
  split at read
  · rename_i digits rest cut
    simp only [digits?, run?] at cut
    split at cut
    · cases cut
    · obtain ⟨-, point⟩ := Prod.mk.inj (Option.some.inj cut)
      rw [← List.takeWhile_append_dropWhile (p := isDigit) (l := magnitude s), List.mem_append]
        at member
      rcases member with whole | fraction
      · simp [List.mem_takeWhile_imp whole]
      · rw [point] at fraction
        simp only [Bool.and_eq_true, List.all_eq_true] at read
        rcases List.mem_cons.mp fraction with rfl | later
        · rfl
        · simp [read.2 c later]
  · cases read

/-- A timestamp begins with a digit or a sign. -/
theorem exists_first (t : Time.Instant) :
    ∃ c rest, t.text.toList = c :: rest ∧ c ∈ '+' :: '-' :: decimalDigits := by
  obtain ⟨c, year, text, first⟩ : ∃ c year, Time.yearText t.date.year = c :: year ∧
      c ∈ '+' :: '-' :: decimalDigits := by
    by_cases plain : 0 ≤ t.date.year ∧ t.date.year ≤ 9999
    · obtain ⟨c, year, text⟩ :=
        List.exists_cons_of_ne_nil (Time.padded_ne_nil (n := t.date.year.toNat) (Nat.succ_pos 3))
      have digit : c.isDigit = true := Time.isDigit_of_mem_padded (text ▸ List.mem_cons_self)
      refine ⟨c, year, ?_, by simp [mem_decimalDigits digit]⟩
      rw [Time.yearText, if_pos (by simpa using plain), text]
    · refine ⟨_, _, Time.Instant.yearText_beyond plain, ?_⟩
      split <;> decide
  exact ⟨c, _, by simp [Time.Instant.text, Time.Instant.secondsText, text]; rfl, first⟩

/-- A timestamp is a literal of no other kind, so it is an instant or a string. -/
theorem parse_instantText (t : Time.Instant) :
    parse t.text = if 0 ≤ t.date.year ∧ t.date.year ≤ 9999 then .instant t
      else .string t.text := by
  obtain ⟨c, rest, text, first⟩ := exists_first t
  -- no rule for quotes, words and identifiers takes a text that begins so
  let outer (c : Char) : Bool :=
    !isBlank c && !isQuote c && c != 'O' && !(['n', 't', 'f'].contains c.toLower)
  have outside : outer c = true :=
    List.all_eq_true.mp (show ('+' :: '-' :: decimalDigits).all outer = true by decide) c first
  simp only [outer, Bool.and_eq_true, Bool.not_eq_true', bne_iff_ne, ne_eq] at outside
  obtain ⟨⟨⟨solid, notQuote⟩, noCall⟩, noWord⟩ := outside
  -- and the letter between date and time is in no number
  have letter : 'T' ∈ t.text.toList := by simp [Time.Instant.text, Time.Instant.secondsText]
  have last : t.text.toList.getLast? = some 'Z' := by simp [Time.Instant.text]
  have trimmed : trim t.text.toList = t.text.toList :=
    trim_eq_self (by simp [text, solid]) (by rw [last]; rfl)
  have noInteger : isInteger t.text.toList = false := by
    by_contra integer
    cases (members_of_isInteger (by simpa using integer)).2 'T' letter
  have noDecimal : isDecimal t.text.toList = false := by
    by_contra decimal
    cases members_of_isDecimal (by simpa using decimal) 'T' letter
  have noRule : objectIdCall? t.text.toList = none ∧ integer? t.text.toList = none ∧
      double? t.text.toList = none := by
    refine ⟨text ▸ objectIdCall?_of_first noCall rest, ?_, ?_⟩
    · simp [integer?, noInteger]
    · simp [double?, noInteger, noDecimal]
  have read := bareValue_eq trimmed (by simp [text]) (text ▸ unquote?_of_first notQuote rest)
    (text ▸ word?_of_first (by simpa using noWord) rest)
  rw [noRule.1, noRule.2.1, noRule.2.2, String.ofList_toList, Time.Instant.parse?_text] at read
  apply Write.WrittenLiteral.toValue_injective
  rw [← String.ofList_toList (s := t.text)]
  refine read.trans ?_
  split <;> simp

/-! ## Literals -/

/-- The year of an instant has four digits. -/
def HasPlainYear : Literal → Prop
  | .instant t => 0 ≤ t.date.year ∧ t.date.year ≤ 9999
  | _ => True

instance : DecidablePred HasPlainYear
  | .instant t => inferInstanceAs (Decidable (0 ≤ t.date.year ∧ t.date.year ≤ 9999))
  | .null | .bool _ | .int _ | .double _ | .objectId _ | .string _ =>
    inferInstanceAs (Decidable True)

/-- What is neither quoted nor a timestamp is read as it was written. -/
theorem parse_text_of_isListValue {l : Literal} (simple : IsListValue l.toValue)
    (bare : ∀ s, l.toValue ≠ .string s) : parse l.text = l := by
  obtain ⟨value, text, same, notString⟩ := exists_writtenValue simple bare
  have written : l.text.toList = value.text := by
    rw [text]
    cases l with
    | null | bool | int | objectId => simp [toValue, Literal.text, Parameters.parameterText]
    | string s => exact absurd rfl (bare s)
    | double | instant => cases simple
  apply Write.WrittenLiteral.toValue_injective
  rw [← same, ← (value.bareValue_text notString).2, bareValue, ← written, String.ofList_toList]

theorem parse_text_string (s : String) : parse (text (.string s)) = .string s := by
  have quoted : text (.string s) = String.ofList ('\'' :: (s.toList ++ ['\''])) := by
    simp [text, ← String.toList_inj]
  rw [quoted, parse_quoted rfl, String.ofList_toList]

/-- A literal that is written is read as the same one exactly if it has no other year. -/
theorem parse_text {l : Literal} (noDouble : ∀ x, l ≠ .double x) :
    (parse l.text = l ↔ l.HasPlainYear) ∧ (¬ l.HasPlainYear → parse l.text = .string l.text) := by
  have kept (simple : IsListValue l.toValue) (bare : ∀ s, l.toValue ≠ .string s)
      (plain : l.HasPlainYear) : (parse l.text = l ↔ l.HasPlainYear) ∧
        (¬ l.HasPlainYear → parse l.text = .string l.text) :=
    ⟨iff_of_true (parse_text_of_isListValue simple bare) plain, absurd plain⟩
  cases l with
  | null | bool | int | objectId => exact kept trivial nofun trivial
  | double x => exact absurd rfl (noDouble x)
  | string s => simp [parse_text_string, HasPlainYear]
  | instant t =>
    have read := parse_instantText t
    by_cases plain : 0 ≤ t.date.year ∧ t.date.year ≤ 9999 <;>
      simp [text, read, HasPlainYear, plain]

end Literal

/-- A text that is read as a literal other than a double survives being written and read again
exactly if it is no instant of another year; such an instant becomes the string of its timestamp. -/
theorem literal_read_again (x : String) (noDouble : ∀ d, Literal.parse x ≠ .double d) :
    (Literal.parse (Literal.parse x).text = Literal.parse x ↔ (Literal.parse x).HasPlainYear) ∧
      (¬ (Literal.parse x).HasPlainYear →
        Literal.parse (Literal.parse x).text = .string (Literal.parse x).text) :=
  Literal.parse_text noDouble

/-- A leap second with a fraction, written with an offset, comes back in universal time. -/
theorem literal_read_again_leap_second :
    (∀ d, Literal.parse "2017-01-01T00:59:60.25+01:00" ≠ .double d) ∧
      Literal.parse (Literal.parse "2017-01-01T00:59:60.25+01:00").text =
        Literal.parse "2017-01-01T00:59:60.25+01:00" := by
  have read : Literal.parse "2017-01-01T00:59:60.25+01:00" =
      .instant ⟨⟨2016, 12, 31, by decide⟩, 86399, 1250000000, by decide⟩ := rfl
  have noDouble : ∀ d, Literal.parse "2017-01-01T00:59:60.25+01:00" ≠ .double d := by simp [read]
  exact ⟨noDouble, (literal_read_again _ noDouble).1.mpr (by rw [read]; decide)⟩

/-- The first day beyond the years of four digits comes back as a string. -/
theorem literal_changes_when_read_again :
    ¬ ∀ x : String, (∀ d, Literal.parse x ≠ .double d) →
      Literal.parse (Literal.parse x).text = Literal.parse x := by
  intro always
  have read : Literal.parse "+10000-01-01" =
      .instant (.midnight ⟨10000, 1, 1, by decide⟩) := rfl
  have noDouble : ∀ d, Literal.parse "+10000-01-01" ≠ .double d := by simp [read]
  have plain := (Literal.parse_text noDouble).1.mp (always _ noDouble)
  rw [read] at plain
  exact absurd plain.2 (by decide)

end DocQuery
