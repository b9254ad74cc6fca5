import DocQuery.Proofs.Condition.ItemTexts
import DocQuery.Proofs.Condition.Quoted
import DocQuery.Proofs.Number.NumberText

/-! # Items of array parameters

The items of an array are written into a condition like values of their own, strings with their
double quotes escaped. An escaped string without backslashes ends where its quotes are closed, so it
stays together, and it is read as it was.

* `cutFrom_escaped`, `listPieces_escaped` — the end of an escaped string.
* `Numeral.ofInt64` — the numeral of an integer.
* `isItem_parameterText` — the values that are items as they are written for a parameter.
-/

namespace DocQuery.Condition

open DocQuery.Text

variable {depth : Nat} {between : Bool} {rest s : List Char}

/-! ## Strings -/

/-- Without backslashes an escaped string goes up to the quote behind it. -/
theorem cutFrom_escaped (absent : '\\' ∉ s) (before : Option Char) (rest : List Char) :
    cutFrom (.inside '"') depth between before (escaped s ++ '"' :: rest) =
      (cutFrom .outside depth between (some '"') rest).map (.extend (escaped s ++ ['"'])) := by
  induction s generalizing before with
  | nil => exact cutFrom_quoted rfl rest
  | cons c s ih =>
    rw [List.mem_cons, not_or] at absent
    by_cases quote : c = '"'
    · subst quote
      have opens : Quoting.next (.inside '"') '\\' = .escaping '"' := rfl
      have closes : Quoting.next (.escaping '"') '"' = .inside '"' := rfl
      rw [escaped_quote, List.cons_append, List.cons_append, cutFrom_quoted rfl, opens,
        cutFrom_quoted rfl, closes, ih absent.2, map_extend_extend, map_extend_extend]
      rfl
    · have stays : Quoting.next (.inside '"') c = .inside '"' := by
        simp [Quoting.next, quote, Ne.symm absent.1]
      rw [escaped_cons quote, List.cons_append, cutFrom_quoted rfl, stays, ih absent.2,
        map_extend_extend]
      rfl

theorem listPieces_escaped (absent : '\\' ∉ s) (rest : List Char) :
    listPieces (.inside '"') depth (escaped s ++ '"' :: rest) =
      prepend (escaped s ++ ['"']) (listPieces .outside depth rest) := by
  induction s with
  | nil =>
    have closes : Quoting.next (.inside '"') '"' = .outside := rfl
    simp [listPieces, closes, consPiece_eq_prepend]
  | cons c s ih =>
    rw [List.mem_cons, not_or] at absent
    by_cases quote : c = '"'
    · subst quote
      have opens : Quoting.next (.inside '"') '\\' = .escaping '"' := rfl
      have closes : Quoting.next (.escaping '"') '"' = .inside '"' := rfl
      simp [listPieces, opens, closes, ih absent.2, consPiece_eq_prepend, prepend_prepend]
    · have stays : Quoting.next (.inside '"') c = .inside '"' := by
        simp [Quoting.next, quote, Ne.symm absent.1]
      simp [escaped_cons quote, listPieces, stays, ih absent.2, consPiece_eq_prepend,
        prepend_prepend]

theorem isItem_string {s : String} (noBackslash : '\\' ∉ s.toList) (oneLine : '\n' ∉ s.toList)
    (noInstant : ∀ t, Time.Instant.parseInternet s ≠ .ok t) :
    IsItem ('"' :: (escaped s.toList ++ ['"'])) (.string s) where
  passes := by
    intro depth between rest _ before
    have opens : Quoting.next .outside '"' = .inside '"' := rfl
    refine ⟨some '"', ?_⟩
    rw [List.cons_append, List.append_assoc, List.singleton_append, cutFrom_quoted rfl, opens,
      cutFrom_escaped noBackslash, map_extend_extend]
    rfl
  together := by
    intro rest
    have opens : Quoting.next .outside '"' = .inside '"' := rfl
    have shields : nextDepth 0 '"' = 0 := rfl
    simp [listPieces, opens, shields, listPieces_escaped noBackslash, consPiece_eq_prepend,
      prepend_prepend]
  first := rfl
  ends := .cons (.append rfl)
  oneLine := by simpa [mem_escaped_iff] using oneLine
  read := by
    have single : ¬ ['\\', '\\'] <:+: s.toList :=
      fun pair => noBackslash (pair.subset List.mem_cons_self)
    have kept : unescape '"' (escaped s.toList) = s.toList := reread_eq_self single
    rw [itemValue_quoted rfl, kept, quotedValue, String.ofList_toList]
    cases read : Time.Instant.parseInternet s with
    | ok t => exact absurd read (noInstant t)
    | error e => rfl

/-! ## Integers -/

theorem sign_natAbs (n : Int) :
    (if decide (n < 0) = true then -(n.natAbs : Int) else n.natAbs) = n := by
  split <;> rename_i sign
  · have negative : n < 0 := of_decide_eq_true sign
    omega
  · have natural : ¬ n < 0 := of_decide_eq_false (by simpa using sign)
    omega

/-- The numeral of an integer. -/
def Numeral.ofInt64 (n : Int64) : Numeral where
  negative := decide (n.toInt < 0)
  digits := Nat.toDigits 10 n.toInt.natAbs
  nonempty := Nat.toDigits_ne_nil
  decimal := fun _ member => Number.isDigit_of_mem_toDigits member
  fits := by
    rw [Nat.ofDigitChars_ten_toDigits, sign_natAbs]
    have low := n.le_toInt
    have high := n.toInt_lt
    exact Bool.and_eq_true_iff.mpr ⟨decide_eq_true low, decide_eq_true (Int.le_of_lt_add_one high)⟩

theorem Numeral.value_ofInt64 (n : Int64) : Int64.ofInt (Numeral.ofInt64 n).value = n := by
  have value : (Numeral.ofInt64 n).value = n.toInt := by
    rw [Numeral.value, Numeral.ofInt64, Nat.ofDigitChars_ten_toDigits, sign_natAbs]
  rw [value, Int64.ofInt_toInt]

theorem Numeral.text_ofInt64 (n : Int64) :
    (Numeral.ofInt64 n).text = (toString n.toInt).toList := by
  change (if decide (n.toInt < 0) = true then '-' :: Nat.toDigits 10 n.toInt.natAbs
    else Nat.toDigits 10 n.toInt.natAbs) = _
  cases n.toInt with
  | ofNat n => exact (Number.intText_ofNat n).symm
  | negSucc n =>
    rw [Number.intText_negSucc, if_pos (decide_eq_true (Int.negSucc_lt_zero n))]
    rfl

/-! ## Values -/

/-- The values that keep what they are as items of a list. -/
def IsListValue : Value → Prop
  | .null | .bool _ | .int64 _ | .objectId _ => True
  | .string s => '\\' ∉ s.toList ∧ '\n' ∉ s.toList ∧ ':' ∉ s.toList ∧
      ∀ t, Time.Instant.parseInternet s ≠ .ok t
  | _ => False

theorem toLower_hexDigit (d : Fin 16) : (hexDigit d.val).toLower = hexDigit d.val := by
  revert d
  decide

theorem map_toLower_hexChars (id : ObjectId) : id.hexChars.map Char.toLower = id.hexChars := by
  rw [ObjectId.hexChars, List.map_map]
  exact List.map_congr_left fun d _ => toLower_hexDigit d

/-- A value other than a string is written as it can stand in a condition. -/
theorem exists_writtenValue {value : Value} (simple : IsListValue value)
    (bare : ∀ s, value ≠ .string s) : ∃ v : WrittenValue,
      v.text = (Parameters.parameterText value).toList ∧ v.value = value ∧
        ∀ s noInstant, v ≠ .string s noInstant := by
  cases value with
  | null => exact ⟨.null, rfl, rfl, by simp⟩
  | bool b => exact ⟨.bool b, rfl, rfl, by simp⟩
  | int64 n =>
    refine ⟨.int (.ofInt64 n), ?_, congrArg Value.int64 (Numeral.value_ofInt64 n), by simp⟩
    rw [Parameters.parameterText]
    exact Numeral.text_ofInt64 n
  | objectId id =>
    refine ⟨.objectId id.hexChars id (map_toLower_hexChars id), ?_, rfl, by simp⟩
    rw [WrittenValue.text_objectId, Parameters.parameterText, Literal.objectIdText, ObjectId.hex]
    simp
  | string s => exact absurd rfl (bare s)
  | _ => cases simple

/-- Without quotes a value is made of words, a sign and brackets. -/
theorem WrittenValue.mem_text (v : WrittenValue) (bare : ∀ s noInstant, v ≠ .string s noInstant)
    {c : Char} (member : c ∈ v.text) : continuesWord c = true ∨ c ∈ ['-', '(', '"', ')'] := by
  cases v with
  | null => exact .inl (List.all_eq_true.mp (by decide) c member)
  | bool b =>
    cases b <;> exact .inl (List.all_eq_true.mp (by decide) c member)
  | int n =>
    have every := n.all_text (p := fun c => continuesWord c || c == '-') (by decide) c member
    rw [Bool.or_eq_true, beq_iff_eq] at every
    exact every.imp_right fun sign => by simp [sign]
  | objectId digits id spelled =>
    have name : (['O', 'b', 'j', 'e', 'c', 't', 'I', 'd'].all continuesWord) = true := by decide
    simp only [text_objectId, List.mem_append, List.mem_cons, List.not_mem_nil, or_false]
      at member ⊢
    rcases member with inName | rfl | (rfl | inDigits | rfl) | rfl
    · exact .inl (List.all_eq_true.mp name c (by simpa using inName))
    · simp
    · simp
    · exact .inl ((mapM_hexNibble? spelled).2 c inDigits).1
    · simp
    · simp
  | string s noInstant => exact absurd rfl (bare s noInstant)

/-- What is written for an item of an array is read as that item, and holds no colon. -/
theorem isItem_parameterText {value : Value} (simple : IsListValue value) :
    IsItem (Parameters.parameterText value).toList value ∧
      ':' ∉ (Parameters.parameterText value).toList := by
  by_cases bare : ∀ s, value ≠ .string s
  · obtain ⟨v, text, rfl, notString⟩ := exists_writtenValue simple bare
    rw [← text]
    refine ⟨v.isItem, fun member => ?_⟩
    rcases v.mem_text notString member with continues | other
    · exact absurd continues (by decide)
    · exact absurd other (by decide)
  · push Not at bare
    obtain ⟨s, rfl⟩ := bare
    obtain ⟨noBackslash, oneLine, noColon, noInstant⟩ := simple
    rw [Parameters.parameterText, toList_quoted]
    exact ⟨isItem_string noBackslash oneLine noInstant, by simpa [mem_escaped_iff] using noColon⟩

end DocQuery.Condition
