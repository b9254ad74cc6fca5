import DocQuery.Condition.Compile
import DocQuery.Proofs.Time.Timestamps
import Mathlib.Data.List.Infix

/-! # Strings in quotes

A string is written with its double quotes escaped, and read with the escapes of double quotes and
of backslashes undone. The two agree except on doubled backslashes.

* `escaped` — a string as it is written between quotes.
* `unescape_escaped_iff` — when reading gives back what was written.
* `quotedValue_backslash` — a text with a backslash is only a string.
-/

namespace DocQuery.Condition

open DocQuery.Text

/-- The characters of a string as they are written between double quotes. -/
def escaped (s : List Char) : List Char := s.flatMap fun c => if c == '"' then ['\\', '"'] else [c]

variable {c : Char} {s : List Char}

theorem toList_quoted (s : String) :
    (Parameters.quoted s).toList = '"' :: (escaped s.toList ++ ['"']) := by
  simp [Parameters.quoted, escaped]

@[simp] theorem escaped_nil : escaped [] = [] := rfl

@[simp] theorem escaped_quote (s : List Char) : escaped ('"' :: s) = '\\' :: '"' :: escaped s := rfl

@[simp] theorem escaped_cons (other : c ≠ '"') (s : List Char) :
    escaped (c :: s) = c :: escaped s := by
  simp [escaped, other]

theorem escaped_eq_nil_iff : escaped s = [] ↔ s = [] := by
  cases s with
  | nil => simp
  | cons c rest => by_cases quote : c = '"' <;> simp [quote]

/-- Without double quotes nothing is escaped. -/
theorem escaped_absent (absent : '"' ∉ s) : escaped s = s := by
  induction s with
  | nil => rfl
  | cons c rest ih =>
    rw [List.mem_cons, not_or] at absent
    rw [escaped_cons (Ne.symm absent.1), ih absent.2]

theorem mem_escaped_iff (other : c ≠ '\\') : c ∈ escaped s ↔ c ∈ s := by
  induction s with
  | nil => simp
  | cons d rest ih => by_cases quote : d = '"' <;> simp [quote, other, ih]

/-! ## Reading -/

/-- What is read of a string that is written. -/
def reread (s : List Char) : List Char := unescape '"' (escaped s)

@[simp] theorem reread_nil : reread [] = [] := rfl

@[simp] theorem reread_pair (s : List Char) : reread ('\\' :: '\\' :: s) = '\\' :: reread s := by
  simp [reread, unescape]

/-- A character is kept unless it begins a pair of backslashes. -/
theorem reread_cons (single : ¬ ['\\', '\\'] <+: c :: s) : reread (c :: s) = c :: reread s := by
  by_cases quote : c = '"'
  · subst quote
    simp [reread, unescape]
  by_cases backslash : c = '\\'
  · subst backslash
    cases s with
    | nil => rfl
    | cons d rest =>
      -- a backslash in front of anything but a backslash is kept
      have other : d ≠ '\\' := by
        rintro rfl
        exact single ⟨rest, rfl⟩
      by_cases nextQuote : d = '"'
      · subst nextQuote
        cases h : escaped rest <;> simp [reread, unescape, h]
      · simp [reread, unescape, nextQuote, other]
  · simp only [reread, escaped_cons quote]
    cases h : escaped s <;> simp [unescape, backslash]

theorem reread_eq_self (single : ¬ ['\\', '\\'] <:+: s) : reread s = s := by
  induction s with
  | nil => rfl
  | cons c rest ih =>
    rw [List.infix_cons_iff, not_or] at single
    rw [reread_cons single.1, ih single.2]

theorem length_reread_le (s : List Char) : (reread s).length ≤ s.length := by
  induction h : s.length using Nat.strong_induction_on generalizing s with
  | _ n ih =>
    subst h
    cases s with
    | nil => simp
    | cons c rest =>
      by_cases pair : ['\\', '\\'] <+: c :: rest
      · obtain ⟨back, same⟩ := pair
        simp only [List.cons_append, List.nil_append, List.cons.injEq] at same
        obtain ⟨rfl, rfl⟩ := same
        have bounded := ih back.length (by simp only [List.length_cons]; omega) back rfl
        simp only [reread_pair, List.length_cons]
        omega
      · have bounded := ih rest.length (by simp) rest rfl
        simp [reread_cons pair, bounded]

theorem length_reread_lt (pair : ['\\', '\\'] <:+: s) : (reread s).length < s.length := by
  induction s with
  | nil => simp at pair
  | cons c rest ih =>
    by_cases here : ['\\', '\\'] <+: c :: rest
    · -- the pair is read as one character, and the rest grows no longer
      obtain ⟨back, same⟩ := here
      rw [← same]
      have bounded := length_reread_le back
      simp only [List.cons_append, List.nil_append, reread_pair, List.length_cons]
      omega
    · rw [List.infix_cons_iff] at pair
      have shorter := ih (pair.resolve_left here)
      simp [reread_cons here, shorter]

/-- Reading gives back what was written exactly if no backslash is doubled. -/
theorem reread_eq_self_iff : reread s = s ↔ ¬ ['\\', '\\'] <:+: s := by
  constructor
  · intro same pair
    have shorter := length_reread_lt pair
    rw [same] at shorter
    exact Nat.lt_irrefl _ shorter
  · exact reread_eq_self

/-! ## Values -/

theorem mapM_hexNibble?_eq_none (member : c ∈ s) (other : hexNibble? c = none) :
    s.mapM hexNibble? = none := by
  induction s with
  | nil => cases member
  | cons d rest ih =>
    rw [List.mapM_cons]
    rcases List.mem_cons.mp member with same | later
    · subst same
      rw [other]
      rfl
    · cases hexNibble? d <;> simp [ih later]

theorem parseInternet_backslash (backslash : '\\' ∈ s) :
    ∃ e, Time.Instant.parseInternet (String.ofList s) = .error e := by
  cases read : Time.Instant.parseInternet (String.ofList s) with
  | error e => exact ⟨e, rfl⟩
  | ok t =>
    have members := Time.Instant.parseInternet_chars _ t read
    rw [String.toList_ofList] at members
    cases members '\\' backslash

/-- A text with a backslash is neither an identifier nor a timestamp. -/
theorem quotedValue_backslash (backslash : '\\' ∈ s) (idAllowed : Bool) :
    quotedValue s idAllowed = .string (String.ofList s) := by
  have noId : ObjectId.parse? (String.ofList s) = none := by
    rw [ObjectId.parse?, String.toList_ofList, mapM_hexNibble?_eq_none backslash rfl]
    rfl
  obtain ⟨e, noInstant⟩ := parseInternet_backslash backslash
  cases idAllowed <;> simp [quotedValue, noId, noInstant]

theorem text_of_quotedValue {text : String} {idAllowed : Bool}
    (read : quotedValue s idAllowed = .string text) : text = String.ofList s := by
  simp only [quotedValue] at read
  generalize (if idAllowed = true then ObjectId.parse? (String.ofList s) else none) = id? at read
  cases id? with
  | some id => cases read
  | none =>
    simp only at read
    split at read
    · cases read
    · cases read
      rfl

/-- A string that is written and read again has its value exactly if no backslash is doubled. -/
theorem quotedValue_reread_iff (idAllowed : Bool) :
    quotedValue (reread s) idAllowed = quotedValue s idAllowed ↔ ¬ ['\\', '\\'] <:+: s := by
  constructor
  · -- a text with backslashes can only be a string, and a string keeps its text
    intro same pair
    have backslash : '\\' ∈ s := pair.subset List.mem_cons_self
    rw [quotedValue_backslash backslash] at same
    have text := text_of_quotedValue same
    have kept : reread s = s := (String.ofList_injective text).symm
    exact reread_eq_self_iff.mp kept pair
  · intro single
    rw [reread_eq_self single]

end DocQuery.Condition
