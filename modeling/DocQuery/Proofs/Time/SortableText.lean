import DocQuery.Proofs.Time.InstantText
import Mathlib.Data.String.Basic

/-! # Sortable timestamps are read again

A timestamp that is written with seven fraction digits is read as an internet timestamp. Nothing
but the part below a tenth of a microsecond is lost: the fields have fixed widths, and the numbers
in them are in the ranges that are checked.

* `fixedDigits_padded`, `nanoseconds_padded` — a field of digits is read as its number.
* `Instant.parseInternet_secondsText` — a timestamp with any number of fraction digits.
* `Instant.inTicks` — the instant without the part that is not written in a sortable timestamp.
* `Instant.parseInternet_sortableText` — what is read of one.
-/

namespace DocQuery.Time

open DocQuery.Text DocQuery.Number

variable {width n : Nat}

/-! ## Fields -/

theorem digitValue?_of_isDigit {c : Char} (digit : c.isDigit = true) :
    digitValue? c = some (c.toNat - 48) := by
  have range : '0' ≤ c ∧ c ≤ '9' := by
    simpa [Char.isDigit, Char.le_def, UInt32.le_iff_toNat_le] using digit
  rw [digitValue?, if_pos range]

theorem fixedDigits_append {digits : List Char} (decimal : ∀ c ∈ digits, c.isDigit = true)
    (value : Nat) (rest : List Char) :
    fixedDigits digits.length value (digits ++ rest) =
      .ok (Nat.ofDigitChars 10 digits value, rest) := by
  induction digits generalizing value with
  | nil => rfl
  | cons c digits ih =>
    obtain ⟨first, others⟩ := List.forall_mem_cons.mp decimal
    simp only [List.length_cons, List.cons_append, fixedDigits, digitValue?_of_isDigit first,
      ih others, Nat.ofDigitChars_cons]
    rfl

/-- A field of a fixed width is read as the number that is written in it. -/
theorem fixedDigits_padded (positive : 0 < width) (bound : n < 10 ^ width) (rest : List Char) :
    fixedDigits width 0 (padded width n ++ rest) = .ok (n, rest) := by
  have decimal : ∀ c ∈ padded width n, c.isDigit = true := fun c => isDigit_of_mem_padded
  have read := fixedDigits_append decimal 0 rest
  rwa [length_padded positive bound, ofDigitChars_padded] at read

/-- A run of digits ends at a character that is no digit. -/
theorem someDigits_append {limit : Nat} {digits : List Char} (nonempty : digits ≠ [])
    (decimal : ∀ d ∈ digits, d.isDigit = true) (short : digits.length ≤ limit) {c : Char}
    (noDigit : c.isDigit = false) (rest : List Char) :
    someDigits limit (digits ++ c :: rest) = .ok (digits, c :: rest) := by
  obtain ⟨first, others, same⟩ := List.exists_cons_of_ne_nil nonempty
  have counted : ((digits ++ c :: rest).take limit).takeWhile Char.isDigit = digits := by
    rw [List.take_append, List.take_of_length_le short,
      List.takeWhile_append_of_pos decimal]
    cases (limit - digits.length) <;> simp [noDigit]
  unfold someDigits
  rw [counted, same]
  simp

theorem padded_ne_nil (positive : 0 < width) : padded width n ≠ [] := by
  intro nothing
  have length := congrArg List.length nothing
  simp only [padded, List.length_append, List.length_replicate, List.length_nil] at length
  omega

/-- A fraction of at most nine digits counts in nanoseconds. -/
theorem nanoseconds_padded (positive : 0 < width) (short : width ≤ 9) (bound : n < 10 ^ width)
    {c : Char} (noDigit : c.isDigit = false) (rest : List Char) :
    nanoseconds (padded width n ++ c :: rest) = .ok (n * tenTo (9 - width), c :: rest) := by
  have length := length_padded positive bound
  have read := someDigits_append (padded_ne_nil positive)
    (fun d => isDigit_of_mem_padded) (length.trans_le short) noDigit rest
  simp [nanoseconds, read, bind, Except.bind, ofDigitChars_padded, length, noDigit]

/-! ## Timestamps -/

/-- Every character takes at least a byte. -/
theorem length_le_utf8ByteSize (s : String) : s.toList.length ≤ s.utf8ByteSize := by
  rw [← String.ofList_toList (s := s), String.utf8ByteSize_ofList, String.toList_ofList]
  induction s.toList with
  | nil => exact Nat.le_refl 0
  | cons c rest ih =>
    have positive := c.utf8Size_pos
    rw [String.utf8Len_cons, List.length_cons]
    omega

namespace Instant

/-- The instant without the part that is not written in a sortable timestamp. -/
def inTicks (t : Instant) : Instant where
  date := t.date
  second := t.second
  nano := t.nano / 100 * 100
  exists_time := by
    have := t.exists_time
    unfold IsTime at *
    omega

theorem inTicks_eq_self_iff {t : Instant} : t.inTicks = t ↔ t.nano % 100 = 0 := by
  obtain ⟨date, second, nano, -⟩ := t
  simp only [inTicks, mk.injEq, true_and]
  omega

theorem addMinutes_zero (t : Instant) : t.addMinutes (-0) = t := by
  have inDay : t.second < 86400 := t.exists_time.1
  have early : ¬ (t.second : Int) + 60 * (-0) < 0 := by omega
  have late : ¬ 86400 ≤ (t.second : Int) + 60 * (-0) := by omega
  have second : (((t.second : Int) + 60 * (-0)) % 86400).toNat = t.second := by omega
  simp only [addMinutes, early, late, second, if_false]

/-- The characters of a sortable timestamp, field by field. -/
theorem toList_sortableText (t : Instant) (early : 0 ≤ t.date.year) (late : t.date.year ≤ 9999) :
    t.sortableText.toList = padded 4 t.date.year.toNat ++ '-' :: (padded 2 t.date.month ++
      '-' :: (padded 2 t.date.day ++ 'T' :: (padded 2 (t.second / 3600) ++
      ':' :: (padded 2 (t.second / 60 % 60) ++ ':' :: (padded 2 t.writtenSecond ++
      '.' :: (padded 7 (t.nano / 100) ++ ['Z'])))))) := by
  simp [sortableText, secondsText, yearText, writtenSecond, early, late]

theorem mem_sortableText {t : Instant} (early : 0 ≤ t.date.year) (late : t.date.year ≤ 9999)
    {c : Char} (member : c ∈ t.sortableText.toList) :
    c.isDigit = true ∨ c ∈ ['-', 'T', ':', '.', 'Z'] := by
  rw [t.toList_sortableText early late] at member
  by_contra other
  rw [not_or] at other
  have noField (width n : Nat) : c ∉ padded width n :=
    fun inField => other.1 (isDigit_of_mem_padded inField)
  simp only [List.mem_append, List.mem_cons, noField, List.not_mem_nil, false_or, or_false]
    at member other
  tauto

/-- What stands behind the seconds of a timestamp in universal time, with its nanoseconds. -/
inductive EndsTimestamp : Nat → List Char → Prop
  | whole : EndsTimestamp 0 ['Z']
  | fraction {nano : Nat} {s : List Char} : nanoseconds s = .ok (nano, ['Z']) →
      EndsTimestamp nano ('.' :: s)

theorem endsTimestamp_padded (positive : 0 < width) (short : width ≤ 9) (bound : n < 10 ^ width) :
    EndsTimestamp (n * tenTo (9 - width)) ('.' :: (padded width n ++ ['Z'])) :=
  .fraction (nanoseconds_padded positive short bound rfl [])

/-- A timestamp with a year of four digits is read as the instant with the fraction that is written
behind the seconds. -/
theorem parseInternet_secondsText {t : Instant} (early : 0 ≤ t.date.year)
    (late : t.date.year ≤ 9999) {tail : List Char} (ends : EndsTimestamp t.fraction tail) :
    parseInternet (String.ofList (t.secondsText ++ tail)) = .ok t := by
  have text : t.secondsText ++ tail = padded 4 t.date.year.toNat ++ '-' ::
      (padded 2 t.date.month ++ '-' :: (padded 2 t.date.day ++ 'T' ::
      (padded 2 (t.second / 3600) ++ ':' :: (padded 2 (t.second / 60 % 60) ++
      ':' :: (padded 2 t.writtenSecond ++ tail))))) := by
    simp [secondsText, yearText, writtenSecond, early, late]
  obtain ⟨month, day, hour, minute, second, -⟩ := t.field_bounds
  have year : t.date.year.toNat < 10 ^ 4 := by omega
  obtain ⟨inDay, leapOrNot⟩ := t.exists_time
  have length : (t.secondsText ++ tail).length = 19 + tail.length := by
    simp only [text, List.length_append, List.length_cons, length_padded, year, month, day, hour,
      minute, second, Nat.zero_lt_succ]
    omega
  have long : ¬ (String.ofList (t.secondsText ++ tail)).utf8ByteSize < 19 := by
    have characters := length_le_utf8ByteSize (String.ofList (t.secondsText ++ tail))
    rw [String.toList_ofList, length] at characters
    omega
  -- what is read are the parts of the instant, which are those of a time
  have date : Date.of? t.date.year.toNat t.date.month t.date.day = some t.date := by
    rw [Int.toNat_of_nonneg early]
    exact dif_pos t.date.exists_day
  -- a second 60 is that of a leap second, which counts on in the second before
  have seconds : (if (t.writtenSecond == 60) = true then (59, t.fraction + nanosPerSecond)
      else (t.writtenSecond, t.fraction)) = (t.second % 60, t.nano) := by
    by_cases leap : 1000000000 ≤ t.nano
    · have last : t.second % 60 = 59 := by omega
      simp [writtenSecond, fraction, isLeap, nanosPerSecond, leap, last]
    · have short : t.second % 60 < 60 := Nat.mod_lt _ (by decide)
      simp [writtenSecond, fraction, isLeap, nanosPerSecond, leap, short.ne]
  have inRange : (decide (24 ≤ t.second / 3600) || decide (60 ≤ t.second / 60 % 60) ||
      decide (60 ≤ t.second % 60)) = false := by
    simp only [Bool.or_eq_false_iff, decide_eq_false_iff_not]
    omega
  have time : of? t.date (t.second / 3600 * 3600 + t.second / 60 % 60 * 60 + t.second % 60)
      t.nano = some t := by
    have whole : t.second / 3600 * 3600 + t.second / 60 % 60 * 60 + t.second % 60 = t.second := by
      omega
    rw [whole]
    exact dif_pos t.exists_time
  have universal : offsetMinutes ['Z'] = .ok (0, []) := rfl
  have unmoved : t.addMinutes (-0) = t := addMinutes_zero t
  generalize fractionOf : t.fraction = nano at ends seconds
  unfold parseInternet
  rw [if_neg long, String.toList_ofList, text]
  cases ends with
  | whole =>
    simp only [bind, Except.bind, fixedDigits_padded, month, day, hour, minute, second, year,
      expect, Nat.zero_lt_succ, if_true, date, beq_self_eq_true, Bool.true_or, seconds, inRange,
      Bool.false_eq_true, if_false, time, universal, unmoved]
    rfl
  | fraction read =>
    simp only [bind, Except.bind, fixedDigits_padded, month, day, hour, minute, second, year,
      expect, Nat.zero_lt_succ, if_true, read, date, beq_self_eq_true, Bool.true_or, seconds,
      inRange, Bool.false_eq_true, if_false, time, universal, unmoved]
    rfl

/-- A sortable timestamp is read as the instant that it was written for, cut to the tenth of a
microsecond. -/
theorem parseInternet_sortableText {t : Instant} (early : 0 ≤ t.date.year)
    (late : t.date.year ≤ 9999) (noLeap : t.isLeap = false) :
    parseInternet t.sortableText = .ok t.inTicks := by
  have short : t.nano < 1000000000 := Nat.lt_of_not_le (of_decide_eq_false noLeap)
  have noLeap' : t.inTicks.isLeap = false :=
    decide_eq_false (Nat.not_le_of_lt ((Nat.div_mul_le_self t.nano 100).trans_lt short))
  have seconds : t.inTicks.secondsText = t.secondsText := by
    rw [secondsText, secondsText, noLeap, noLeap']
    rfl
  have text : t.sortableText = String.ofList (t.inTicks.secondsText ++
      '.' :: (padded 7 (t.nano / 100) ++ ['Z'])) := by
    rw [seconds, sortableText, List.append_assoc, List.cons_append]
  have ends : EndsTimestamp t.inTicks.fraction ('.' :: (padded 7 (t.nano / 100) ++ ['Z'])) := by
    have written : t.inTicks.fraction = t.nano / 100 * tenTo (9 - 7) := by
      rw [fraction, if_neg (by simp [noLeap'])]
      rfl
    rw [written]
    exact endsTimestamp_padded (by decide) (by decide) (by omega)
  rw [text]
  exact parseInternet_secondsText (t := t.inTicks) early late ends

end Instant

end DocQuery.Time
