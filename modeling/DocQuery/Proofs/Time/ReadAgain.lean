import DocQuery.Proofs.Time.SortableText
import DocQuery.Proofs.Time.Timestamps

/-! # Timestamps are read again

A timestamp that is written with the fewest fraction digits that lose nothing is read as the instant
that it was written for, also in a leap second, if the year has four digits. Another year is
written with a sign, which no internet timestamp begins with; the loose layouts read such a year,
but the mark of universal time at the end is in none of them.

* `Instant.parseInternet_text`, `Instant.parseInternet_millisText` — years of four digits.
* `Instant.parseInternet_of_year`, `Instant.parse?_text_of_year` — other years.
* `Instant.parse?_text`, `Instant.parseInternet_millisText_iff` — both together.
-/

namespace DocQuery.Time

open DocQuery.Text DocQuery.Number

variable {width : Nat} {c : Char}

namespace Instant

variable {t : Instant}

/-! ## Years of four digits -/

theorem endsTimestamp_fractionText (t : Instant) :
    EndsTimestamp t.fraction (fractionText t.fraction ++ ['Z']) := by
  have small : t.fraction < 1000000000 := by
    have millis := t.field_bounds.2.2.2.2.2
    omega
  have field {width n : Nat} (positive : 0 < width) (short : width ≤ 9) (bound : n < 10 ^ width)
      (regained : n * tenTo (9 - width) = t.fraction) :
      EndsTimestamp t.fraction ('.' :: (padded width n ++ ['Z'])) :=
    regained ▸ endsTimestamp_padded positive short bound
  unfold fractionText
  split_ifs with nothing millis micros
  · rw [beq_iff_eq] at nothing
    rw [nothing]
    exact .whole
  · rw [beq_iff_eq] at millis
    exact field (by decide) (by decide) (by omega)
      (Nat.div_mul_cancel (Nat.dvd_of_mod_eq_zero millis))
  · rw [beq_iff_eq] at micros
    exact field (by decide) (by decide) (by omega)
      (Nat.div_mul_cancel (Nat.dvd_of_mod_eq_zero micros))
  · exact field (by decide) (by decide) small (Nat.mul_one _)

/-- A timestamp is read as the instant that it was written for. -/
theorem parseInternet_text (early : 0 ≤ t.date.year) (late : t.date.year ≤ 9999) :
    parseInternet t.text = .ok t := by
  rw [text, List.append_assoc]
  exact parseInternet_secondsText early late t.endsTimestamp_fractionText

/-- The instant without the part below a millisecond. -/
def inMillis (t : Instant) : Instant where
  date := t.date
  second := t.second
  nano := t.nano / 1000000 * 1000000
  exists_time := by
    have := t.exists_time
    unfold IsTime at *
    omega

theorem inMillis_eq_self_iff : t.inMillis = t ↔ t.nano % 1000000 = 0 := by
  obtain ⟨date, second, nano, -⟩ := t
  simp only [inMillis, mk.injEq, true_and]
  omega

/-- A timestamp in milliseconds is read as the instant that it was written for, cut to them. -/
theorem parseInternet_millisText (early : 0 ≤ t.date.year) (late : t.date.year ≤ 9999) :
    parseInternet t.millisText = .ok t.inMillis := by
  have leap : t.inMillis.isLeap = t.isLeap := by
    have whole : 1000000000 ≤ t.nano / 1000000 * 1000000 ↔ 1000000000 ≤ t.nano := by omega
    exact decide_eq_decide.mpr whole
  have seconds : t.inMillis.secondsText = t.secondsText := by
    rw [secondsText, secondsText, leap]
    rfl
  have written : t.fraction / 1000000 * tenTo (9 - 3) = t.inMillis.fraction := by
    have unit : tenTo (9 - 3) = 1000000 := rfl
    have nano : t.inMillis.nano = t.nano / 1000000 * 1000000 := rfl
    rw [fraction, fraction, leap, unit, nano, nanosPerSecond]
    split <;> omega
  have ends := endsTimestamp_padded (Nat.succ_pos 2) (by decide) t.field_bounds.2.2.2.2.2
  rw [written] at ends
  rw [millisText, List.append_assoc, List.cons_append, ← seconds]
  exact parseInternet_secondsText (t := t.inMillis) early late ends

/-! ## Other years -/

theorem not_isBlank_of_isDigit (digit : c.isDigit = true) : isBlank c = false := by
  have range : 48 ≤ c.toNat ∧ c.toNat ≤ 57 := by
    simpa [Char.isDigit, UInt32.le_iff_toNat_le] using digit
  simp only [isBlank, Bool.or_eq_false_iff, Bool.and_eq_false_iff, beq_eq_false_iff_ne,
    decide_eq_false_iff_not]
  omega

/-- A run of digits is read as a field of a loose layout. -/
theorem looseField?_append {digits : List Char} (nonempty : digits ≠ [])
    (decimal : ∀ d ∈ digits, d.isDigit = true) (short : digits.length ≤ width)
    (noDigit : c.isDigit = false) (rest : List Char) :
    looseField? width (digits ++ c :: rest) = some (Nat.ofDigitChars 10 digits 0, c :: rest) := by
  have unskipped : skipBlanks (digits ++ c :: rest) = digits ++ c :: rest := by
    obtain ⟨first, others, same⟩ := List.exists_cons_of_ne_nil nonempty
    have solid := not_isBlank_of_isDigit (decimal first (same ▸ List.mem_cons_self))
    simp [skipBlanks, same, solid]
  rw [looseField?, unskipped, someDigits_append nonempty decimal short noDigit]

theorem yearText_beyond {year : Int} (beyond : ¬ (0 ≤ year ∧ year ≤ 9999)) :
    yearText year = (if year < 0 then '-' else '+') :: padded 4 year.natAbs := by
  rw [yearText, if_neg (by simpa using beyond)]

/-- A year beyond four digits is read in a loose layout, with its sign. -/
theorem looseYear?_yearText {year : Int} (beyond : ¬ (0 ≤ year ∧ year ≤ 9999))
    (noDigit : c.isDigit = false) (rest : List Char) :
    looseYear? (yearText year ++ c :: rest) = some (year, c :: rest) := by
  have nonempty : padded 4 year.natAbs ≠ [] := padded_ne_nil (by decide)
  have field : looseField? (padded 4 year.natAbs ++ c :: rest).length
      (padded 4 year.natAbs ++ c :: rest) = some (year.natAbs, c :: rest) := by
    rw [looseField?_append nonempty (fun d => isDigit_of_mem_padded) (by simp) noDigit,
      ofDigitChars_padded]
  have digit : (padded 4 year.natAbs ++ c :: rest).head?.any Char.isDigit = true := by
    obtain ⟨first, others, same⟩ := List.exists_cons_of_ne_nil nonempty
    simpa [same] using isDigit_of_mem_padded (same ▸ List.mem_cons_self)
  rw [yearText_beyond beyond, List.cons_append, looseYear?]
  generalize padded 4 year.natAbs ++ c :: rest = s at field digit
  by_cases negative : year < 0
  · have value : -(year.natAbs : Int) = year := by omega
    have unskipped : skipBlanks ('-' :: s) = '-' :: s := rfl
    simp only [negative, if_true, unskipped, field, Option.bind_some, digit, value]
  · have value : (year.natAbs : Int) = year := by omega
    have unskipped : skipBlanks ('+' :: s) = '+' :: s := rfl
    simp only [negative, if_false, unskipped, field, Option.bind_some, digit, if_true, value]

/-- A sign is in no internet timestamp where the year begins. -/
theorem parseInternet_of_year (beyond : ¬ (0 ≤ t.date.year ∧ t.date.year ≤ 9999))
    (tail : List Char) :
    ∃ e, parseInternet (String.ofList (t.secondsText ++ tail)) = .error e := by
  obtain ⟨rest, text⟩ : ∃ rest, t.secondsText ++ tail = yearText t.date.year ++ rest :=
    ⟨_, by simp only [secondsText, List.append_assoc]; rfl⟩
  have noDigit : digitValue? (if t.date.year < 0 then '-' else '+') = none := by split <;> rfl
  unfold parseInternet
  split
  · exact ⟨_, rfl⟩
  · rw [String.toList_ofList, text, yearText_beyond beyond, List.cons_append]
    exact ⟨.invalid, by simp only [fixedDigits, noDigit]; rfl⟩

/-- The timestamp in milliseconds loses nothing exactly if there is no smaller part and the year has
four digits. -/
theorem parseInternet_millisText_iff : parseInternet t.millisText = .ok t ↔
    t.nano % 1000000 = 0 ∧ 0 ≤ t.date.year ∧ t.date.year ≤ 9999 := by
  by_cases plain : 0 ≤ t.date.year ∧ t.date.year ≤ 9999
  · rw [parseInternet_millisText plain.1 plain.2, Except.ok.injEq, inMillis_eq_self_iff,
      and_iff_left plain]
  · have noInstant := parseInternet_of_year plain ('.' :: padded 3 (t.fraction / 1000000) ++ ['Z'])
    obtain ⟨e, read⟩ := noInstant
    rw [millisText, List.append_assoc, read]
    exact iff_of_false nofun fun whole => plain whole.2

/-- A field of two digits is read in a loose layout. -/
theorem looseField?_two {n : Nat} (bound : n < 10 ^ 2) (noDigit : c.isDigit = false)
    (rest : List Char) : looseField? 2 (padded 2 n ++ c :: rest) = some (n, c :: rest) := by
  rw [looseField?_append (padded_ne_nil (by decide)) (fun d => isDigit_of_mem_padded)
    (length_padded (by decide) bound).le noDigit, ofDigitChars_padded]

/-- Behind a time of day of a loose layout nothing may be left, so no mark may stand there. -/
theorem looseTime?_eq_none {nano hour minute second : Nat} (hours : hour < 10 ^ 2)
    (minutes : minute < 10 ^ 2) (seconds : second < 10 ^ 2) {tail : List Char}
    (ends : EndsTimestamp nano tail) :
    looseTime? (padded 2 hour ++ ':' :: (padded 2 minute ++ ':' :: (padded 2 second ++ tail))) =
      none := by
  have colon : ':'.isDigit = false := rfl
  cases ends with
  | whole =>
    have mark : 'Z'.isDigit = false := rfl
    simp [looseTime?, looseField?_two hours colon, looseField?_two minutes colon,
      looseField?_two seconds mark, char?]
  | fraction read =>
    have point : '.'.isDigit = false := rfl
    simp [looseTime?, looseField?_two hours colon, looseField?_two minutes colon,
      looseField?_two seconds point, char?, read, Except.toOption]

/-- No field begins with the letter in front of a time of day. -/
theorem looseTime?_of_letter (rest : List Char) : looseTime? ('T' :: rest) = none := by
  have field : looseField? 2 ('T' :: rest) = none := by
    simp [looseField?, skipBlanks, show isBlank 'T' = false from rfl, someDigits]
  simp [looseTime?, field]

/-- What a loose date leaves of a timestamp, if it is read at all. -/
theorem looseDate?_leaves {month day : Nat} (months : month < 10 ^ 2) (days : day < 10 ^ 2)
    {year : Int} (beyond : ¬ (0 ≤ year ∧ year ≤ 9999)) {time left : List Char} {separator : Char}
    {date : Date} (read : looseDate? separator (yearText year ++ '-' :: (padded 2 month ++
      '-' :: (padded 2 day ++ 'T' :: time))) = some (date, left)) :
    left = 'T' :: time := by
  have dash : '-'.isDigit = false := rfl
  have letter : 'T'.isDigit = false := rfl
  simp only [looseDate?, bind, looseYear?_yearText beyond dash, Option.bind_some, char?,
    Option.bind_eq_some_iff, Option.ite_none_right_eq_some] at read
  obtain ⟨rest, ⟨rfl, same⟩, read⟩ := read
  cases same
  simp only [looseField?_two months dash, looseField?_two days letter, Option.some.injEq,
    exists_eq_left', if_true, Prod.mk.injEq] at read
  obtain ⟨-, -, -, -, rfl⟩ := read
  rfl

/-- A timestamp with another year is read in no layout. -/
theorem parse?_text_of_year (beyond : ¬ (0 ≤ t.date.year ∧ t.date.year ≤ 9999)) :
    parse? t.text = none := by
  obtain ⟨months, days, hours, minutes, seconds, -⟩ := t.field_bounds
  -- behind the date there is the time, and behind the time the mark
  let time : List Char := padded 2 (t.second / 3600) ++ ':' :: (padded 2 (t.second / 60 % 60) ++
    ':' :: (padded 2 t.writtenSecond ++ (fractionText t.fraction ++ ['Z'])))
  have chars : t.text.toList = yearText t.date.year ++ '-' :: (padded 2 t.date.month ++
      '-' :: (padded 2 t.date.day ++ 'T' :: time)) := by
    simp [Instant.text, secondsText, writtenSecond, time]
  have noTime : looseTime? time = none :=
    looseTime?_eq_none hours minutes seconds t.endsTimestamp_fractionText
  obtain ⟨e, internet⟩ : ∃ e, parseInternet t.text = .error e := by
    rw [Instant.text, List.append_assoc]
    exact parseInternet_of_year beyond _
  have left {separator : Char} {date : Date} {rest : List Char}
      (read : looseDate? separator t.text.toList = some (date, rest)) : rest = 'T' :: time :=
    looseDate?_leaves months days beyond (chars ▸ read)
  -- so there is no time of day, neither with the letter in front of it nor behind the letter
  have noInstant (separator : Char) {between : List Char → Option (List Char)}
      (behind : ∀ rest, between ('T' :: time) = some rest → looseTime? rest = none) :
      looseInstant? separator between t.text.toList = none := by
    simp only [looseInstant?, bind, Option.bind_eq_none_iff]
    rintro ⟨date, rest⟩ read behindDate found ⟨second, nano⟩ timeRead
    rw [behind behindDate (left read ▸ found)] at timeRead
    cases timeRead
  have noMidnight (separator : Char) : looseMidnight? separator t.text.toList = none := by
    simp only [looseMidnight?, bind, Option.bind_eq_none_iff]
    rintro ⟨date, rest⟩ read
    simp [left read]
  have blanks (rest : List Char) (skipped : (some ∘ skipBlanks) ('T' :: time) = some rest) :
      looseTime? rest = none := by
    cases skipped
    exact looseTime?_of_letter time
  have joined (rest : List Char) (skipped : char? 'T' ('T' :: time) = some rest) :
      looseTime? rest = none := by
    cases skipped
    exact noTime
  rw [parse?, internet]
  simp only [noInstant _ blanks, noInstant _ joined, noMidnight]
  rfl

/-- A timestamp is read exactly if its year has four digits, and then nothing is lost. -/
theorem parse?_text (t : Instant) :
    parse? t.text = if 0 ≤ t.date.year ∧ t.date.year ≤ 9999 then some t else none := by
  split_ifs with plain
  · rw [parse?, parseInternet_text plain.1 plain.2]
  · exact parse?_text_of_year plain

end Instant

end DocQuery.Time
