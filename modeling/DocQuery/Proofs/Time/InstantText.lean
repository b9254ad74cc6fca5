import DocQuery.Time.Text
import DocQuery.Proofs.Number.NumberText
import Mathlib.Algebra.Group.Nat.Defs

/-! # Timestamps are written apart

Two instants in whole milliseconds have different timestamps, also when one is a leap second.

* `append_padded_inj` — a field of fixed width at the end of a text is known from the text.
* `Instant.millisText_injective` — the instant is known from its timestamp.
-/

namespace DocQuery.Time

open DocQuery.Number

variable {width m n : Nat} {front back : List Char}

theorem length_padded (positive : 0 < width) (bound : n < 10 ^ width) :
    (padded width n).length = width := by
  have short := (Nat.length_toDigits_le_iff (by decide) positive).mpr bound
  simp only [padded, List.length_append, List.length_replicate]
  omega

theorem ofDigitChars_padded (width n : Nat) : Nat.ofDigitChars 10 (padded width n) 0 = n := by
  simp [padded, Nat.ofDigitChars_append]

theorem padded_injective (same : padded width m = padded width n) : m = n := by
  rw [← ofDigitChars_padded width m, same, ofDigitChars_padded]

/-- A field of fixed width at the end of a text is known from the text. -/
theorem append_padded_inj {mark : Char} (positive : 0 < width) (boundM : m < 10 ^ width)
    (boundN : n < 10 ^ width)
    (same : front ++ mark :: padded width m = back ++ mark :: padded width n) :
    front = back ∧ m = n := by
  have lengths : (mark :: padded width m).length = (mark :: padded width n).length := by
    rw [List.length_cons, List.length_cons, length_padded positive boundM,
      length_padded positive boundN]
  obtain ⟨fronts, fields⟩ := List.append_inj' same lengths
  exact ⟨fronts, padded_injective (List.cons.inj fields).2⟩

theorem isDigit_of_mem_padded {c : Char} (member : c ∈ padded width n) : c.isDigit = true := by
  rcases List.mem_append.mp member with zero | digit
  · exact List.eq_of_mem_replicate zero ▸ rfl
  · exact isDigit_of_mem_toDigits digit

theorem yearText_injective {y z : Int} (same : yearText y = yearText z) : y = z := by
  -- a year beyond four digits begins with a sign, and the others do not
  have apart (sign : Char) (notDigit : sign.isDigit = false) (year : Nat) (rest : List Char) :
      padded 4 year ≠ sign :: rest := by
    intro same
    rw [isDigit_of_mem_padded (same ▸ List.mem_cons_self)] at notDigit
    cases notDigit
  have sign (year : Int) : (if year < 0 then '-' else '+').isDigit = false := by split <;> rfl
  unfold yearText at same
  by_cases plainY : (0 ≤ y && y ≤ 9999) = true <;> by_cases plainZ : (0 ≤ z && z ≤ 9999) = true
  · rw [if_pos plainY, if_pos plainZ] at same
    have sizes := padded_injective same
    simp only [Bool.and_eq_true, decide_eq_true_eq] at plainY plainZ
    omega
  · rw [if_pos plainY, if_neg plainZ] at same
    exact absurd same (apart _ (sign z) _ _)
  · rw [if_neg plainY, if_pos plainZ] at same
    exact absurd same.symm (apart _ (sign y) _ _)
  · rw [if_neg plainY, if_neg plainZ, List.cons.injEq] at same
    have sizes := padded_injective same.2
    have signs : y < 0 ↔ z < 0 := by
      have marks := same.1
      split_ifs at marks with negativeY negativeZ negativeZ
      · exact iff_of_true negativeY negativeZ
      · exact absurd marks (by decide)
      · exact absurd marks (by decide)
      · exact iff_of_false negativeY negativeZ
    omega

theorem daysInMonth_le (year : Int) (month : Nat) : daysInMonth year month ≤ 31 := by
  unfold daysInMonth
  split
  · split <;> decide
  all_goals decide

namespace Instant

/-- The second as it is written, which is 60 in a leap second. -/
def writtenSecond (t : Instant) : Nat := t.second % 60 + if t.isLeap then 1 else 0

theorem time_eq {s t : Instant} (wholeS : s.nano % 1000000 = 0) (wholeT : t.nano % 1000000 = 0)
    (hour : s.second / 3600 = t.second / 3600) (minute : s.second / 60 % 60 = t.second / 60 % 60)
    (second : s.writtenSecond = t.writtenSecond)
    (millis : s.fraction / 1000000 = t.fraction / 1000000) :
    s.second = t.second ∧ s.nano = t.nano := by
  have timeS := s.exists_time
  have timeT := t.exists_time
  simp only [IsTime] at timeS timeT
  simp only [writtenSecond, fraction, isLeap, nanosPerSecond] at second millis
  by_cases leapS : 1000000000 ≤ s.nano <;> by_cases leapT : 1000000000 ≤ t.nano <;>
    simp only [leapS, leapT, decide_true, decide_false, if_true, Bool.false_eq_true,
      if_false] at second millis <;> omega

theorem eq_of_parts {s t : Instant} (year : s.date.year = t.date.year)
    (month : s.date.month = t.date.month) (day : s.date.day = t.date.day)
    (second : s.second = t.second) (nano : s.nano = t.nano) : s = t := by
  obtain ⟨⟨_, _, _, _⟩, _, _, _⟩ := s
  obtain ⟨⟨_, _, _, _⟩, _, _, _⟩ := t
  simp_all

/-- Every field of a timestamp but the year has a fixed width. -/
theorem field_bounds (t : Instant) : t.date.month < 10 ^ 2 ∧ t.date.day < 10 ^ 2 ∧
    t.second / 3600 < 10 ^ 2 ∧ t.second / 60 % 60 < 10 ^ 2 ∧ t.writtenSecond < 10 ^ 2 ∧
    t.fraction / 1000000 < 10 ^ 3 := by
  obtain ⟨_, month, _, day⟩ := t.date.exists_day
  have days := daysInMonth_le t.date.year t.date.month
  obtain ⟨second, nano⟩ := t.exists_time
  have leap : (if t.isLeap then 1 else 0) ≤ 1 := by split <;> decide
  have fraction : t.fraction < 1000000000 := by
    unfold Instant.fraction isLeap nanosPerSecond
    simp only [decide_eq_true_eq]
    split <;> omega
  unfold writtenSecond
  omega

/-- The instant is known from its timestamp in milliseconds if it has no smaller part. -/
theorem millisText_injective {s t : Instant} (wholeS : s.nano % 1000000 = 0)
    (wholeT : t.nano % 1000000 = 0) (same : s.millisText = t.millisText) : s = t := by
  have chars := List.append_cancel_right (String.ofList_injective same)
  obtain ⟨monthS, dayS, hourS, minuteS, secondS, millisS⟩ := s.field_bounds
  obtain ⟨monthT, dayT, hourT, minuteT, secondT, millisT⟩ := t.field_bounds
  obtain ⟨chars, millis⟩ := append_padded_inj (by decide) millisS millisT chars
  obtain ⟨chars, second⟩ := append_padded_inj (by decide) secondS secondT chars
  obtain ⟨chars, minute⟩ := append_padded_inj (by decide) minuteS minuteT chars
  obtain ⟨chars, hour⟩ := append_padded_inj (by decide) hourS hourT chars
  obtain ⟨chars, day⟩ := append_padded_inj (by decide) dayS dayT chars
  obtain ⟨chars, month⟩ := append_padded_inj (by decide) monthS monthT chars
  obtain ⟨sameSecond, sameNano⟩ := time_eq wholeS wholeT hour minute second millis
  exact eq_of_parts (yearText_injective chars) month day sameSecond sameNano

end Instant

end DocQuery.Time
