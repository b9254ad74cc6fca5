import DocQuery.Time.Text
import Mathlib.Data.List.TakeWhile

/-! # Characters of timestamps

Every reader of a timestamp accounts for the characters that it passes over, and nothing may be
left in the end, so a text with any other character is no timestamp.

* `isTimeChar` — the characters of timestamps.
* `Instant.parseInternet_chars` — a text that is read as an internet timestamp consists of them.
* `Instant.parse?_chars` — and so does a text that is read as a timestamp of any layout.
-/

namespace DocQuery.Time

open DocQuery.Text

/-- Digits, blanks, separators, signs and the letters for time and for universal time. -/
def isTimeChar (c : Char) : Bool :=
  c.isDigit || isBlank c || ['-', '/', ':', '.', '+', '\u2212', ' ', 'T', 't', 'Z', 'z'].contains c

/-- Only characters of timestamps stand between a text and what is left of it. -/
def ReadsOver (s rest : List Char) : Prop :=
  (∀ c ∈ rest, isTimeChar c = true) → ∀ c ∈ s, isTimeChar c = true

variable {s rest later : List Char} {c : Char}

theorem ReadsOver.trans (first : ReadsOver s rest) (second : ReadsOver rest later) :
    ReadsOver s later :=
  fun tail => first (second tail)

theorem readsOver_cons (member : isTimeChar c = true) : ReadsOver (c :: rest) rest :=
  fun tail => List.forall_mem_cons.mpr ⟨member, tail⟩

theorem readsOver_append {digits : List Char} (members : ∀ c ∈ digits, c.isDigit = true)
    (rest : List Char) : ReadsOver (digits ++ rest) rest := by
  intro tail c member
  rcases List.mem_append.mp member with member | member
  · simp [isTimeChar, members c member]
  · exact tail c member

theorem readsOver_drop {digits : List Char} (front : digits <+: s)
    (members : ∀ c ∈ digits, c.isDigit = true) : ReadsOver s (s.drop digits.length) := by
  obtain ⟨back, rfl⟩ := front
  rw [List.drop_left]
  exact readsOver_append members back

theorem readsOver_dropWhile (s : List Char) : ReadsOver s (s.dropWhile Char.isDigit) := by
  have passed := readsOver_append
    (fun c (member : c ∈ s.takeWhile Char.isDigit) => List.mem_takeWhile_imp member)
    (s.dropWhile Char.isDigit)
  rwa [List.takeWhile_append_dropWhile] at passed

/-! ## Readers -/

theorem isDigit_of_digitValue? {n : Nat} (read : digitValue? c = some n) : c.isDigit = true := by
  unfold digitValue? at read
  split at read
  · rename_i range
    obtain ⟨low, high⟩ := range
    simp only [Char.isDigit, Bool.and_eq_true, decide_eq_true_eq]
    exact ⟨low, high⟩
  · cases read

theorem fixedDigits_readsOver {count value n : Nat}
    (read : fixedDigits count value s = .ok (n, rest)) : ReadsOver s rest := by
  fun_induction fixedDigits count value s with
  | case1 value s =>
    cases read
    exact fun tail => tail
  | case2 => cases read
  | case3 count value c s d digit ih =>
    have member : isTimeChar c = true := by simp [isTimeChar, isDigit_of_digitValue? digit]
    exact (readsOver_cons member).trans (ih read)
  | case4 => cases read

theorem expect_readsOver {expected : Char} (member : isTimeChar expected = true)
    (read : expect expected s = .ok rest) : ReadsOver s rest := by
  cases s with
  | nil => cases read
  | cons c s =>
    simp only [expect] at read
    split at read
    · rename_i same
      cases read
      subst same
      exact readsOver_cons member
    · cases read

theorem someDigits_readsOver {limit : Nat} {digits : List Char}
    (read : someDigits limit s = .ok (digits, rest)) : ReadsOver s rest := by
  unfold someDigits at read
  split at read
  · cases read
  · cases read
  · cases read
    exact readsOver_drop ((List.takeWhile_prefix _).trans (List.take_prefix limit _))
      fun c member => List.mem_takeWhile_imp member

theorem nanoseconds_readsOver {nano : Nat} (read : nanoseconds s = .ok (nano, rest)) :
    ReadsOver s rest := by
  unfold nanoseconds at read
  cases counted : someDigits 9 s with
  | error e =>
    rw [counted] at read
    cases read
  | ok answer =>
    rw [counted] at read
    cases read
    exact (someDigits_readsOver counted).trans (readsOver_dropWhile _)

/-! ## Internet timestamps -/

variable {β γ : Type} {first : Except TimeError β} {next : β → Except TimeError γ}
  {post : γ → Prop}

/-- Every result satisfies a condition. -/
def Ensures (result : Except TimeError γ) (post : γ → Prop) : Prop := ∀ c, result = .ok c → post c

theorem ensures_error (e : TimeError) : Ensures (.error e) post :=
  fun _ same => by cases same

theorem ensures_bind (goesOn : ∀ b, first = .ok b → Ensures (next b) post) :
    Ensures (first >>= next) post := by
  intro c same
  cases read : first with
  | error e =>
    rw [read] at same
    cases same
  | ok b =>
    rw [read] at same
    exact goesOn b read c same

theorem ensures_throw_bind (e : TimeError) : Ensures (throw e >>= next) post :=
  ensures_bind fun _ same => by cases same

theorem offsetMinutes_readsOver (s : List Char) :
    Ensures (offsetMinutes s) fun answer => ReadsOver s answer.2 := by
  cases s with
  | nil => exact ensures_error _
  | cons c s =>
    rw [offsetMinutes]
    by_cases universal : (c == 'Z' || c == 'z') = true
    · rw [if_pos universal]
      intro answer same
      cases same
      exact readsOver_cons (by simp [isTimeChar] at universal ⊢; grind)
    rw [if_neg universal]
    by_cases signed : (c == '+' || c == '-' || c == '\u2212') = true
    · rw [if_pos signed]
      have sign : ReadsOver (c :: s) s := readsOver_cons (by simp [isTimeChar] at signed ⊢; grind)
      split
      · exact ensures_error _
      refine ensures_bind fun ⟨hours, s1⟩ r1 => ensures_bind fun s2 r2 => ?_
      split
      · exact ensures_error _
      refine ensures_bind fun ⟨minutes, s3⟩ r3 => ?_
      dsimp only
      split
      · exact ensures_error _
      · intro answer same
        cases same
        exact sign.trans <| (fixedDigits_readsOver r1).trans <|
          (expect_readsOver rfl r2).trans (fixedDigits_readsOver r3)
    · rw [if_neg signed]
      exact ensures_error _

/-- The end of a timestamp: after the offset nothing may be left. -/
theorem parseInternet_end {text : List Char} {start : Option Instant} {s : List Char} {bad : Bool}
    (read : ReadsOver text s) :
    Ensures (do
        if bad then throw TimeError.outOfRange
        let some local_ := start | throw TimeError.outOfRange
        let (offset, s) ← offsetMinutes s
        if offset < -1439 || 1439 < offset then throw TimeError.outOfRange
        if !s.isEmpty then throw TimeError.trailing
        return local_.addMinutes (-offset)) fun _ => ∀ c ∈ text, isTimeChar c = true := by
  dsimp only
  by_cases rejected : bad = true
  · rw [if_pos rejected]
    exact ensures_throw_bind _
  rw [if_neg rejected]
  cases start with
  | none => exact ensures_error _
  | some start =>
    refine ensures_bind fun ⟨offset, left⟩ reached => ?_
    dsimp only
    split
    · exact ensures_throw_bind _
    split
    · exact ensures_throw_bind _
    · rename_i nothing
      -- everything was passed over by some reader
      intro _ _
      have done : left = [] := by simpa using nothing
      subst done
      exact (read.trans (offsetMinutes_readsOver s _ reached)) (by simp)

theorem Instant.parseInternet_short {text : String} (short : text.utf8ByteSize < 19)
    (t : Instant) : parseInternet text ≠ .ok t := by
  rw [parseInternet, if_pos short]
  exact nofun

/-- A text that is read as a timestamp consists of the characters of timestamps. -/
theorem Instant.parseInternet_chars (text : String) :
    Ensures (Instant.parseInternet text) fun _ => ∀ c ∈ text.toList, isTimeChar c = true := by
  unfold Instant.parseInternet
  split
  · exact ensures_throw_bind _
  refine ensures_bind fun ⟨year, s1⟩ r1 => ensures_bind fun s2 r2 =>
    ensures_bind fun ⟨month, s3⟩ r3 => ensures_bind fun s4 r4 => ensures_bind fun ⟨day, s5⟩ r5 => ?_
  have date : ReadsOver text.toList s5 := (fixedDigits_readsOver r1).trans <|
    (expect_readsOver rfl r2).trans <| (fixedDigits_readsOver r3).trans <|
    (expect_readsOver rfl r4).trans (fixedDigits_readsOver r5)
  dsimp only
  cases Date.of? year month day with
  | none => exact ensures_error _
  | some day =>
  cases s5 with
  | nil => exact ensures_throw_bind _
  | cons c rest =>
  dsimp only
  by_cases separated : (c == 'T' || c == 't' || c == ' ') = true
  case neg =>
    rw [if_neg separated]
    exact ensures_throw_bind _
  rw [if_pos separated]
  have separator : ReadsOver (c :: rest) rest :=
    readsOver_cons (by simp [isTimeChar] at separated ⊢; grind)
  refine ensures_bind fun s6 r6 => ensures_bind fun ⟨hour, s7⟩ r7 => ensures_bind fun s8 r8 =>
    ensures_bind fun ⟨minute, s9⟩ r9 => ensures_bind fun s10 r10 =>
    ensures_bind fun ⟨second, s11⟩ r11 => ?_
  cases r6
  have time : ReadsOver rest s11 := (fixedDigits_readsOver r7).trans <|
    (expect_readsOver rfl r8).trans <| (fixedDigits_readsOver r9).trans <|
    (expect_readsOver rfl r10).trans (fixedDigits_readsOver r11)
  have reached := date.trans (separator.trans time)
  dsimp only
  -- with or without a fraction of a second
  split
  · refine ensures_bind fun ⟨nano, s12⟩ r12 => ?_
    exact parseInternet_end
      (reached.trans ((readsOver_cons rfl).trans (nanoseconds_readsOver r12)))
  · refine ensures_bind fun ⟨nano, s12⟩ r12 => ?_
    cases r12
    exact parseInternet_end reached

/-! ## Loose layouts -/

theorem skipBlanks_readsOver (s : List Char) : ReadsOver s (skipBlanks s) := by
  intro tail c member
  rw [← List.takeWhile_append_dropWhile (p := isBlank) (l := s), List.mem_append] at member
  rcases member with blank | later
  · simp [isTimeChar, List.mem_takeWhile_imp blank]
  · exact tail c later

theorem char?_readsOver {expected : Char} (member : isTimeChar expected = true)
    (read : char? expected s = some rest) : ReadsOver s rest := by
  cases s with
  | nil => cases read
  | cons c s =>
    simp only [char?, Option.ite_none_right_eq_some, Option.some.injEq] at read
    obtain ⟨rfl, rfl⟩ := read
    exact readsOver_cons member

namespace Instant

theorem looseField?_readsOver {width n : Nat} (read : looseField? width s = some (n, rest)) :
    ReadsOver s rest := by
  unfold looseField? at read
  split at read
  · rename_i counted
    cases read
    exact (skipBlanks_readsOver s).trans (someDigits_readsOver counted)
  · cases read

theorem looseYear?_readsOver {year : Int} (read : looseYear? s = some (year, rest)) :
    ReadsOver s rest := by
  refine (skipBlanks_readsOver s).trans ?_
  unfold looseYear? at read
  split at read
  -- the first two cases are those of a sign
  · rename_i s signed
    obtain ⟨⟨n, after⟩, counted, read⟩ := Option.bind_eq_some_iff.mp read
    rw [Option.ite_none_right_eq_some] at read
    cases read.2
    rw [signed]
    exact (readsOver_cons rfl).trans (looseField?_readsOver counted)
  · rename_i s signed
    obtain ⟨⟨n, after⟩, counted, read⟩ := Option.bind_eq_some_iff.mp read
    rw [Option.ite_none_right_eq_some] at read
    cases read.2
    rw [signed]
    exact (readsOver_cons rfl).trans (looseField?_readsOver counted)
  · obtain ⟨⟨n, after⟩, counted, same⟩ := Option.map_eq_some_iff.mp read
    cases same
    exact looseField?_readsOver counted

theorem looseDate?_readsOver {separator : Char} (member : isTimeChar separator = true)
    {date : Date} (read : looseDate? separator s = some (date, rest)) : ReadsOver s rest := by
  simp only [looseDate?, bind, Option.bind_eq_some_iff, Option.ite_none_right_eq_some,
    Prod.exists] at read
  obtain ⟨year, s₁, r₁, s₂, r₂, month, s₃, r₃, s₄, r₄, day, s₅, r₅, date, -, -, same⟩ := read
  cases same
  exact (looseYear?_readsOver r₁).trans <| (char?_readsOver member r₂).trans <|
    (looseField?_readsOver r₃).trans <| (char?_readsOver member r₄).trans (looseField?_readsOver r₅)

theorem looseTime?_chars {time : Nat × Nat} (read : looseTime? s = some time) :
    ∀ c ∈ s, isTimeChar c = true := by
  simp only [looseTime?, bind, Option.bind_eq_some_iff, Prod.exists] at read
  obtain ⟨hour, s₁, r₁, s₂, r₂, minute, s₃, r₃, s₄, r₄, second, s₅, r₅, read⟩ := read
  have reached : ReadsOver s s₅ := (looseField?_readsOver r₁).trans <|
    (char?_readsOver rfl r₂).trans <| (looseField?_readsOver r₃).trans <|
    (char?_readsOver rfl r₄).trans (looseField?_readsOver r₅)
  -- with or without a fraction of a second, nothing may be left
  split at read
  · rename_i fraction
    obtain ⟨⟨nano, s₆⟩, counted, read⟩ := Option.bind_eq_some_iff.mp read
    have counted : nanoseconds fraction = .ok (nano, s₆) := by
      cases ran : nanoseconds fraction <;> rw [ran] at counted <;> cases counted
      rfl
    have nothing : s₆ = [] := by
      by_contra some_
      simp [some_] at read
    subst nothing
    exact (reached.trans ((readsOver_cons rfl).trans (nanoseconds_readsOver counted))) (by simp)
  · have nothing : s₅ = [] := by
      by_contra some_
      simp [some_] at read
    subst nothing
    exact reached (by simp)

theorem looseInstant?_chars {separator : Char} (member : isTimeChar separator = true)
    {between : List Char → Option (List Char)}
    (readsOver : ∀ {s rest}, between s = some rest → ReadsOver s rest) {t : Instant}
    (read : looseInstant? separator between s = some t) : ∀ c ∈ s, isTimeChar c = true := by
  simp only [looseInstant?, bind, Option.bind_eq_some_iff, Prod.exists] at read
  obtain ⟨date, s₁, r₁, s₂, r₂, second, nano, r₃, -⟩ := read
  exact ((looseDate?_readsOver member r₁).trans (readsOver r₂)) (looseTime?_chars r₃)

theorem looseMidnight?_chars {separator : Char} (member : isTimeChar separator = true)
    {t : Instant} (read : looseMidnight? separator s = some t) : ∀ c ∈ s, isTimeChar c = true := by
  simp only [looseMidnight?, bind, Option.bind_eq_some_iff, Prod.exists] at read
  obtain ⟨date, s₁, r₁, read⟩ := read
  have nothing : s₁ = [] := by
    by_contra some_
    simp [some_] at read
  subst nothing
  exact (looseDate?_readsOver member r₁) (by simp)

/-- A text that is read as a timestamp, in whatever layout, consists of the characters of
timestamps. -/
theorem parse?_chars {text : String} {t : Instant} (read : parse? text = some t) :
    ∀ c ∈ text.toList, isTimeChar c = true := by
  unfold parse? at read
  split at read
  · rename_i internet
    exact parseInternet_chars text _ internet
  · have spaced {s rest : List Char} (read : (some ∘ skipBlanks) s = some rest) :
        ReadsOver s rest := by
      cases read
      exact skipBlanks_readsOver s
    have either {one other : Option Instant} (read : (one <|> other) = some t) :
        one = some t ∨ other = some t := by
      cases one with
      | none => exact .inr read
      | some found => exact .inl read
    rcases either read with dashed | read
    · exact looseInstant?_chars rfl spaced dashed
    rcases either read with joined | read
    · exact looseInstant?_chars rfl (char?_readsOver rfl) joined
    rcases either read with slashed | read
    · exact looseInstant?_chars rfl spaced slashed
    rcases either read with dashed | slashed
    · exact looseMidnight?_chars rfl dashed
    · exact looseMidnight?_chars rfl slashed

end Instant

end DocQuery.Time
