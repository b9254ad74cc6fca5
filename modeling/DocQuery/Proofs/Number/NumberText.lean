import DocQuery.Number.Text
import Mathlib.Data.List.Infix

/-! # Characters of numbers

Which characters the text of a number has.

* `isDigit_of_mem_shortest` — the shortest decimal of a double has digits only.
* `mem_intText`, `intText_injective` — integers: digits and a sign, no two of them written alike.
* `isNumberChar_of_mem_floatText`, `point_or_exponent_mem_floatText` — finite doubles.
-/

namespace DocQuery.Number

variable {c : Char}

/-! ## Integers -/

theorem isDigit_of_mem_toDigits {n : Nat} (member : c ∈ Nat.toDigits 10 n) : c.isDigit = true :=
  Nat.isDigit_of_mem_toDigits (by decide) (by decide) member

theorem toDigits_injective {m n : Nat} (same : Nat.toDigits 10 m = Nat.toDigits 10 n) : m = n := by
  rw [← Nat.ofDigitChars_ten_toDigits (n := m), same, Nat.ofDigitChars_ten_toDigits]

theorem intText_ofNat (n : Nat) : (toString (Int.ofNat n)).toList = Nat.toDigits 10 n := by
  change n.repr.toList = _
  rw [Nat.toList_repr]

theorem intText_negSucc (n : Nat) :
    (toString (Int.negSucc n)).toList = '-' :: Nat.toDigits 10 (n + 1) := by
  change ("-" ++ (n + 1).repr).toList = _
  rw [String.toList_append, Nat.toList_repr]
  rfl

theorem mem_intText {n : Int} (member : c ∈ (toString n).toList) : c.isDigit = true ∨ c = '-' := by
  cases n with
  | ofNat n =>
    rw [intText_ofNat] at member
    exact .inl (isDigit_of_mem_toDigits member)
  | negSucc n =>
    rw [intText_negSucc, List.mem_cons] at member
    exact member.symm.imp_left isDigit_of_mem_toDigits

theorem intText_ne_nil (n : Int) : (toString n).toList ≠ [] := by
  cases n with
  | ofNat n => exact intText_ofNat n ▸ Nat.toDigits_ne_nil
  | negSucc n => exact intText_negSucc n ▸ List.cons_ne_nil _ _

theorem intText_injective {m n : Int} (same : (toString m).toList = (toString n).toList) :
    m = n := by
  -- a text of digits does not begin with a sign
  have apart (k l : Nat) : Nat.toDigits 10 k ≠ '-' :: Nat.toDigits 10 l := by
    intro same
    have digit := isDigit_of_mem_toDigits (same ▸ List.mem_cons_self)
    cases digit
  cases m <;> cases n <;> simp only [intText_ofNat, intText_negSucc] at same
  case ofNat.ofNat => rw [toDigits_injective same]
  case ofNat.negSucc => exact absurd same (apart _ _)
  case negSucc.ofNat => exact absurd same.symm (apart _ _)
  case negSucc.negSucc =>
    rw [List.cons.injEq] at same
    rw [Nat.succ.inj (toDigits_injective same.2)]

/-! ## Doubles -/

theorem isDigit_of_mem_search (tie : Tie) (i : Shortest.Interval) (magnitude : Int)
    (fuel count : Nat) :
    ∀ c ∈ (Shortest.search tie i magnitude fuel count).digits, c.isDigit = true := by
  induction fuel generalizing count with
  | zero => simp [Shortest.search]
  | succ fuel ih =>
    rw [Shortest.search]
    dsimp only
    split
    · intro c member
      have kept := (List.dropWhile_suffix _).subset (List.mem_reverse.mp member)
      exact isDigit_of_mem_toDigits (List.mem_reverse.mp kept)
    · exact ih (count + 1)

theorem isDigit_of_mem_shortest (tie : Tie) (m : Nat) (q : Int) :
    ∀ c ∈ (Shortest.of tie m q).digits, c.isDigit = true :=
  isDigit_of_mem_search tie _ _ _ _

/-- A character of numbers with a point or an exponent. -/
def isNumberChar (c : Char) : Bool := c.isDigit || c ∈ ['-', '+', '.', 'e']

theorem isNumberChar_of_isDigit (digit : c.isDigit = true) : isNumberChar c = true := by
  simp [isNumberChar, digit]

variable {style : FloatStyle}

theorem isNumberChar_of_mem_layout {d : Shortest} (digits : ∀ c ∈ d.digits, c.isDigit = true)
    (suffix : ∀ c ∈ style.wholeSuffix.toList, isNumberChar c = true) :
    ∀ c ∈ (style.layout d).toList, isNumberChar c = true := by
  have digit : ∀ c ∈ d.digits, isNumberChar c = true :=
    fun c member => isNumberChar_of_isDigit (digits c member)
  have zeros (n : Nat) : ∀ c ∈ List.replicate n '0', isNumberChar c = true :=
    fun c member => List.eq_of_mem_replicate member ▸ rfl
  have exponent (n : Nat) : ∀ c ∈ (toString n).toList, isNumberChar c = true := by
    rw [Nat.toString_eq_repr, Nat.toList_repr]
    exact fun c member => isNumberChar_of_isDigit (isDigit_of_mem_toDigits member)
  simp only [FloatStyle.layout]
  split_ifs
  all_goals simp only [String.toList_append, String.toList_ofList, List.forall_mem_append,
    List.forall_mem_cons]
  · exact ⟨⟨rfl, rfl, zeros _⟩, digit⟩
  · exact ⟨⟨digit, zeros _⟩, suffix⟩
  · exact ⟨fun c member => digit c (List.mem_of_mem_take member), rfl,
      fun c member => digit c (List.mem_of_mem_drop member)⟩
  all_goals
    refine ⟨⟨?_, by simp [isNumberChar]⟩, exponent _⟩
    -- the digits of the significand, with a point behind the first of several
    split
    · simp
    · rename_i only
      exact only ▸ digit
    · rename_i first rest _ several
      rw [several, List.forall_mem_cons] at digit
      exact List.forall_mem_cons.mpr ⟨digit.1, List.forall_mem_cons.mpr ⟨rfl, digit.2⟩⟩

theorem point_or_exponent_mem_layout (point : '.' ∈ style.wholeSuffix.toList) (d : Shortest) :
    '.' ∈ (style.layout d).toList ∨ 'e' ∈ (style.layout d).toList := by
  simp only [FloatStyle.layout]
  split_ifs
  all_goals simp only [String.toList_append, String.toList_ofList, List.mem_append]
  · exact .inl (.inl (by simp))
  · exact .inl (.inr point)
  · exact .inl (.inr List.mem_cons_self)
  · exact .inr (.inl (.inr (by decide)))
  · exact .inr (.inl (.inr (by decide)))

/-- A finite double is written as a sign and a zero or a decimal. -/
theorem floatText_of_isFinite (style : FloatStyle) {x : Float}
    (finite : Binary64.isFinite x = true) :
    ∃ sign body, (sign = "" ∨ sign = "-") ∧ floatText style x = sign ++ body ∧
      (body = "0" ++ style.wholeSuffix ∨
        ∃ d : Shortest, (∀ c ∈ d.digits, c.isDigit = true) ∧ body = style.layout d) := by
  unfold Binary64.isFinite at finite
  unfold floatText
  cases decoded : Binary64.decode x with
  | nan => simp [decoded] at finite
  | infinite negative => simp [decoded] at finite
  | finite negative m q =>
    refine ⟨if negative then "-" else "", ?_⟩
    dsimp only
    by_cases zero : (m == 0) = true
    · refine ⟨"0" ++ style.wholeSuffix, by cases negative <;> simp, ?_, .inl rfl⟩
      rw [if_pos zero, String.append_assoc]
    · exact ⟨_, by cases negative <;> simp, by rw [if_neg zero],
        .inr ⟨_, isDigit_of_mem_shortest _ _ _, rfl⟩⟩

theorem isNumberChar_of_mem_floatText
    (suffix : ∀ c ∈ style.wholeSuffix.toList, isNumberChar c = true) {x : Float}
    (finite : Binary64.isFinite x = true) :
    ∀ c ∈ (floatText style x).toList, isNumberChar c = true := by
  obtain ⟨sign, body, signed, same, shape⟩ := floatText_of_isFinite style finite
  rw [same, String.toList_append, List.forall_mem_append]
  constructor
  · rcases signed with rfl | rfl <;> simp [isNumberChar]
  · rcases shape with rfl | ⟨d, digits, rfl⟩
    · rw [String.toList_append, List.forall_mem_append]
      exact ⟨by simp [isNumberChar], suffix⟩
    · exact isNumberChar_of_mem_layout digits suffix

/-- A finite double is not written as an integer is, in a style with a fraction digit. -/
theorem point_or_exponent_mem_floatText (point : '.' ∈ style.wholeSuffix.toList) {x : Float}
    (finite : Binary64.isFinite x = true) :
    '.' ∈ (floatText style x).toList ∨ 'e' ∈ (floatText style x).toList := by
  obtain ⟨sign, body, -, same, shape⟩ := floatText_of_isFinite style finite
  simp only [same, String.toList_append, List.mem_append]
  rcases shape with rfl | ⟨d, -, rfl⟩
  · exact .inl (.inr (by simp [point]))
  · exact (point_or_exponent_mem_layout point d).imp .inr .inr

/-- The doubles that are not finite have words of their own. -/
theorem mem_floatText_of_not_isFinite {x : Float} (infinite : Binary64.isFinite x = false)
    (member : c ∈ (floatText style x).toList) :
    c = '-' ∨ c ∈ (style.nan ++ style.infinite).toList := by
  unfold Binary64.isFinite at infinite
  unfold floatText at member
  cases decoded : Binary64.decode x with
  | nan =>
    simp only [decoded] at member
    simp [member]
  | infinite negative =>
    simp only [decoded, String.toList_append, List.mem_append] at member
    rcases member with sign | word
    · cases negative <;> simp_all
    · simp [word]
  | finite negative m q => simp [decoded] at infinite

end DocQuery.Number
