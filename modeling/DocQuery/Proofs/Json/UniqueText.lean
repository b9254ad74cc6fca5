import DocQuery.Json.Basic
import DocQuery.Proofs.Number.NumberText
import Mathlib.Data.List.Infix

/-! # What is written alike

Two JSON values have one text exactly if they are the same up to their doubles: doubles are alike
when their numbers are written alike, and those without a number are written as null. No two strings
are written alike, and where a written string ends is seen from its own text.

* `prefix_free_escapeChar` — no character is written as the beginning of another.
* `escaped_append_inj` — a string is known from its text with anything behind it.
* `alike` — the relation.
* `text_eq_iff` — the text is the same exactly for values that are alike.
-/

namespace DocQuery.Json

open DocQuery.Number DocQuery.Text

variable {c d : Char} {r s t : List Char}

/-- The characters of a string as they are written. -/
def escaped (s : List Char) : List Char := s.flatMap escapeChar

theorem toList_quoted (s : String) : (quoted s).toList = '"' :: (escaped s.toList ++ ['"']) := by
  simp [quoted, escaped]

/-- The characters that are not written as themselves. -/
def specials : List Char := '"' :: '\\' :: (List.range 32).map Char.ofNat

theorem escapeChar_plain (plain : c ∉ specials) : escapeChar c = [c] := by
  simp only [specials, List.mem_cons, List.mem_map, List.mem_range, not_or, not_exists,
    not_and] at plain
  obtain ⟨notQuote, notBackslash, notControl⟩ := plain
  have visible : ¬ c.toNat < 0x20 := fun small => notControl c.toNat small (Char.ofNat_toNat c)
  have apart (control : Char) (small : control.toNat < 0x20) : c ≠ control :=
    fun same => visible (same ▸ small)
  simp [escapeChar, notQuote, notBackslash, visible, apart '\n' (by decide),
    apart '\r' (by decide), apart '\t' (by decide), apart '\x08' (by decide),
    apart '\x0c' (by decide)]

theorem escapeChar_special : ∀ c ∈ specials, ['\\'] <+: escapeChar c := by
  have every : specials.all (['\\'].isPrefixOf <| escapeChar ·) = true := by decide
  exact fun c special => List.isPrefixOf_iff_prefix.mp (List.all_eq_true.mp every c special)

theorem specials_prefix_free :
    ∀ c ∈ specials, ∀ d ∈ specials, escapeChar c <+: escapeChar d → c = d := by
  have every : specials.all (fun c => specials.all fun d =>
      !(escapeChar c).isPrefixOf (escapeChar d) || c == d) = true := by decide
  intro c one d other begins
  have pair := List.all_eq_true.mp (List.all_eq_true.mp every c one) d other
  simpa [List.isPrefixOf_iff_prefix.mpr begins] using pair

/-- A backslash is special, so what begins with one is not a plain character. -/
theorem not_special_of_begins (plain : c ∉ specials) (special : d ∈ specials)
    (begins : [c] <+: escapeChar d ∨ escapeChar d <+: [c]) : False := by
  obtain ⟨rest, same⟩ := escapeChar_special d special
  have backslash : c = '\\' := by
    rw [← same] at begins
    rcases begins with begins | begins
    · simpa using begins
    · exact (List.cons_prefix_cons.mp begins).1.symm
  exact plain (backslash ▸ by decide)

/-- No character is written as the beginning of another. -/
theorem prefix_free_escapeChar (begins : escapeChar c <+: escapeChar d) : c = d := by
  by_cases one : c ∈ specials <;> by_cases other : d ∈ specials
  · exact specials_prefix_free c one d other begins
  · rw [escapeChar_plain other] at begins
    exact (not_special_of_begins other one (.inr begins)).elim
  · rw [escapeChar_plain one] at begins
    exact (not_special_of_begins one other (.inl begins)).elim
  · rw [escapeChar_plain one, escapeChar_plain other] at begins
    simpa using begins

theorem escapeChar_append_inj (same : escapeChar c ++ s = escapeChar d ++ t) : c = d ∧ s = t := by
  have equal : c = d := by
    rcases List.prefix_or_prefix_of_prefix (List.prefix_append (escapeChar c) s)
      (same ▸ List.prefix_append (escapeChar d) t) with begins | begins
    · exact prefix_free_escapeChar begins
    · exact (prefix_free_escapeChar begins).symm
  subst equal
  exact ⟨rfl, List.append_cancel_left same⟩

theorem escapeChar_append_ne_quote : escapeChar c ++ s ≠ '"' :: t := by
  intro same
  by_cases special : c ∈ specials
  · obtain ⟨rest, first⟩ := escapeChar_special c special
    rw [← first] at same
    cases same
  · rw [escapeChar_plain special] at same
    exact special ((List.cons.inj same).1 ▸ by decide)

/-- A string is known from its text with anything behind it. -/
theorem escaped_append_inj {r' : List Char}
    (same : escaped s ++ '"' :: r = escaped t ++ '"' :: r') : s = t ∧ r = r' := by
  induction s generalizing t with
  | nil =>
    cases t with
    | nil => exact ⟨rfl, (List.cons.inj same).2⟩
    | cons d t =>
      rw [escaped, escaped, List.flatMap_cons, List.append_assoc] at same
      exact (escapeChar_append_ne_quote same.symm).elim
  | cons c s ih =>
    cases t with
    | nil =>
      rw [escaped, escaped, List.flatMap_cons, List.append_assoc] at same
      exact (escapeChar_append_ne_quote same).elim
    | cons d t =>
      rw [escaped, escaped, List.flatMap_cons, List.flatMap_cons, List.append_assoc,
        List.append_assoc] at same
      obtain ⟨rfl, rest⟩ := escapeChar_append_inj same
      obtain ⟨rfl, rfl⟩ := ih rest
      exact ⟨rfl, rfl⟩

/-! ## Alike values -/

mutual

/-- Whether two values differ at most in doubles that are written alike. -/
def alike : Json → Json → Bool
  | .null, .null => true
  | .bool p, .bool q => p == q
  | .integer m, .integer n => m == n
  | .float x, .float y => numberText x == numberText y
  | .null, .float y => !Binary64.isFinite y
  | .float x, .null => !Binary64.isFinite x
  | .string s, .string t => s == t
  | .array s, .array t => alikeItems s t
  | .object s, .object t => alikeMembers s t
  | _, _ => false

def alikeItems : List Json → List Json → Bool
  | [], [] => true
  | a :: as, b :: bs => alike a b && alikeItems as bs
  | _, _ => false

def alikeMembers : List (String × Json) → List (String × Json) → Bool
  | [], [] => true
  | (m, a) :: as, (n, b) :: bs => m == n && alike a b && alikeMembers as bs
  | _, _ => false

end

variable {a b : Json}

/-! ## Bare values -/

/-- Whether the value is written without quotes and brackets. -/
def isBare : Json → Bool
  | .null | .bool _ | .integer _ | .float _ => true
  | _ => false

/-- A character of bare values. -/
def isBareChar (c : Char) : Bool := c ∉ ['"', ',', '[', ']', '\x7b', '\x7d']

/-- Whether a bare value has ended where the text begins. -/
def Ends (s : List Char) : Prop := ∀ c ∈ s.head?, isBareChar c = false

theorem ends_nil : Ends [] := by simp [Ends]

theorem ends_cons (notBare : isBareChar c = false) (s : List Char) : Ends (c :: s) := by
  simp [Ends, notBare]

theorem isBareChar_of_isNumberChar (number : isNumberChar c = true) : isBareChar c = true := by
  by_contra notBare
  simp only [isBareChar, List.mem_cons, List.not_mem_nil, or_false, decide_eq_true_eq,
    not_not] at notBare
  rcases notBare with rfl | rfl | rfl | rfl | rfl | rfl <;> revert number <;> decide

theorem isNumberChar_of_mem_intText {n : Int} :
    ∀ c ∈ (toString n).toList, isNumberChar c = true := by
  intro c member
  rcases mem_intText member with digit | rfl
  · exact isNumberChar_of_isDigit digit
  · rfl

theorem isNumberChar_of_mem_numberText {x : Float} (finite : Binary64.isFinite x = true) :
    ∀ c ∈ (numberText x).toList, isNumberChar c = true := by
  rw [numberText, if_pos finite]
  exact isNumberChar_of_mem_floatText (by simp [floatStyle, isNumberChar]) finite

theorem numberText_of_not_isFinite {x : Float} (infinite : Binary64.isFinite x = false) :
    numberText x = "null" := by
  rw [numberText, if_neg (by simp [infinite])]

/-- What is not of characters of numbers is no number. -/
theorem intText_ne_word (n : Int) {word : String}
    (notNumber : word.toList.all isNumberChar = false) : toString n ≠ word := by
  rintro rfl
  rw [List.all_eq_true.mpr isNumberChar_of_mem_intText] at notNumber
  cases notNumber

theorem numberText_ne_word (x : Float) {word : String}
    (notNumber : word.toList.all isNumberChar = false) (notNull : word ≠ "null") :
    numberText x ≠ word := by
  cases finite : Binary64.isFinite x with
  | true =>
    rintro rfl
    rw [List.all_eq_true.mpr (isNumberChar_of_mem_numberText finite)] at notNumber
    cases notNumber
  | false => exact numberText_of_not_isFinite finite ▸ notNull.symm

theorem numberText_eq_null_iff (x : Float) :
    numberText x = "null" ↔ Binary64.isFinite x = false := by
  refine ⟨fun same => ?_, numberText_of_not_isFinite⟩
  by_contra finite
  have numbers := isNumberChar_of_mem_numberText (Bool.not_eq_false _ ▸ finite)
  rw [same] at numbers
  cases numbers 'n' (by simp)

theorem point_or_exponent_mem_numberText {x : Float} (finite : Binary64.isFinite x = true) :
    '.' ∈ (numberText x).toList ∨ 'e' ∈ (numberText x).toList := by
  rw [numberText, if_pos finite]
  exact point_or_exponent_mem_floatText (by decide) finite

theorem intText_ne_numberText (n : Int) (x : Float) : toString n ≠ numberText x := by
  intro same
  cases finite : Binary64.isFinite x with
  | true =>
    have absent (c : Char) (other : c.isDigit = false ∧ c ≠ '-') : c ∉ (numberText x).toList := by
      rw [← same]
      intro member
      rcases mem_intText member with digit | rfl
      · rw [other.1] at digit
        cases digit
      · exact other.2 rfl
    exact (point_or_exponent_mem_numberText finite).elim (absent '.' (by decide))
      (absent 'e' (by decide))
  | false => exact intText_ne_word n (by decide) (same.trans (numberText_of_not_isFinite finite))

theorem isBareChar_of_mem_text (bare : a.isBare = true) :
    ∀ c ∈ a.text.toList, isBareChar c = true := by
  cases a with
  | null => simp [text, isBareChar]
  | bool b => cases b <;> simp [text, isBareChar]
  | integer n =>
    exact fun c member => isBareChar_of_isNumberChar (isNumberChar_of_mem_intText c member)
  | float x =>
    rw [text]
    cases finite : Binary64.isFinite x with
    | true =>
      exact fun c member =>
        isBareChar_of_isNumberChar (isNumberChar_of_mem_numberText finite c member)
    | false => simp [numberText_of_not_isFinite finite, isBareChar]
  | string | array | object => cases bare

theorem text_ne_nil_of_isBare (bare : a.isBare = true) : a.text.toList ≠ [] := by
  cases a with
  | null => decide
  | bool b => cases b <;> decide
  | integer n => exact intText_ne_nil n
  | float x =>
    rw [text]
    cases finite : Binary64.isFinite x with
    | true =>
      exact (point_or_exponent_mem_numberText finite).elim List.ne_nil_of_mem List.ne_nil_of_mem
    | false =>
      rw [numberText_of_not_isFinite finite]
      decide
  | string | array | object => cases bare

theorem boolText_ne_null (b : Bool) : (bool b).text ≠ "null" := by cases b <;> decide

theorem notNumber_boolText (b : Bool) : (bool b).text.toList.all isNumberChar = false := by
  cases b <;> decide

/-- Bare values are written alike exactly if they are alike. -/
theorem text_eq_iff_of_isBare (one : a.isBare = true) (other : b.isBare = true) :
    a.text = b.text ↔ a.alike b = true := by
  cases a <;> cases b <;> simp only [isBare, Bool.false_eq_true] at one other
  case null.null => exact iff_of_true rfl rfl
  case bool.bool p q => cases p <;> cases q <;> decide
  case integer.integer m n =>
    simp only [text, alike, beq_iff_eq]
    exact ⟨fun same => intText_injective (congrArg String.toList same), fun same => same ▸ rfl⟩
  case float.float x y => simp only [text, alike, beq_iff_eq]
  case null.float y =>
    simp only [text, alike, Bool.not_eq_true']
    exact eq_comm.trans (numberText_eq_null_iff y)
  case float.null x =>
    simp only [text, alike, Bool.not_eq_true']
    exact numberText_eq_null_iff x
  -- the others are neither written alike nor alike
  all_goals refine iff_of_false (fun same => ?_) (by simp only [alike, Bool.false_eq_true,
    not_false_iff])
  case null.bool q => exact boolText_ne_null q same.symm
  case bool.null p => exact boolText_ne_null p same
  case null.integer n => exact intText_ne_word n (by decide) same.symm
  case integer.null m => exact intText_ne_word m (by decide) same
  case bool.integer p n => exact intText_ne_word n (notNumber_boolText p) same.symm
  case integer.bool m q => exact intText_ne_word m (notNumber_boolText q) same
  case bool.float p y =>
    exact numberText_ne_word y (notNumber_boolText p) (boolText_ne_null p) same.symm
  case float.bool x q =>
    exact numberText_ne_word x (notNumber_boolText q) (boolText_ne_null q) same
  case integer.float m y => exact intText_ne_numberText m y same
  case float.integer x n => exact intText_ne_numberText n x same.symm

/-! ## Ends of values -/

/-- The quote or bracket that a value begins with. -/
def opening : Json → Option Char
  | .string _ => some '"'
  | .array _ => some '['
  | .object _ => some '\x7b'
  | _ => none

/-- How a value begins decides whether it is bare, and what it is otherwise. -/
theorem first_text (a : Json) : ∃ c rest, a.text.toList = c :: rest ∧
    a.opening = if isBareChar c then none else some c := by
  by_cases bare : a.isBare = true
  · obtain ⟨c, rest, same⟩ := List.exists_cons_of_ne_nil (text_ne_nil_of_isBare bare)
    have first := isBareChar_of_mem_text bare c (same ▸ List.mem_cons_self)
    refine ⟨c, rest, same, ?_⟩
    rw [if_pos first]
    cases a <;> simp only [isBare, Bool.false_eq_true] at bare <;> rfl
  · cases a <;> simp only [isBare, not_true, Bool.false_eq_true, not_false_iff] at bare
    case string s => exact ⟨'"', escaped s.toList ++ ['"'], toList_quoted s, rfl⟩
    case array items =>
      exact ⟨'[', (join "," (itemTexts items) ++ "]").toList, by simp [text], rfl⟩
    case object members =>
      exact ⟨'\x7b', (join "," (memberTexts members) ++ "\x7d").toList, by simp [text], rfl⟩

theorem isBare_eq_of_opening (same : a.opening = b.opening) : a.isBare = b.isBare := by
  cases a <;> cases b <;> simp_all [opening, isBare]

theorem opening_eq_of_append (same : a.text.toList ++ r = b.text.toList ++ s) :
    a.opening = b.opening := by
  obtain ⟨c, rest, textA, openingA⟩ := first_text a
  obtain ⟨d, others, textB, openingB⟩ := first_text b
  rw [textA, textB] at same
  rw [openingA, openingB, (List.cons.inj same).1]

theorem takeWhile_isBareChar (bare : ∀ c ∈ s, isBareChar c = true) (ends : Ends r) :
    (s ++ r).takeWhile isBareChar = s := by
  rw [List.takeWhile_append_of_pos bare]
  cases r with
  | nil => simp
  | cons c rest => simp [ends c rfl]

/-- Where a bare value ends is seen from what may stand behind it. -/
theorem bare_append_inj (one : a.isBare = true) (other : b.isBare = true) (endsA : Ends r)
    (endsB : Ends s) (same : a.text.toList ++ r = b.text.toList ++ s) :
    a.alike b = true ∧ r = s := by
  have texts : a.text.toList = b.text.toList := by
    rw [← takeWhile_isBareChar (isBareChar_of_mem_text one) endsA, same,
      takeWhile_isBareChar (isBareChar_of_mem_text other) endsB]
  rw [texts] at same
  exact ⟨(text_eq_iff_of_isBare one other).mp (String.toList_inj.mp texts),
    List.append_cancel_left same⟩

/-! ## Lists -/

/-- Further texts of a list, each behind a comma, and the closing bracket. -/
def listed (close : Char) : List String → List Char
  | [] => [close]
  | piece :: pieces => ',' :: (piece.toList ++ listed close pieces)

theorem join_listed (close : Char) (piece : String) (pieces : List String) :
    (join "," (piece :: pieces)).toList ++ [close] = piece.toList ++ listed close pieces := by
  induction pieces generalizing piece with
  | nil => simp [join, listed]
  | cons next pieces ih =>
    have rest := ih next
    rw [join] at rest ⊢
    rw [String.intercalate_cons_cons, String.toList_append, List.append_assoc, rest, listed]
    simp

theorem text_array_cons (item : Json) (items : List Json) :
    (array (item :: items)).text.toList =
      '[' :: (item.text.toList ++ listed ']' (itemTexts items)) := by
  simp [text, itemTexts, ← join_listed]

/-- How a member of an object is written. -/
theorem text_object_cons (name : String) (value : Json) (members : List (String × Json)) :
    (object ((name, value) :: members)).text.toList =
      '\x7b' :: '"' :: (escaped name.toList ++ '"' :: ':' ::
        (value.text.toList ++ listed '\x7d' (memberTexts members))) := by
  rw [text, memberTexts, String.toList_append, String.toList_append, List.append_assoc,
    show "\x7d".toList = ['\x7d'] from rfl, join_listed]
  simp [toList_quoted]

theorem listed_members_cons (name : String) (value : Json) (members : List (String × Json)) :
    listed '\x7d' (memberTexts ((name, value) :: members)) =
      ',' :: '"' :: (escaped name.toList ++ '"' :: ':' ::
        (value.text.toList ++ listed '\x7d' (memberTexts members))) := by
  simp [listed, memberTexts, toList_quoted]

theorem ends_listed {close : Char} (closing : isBareChar close = false) (pieces : List String)
    (r : List Char) : Ends (listed close pieces ++ r) := by
  cases pieces with
  | nil => exact ends_cons closing r
  | cons => exact ends_cons rfl _

/-- No value begins with a closing bracket. -/
theorem text_append_ne (a : Json) {close : Char} (closing : close ∈ [']', '\x7d']) :
    a.text.toList ++ s ≠ close :: r := by
  intro same
  obtain ⟨c, rest, first, opening⟩ := first_text a
  rw [first] at same
  obtain ⟨rfl, -⟩ := List.cons.inj same
  have notOpening : isBareChar c = false ∧ ∀ a : Json, a.opening ≠ some c := by
    simp only [List.mem_cons, List.not_mem_nil, or_false] at closing
    rcases closing with rfl | rfl <;> exact ⟨rfl, fun a => by cases a <;> simp [Json.opening]⟩
  rw [if_neg (by simp [notOpening.1])] at opening
  exact notOpening.2 a opening

/-- Arrays with one text are both empty, or begin with items that have one text. -/
theorem array_append_cases {as bs : List Json}
    (same : (array as).text.toList ++ r = (array bs).text.toList ++ s) :
    (as = [] ∧ bs = [] ∧ r = s) ∨ ∃ a items b others, as = a :: items ∧ bs = b :: others ∧
      a.text.toList ++ (listed ']' (itemTexts items) ++ r) =
        b.text.toList ++ (listed ']' (itemTexts others) ++ s) := by
  cases as <;> cases bs
  case nil.nil => exact .inl ⟨rfl, rfl, by simpa using same⟩
  case nil.cons b bs =>
    simp only [text_array_cons, List.cons_append, List.append_assoc] at same
    exact absurd (List.cons.inj same).2.symm (text_append_ne b (by decide))
  case cons.nil a as =>
    simp only [text_array_cons, List.cons_append, List.append_assoc] at same
    exact absurd (List.cons.inj same).2 (text_append_ne a (by decide))
  case cons.cons a as b bs =>
    simp only [text_array_cons, List.cons_append, List.append_assoc, List.cons.injEq,
      true_and] at same
    exact .inr ⟨a, as, b, bs, rfl, rfl, same⟩

/-- Members with one text behind their brackets or commas have one name and values with one
text. -/
theorem member_append_inj {m n : String} {as bs : List (String × Json)}
    (same : escaped m.toList ++ '"' :: ':' ::
        (a.text.toList ++ (listed '\x7d' (memberTexts as) ++ r)) =
      escaped n.toList ++ '"' :: ':' ::
        (b.text.toList ++ (listed '\x7d' (memberTexts bs) ++ s))) :
    m = n ∧ a.text.toList ++ (listed '\x7d' (memberTexts as) ++ r) =
      b.text.toList ++ (listed '\x7d' (memberTexts bs) ++ s) := by
  obtain ⟨name, rest⟩ := escaped_append_inj same
  exact ⟨String.toList_inj.mp name, (List.cons.inj rest).2⟩

/-- Objects with one text are both empty, or begin with members that have one text. -/
theorem object_append_cases {as bs : List (String × Json)}
    (same : (object as).text.toList ++ r = (object bs).text.toList ++ s) :
    (as = [] ∧ bs = [] ∧ r = s) ∨ ∃ name a members b others,
      as = (name, a) :: members ∧ bs = (name, b) :: others ∧
      a.text.toList ++ (listed '\x7d' (memberTexts members) ++ r) =
        b.text.toList ++ (listed '\x7d' (memberTexts others) ++ s) := by
  match as, bs, same with
  | [], [], same => exact .inl ⟨rfl, rfl, by simpa using same⟩
  | [], (n, b) :: bs, same =>
    rw [text_object_cons] at same
    exact absurd (List.cons.inj (List.cons.inj same).2).1 (by decide)
  | (m, a) :: as, [], same =>
    rw [text_object_cons] at same
    exact absurd (List.cons.inj (List.cons.inj same).2).1 (by decide)
  | (m, a) :: as, (n, b) :: bs, same =>
    simp only [text_object_cons, List.cons_append, List.append_assoc, List.cons.injEq,
      true_and] at same
    obtain ⟨rfl, rest⟩ := member_append_inj same
    exact .inr ⟨m, a, as, b, bs, rfl, rfl, rest⟩

mutual

/-- A value is known, up to its doubles, from its text with anything behind it. -/
theorem alike_of_append {a b : Json} {r s : List Char} (endsA : Ends r) (endsB : Ends s)
    (same : a.text.toList ++ r = b.text.toList ++ s) : a.alike b = true ∧ r = s := by
  have openings := opening_eq_of_append same
  by_cases bare : a.isBare = true
  · exact bare_append_inj bare (isBare_eq_of_opening openings ▸ bare) endsA endsB same
  · cases a <;> simp only [isBare, not_true, Bool.false_eq_true, not_false_iff] at bare <;>
      cases b <;> simp [opening] at openings
    case string.string s t =>
      simp only [text, toList_quoted, List.cons_append, List.append_assoc, List.nil_append,
        List.cons.injEq, true_and] at same
      obtain ⟨content, behind⟩ := escaped_append_inj same
      exact ⟨by rw [alike, String.toList_inj.mp content]; simp, behind⟩
    case array.array as bs =>
      rcases array_append_cases same with ⟨rfl, rfl, behind⟩ | ⟨a, as, b, bs, rfl, rfl, rest⟩
      · exact ⟨rfl, behind⟩
      · obtain ⟨first, others⟩ := alike_of_append (ends_listed rfl _ r) (ends_listed rfl _ s) rest
        obtain ⟨items, behind⟩ := alikeItems_of_append others
        exact ⟨by rw [alike, alikeItems, first, items]; rfl, behind⟩
    case object.object as bs =>
      rcases object_append_cases same with
        ⟨rfl, rfl, behind⟩ | ⟨name, a, as, b, bs, rfl, rfl, rest⟩
      · exact ⟨rfl, behind⟩
      · obtain ⟨first, others⟩ := alike_of_append (ends_listed rfl _ r) (ends_listed rfl _ s) rest
        obtain ⟨members, behind⟩ := alikeMembers_of_append others
        exact ⟨by rw [alike, alikeMembers, first, members]; simp, behind⟩
termination_by sizeOf a

theorem alikeItems_of_append {as bs : List Json} {r s : List Char}
    (same : listed ']' (itemTexts as) ++ r = listed ']' (itemTexts bs) ++ s) :
    alikeItems as bs = true ∧ r = s := by
  cases as <;> cases bs
  case nil.nil => exact ⟨rfl, (List.cons.inj same).2⟩
  case nil.cons b bs => exact absurd (List.cons.inj same).1 (by decide)
  case cons.nil a as => exact absurd (List.cons.inj same).1 (by decide)
  case cons.cons a as b bs =>
    simp only [itemTexts, listed, List.cons_append, List.append_assoc, List.cons.injEq,
      true_and] at same
    obtain ⟨first, others⟩ := alike_of_append (ends_listed rfl _ r) (ends_listed rfl _ s) same
    obtain ⟨items, behind⟩ := alikeItems_of_append others
    exact ⟨by rw [alikeItems, first, items]; rfl, behind⟩
termination_by sizeOf as

theorem alikeMembers_of_append {as bs : List (String × Json)} {r s : List Char}
    (same : listed '\x7d' (memberTexts as) ++ r = listed '\x7d' (memberTexts bs) ++ s) :
    alikeMembers as bs = true ∧ r = s := by
  match as, bs, same with
  | [], [], same => exact ⟨rfl, (List.cons.inj same).2⟩
  | [], _ :: _, same => exact absurd (List.cons.inj same).1 (by decide)
  | _ :: _, [], same => exact absurd (List.cons.inj same).1 (by decide)
  | (m, a) :: as, (n, b) :: bs, same =>
    simp only [listed_members_cons, List.cons_append, List.append_assoc, List.cons.injEq,
      true_and] at same
    obtain ⟨rfl, rest⟩ := member_append_inj same
    obtain ⟨first, others⟩ := alike_of_append (ends_listed rfl _ r) (ends_listed rfl _ s) rest
    obtain ⟨members, behind⟩ := alikeMembers_of_append others
    exact ⟨by rw [alikeMembers, first, members]; simp, behind⟩
termination_by sizeOf as

end

/-! ## Members of one kind -/

/-- Maps whose values are written faithfully are alike exactly if they are equal. -/
theorem alikeMembers_map_iff {β : Type} (write : String → β → Json)
    (faithful : ∀ name x y, (write name x).alike (write name y) = true ↔ x = y)
    (xs ys : List (String × β)) :
    alikeMembers (xs.map fun entry => (entry.1, write entry.1 entry.2))
      (ys.map fun entry => (entry.1, write entry.1 entry.2)) = true ↔ xs = ys := by
  induction xs generalizing ys with
  | nil => cases ys <;> simp [alikeMembers]
  | cons x xs ih =>
    obtain ⟨m, x⟩ := x
    cases ys with
    | nil => simp [alikeMembers]
    | cons y ys =>
      obtain ⟨n, y⟩ := y
      simp only [List.map_cons, alikeMembers, Bool.and_eq_true, beq_iff_eq, ih, List.cons.injEq,
        Prod.mk.injEq]
      refine and_congr_left fun _ => and_congr_right ?_
      rintro rfl
      exact faithful m x y

/-! ## One text -/

theorem isBare_of_alike (same : a.alike b = true) : a.isBare = b.isBare := by
  cases a <;> cases b <;> first | rfl | simp only [alike, Bool.false_eq_true] at same

mutual

theorem text_of_alike {a b : Json} (same : a.alike b = true) : a.text = b.text := by
  by_cases bare : a.isBare = true
  · exact (text_eq_iff_of_isBare bare (isBare_of_alike same ▸ bare)).mpr same
  · cases a <;> simp only [isBare, not_true, Bool.false_eq_true, not_false_iff] at bare <;>
      cases b <;> simp only [alike, Bool.false_eq_true, beq_iff_eq] at same
    case string.string s t => rw [same]
    case array.array as bs => rw [text, text, itemTexts_of_alike same]
    case object.object as bs => rw [text, text, memberTexts_of_alike same]

theorem itemTexts_of_alike {as bs : List Json} (same : alikeItems as bs = true) :
    itemTexts as = itemTexts bs := by
  cases as <;> cases bs <;> simp only [alikeItems, Bool.false_eq_true, Bool.and_eq_true] at same
  case nil.nil => rfl
  case cons.cons a as b bs =>
    rw [itemTexts, itemTexts, text_of_alike same.1, itemTexts_of_alike same.2]

theorem memberTexts_of_alike {as bs : List (String × Json)} (same : alikeMembers as bs = true) :
    memberTexts as = memberTexts bs := by
  match as, bs, same with
  | [], [], _ => rfl
  | (m, a) :: as, (n, b) :: bs, same =>
    simp only [alikeMembers, Bool.and_eq_true, beq_iff_eq] at same
    rw [memberTexts, memberTexts, same.1.1, text_of_alike same.1.2, memberTexts_of_alike same.2]

end

/-- Two values have one text exactly if they are alike. -/
theorem text_eq_iff (a b : Json) : a.text = b.text ↔ a.alike b = true := by
  refine ⟨fun same => ?_, text_of_alike⟩
  have lists : a.text.toList ++ [] = b.text.toList ++ [] := by rw [same]
  exact (alike_of_append ends_nil ends_nil lists).1

end DocQuery.Json
