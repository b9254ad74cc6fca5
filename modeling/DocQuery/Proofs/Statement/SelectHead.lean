import DocQuery.Proofs.Statement.SelectGrammar
import DocQuery.Proofs.Statement.SelectText
import DocQuery.Proofs.Text.Cleaning

/-! # Reading the head of a SELECT

What is read of the modifiers of a statement and of its field list, whatever stands behind them.

* `takeWindow_headText` — TOP and SKIP are cut out in any order.
* `takeDistinct_headText` — and DISTINCT after them.
* `readItems_fields` — the fields, and the call among them.
-/

namespace DocQuery.Select

open DocQuery.Text

variable {sql : String} {word : String} {s : List Char}

/-! ## Names -/

theorem isKeyword_of_mem_clauseWords : ∀ word ∈ clauseWords, IsKeyword word := by decide

namespace Identifier

variable (identifier : Identifier)

theorem isColumn : IsColumn identifier.text := identifier.isName.isColumn

theorem ofList_text : String.ofList identifier.text = identifier.name := String.ofList_toList

theorem lacks (isClause : word ∈ clauseWords) : Lacks word identifier.text :=
  lacks_word identifier.isName.members
    (identifier.notClause word isClause)

end Identifier

/-! ## Reading modifiers -/

theorem RowCount.isDigit_of_mem (count : RowCount) : ∀ c ∈ count.digits, isDigit c = true := by
  intro c member
  have digit := count.decimal c member
  have range : 48 ≤ c.toNat ∧ c.toNat ≤ 57 := by
    simpa [Char.isDigit, UInt32.le_iff_toNat_le] using digit
  rw [isDigit, if_pos (by omega), digit]

theorem RowCount.isWord (count : RowCount) : IsWord count.digits := by
  refine ⟨count.nonempty, fun c member => ?_⟩
  by_contra blank
  exact notMem_of_all (by decide) (count.isDigit_of_mem c member) (mem_blanks (by simpa using blank))

theorem RowCount.digits?_append (count : RowCount) (s : List Char) :
    digits? (count.digits ++ ' ' :: s) = some (count.digits, ' ' :: s) := by
  have notDigit : isDigit ' ' = false := by decide
  have front : (count.digits ++ ' ' :: s).takeWhile isDigit = count.digits := by
    rw [List.takeWhile_append_of_pos count.isDigit_of_mem, List.takeWhile_cons, notDigit]
    simp
  have back : (count.digits ++ ' ' :: s).dropWhile isDigit = ' ' :: s := by
    rw [List.dropWhile_append_of_pos count.isDigit_of_mem, List.dropWhile_cons, notDigit]
    simp
  have nonempty := count.nonempty
  simp only [digits?, run?, front, back]

theorem RowCount.parseNat? (count : RowCount) :
    Number.parseNat? Number.wordBound count.digits = some count.value := by
  obtain ⟨digits, nonempty, decimal, fits⟩ := count
  obtain ⟨c, rest, rfl⟩ := List.exists_cons_of_ne_nil nonempty
  have unsigned : c ≠ '+' := by
    rintro rfl
    cases decimal '+' List.mem_cons_self
  have all : (c :: rest).all Char.isDigit = true := List.all_eq_true.mpr decimal
  have read : Number.digitsValue? (c :: rest) = some (Nat.ofDigitChars 10 (c :: rest) 0) := by
    simp only [Number.digitsValue?, List.isEmpty_cons, all, Bool.not_true, Bool.or_self,
      Bool.false_eq_true, if_false]
  rw [Number.parseNat?]
  · simp only [read, bind, Option.bind_some, RowCount.value, if_pos fits]
  · intro digits same
    exact unsigned (List.cons.inj same).1

theorem counted?_append (keyword : Keyword word) (count : RowCount) (s : List Char) :
    counted? word (keyword.letters ++ ' ' :: (count.digits ++ ' ' :: s)) =
      some (count.digits, ' ' :: s) := by
  have next : blanks? (' ' :: (count.digits ++ ' ' :: s)) = some (count.digits ++ ' ' :: s) :=
    blanks?_word count.isWord _
  simp only [counted?, keyword.keyword?_append, bind, Option.bind_some, next,
    count.digits?_append]

theorem counted?_eq_none (absent : keyword? word s = none) : counted? word s = none := by
  simp only [counted?, absent, bind, Option.bind_none]

namespace HeadModifier

/-- What is read for the modifier. -/
def read : HeadModifier → Modifier
  | .distinct _ => .distinct
  | .top _ count _ => .top count.digits
  | .skip _ count => .skip count.digits

/-- The modifier together with its text. -/
def written (modifier : HeadModifier) : WrittenModifier := ⟨modifier.read, modifier.text⟩

theorem bareModifier?_text (modifier : HeadModifier) (s : List Char) :
    bareModifier? (modifier.text ++ ' ' :: s) = some (modifier.read, ' ' :: s) := by
  cases modifier with
  | distinct keyword => simp only [bareModifier?, text, keyword.keyword?_append, read]
  | top keyword count =>
    have notDistinct (s : List Char) : keyword? "DISTINCT" (keyword.letters ++ s) = none :=
      keyword.keyword?_other (by decide) (by decide) (by decide) (by decide) s
    simp only [bareModifier?, text, List.append_assoc, List.cons_append, notDistinct,
      counted?_append, read]
  | skip keyword count =>
    have notDistinct (s : List Char) : keyword? "DISTINCT" (keyword.letters ++ s) = none :=
      keyword.keyword?_other (by decide) (by decide) (by decide) (by decide) s
    have notTop (s : List Char) : keyword? "TOP" (keyword.letters ++ s) = none :=
      keyword.keyword?_other (by decide) (by decide) (by decide) (by decide) s
    simp only [bareModifier?, text, List.append_assoc, List.cons_append, notDistinct,
      counted?_eq_none (notTop _), counted?_append, Option.map_some, read]

theorem modifier?_text (modifier : HeadModifier) (tidy : IsTidy s) :
    modifier? (modifier.text ++ ' ' :: s) = some (modifier.written, s) := by
  have next := tidy.blanks?_append []
  rw [List.append_nil] at next
  have source : (modifier.text ++ ' ' :: s).take
      ((modifier.text ++ ' ' :: s).length - (' ' :: s).length) = modifier.text := by
    rw [List.length_append, Nat.add_sub_cancel, List.take_left]
  simp only [modifier?, modifier.bareModifier?_text, bind, Option.bind_some, next, source, written]

theorem isTidy (modifier : HeadModifier) : IsTidy modifier.text := by
  cases modifier with
  | distinct keyword => exact (keyword.isWord (by decide)).isTidy
  | top keyword count | skip keyword count =>
    exact (keyword.isWord (by decide)).isTidy.append_space count.isWord.isTidy

end HeadModifier

theorem isTidy_headText (modifiers : List HeadModifier) (tidy : IsTidy s) :
    IsTidy (headText modifiers ++ s) := by
  induction modifiers with
  | nil => exact tidy
  | cons modifier rest ih =>
    rw [headText, List.append_assoc, List.cons_append]
    exact modifier.isTidy.append_space ih

theorem length_le_headText (modifiers : List HeadModifier) :
    modifiers.length ≤ (headText modifiers).length := by
  induction modifiers with
  | nil => exact Nat.le_refl 0
  | cons modifier rest ih =>
    rw [headText, List.length_append, List.length_cons, List.length_cons]
    omega

/-- The modifiers are read one after another, up to a text that begins with none. -/
theorem takeModifiers_headText (modifiers : List HeadModifier)
    (tidy : IsTidy s) (ends : modifier? s = none) (fuel : Nat) (enough : modifiers.length ≤ fuel) :
    takeModifiers fuel (headText modifiers ++ s) = (modifiers.map HeadModifier.written, s) := by
  induction modifiers generalizing fuel with
  | nil =>
    cases fuel with
    | zero => rfl
    | succ fuel => simp only [headText, List.nil_append, takeModifiers, ends, List.map_nil]
  | cons modifier rest ih =>
    cases fuel with
    | zero => simp at enough
    | succ fuel =>
      have here := modifier.modifier?_text (isTidy_headText rest tidy)
      have later := ih fuel (by simpa using enough)
      rw [headText, List.append_assoc, List.cons_append]
      simp only [takeModifiers, here, later, List.map_cons]

theorem modifier?_eq_none (notDistinct : wholeKeyword? "DISTINCT" s = none)
    (notTop : wholeKeyword? "TOP" s = none) (notSkip : wholeKeyword? "SKIP" s = none) :
    modifier? s = none := by
  have noCount (word : String) (absent : wholeKeyword? word s = none) : counted? word s = none :=
    (needs_keyword word digits?).needsWord s absent
  have distinct : ((keyword? "DISTINCT" s).bind blanks?) = none :=
    Needs.needsWord (fun _ fails => fails) s notDistinct
  cases read : keyword? "DISTINCT" s with
  | none =>
    simp only [modifier?, bareModifier?, read, noCount _ notTop, noCount _ notSkip, bind,
      Option.map_none, Option.bind_none]
  | some rest =>
    rw [read, Option.bind_some] at distinct
    simp only [modifier?, bareModifier?, read, bind, Option.bind_some, distinct, Option.bind_none]

/-! ## Taking modifiers out -/

/-- A number is taken out of modifiers among which it stands once at most. -/
theorem takeCount_written {test : Modifier → Option (List Char)} (value : HeadModifier → Option Nat)
    (kind : ModifierKind) {modifiers : List HeadModifier}
    (once : (modifiers.map HeadModifier.kind).Nodup)
    (here : ∀ modifier : HeadModifier, modifier.kind = kind → ∃ digits n,
      test modifier.read = some digits ∧ Number.parseNat? Number.wordBound digits = some n ∧
        value modifier = some n)
    (elsewhere : ∀ modifier : HeadModifier, modifier.kind ≠ kind →
      test modifier.read = none ∧ value modifier = none) :
    takeCount sql test (modifiers.map HeadModifier.written) =
      .ok (modifiers.findSome? value,
        (modifiers.filter (·.kind ≠ kind)).map HeadModifier.written) := by
  have general : takeFirst? test (modifiers.map HeadModifier.written) =
      (modifiers.findSome? fun modifier => test modifier.read).map fun found =>
        (found, (modifiers.filter (·.kind ≠ kind)).map HeadModifier.written) := by
    induction modifiers with
    | nil => rfl
    | cons modifier rest ih =>
      rw [List.map_cons, List.nodup_cons] at once
      by_cases same : modifier.kind = kind
      · obtain ⟨digits, n, read, -, -⟩ := here modifier same
        -- no other modifier is of this kind
        have others : rest.filter (·.kind ≠ kind) = rest := by
          rw [List.filter_eq_self]
          intro other listed
          have apart : other.kind ≠ modifier.kind := fun alike =>
            once.1 (alike ▸ List.mem_map_of_mem listed)
          simpa [← same] using apart
        simp only [List.map_cons, takeFirst?, HeadModifier.written, read, List.findSome?_cons,
          Option.map_some]
        rw [List.filter_cons_of_neg (by simpa using same), others]
      · obtain ⟨read, -⟩ := elsewhere modifier same
        simp only [List.map_cons, takeFirst?, List.findSome?_cons, HeadModifier.written, read]
        rw [List.filter_cons_of_pos (by simpa using same)]
        rw [ih once.2, Option.map_map]
        rfl
  rw [takeCount, general]
  cases found : modifiers.findSome? fun modifier => test modifier.read with
  | none =>
    rw [List.findSome?_eq_none_iff] at found
    have others : ∀ modifier ∈ modifiers, modifier.kind ≠ kind := by
      intro modifier listed same
      obtain ⟨digits, n, read, -⟩ := here modifier same
      rw [found modifier listed] at read
      cases read
    have absent : modifiers.findSome? value = none :=
      List.findSome?_eq_none_iff.mpr fun modifier listed =>
        (elsewhere modifier (others modifier listed)).2
    have unchanged : modifiers.filter (·.kind ≠ kind) = modifiers :=
      List.filter_eq_self.mpr fun modifier listed => by simpa using others modifier listed
    rw [absent, unchanged]
    rfl
  | some digits =>
    obtain ⟨front, modifier, back, rfl, read, before⟩ := List.findSome?_eq_some_iff.mp found
    have same : modifier.kind = kind := by
      by_contra other
      rw [(elsewhere modifier other).1] at read
      cases read
    obtain ⟨_, n, reads, parsed, holds⟩ := here modifier same
    rw [read] at reads
    cases reads
    have skipped : front.findSome? value = none := by
      rw [List.findSome?_eq_none_iff]
      intro other listed
      refine (elsewhere other fun alike => ?_).2
      obtain ⟨_, _, reads, -⟩ := here other alike
      rw [before other listed] at reads
      cases reads
    have first : (front ++ modifier :: back).findSome? value = some n := by
      rw [List.findSome?_append, skipped, List.findSome?_cons, holds]
      rfl
    simp only [Option.map_some, parsed, first]

/-- The modifiers of a kind, of which there is one at most. -/
theorem filter_kind {modifiers : List HeadModifier} (kind : ModifierKind)
    (once : (modifiers.map HeadModifier.kind).Nodup) :
    modifiers.filter (·.kind = kind) = [] ∨
      ∃ modifier, modifier.kind = kind ∧ modifiers.filter (·.kind = kind) = [modifier] := by
  induction modifiers with
  | nil => exact .inl rfl
  | cons modifier rest ih =>
    rw [List.map_cons, List.nodup_cons] at once
    by_cases same : modifier.kind = kind
    · have others : rest.filter (·.kind = kind) = [] := by
        rw [List.filter_eq_nil_iff]
        intro other listed alike
        have alike : other.kind = kind := by simpa using alike
        exact once.1 ((same.trans alike.symm) ▸ List.mem_map_of_mem listed)
      exact .inr ⟨modifier, same, by rw [List.filter_cons_of_pos (by simpa using same), others]⟩
    · rw [List.filter_cons_of_neg (by simpa using same)]
      exact ih once.2

theorem findSome?_filter {α β : Type} {p : α → Bool} {f : α → Option β}
    (nowhereElse : ∀ a, p a = false → f a = none) (l : List α) :
    (l.filter p).findSome? f = l.findSome? f := by
  induction l with
  | nil => rfl
  | cons a l ih =>
    cases kept : p a with
    | true => rw [List.filter_cons_of_pos kept, List.findSome?_cons, List.findSome?_cons, ih]
    | false =>
      rw [List.filter_cons_of_neg (by simp [kept]), List.findSome?_cons, nowhereElse a kept, ih]

theorem positive_of_top? {modifiers : List HeadModifier} {n : Nat}
    (found : modifiers.findSome? HeadModifier.top? = some n) : 0 < n := by
  obtain ⟨modifier, -, read⟩ := List.exists_of_findSome?_eq_some found
  cases modifier with
  | distinct => cases read
  | top keyword count positive =>
    cases read
    exact positive
  | skip => cases read

theorem splitHead?_headText (select : Keyword "SELECT") (modifiers : List HeadModifier)
    (tidy : IsTidy s) (ends : modifier? s = none) :
    splitHead? (select.letters ++ ' ' :: (headText modifiers ++ s)) =
      some (modifiers.map HeadModifier.written, s) := by
  have next := (isTidy_headText modifiers tidy).blanks?_append []
  rw [List.append_nil] at next
  have enough : modifiers.length ≤ (headText modifiers ++ s).length := by
    have := length_le_headText modifiers
    rw [List.length_append]
    omega
  simp only [splitHead?, select.keyword?_append, bind, Option.bind_some, next,
    takeModifiers_headText modifiers tidy ends _ enough]

/-- TOP and SKIP are cut out in any order; of the modifiers only DISTINCT is left. -/
theorem takeWindow_headText (select : Keyword "SELECT") {modifiers : List HeadModifier}
    (once : (modifiers.map HeadModifier.kind).Nodup) (tidy : IsTidy s) (ends : modifier? s = none) :
    takeWindow sql (select.letters ++ ' ' :: (headText modifiers ++ s)) =
      .ok (modifiers.findSome? HeadModifier.top?, modifiers.findSome? HeadModifier.skip?,
        "SELECT".toList ++ ' ' :: (headText (modifiers.filter (·.kind = .distinct)) ++ s)) := by
  have top : takeCount sql Modifier.topDigits? (modifiers.map HeadModifier.written) = _ :=
    takeCount_written HeadModifier.top? .top once
      (fun modifier same => by
        cases modifier with
        | top keyword count => exact ⟨count.digits, count.value, rfl, count.parseNat?, rfl⟩
        | distinct | skip => cases same)
      (fun modifier other => by
        cases modifier with
        | top => exact absurd rfl other
        | distinct | skip => exact ⟨rfl, rfl⟩)
  have onceMore : ((modifiers.filter (·.kind ≠ .top)).map HeadModifier.kind).Nodup :=
    once.sublist (List.filter_sublist.map _)
  have skip : takeCount sql Modifier.skipDigits?
      ((modifiers.filter (·.kind ≠ .top)).map HeadModifier.written) = _ :=
    takeCount_written HeadModifier.skip? .skip onceMore
      (fun modifier same => by
        cases modifier with
        | skip keyword count => exact ⟨count.digits, count.value, rfl, count.parseNat?, rfl⟩
        | distinct | top => cases same)
      (fun modifier other => by
        cases modifier with
        | skip => exact absurd rfl other
        | distinct | top => exact ⟨rfl, rfl⟩)
  have remaining : (modifiers.filter (·.kind ≠ .top)).filter (·.kind ≠ .skip) =
      modifiers.filter (·.kind = .distinct) := by
    rw [List.filter_filter]
    congr 1
    funext modifier
    cases modifier <;> rfl
  have skips : (modifiers.filter (·.kind ≠ .top)).findSome? HeadModifier.skip? =
      modifiers.findSome? HeadModifier.skip? :=
    findSome?_filter (fun modifier isTop => by
      cases modifier with
      | top => rfl
      | distinct | skip => cases isTop) modifiers
  have positive : (modifiers.findSome? HeadModifier.top?).filter (0 < ·) =
      modifiers.findSome? HeadModifier.top? := by
    cases found : modifiers.findSome? HeadModifier.top? with
    | none => rfl
    | some n => simp [positive_of_top? found]
  -- what is left is put together again, with a canonical SELECT
  have text : clean (unwords ("SELECT".toList ::
      ((modifiers.filter (·.kind = .distinct)).map HeadModifier.written).map (·.source) ++ [s])) =
      "SELECT".toList ++ ' ' :: (headText (modifiers.filter (·.kind = .distinct)) ++ s) := by
    have isSelect : IsWord "SELECT".toList := ⟨by decide, by decide⟩
    have cleaned := (isSelect.isTidy.append_space
      (isTidy_headText (modifiers.filter (·.kind = .distinct)) tidy)).cleaned
    rcases filter_kind .distinct once with none | ⟨modifier, same, one⟩
    · rw [none] at cleaned ⊢
      exact cleaned
    · have parts : headText [modifier] ++ s = modifier.text ++ ' ' :: s := by simp [headText]
      rw [one, parts] at cleaned ⊢
      exact cleaned
  rw [takeWindow, splitHead?_headText select modifiers tidy ends]
  simp only [bind, Except.bind, top, skip, skips, remaining, positive]
  exact congrArg (fun text => Except.ok (_, _, text)) text

/-- DISTINCT is cut out where it is the only modifier. -/
theorem takeDistinct_headText {modifiers : List HeadModifier}
    (once : (modifiers.map HeadModifier.kind).Nodup) (tidy : IsTidy s)
    (ends : wholeKeyword? "DISTINCT" s = none) :
    takeDistinct ("SELECT".toList ++ ' ' :: (headText (modifiers.filter (·.kind = .distinct)) ++ s)) =
      (modifiers.any (fun modifier => modifier.kind == .distinct), "SELECT".toList ++ ' ' :: s) := by
  have next := tidy.blanks?_append []
  rw [List.append_nil] at next
  rcases filter_kind .distinct once with none | ⟨modifier, same, one⟩
  · have absent : modifiers.any (fun modifier => modifier.kind == .distinct) = false := by
      rw [List.any_eq_false]
      intro modifier listed
      simpa using List.filter_eq_nil_iff.mp none modifier listed
    rw [none, absent, headText, List.nil_append]
    simp only [takeDistinct, keyword?_select, bind, Option.bind_some, next, ends]
  · have present : modifiers.any (fun modifier => modifier.kind == .distinct) = true := by
      have listed : modifier ∈ modifiers.filter (·.kind = .distinct) :=
        one ▸ List.mem_singleton.mpr rfl
      exact List.any_eq_true.mpr ⟨modifier, (List.mem_filter.mp listed).1, by simp [same]⟩
    cases modifier with
    | distinct keyword =>
      have read := keyword.keyword?_append (' ' :: s)
      have isWord := keyword.isWord (by decide)
      have whole : wholeKeyword? "DISTINCT" (keyword.letters ++ ' ' :: s) = some (' ' :: s) := by
        simp only [wholeKeyword?, read]
        rfl
      rw [one, present, headText, headText, HeadModifier.text]
      simp only [takeDistinct, keyword?_select, bind, Option.bind_some, List.append_assoc,
        List.cons_append, List.nil_append, blanks?_word isWord, whole]
    | top | skip => cases same

/-! ## Fields -/

theorem label?_spaced (label : Option Label) :
    label? (spaced Label.text label) = some (label.map (·.label.name)) := by
  cases label with
  | none => rfl
  | some label =>
    obtain ⟨keyword, identifier⟩ := label
    have isAs := keyword.isWord (by decide)
    have isTable : IsTable identifier.text [] :=
      ⟨identifier.isName.nonempty, identifier.isName.members, rfl⟩
    have word := isTable.word?_eq
    have next := blanks?_word isTable.isWord []
    rw [List.append_nil] at word next
    simp only [spaced, Label.text, label?, bind, blanks?_word isAs, Option.bind_some,
      keyword.keyword?_append, next, word, List.isEmpty_nil, if_true, Option.map_some,
      identifier.ofList_text]

theorem countCall?_text (keyword : Keyword "COUNT") (beforeBracket beforeStar afterStar : Gap)
    (label : Option Label) :
    countCall? (FieldItem.count keyword beforeBracket beforeStar afterStar label).text =
      some (.count ((label.map (·.label.name)).getD "Count")) := by
  have opens := beforeBracket.char?_append (c := '(') rfl
  have star := beforeStar.char?_append (c := '*') rfl
  have closes := afterStar.char?_append (c := ')') rfl
  simp only [countCall?, FieldItem.text, keyword.keyword?_append, bind, Option.bind_some, opens,
    star, closes, label?_spaced]

/-- The names of the functions are told apart. -/
theorem findSome?_keyword? (function : AggregateFunction) (keyword : Keyword function.name)
    (s : List Char) :
    ["SUM", "MAX", "MIN", "AVG"].findSome? (keyword? · (keyword.letters ++ s)) = some s := by
  have names : ∀ name ∈ ["SUM", "MAX", "MIN", "AVG"], ∀ other ∈ ["SUM", "MAX", "MIN", "AVG"],
      IsKeyword name ∧ (name ≠ other → ¬ name.toList <+: other.toList) := by decide
  have read := keyword.keyword?_append s
  have fails {other : String} (listed : other ∈ ["SUM", "MAX", "MIN", "AVG"])
      (differs : function.name ≠ other) : keyword? other (keyword.letters ++ s) = none := by
    have known : function.name ∈ ["SUM", "MAX", "MIN", "AVG"] := by cases function <;> decide
    obtain ⟨isKeyword, notLonger⟩ := names _ known _ listed
    obtain ⟨isOther, notShorter⟩ := names _ listed _ known
    exact keyword.keyword?_other isKeyword isOther (notLonger differs) (notShorter (Ne.symm differs)) s
  cases function with
  | sum =>
    rw [List.findSome?_cons, show keyword? "SUM" (keyword.letters ++ s) = some s from read]
  | max =>
    rw [List.findSome?_cons, fails (by decide) (by decide), List.findSome?_cons,
      show keyword? "MAX" (keyword.letters ++ s) = some s from read]
  | min =>
    rw [List.findSome?_cons, fails (by decide) (by decide), List.findSome?_cons,
      fails (by decide) (by decide), List.findSome?_cons,
      show keyword? "MIN" (keyword.letters ++ s) = some s from read]
  | avg =>
    rw [List.findSome?_cons, fails (by decide) (by decide), List.findSome?_cons,
      fails (by decide) (by decide), List.findSome?_cons, fails (by decide) (by decide),
      List.findSome?_cons, show keyword? "AVG" (keyword.letters ++ s) = some s from read]

theorem ofName?_letters (function : AggregateFunction) (keyword : Keyword function.name) :
    AggregateFunction.ofName? (String.ofList keyword.letters) = some function := by
  have upper : upperAscii (String.ofList keyword.letters) = function.name := by
    rw [← String.toList_inj, upperAscii, String.toList_map, String.toList_ofList, keyword.spelled]
  rw [AggregateFunction.ofName?, upper]
  cases function <;> rfl

theorem functionCall?_text (function : AggregateFunction) (keyword : Keyword function.name)
    (beforeBracket beforeField afterField : Gap) (field : Identifier) (label : Option Label) :
    functionCall? (FieldItem.apply function keyword beforeBracket beforeField afterField field
        label).text =
      some ⟨String.ofList keyword.letters, field.name, label.map (·.label.name)⟩ := by
  have parts : (FieldItem.apply function keyword beforeBracket beforeField afterField field
      label).text = keyword.letters ++ (beforeBracket.text ++ '(' ::
        ((beforeField.text ++ (field.text ++ afterField.text)) ++ ')' ::
          spaced Label.text label)) := by
    simp [FieldItem.text]
  have name := findSome?_keyword? function keyword
  have opens := beforeBracket.char?_append (c := '(') rfl
  have source (s : List Char) : (keyword.letters ++ s).take
      ((keyword.letters ++ s).length - s.length) = keyword.letters := by
    rw [List.length_append, Nat.add_sub_cancel, List.take_left]
  -- the field reaches up to the bracket, with the gaps around it
  have inside : ∀ c ∈ beforeField.text ++ (field.text ++ afterField.text), (c != ')') = true := by
    intro c member
    have plain : isPlain c = true := by
      rw [List.mem_append, List.mem_append] at member
      rcases member with inGap | inField | inGap
      · exact beforeField.isPlain_of_mem c inGap
      · exact field.isColumn.isPlain c inField
      · exact afterField.isPlain_of_mem c inGap
    rw [bne_iff_ne]
    rintro rfl
    cases plain
  have front (s : List Char) : ((beforeField.text ++ (field.text ++ afterField.text)) ++
      ')' :: s).takeWhile (· != ')') = beforeField.text ++ (field.text ++ afterField.text) := by
    rw [List.takeWhile_append_of_pos inside]
    simp
  have some_ : (beforeField.text ++ (field.text ++ afterField.text)).isEmpty = false := by
    have nonempty := field.isColumn.isWord.nonempty
    simp [nonempty]
  have isWord := field.isColumn.isWord
  have trimmed :=
    trim_blanks beforeField.isBlank_of_mem afterField.isBlank_of_mem isWord.first isWord.ends
  have closes (s : List Char) : char? ')' (')' :: s) = some s := rfl
  rw [parts]
  simp only [functionCall?, name, bind, Option.bind_some, opens, source, front, some_,
    List.drop_left, closes, trimmed, label?_spaced, Bool.false_eq_true, if_false, field.ofList_text]

theorem itemCall_text (item : FieldItem) : itemCall sql item.text = .ok item.call? := by
  have noBracket {w : List Char} (column : IsColumn w) : '(' ∉ w := fun member => by
    cases column.isPlain '(' member
  cases item with
  | all => exact itemCall_column (noBracket .all)
  | column identifier => exact itemCall_column (noBracket identifier.isColumn)
  | count keyword beforeBracket beforeStar afterStar label =>
    simp only [itemCall, countCall?_text, FieldItem.call?]
  | apply function keyword beforeBracket beforeField afterField field label =>
    have noCount : countCall? (FieldItem.apply function keyword beforeBracket beforeField afterField
        field label).text = none := by
      have known : IsKeyword function.name ∧ ¬ function.name.toList <+: "COUNT".toList ∧
          ¬ "COUNT".toList <+: function.name.toList := by cases function <;> decide
      simp only [countCall?, FieldItem.text,
        keyword.keyword?_other known.1 (by decide) known.2.1 known.2.2, bind, Option.bind_none]
    simp only [itemCall, noCount, functionCall?_text, ofName?_letters, FieldItem.call?]

theorem FieldItem.text_ne_nil (item : FieldItem) : item.text ≠ [] := by
  cases item with
  | all => exact List.cons_ne_nil _ _
  | column identifier => exact identifier.isColumn.isWord.nonempty
  | count => simp [text]
  | apply => simp [text]

theorem FieldItem.output_of_call? {item : FieldItem} {call : AggregateCall}
    (isCall : item.call? = some call) : item.output = call.label := by
  cases item with
  | all | column => cases isCall
  | count | apply =>
    cases isCall
    rfl

theorem FieldItem.output_of_not_call {item : FieldItem} (notCall : item.call? = none) :
    item.output = String.ofList item.text := by
  cases item with
  | all => rfl
  | column identifier => exact (String.ofList_toList).symm
  | count | apply => cases notCall

/-- All items are read, if there is at most one call among them. -/
theorem readItems_text (items : List FieldItem) (found : Option AggregateCall)
    (oneCall : (found.toList ++ items.filterMap FieldItem.call?).length ≤ 1) :
    readItems sql found (items.map FieldItem.text) =
      .ok (items.map FieldItem.output, found <|> items.findSome? FieldItem.call?) := by
  induction items generalizing found with
  | nil => cases found <;> rfl
  | cons item rest ih =>
    have nonempty : item.text.isEmpty = false := by simpa using item.text_ne_nil
    rw [List.map_cons, readItems, nonempty, itemCall_text]
    cases isCall : item.call? with
    | none =>
      rw [List.filterMap_cons_none isCall] at oneCall
      simp only [bind, Except.bind, ih found oneCall, List.map_cons, List.findSome?_cons, isCall,
        FieldItem.output_of_not_call isCall, Bool.false_eq_true, if_false]
    | some call =>
      rw [List.filterMap_cons_some isCall] at oneCall
      -- a call was not found before
      have first : found = none := by
        cases found with
        | none => rfl
        | some other => simp at oneCall
      subst first
      simp only [bind, Except.bind, ih (some call) oneCall, List.map_cons, List.findSome?_cons,
        isCall, FieldItem.output_of_call? isCall, Bool.false_eq_true, if_false,
        Option.isSome_none]
      rfl

end DocQuery.Select
