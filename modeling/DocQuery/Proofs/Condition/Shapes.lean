import DocQuery.Proofs.Condition.Substitution

/-! # Shapes of conditions

What is read of a condition of each shape, once its field is written as a path.

* `IsPath` — a text that is read as a path where a blank follows.
* `shapes_comparison`, `shapes_between`, … — the shape that is found, and that none of the shapes
  that are tried before it fits.
-/

namespace DocQuery.Condition

open DocQuery.Text

variable {field : String} {f s w rest : List Char} {c : Char}

/-! ## Paths -/

theorem pathTail_word (members : ∀ c ∈ w, isWordChar c = true) (rest : List Char) :
    pathTail (w ++ rest) = (w ++ (pathTail rest).1, (pathTail rest).2) := by
  induction w with
  | nil => rfl
  | cons c w ih =>
    obtain ⟨here, others⟩ := List.forall_mem_cons.mp members
    have notPoint : c ≠ '.' := by
      rintro rfl
      cases here
    rw [List.cons_append, pathTail]
    · simp [here, ih others]
    · simp [notPoint]
    · simp [notPoint]

theorem pathTail_point (member : isWordChar c = true) (rest : List Char) :
    pathTail ('.' :: c :: rest) = ('.' :: c :: (pathTail rest).1, (pathTail rest).2) := by
  simp [pathTail, member]

theorem pathTail_name (named : IsName field) (rest : List Char) :
    pathTail ('.' :: (field.toList ++ rest)) =
      ('.' :: (field.toList ++ (pathTail rest).1), (pathTail rest).2) := by
  obtain ⟨nonempty, members⟩ := named
  obtain ⟨c, w, same⟩ := List.exists_cons_of_ne_nil nonempty
  rw [same] at members ⊢
  obtain ⟨here, others⟩ := List.forall_mem_cons.mp members
  rw [List.cons_append, pathTail_point here, pathTail_word others]
  rfl

/-- The text is read as a path where a blank follows. -/
def IsPath (f : List Char) : Prop := ∀ rest, path? (f ++ ' ' :: rest) = some (f, ' ' :: rest)

theorem isPath_name (named : IsName field) : IsPath field.toList := by
  intro rest
  obtain ⟨nonempty, members⟩ := named
  obtain ⟨c, w, same⟩ := List.exists_cons_of_ne_nil nonempty
  rw [same] at members ⊢
  obtain ⟨here, others⟩ := List.forall_mem_cons.mp members
  have blank : pathTail (' ' :: rest) = ([], ' ' :: rest) := rfl
  simp [path?, here, pathTail_word others, blank]

/-- A name is a path to its end. -/
theorem path?_name (named : IsName field) : path? field.toList = some (field.toList, []) := by
  obtain ⟨nonempty, members⟩ := named
  obtain ⟨c, w, same⟩ := List.exists_cons_of_ne_nil nonempty
  rw [same] at members ⊢
  obtain ⟨here, others⟩ := List.forall_mem_cons.mp members
  have read := pathTail_word others []
  rw [List.append_nil] at read
  simp [path?, here, read, pathTail]

theorem pathTail_append (s : List Char) : (pathTail s).1 ++ (pathTail s).2 = s := by
  fun_induction pathTail s with
  | case3 | case5 =>
    rename_i read ih
    rw [read] at ih
    simp [ih]
  | _ => rfl

/-- A path is the front of its text. -/
theorem path?_append (read : path? s = some (f, rest)) : f ++ rest = s := by
  cases s with
  | nil => cases read
  | cons c s =>
    simp only [path?, Option.ite_none_right_eq_some, Option.some.injEq, Prod.mk.injEq] at read
    obtain ⟨-, rfl, rfl⟩ := read
    rw [List.cons_append, pathTail_append]

theorem pathTail_whole (whole : pathTail s = (s, [])) :
    (∀ rest, pathTail (s ++ ' ' :: rest) = (s, ' ' :: rest)) ∧
      ∀ c ∈ s, c = '.' ∨ isWordChar c = true := by
  fun_induction pathTail s with
  | case1 => exact ⟨fun _ => rfl, by simp⟩
  | case2 | case4 | case6 => cases whole
  | case3 c rest member =>
    rename_i read ih
    simp only [Prod.mk.injEq, List.cons.injEq, true_and] at whole
    obtain ⟨rfl, rfl⟩ := whole
    obtain ⟨appended, members⟩ := ih read
    refine ⟨fun more => ?_, by simpa [member] using members⟩
    rw [List.cons_append, List.cons_append, pathTail_point member, appended]
  | case5 c rest =>
    rename_i member _ _ read ih
    simp only [Prod.mk.injEq, List.cons.injEq, true_and] at whole
    obtain ⟨rfl, rfl⟩ := whole
    obtain ⟨appended, members⟩ := ih read
    refine ⟨fun more => ?_, by simpa [member] using members⟩
    rw [← List.singleton_append, List.append_assoc, pathTail_word (by simpa using member), appended]

/-- A text that is read as a path to its end is read as one where a blank follows. -/
theorem isPath_of_path? (whole : path? f = some (f, [])) :
    IsPath f ∧ ∀ c ∈ f, c = '.' ∨ isWordChar c = true := by
  cases f with
  | nil => cases whole
  | cons c w =>
    simp only [path?, Option.ite_none_right_eq_some, Option.some.injEq, Prod.mk.injEq,
      List.cons.injEq, true_and] at whole
    obtain ⟨member, tail, nothing⟩ := whole
    obtain ⟨appended, members⟩ := pathTail_whole (Prod.ext tail nothing)
    refine ⟨fun rest => ?_, by simpa [member] using members⟩
    simp [path?, member, appended]

/-! ## Shapes -/

/-- After the field comes a sign, which no other shape of a condition begins with. -/
theorem shapes_comparison (path : IsPath f) (op : Comparison)
    (written : s = f ++ ' ' :: (op.sign.toList ++ ' ' :: rest)) :
    between? s = none ∧ membership? s = none ∧ presence? s = none ∧ pattern? s = none ∧
      comparison? s = (line? (skipBlanks rest)).map fun text => (f, op, text) := by
  subst written
  have path := path (op.sign.toList ++ ' ' :: rest)
  refine ⟨?_, ?_, ?_, ?_, ?_⟩
  · simp only [between?, path]
    cases op <;> rfl
  · simp only [membership?, path]
    cases op <;> rfl
  · simp only [presence?, path]
    cases op <;> rfl
  · simp only [pattern?, path]
    cases op <;> rfl
  · have sign : sign? (skipBlanks (' ' :: (op.sign.toList ++ ' ' :: rest))) =
        some (op, ' ' :: rest) := by cases op <;> rfl
    have skipped : skipBlanks (' ' :: rest) = skipBlanks rest := rfl
    simp only [comparison?, path, bind, Option.bind_some, sign, skipped]
    cases line? (skipBlanks rest) <;> rfl

/-- The letters of NOT and a blank, or nothing. -/
def notLetters (negated : Bool) : List Char := if negated then ['N', 'O', 'T', ' '] else []

/-- One line between brackets is enclosed by them. -/
theorem enclosed?_eq (opening closing : Char) (oneLine : '\n' ∉ w) :
    enclosed? opening closing (opening :: (w ++ [closing])) = some w := by
  simp [enclosed?, line?, oneLine]

/-- The brackets that a list can stand in. -/
inductive Brackets
  | round
  | square

namespace Brackets

def opening : Brackets → Char
  | round => '('
  | square => '['

def closing : Brackets → Char
  | round => ')'
  | square => ']'

end Brackets

theorem shapes_membership (path : IsPath f) (negated : Bool) (brackets : Brackets)
    {items : List Char} (oneLine : '\n' ∉ items)
    (written : s = f ++ ' ' :: (notLetters negated ++ (['I', 'N'] ++
      ' ' :: brackets.opening :: (items ++ [brackets.closing])))) :
    between? s = none ∧ membership? s = some (f, negated, items) := by
  have list : ((enclosed? '(' ')' (brackets.opening :: (items ++ [brackets.closing]))) <|>
      (enclosed? '[' ']' (brackets.opening :: (items ++ [brackets.closing])))) = some items := by
    cases brackets with
    | round => simp [Brackets.opening, Brackets.closing, enclosed?_eq '(' ')' oneLine]
    | square =>
      have notRound : enclosed? '(' ')' ('[' :: (items ++ [']'])) = none := by simp [enclosed?]
      simp [Brackets.opening, Brackets.closing, enclosed?_eq '[' ']' oneLine, notRound]
  generalize items ++ [brackets.closing] = rest at list written
  subst written
  have path := path (notLetters negated ++ (['I', 'N'] ++ ' ' :: brackets.opening :: rest))
  constructor
  · simp only [between?, path]
    cases negated <;> rfl
  · have reads : membership?
          (f ++ ' ' :: (notLetters negated ++ (['I', 'N'] ++ ' ' :: brackets.opening :: rest))) =
        ((enclosed? '(' ')' (brackets.opening :: rest)) <|>
          (enclosed? '[' ']' (brackets.opening :: rest))).bind
            fun items => some (f, negated, items) := by
      simp only [membership?, path]
      cases negated <;> cases brackets <;> rfl
    rw [reads, list]
    rfl

theorem shapes_presence (path : IsPath f) (expected : Bool)
    (written : s = f ++ ' ' :: (['I', 'S'] ++ ' ' ::
      (notLetters expected ++ ['N', 'U', 'L', 'L']))) :
    between? s = none ∧ membership? s = none ∧ presence? s = some (f, expected) := by
  subst written
  have path := path (['I', 'S'] ++ ' ' :: (notLetters expected ++ ['N', 'U', 'L', 'L']))
  refine ⟨?_, ?_, ?_⟩
  · simp only [between?, path]
    rfl
  · simp only [membership?, path]
    rfl
  · simp only [presence?, path]
    cases expected <;> rfl

theorem shapes_pattern (path : IsPath f) {source : List Char} (oneLine : '\n' ∉ source)
    (written : s = f ++ ' ' :: (['L', 'I', 'K', 'E'] ++ ' ' :: '\'' :: (source ++ ['\'']))) :
    between? s = none ∧ membership? s = none ∧ presence? s = none ∧
      pattern? s = some (f, source) := by
  have text := enclosed?_eq '\'' '\'' oneLine
  generalize source ++ ['\''] = rest at text written
  subst written
  have path := path (['L', 'I', 'K', 'E'] ++ ' ' :: '\'' :: rest)
  refine ⟨?_, ?_, ?_, ?_⟩
  · simp only [between?, path]
    rfl
  · simp only [membership?, path]
    rfl
  · simp only [presence?, path]
    rfl
  · have reads : pattern? (f ++ ' ' :: (['L', 'I', 'K', 'E'] ++ ' ' :: '\'' :: rest)) =
        ((enclosed? '\'' '\'' ('\'' :: rest)) <|> (enclosed? '"' '"' ('\'' :: rest))).bind
          fun source => some (f, source) := by
      simp only [pattern?, path]
      rfl
    rw [reads, text]
    rfl

/-- The bounds are cut apart at the first AND that can be read there. -/
theorem shapes_between (path : IsPath f) {bounds : List Char}
    (first : bounds.head?.all (!isBlank ·) = true)
    (written : s = f ++ ' ' :: (JoiningWord.between.letters ++ ' ' :: bounds)) :
    between? s = (cutAt? upperBound? bounds).map fun (low, high) => (f, low, high) := by
  subst written
  have path := path (JoiningWord.between.letters ++ ' ' :: bounds)
  have one : afterBlanks (' ' :: bounds) = [bounds] := by
    have none : afterBlanks bounds = [] := by
      cases bounds with
      | nil => rfl
      | cons c rest => simpa [afterBlanks] using first
    simp [afterBlanks, none, show isBlank ' ' = true from rfl]
  have reads : between? (f ++ ' ' :: (JoiningWord.between.letters ++ ' ' :: bounds)) =
      ((afterBlanks (' ' :: bounds)).findSome? (cutAt? upperBound?)).bind
        fun (low, high) => some (f, low, high) := by
    simp only [between?, path]
    rfl
  rw [reads, one]
  cases h : cutAt? upperBound? bounds <;> simp [h]

end DocQuery.Condition
