import DocQuery.Proofs.Condition.Blank
import DocQuery.Proofs.Condition.Substitution
import DocQuery.Proofs.Number.NumberText

/-! # Markers

A parameter has two markers: its name behind either mark. Substitution takes the markers one after
the other and writes the value in place of each that is found.

* `Marker`, `markers` — the markers of all parameters, in the order in which they are taken.
* `settle` — the text after some markers have been taken.
* `longest?_eq_first?` — the longest marker that a text begins with is the first one taken.
* `Sealed` — a text that no marker overlaps at its end, as that of every value.
-/

namespace DocQuery.Parameters

open DocQuery.Number DocQuery.Condition

/-- A mark with a name behind it, and the value to be written in their place. -/
structure Marker where
  mark : Char
  name : String
  value : Value
  isMark_mark : isMark mark = true
  named : name ≠ ""

namespace Marker

def letters (m : Marker) : List Char := m.mark :: m.name.toList

theorem letters_ne_nil (m : Marker) : m.letters ≠ [] := List.cons_ne_nil _ _

def written (m : Marker) : List Char := (parameterText m.value).toList

/-- Both markers of a parameter, which has none without a name. -/
def both (entry : String × Value) : List Marker :=
  if named : entry.1 = "" then []
  else [⟨'@', entry.1, entry.2, rfl, named⟩, ⟨':', entry.1, entry.2, rfl, named⟩]

theorem name_of_mem_both {m : Marker} {entry : String × Value} (member : m ∈ both entry) :
    m.name = entry.1 := by
  unfold both at member
  split at member
  · cases member
  · simp only [List.mem_cons, List.not_mem_nil, or_false] at member
    rcases member with rfl | rfl <;> rfl

end Marker

def markers (params : Parameters) : List Marker := (ordered params).flatMap Marker.both

/-- The text after the markers have been taken one after the other. -/
def settle (ms : List Marker) (s : List Char) : List Char :=
  ms.foldl (fun s m => replaceAll m.letters m.written s) s

variable {s : List Char} {m n r : Marker} {ms : List Marker} {params : Parameters}

@[simp] theorem settle_nil (s : List Char) : settle [] s = s := rfl

@[simp] theorem settle_cons (r : Marker) (ms : List Marker) (s : List Char) :
    settle (r :: ms) s = settle ms (replaceAll r.letters r.written s) := rfl

theorem settle_concat (ms : List Marker) (r : Marker) (s : List Char) :
    settle (ms ++ [r]) s = replaceAll r.letters r.written (settle ms s) := by
  simp [settle]

theorem settle_append (ms ns : List Marker) (s : List Char) :
    settle (ms ++ ns) s = settle ns (settle ms s) := by
  simp [settle]

theorem settle_both {entry : String × Value} (named : entry.1 ≠ "") (s : List Char) :
    settle (Marker.both entry) s = substituteOne s entry.1 entry.2 := by
  rw [Marker.both, dif_neg named]
  rfl

theorem name_ne_empty_of_mem_ordered {entry : String × Value} (member : entry ∈ ordered params) :
    entry.1 ≠ "" := by
  have kept := List.mem_filter.mp ((List.mergeSort_perm _ _).subset member)
  simpa using kept.2

theorem markers_single {name : String} (named : IsName name) (v : Value) :
    markers [(name, v)] = Marker.both (name, v) := by
  rw [markers, ordered_single named, List.flatMap_singleton]

theorem substitute_eq_settle (text : String) (params : Parameters) :
    substitute text params = String.ofList (settle (markers params) text.toList) := by
  rw [substitute, markers]
  have named : ∀ entry ∈ ordered params, entry.1 ≠ "" :=
    fun entry => name_ne_empty_of_mem_ordered
  revert named
  generalize text.toList = s
  generalize ordered params = entries
  intro named
  induction entries generalizing s with
  | nil => rfl
  | cons entry rest ih =>
    rw [List.forall_mem_cons] at named
    rw [List.foldl_cons, List.flatMap_cons, settle_append, settle_both named.1, ih _ named.2]

/-! ## The longest marker -/

/-- The longest marker that the text begins with. -/
def longest? (ms : List Marker) (s : List Char) : Option Marker :=
  (ms.filter (·.letters.isPrefixOf s)).maxOn? (·.letters.length)

theorem utf8ByteSize_lt_of_prefix {a b : String} (front : a.toList <+: b.toList)
    (longer : a.toList.length < b.toList.length) : a.utf8ByteSize < b.utf8ByteSize := by
  obtain ⟨tail, same⟩ := front
  have joined : b = a ++ String.ofList tail := by
    rw [← String.toList_inj, String.toList_append, String.toList_ofList, same]
  have some_ : tail ≠ [] := by
    rintro rfl
    rw [List.append_nil] at same
    exact absurd longer (by simp [same])
  have positive : (String.ofList tail).utf8ByteSize ≠ 0 := by
    rw [Ne, String.utf8ByteSize_eq_zero_iff]
    intro empty
    exact some_ (by simpa using congrArg String.toList empty)
  rw [joined, String.utf8ByteSize_append]
  omega

theorem ordered_pairwise (params : Parameters) :
    (ordered params).Pairwise fun a b => b.1.utf8ByteSize ≤ a.1.utf8ByteSize := by
  unfold ordered
  refine (List.pairwise_mergeSort ?_ ?_ _).imp ?_
  · intro a b c first second
    simp only [Bool.or_eq_true, Bool.and_eq_true, decide_eq_true_eq, beq_iff_eq] at first second ⊢
    rcases first with first | ⟨size, first⟩ <;> rcases second with second | ⟨sameSize, second⟩
    · exact .inl (by omega)
    · exact .inl (by omega)
    · exact .inl (by omega)
    · exact .inr ⟨by omega, String.le_trans first second⟩
  · intro a b
    simp only [Bool.or_eq_true, Bool.and_eq_true, decide_eq_true_eq, beq_iff_eq]
    rcases Nat.lt_trichotomy a.1.utf8ByteSize b.1.utf8ByteSize with less | same | more
    · exact .inr (.inl less)
    · exact (String.le_total a.1 b.1).imp (fun le => .inr ⟨same.symm, le⟩)
        (fun le => .inr ⟨same, le⟩)
    · exact .inl (.inl more)
  · intro a b before
    simp only [Bool.or_eq_true, Bool.and_eq_true, decide_eq_true_eq, beq_iff_eq] at before
    omega

/-- Of the markers that a text begins with, none is longer than one taken before it. -/
theorem markers_pairwise (params : Parameters) (s : List Char) :
    (markers params).Pairwise fun m n =>
      m.letters <+: s → n.letters <+: s → n.letters.length ≤ m.letters.length := by
  rw [markers, List.pairwise_flatMap]
  constructor
  · intro entry _
    unfold Marker.both
    split <;> simp [Marker.letters]
  · refine (ordered_pairwise params).imp fun {a b} size => ?_
    intro m ofA n ofB first second
    have lettersA : m.letters = m.mark :: a.1.toList := by
      rw [Marker.letters, Marker.name_of_mem_both ofA]
    have lettersB : n.letters = n.mark :: b.1.toList := by
      rw [Marker.letters, Marker.name_of_mem_both ofB]
    rw [lettersA] at first ⊢
    rw [lettersB] at second ⊢
    -- a longer name that fits goes on behind the shorter one, and has more bytes
    by_contra longer
    rw [List.length_cons, List.length_cons, Nat.add_le_add_iff_right, Nat.not_le] at longer
    have inside := List.prefix_of_prefix_length_le first second
      (by rw [List.length_cons, List.length_cons]; omega)
    have bytes := utf8ByteSize_lt_of_prefix (List.cons_prefix_cons.mp inside).2 longer
    omega

/-- The first marker that the text begins with. -/
def first? (ms : List Marker) (s : List Char) : Option Marker :=
  ms.find? (·.letters.isPrefixOf s)

theorem first?_eq_none_iff : first? ms s = none ↔ ∀ m ∈ ms, ¬ m.letters <+: s := by
  simp [first?]

theorem prefix_of_first? (found : first? ms s = some m) : m.letters <+: s :=
  List.isPrefixOf_iff_prefix.mp
    (List.find?_some (p := fun m : Marker => m.letters.isPrefixOf s) found)

theorem mem_of_first? (found : first? ms s = some m) : m ∈ ms := List.mem_of_find?_eq_some found

/-- No marker behind one that fits is the first. -/
theorem mem_of_first?_append {done todo : List Marker}
    (found : first? (done ++ r :: todo) s = some m) (fits : r.letters <+: s) :
    m ∈ done ∨ m = r := by
  rw [first?, List.find?_append, Option.or_eq_some_iff] at found
  rcases found with before | ⟨-, here⟩
  · exact .inl (List.mem_of_find?_eq_some before)
  · have first : (r :: todo).find? (fun m => m.letters.isPrefixOf s) = some r :=
      List.find?_cons_of_pos (by simpa using fits)
    exact .inr (Option.some.inj (here.symm.trans first))

theorem longest?_eq_first? (params : Parameters) (s : List Char) :
    longest? (markers params) s = first? (markers params) s := by
  rw [first?, ← List.head?_filter, longest?]
  have order := (markers_pairwise params s).filter (·.letters.isPrefixOf s)
  have fits : ∀ m ∈ (markers params).filter (·.letters.isPrefixOf s), m.letters <+: s := by
    intro m member
    exact List.isPrefixOf_iff_prefix.mp (List.mem_filter.mp member).2
  revert order fits
  generalize (markers params).filter (·.letters.isPrefixOf s) = found
  intro order fits
  cases found with
  | nil => rfl
  | cons m rest =>
    rw [List.maxOn?_cons_eq_some_maxOn, List.head?_cons, List.maxOn_eq_head, List.head_cons]
    intro n member
    rcases List.mem_cons.mp member with rfl | later
    · exact Nat.le_refl _
    · exact (List.pairwise_cons.mp order).1 n later (fits m List.mem_cons_self) (fits n member)

/-! ## Written values -/

/-- The characters that the text of a value with marks ends with. -/
def closers : List Char := ['"', ')', ']']

/-- Whether the text has no mark, or ends with a character that no plain name has. -/
def Sealed (s : List Char) : Prop :=
  (∀ c ∈ s, isMark c = false) ∨ ∃ front, ∃ d ∈ closers, s = front ++ [d]

theorem isMark_of_isNumberChar {c : Char} (number : isNumberChar c = true) : isMark c = false := by
  by_contra mark
  rw [Bool.not_eq_false, isMark, Bool.or_eq_true, beq_iff_eq, beq_iff_eq] at mark
  rcases mark with rfl | rfl <;> revert number <;> decide

theorem isMark_of_mem_intText {n : Int} :
    ∀ c ∈ (toString n).toList, isMark c = false := by
  intro c member
  rcases mem_intText member with digit | rfl
  · exact isMark_of_isNumberChar (isNumberChar_of_isDigit digit)
  · rfl

theorem isMark_of_mem_doubleText {x : Float} :
    ∀ c ∈ (Literal.doubleText x).toList, isMark c = false := by
  have plain : ∀ c ∈ (floatText plainStyle x).toList, isMark c = false := by
    intro c member
    cases finite : Binary64.isFinite x with
    | true =>
      exact isMark_of_isNumberChar (isNumberChar_of_mem_floatText (by decide) finite c member)
    | false =>
      rcases mem_floatText_of_not_isFinite finite member with rfl | word
      · rfl
      · exact (show ∀ c ∈ (plainStyle.nan ++ plainStyle.infinite).toList, isMark c = false by
          decide) c word
  simp only [Literal.doubleText]
  split
  · exact plain
  · rw [String.toList_append, List.forall_mem_append]
    exact ⟨plain, by decide⟩

/-- A value is written without marks, or between a character that is no mark and a closer. -/
theorem parameterText_cases (v : Value) :
    (∀ c ∈ (parameterText v).toList, isMark c = false) ∨
      ∃ first middle, ∃ last ∈ closers, isMark first = false ∧
        (parameterText v).toList = first :: (middle ++ [last]) := by
  have inQuotes (s : String) : ∃ first middle, ∃ last ∈ closers, isMark first = false ∧
      (quoted s).toList = first :: (middle ++ [last]) :=
    ⟨'"', escaped s.toList, '"', by decide, rfl, toList_quoted s⟩
  cases v <;> rw [parameterText]
  case null => exact .inl (by decide)
  case bool b => cases b <;> exact .inl (by decide)
  case int32 n => exact .inl isMark_of_mem_intText
  case int64 n => exact .inl isMark_of_mem_intText
  case float x => exact .inl isMark_of_mem_doubleText
  case objectId id =>
    exact .inr ⟨'O', ("bjectId(\"" ++ id.hex ++ "\"").toList, ')', by decide, rfl,
      by simp [Literal.objectIdText]⟩
  case array items =>
    exact .inr ⟨'[', (Text.join "," (parameterTexts items)).toList, ']', by decide, rfl, by simp⟩
  case string s => exact .inr (inQuotes s)
  case instant t => exact .inr (inQuotes _)
  case binary bytes => exact .inr (inQuotes _)
  case object fields => exact .inr (inQuotes _)

theorem Marker.sealed_written (m : Marker) : Sealed m.written := by
  rcases parameterText_cases m.value with plain | ⟨first, middle, last, closer, -, same⟩
  · exact .inl plain
  · exact .inr ⟨first :: middle, last, closer, same⟩

/-- The text of a value does not begin with a mark. -/
theorem Marker.first_written (m : Marker) :
    ∃ c rest, m.written = c :: rest ∧ isMark c = false := by
  rcases parameterText_cases m.value with plain | ⟨first, middle, last, -, notMark, same⟩
  · obtain ⟨c, member, -⟩ := parameterText_solid m.value
    obtain ⟨first, rest, same⟩ := List.exists_cons_of_ne_nil (List.ne_nil_of_mem member)
    exact ⟨first, rest, same, plain first (same ▸ List.mem_cons_self)⟩
  · exact ⟨first, middle ++ [last], same, notMark⟩

end DocQuery.Parameters
