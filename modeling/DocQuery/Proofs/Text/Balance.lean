import DocQuery.Proofs.Text.CommaLists
import DocQuery.Text.Quoting
import Mathlib.Data.List.Infix

/-! # Balanced texts

A text is balanced if its quotes are closed and every bracket outside them is closed behind the
place where it is opened. Round and square brackets count alike. Cutting a list at its commas
inverts joining balanced items with commas, whatever the items hold between their quotes and
brackets, and whatever blanks stand around the commas.

* `IsBalanced` — the property, by counting brackets.
* `Place.walk?` — one pass over a text, with the quoting and the number of open brackets.
* `Place.walk?_eq_some_iff`, `isBalanced_iff` — both say the same.
* `not_isBalanced_iff` — the three ways of not being balanced.
* `IsJoinable` — what can be an item of a list; whether a text can is decided by one pass.
* `PaddedItem` — an item with the blanks around it.
* `listPieces_walk` — a text without a comma at the top level becomes part of one piece.
* `splitList_intercalate` — the items of a joined list.
-/

namespace DocQuery.Text

variable {c : Char} {s t : List Char} {depth : Nat}

/-! ## Counting -/

namespace Quoting

/-- Where the character behind a text stands. -/
def after (quoting : Quoting) (s : List Char) : Quoting := s.foldl next quoting

/-- The characters of a text that stand outside quotes, and those that open quotes. -/
def uncovered : Quoting → List Char → List Char
  | _, [] => []
  | .outside, c :: rest => c :: uncovered (next .outside c) rest
  | quoting, c :: rest => uncovered (quoting.next c) rest

/-- The number of brackets that are opened outside quotes. -/
def opened (quoting : Quoting) (s : List Char) : Nat := (quoting.uncovered s).countP isOpening

/-- The number of brackets that are closed outside quotes. -/
def closed (quoting : Quoting) (s : List Char) : Nat := (quoting.uncovered s).countP isClosing

@[simp] theorem after_cons (quoting : Quoting) (c : Char) (s : List Char) :
    quoting.after (c :: s) = (quoting.next c).after s := rfl

theorem opened_cons (s : List Char) : Quoting.outside.opened (c :: s) =
    (next .outside c).opened s + if isOpening c then 1 else 0 := by
  simp [opened, uncovered, List.countP_cons]

theorem closed_cons (s : List Char) : Quoting.outside.closed (c :: s) =
    (next .outside c).closed s + if isClosing c then 1 else 0 := by
  simp [closed, uncovered, List.countP_cons]

/-- In quotes nothing is counted. -/
theorem count_covered {quoting : Quoting} (covered : quoting ≠ .outside) (c : Char)
    (s : List Char) : quoting.opened (c :: s) = (quoting.next c).opened s ∧
      quoting.closed (c :: s) = (quoting.next c).closed s := by
  cases quoting with
  | outside => exact absurd rfl covered
  | inside mark | escaping mark => exact ⟨rfl, rfl⟩

end Quoting

/-- The quotes of the text are closed, and its brackets are paired off. -/
structure IsBalanced (s : List Char) : Prop where
  closesQuotes : Quoting.outside.after s = .outside
  neverNegative : ∀ front, front <+: s → Quoting.outside.closed front ≤ Quoting.outside.opened front
  closesBrackets : Quoting.outside.closed s = Quoting.outside.opened s

/-! ## One pass -/

/-- What has to be known of the text in front of a character. -/
structure Place where
  quoting : Quoting
  depth : Nat
  deriving DecidableEq

namespace Place

/-- The place at which nothing is open. -/
def start : Place := ⟨.outside, 0⟩

/-- The place behind one more character; nothing can be closed that is not open. -/
def step? : Place → Char → Option Place
  | ⟨.outside, depth⟩, c =>
    if isClosing c && depth == 0 then none else some ⟨Quoting.next .outside c, nextDepth depth c⟩
  | ⟨quoting, depth⟩, c => some ⟨quoting.next c, depth⟩

/-- The place behind a text. -/
def walk? (p : Place) (s : List Char) : Option Place := s.foldlM step? p

variable {p q : Place}

@[simp] theorem walk?_nil (p : Place) : p.walk? [] = some p := rfl

@[simp] theorem walk?_cons (p : Place) (c : Char) (s : List Char) :
    p.walk? (c :: s) = (p.step? c).bind (·.walk? s) := rfl

theorem walk?_append (p : Place) (s t : List Char) :
    p.walk? (s ++ t) = (p.walk? s).bind (·.walk? t) := List.foldlM_append

theorem step?_covered {quoting : Quoting} (covered : quoting ≠ .outside) (depth : Nat) (c : Char) :
    step? ⟨quoting, depth⟩ c = some ⟨quoting.next c, depth⟩ := by
  cases quoting with
  | outside => exact absurd rfl covered
  | inside mark | escaping mark => rfl

/-- Brackets are no quotes, and none of them both opens and closes. -/
theorem next_of_isOpening (opens : isOpening c = true) :
    Quoting.next .outside c = .outside ∧ isClosing c = false := by
  simp only [isOpening, Bool.or_eq_true, beq_iff_eq] at opens
  rcases opens with rfl | rfl <;> exact ⟨rfl, rfl⟩

theorem next_of_isClosing (closes : isClosing c = true) :
    Quoting.next .outside c = .outside ∧ isOpening c = false := by
  simp only [isClosing, Bool.or_eq_true, beq_iff_eq] at closes
  rcases closes with rfl | rfl <;> exact ⟨rfl, rfl⟩

theorem step?_opening (opens : isOpening c = true) (depth : Nat) :
    step? ⟨.outside, depth⟩ c = some ⟨.outside, depth + 1⟩ := by
  obtain ⟨stays, notClosing⟩ := next_of_isOpening opens
  simp [step?, nextDepth, opens, notClosing, stays]

theorem step?_closing (closes : isClosing c = true) (depth : Nat) :
    step? ⟨.outside, depth + 1⟩ c = some ⟨.outside, depth⟩ := by
  obtain ⟨stays, notOpening⟩ := next_of_isClosing closes
  simp [step?, nextDepth, closes, notOpening, stays]

/-- A bracket on its own is closed too early. -/
theorem step?_early (closes : isClosing c = true) : step? .start c = none := by
  simp [step?, start, closes]

theorem step?_other (notOpening : isOpening c = false) (notClosing : isClosing c = false)
    (depth : Nat) : step? ⟨.outside, depth⟩ c = some ⟨Quoting.next .outside c, depth⟩ := by
  simp [step?, nextDepth, notOpening, notClosing]

theorem forall_prefix_cons {P : List Char → Prop} :
    (∀ front, front <+: c :: s → P front) ↔ P [] ∧ ∀ front, front <+: s → P (c :: front) := by
  constructor
  · exact fun every => ⟨every [] List.nil_prefix, fun front begins =>
      every _ (List.cons_prefix_cons.mpr ⟨rfl, begins⟩)⟩
  · rintro ⟨nothing, more⟩ front begins
    cases front with
    | nil => exact nothing
    | cons d front =>
      obtain ⟨rfl, rest⟩ := List.cons_prefix_cons.mp begins
      exact more front rest

/-- The pass succeeds if no bracket is closed too early, and then it has counted right. -/
theorem walk?_eq_some_iff {quoting quoting' : Quoting} {depth' : Nat} :
    walk? ⟨quoting, depth⟩ s = some ⟨quoting', depth'⟩ ↔ quoting.after s = quoting' ∧
      (∀ front, front <+: s → quoting.closed front ≤ depth + quoting.opened front) ∧
      depth' + quoting.closed s = depth + quoting.opened s := by
  induction s generalizing quoting depth with
  | nil =>
    simp [Quoting.after, Quoting.closed, Quoting.opened, Quoting.uncovered, eq_comm]
  | cons c rest ih =>
    have nothing : quoting.closed [] ≤ depth + quoting.opened [] := by
      simp [Quoting.closed, Quoting.uncovered]
    rw [forall_prefix_cons, and_iff_right nothing, walk?_cons, Quoting.after_cons]
    by_cases covered : quoting = .outside
    · subst covered
      simp only [Quoting.opened_cons, Quoting.closed_cons]
      by_cases opens : isOpening c = true
      · obtain ⟨stays, notClosing⟩ := next_of_isOpening opens
        simp only [step?_opening opens, notClosing, opens, stays, Bool.false_eq_true, if_true,
          if_false, Option.bind_some, ih]
        refine and_congr_right fun _ => and_congr (forall₂_congr fun _ _ => ?_) ?_ <;> omega
      by_cases closes : isClosing c = true
      · obtain ⟨stays, notOpening⟩ := next_of_isClosing closes
        cases depth with
        | zero =>
          refine iff_of_false (by simp [show step? ⟨.outside, 0⟩ c = none from step?_early closes]) ?_
          rintro ⟨-, bounds, -⟩
          simpa [opens, closes, stays, Quoting.opened, Quoting.closed, Quoting.uncovered]
            using bounds [] List.nil_prefix
        | succ depth =>
          simp only [step?_closing closes, closes, notOpening, stays, Bool.false_eq_true, if_true,
            if_false, Option.bind_some, ih]
          refine and_congr_right fun _ => and_congr (forall₂_congr fun _ _ => ?_) ?_ <;> omega
      · rw [Bool.not_eq_true] at opens closes
        simp only [step?_other opens closes, closes, opens, Bool.false_eq_true, if_false,
          Option.bind_some, ih, Nat.add_zero]
    · have count := Quoting.count_covered covered c
      simp only [(count _).1, (count _).2, step?_covered covered, Option.bind_some, ih]

end Place

/-- A text is not balanced if it ends in quotes, closes a bracket that is not open, or leaves one
open. -/
theorem not_isBalanced_iff : ¬ IsBalanced s ↔ Quoting.outside.after s ≠ .outside ∨
    (∃ front, front <+: s ∧ Quoting.outside.opened front < Quoting.outside.closed front) ∨
    Quoting.outside.closed s < Quoting.outside.opened s := by
  constructor
  · intro unbalanced
    by_contra! balanced
    obtain ⟨quotes, bounds, even⟩ := balanced
    exact unbalanced ⟨quotes, bounds, le_antisymm (bounds s (List.prefix_refl s)) even⟩
  · rintro (quotes | ⟨front, begins, early⟩ | left) balanced
    · exact quotes balanced.closesQuotes
    · exact absurd (balanced.neverNegative front begins) (Nat.not_le.mpr early)
    · exact absurd balanced.closesBrackets (Nat.ne_of_lt left)

/-- A text is balanced if one pass over it ends where it began. -/
theorem isBalanced_iff : IsBalanced s ↔ Place.start.walk? s = some .start := by
  rw [Place.start, Place.walk?_eq_some_iff]
  constructor
  · intro balanced
    refine ⟨balanced.closesQuotes, fun front begins => ?_, ?_⟩
    · simpa using balanced.neverNegative front begins
    · simpa using balanced.closesBrackets
  · rintro ⟨quotes, bounds, even⟩
    exact ⟨quotes, fun front begins => by simpa using bounds front begins, by simpa using even⟩

/-! ## Joinable texts -/

variable {w : List Char} {p q : Place}

/-- A comma behind this text does not cut: it stands in quotes or in brackets. -/
def IsShielded (front : List Char) : Prop :=
  Quoting.outside.after front ≠ .outside ∨
    Quoting.outside.closed front < Quoting.outside.opened front

instance : DecidablePred IsShielded := fun _ => inferInstanceAs (Decidable (_ ∨ _))

/-- A text that can be an item of a list: without blanks at its ends, balanced, and with commas only
in quotes and brackets. -/
structure IsJoinable (content : List Char) : Prop where
  first : content.head?.all (!isBlank ·) = true
  last : content.getLast?.all (!isBlank ·) = true
  balanced : IsBalanced content
  shielded : ∀ front, front ++ [','] <+: content → IsShielded front

/-- An item of a list with the blanks around it. -/
structure PaddedItem where
  before : List Char
  content : List Char
  behind : List Char
  blankBefore : ∀ c ∈ before, isBlank c = true
  blankBehind : ∀ c ∈ behind, isBlank c = true
  joinable : IsJoinable content

def PaddedItem.text (item : PaddedItem) : List Char := item.before ++ (item.content ++ item.behind)

theorem isJoinable_iff {content : List Char} : IsJoinable content ↔
    content.head?.all (!isBlank ·) = true ∧ content.getLast?.all (!isBlank ·) = true ∧
      Place.start.walk? content = some .start ∧
      ∀ front ∈ content.inits, front ++ [','] <+: content → IsShielded front := by
  rw [← isBalanced_iff]
  constructor
  · exact fun joinable => ⟨joinable.first, joinable.last, joinable.balanced,
      fun front _ => joinable.shielded front⟩
  · rintro ⟨first, last, balanced, shielded⟩
    refine ⟨first, last, balanced, fun front begins => shielded front ?_ begins⟩
    exact (List.mem_inits _ _).mpr ((List.prefix_append front _).trans begins)

instance : DecidablePred IsJoinable := fun _ => decidable_of_iff' _ isJoinable_iff

/-! ## Pieces -/

/-- A place behind one more character, as it is seen where lists are cut. -/
theorem listPieces_step (steps : p.step? c = some q) (apart : ¬ (c = ',' ∧ p = .start))
    (s : List Char) :
    listPieces p.quoting p.depth (c :: s) = consPiece c (listPieces q.quoting q.depth s) := by
  obtain ⟨quoting, depth⟩ := p
  cases quoting with
  | outside =>
    rw [Place.step?] at steps
    split at steps
    · cases steps
    · cases steps
      have notCut : ¬ (c == ',' && depth == 0) = true := by simpa [Place.start] using apart
      rw [listPieces, if_neg notCut]
  | inside mark | escaping mark =>
    rw [Place.step?_covered (by simp)] at steps
    cases steps
    rfl

theorem isShielded_iff (front : List Char) (walks : ∃ p, Place.start.walk? front = some p) :
    IsShielded front ↔ Place.start.walk? front ≠ some .start := by
  obtain ⟨⟨quoting, depth⟩, walks⟩ := walks
  rw [walks, Place.start, Ne, Option.some_inj, Place.mk.injEq, not_and_or, IsShielded]
  rw [Place.start, Place.walk?_eq_some_iff] at walks
  obtain ⟨same, bounds, even⟩ := walks
  have bound := bounds front (List.prefix_refl front)
  rw [same]
  exact or_congr_right (by omega)

/-- What is walked over without a comma at the top level becomes part of one piece. -/
theorem listPieces_walk (walks : p.walk? w = some q)
    (apart : ∀ front, front ++ [','] <+: w → p.walk? front ≠ some .start)
    (rest : List Char) : listPieces p.quoting p.depth (w ++ rest) =
      prepend w (listPieces q.quoting q.depth rest) := by
  induction w generalizing p with
  | nil =>
    cases walks
    exact (prepend_nil (listPieces_ne_nil _ _ _)).symm
  | cons c w ih =>
    obtain ⟨next, steps, further⟩ := Option.bind_eq_some_iff.mp walks
    have notComma : ¬ (c = ',' ∧ p = .start) := by
      rintro ⟨rfl, rfl⟩
      exact apart [] (List.prefix_append [','] w) rfl
    have later := ih further fun front begins walked =>
      apart (c :: front) (List.cons_prefix_cons.mpr ⟨rfl, begins⟩) (by simp [steps, walked])
    rw [List.cons_append, listPieces_step steps notComma, later, consPiece_eq_prepend,
      prepend_prepend, List.singleton_append]

/-! ## Items -/

theorem isPlain_of_isBlank (blank : isBlank c = true) : isPlain c = true := by
  have every : blanks.all isPlain = true := by decide
  exact List.all_eq_true.mp every c (mem_blanks blank)

namespace PaddedItem

variable (item : PaddedItem)

/-- An item and the blanks around it stay together. -/
theorem together : StaysTogether item.text := by
  have plain {blanks : List Char} (blank : ∀ c ∈ blanks, isBlank c = true) :
      StaysTogether blanks := .plain fun c member => isPlain_of_isBlank (blank c member)
  refine (plain item.blankBefore).append (.append ?_ (plain item.blankBehind))
  have walks := isBalanced_iff.mp item.joinable.balanced
  refine fun rest => listPieces_walk walks (fun front begins => ?_) rest
  -- what stands in front of a comma is walked over too
  have walked : ∃ p, Place.start.walk? front = some p := by
    obtain ⟨back, same⟩ := begins
    rw [← same, List.append_assoc, Place.walk?_append, Option.bind_eq_some_iff] at walks
    exact walks.imp fun _ => And.left
  exact (isShielded_iff front walked).mp (item.joinable.shielded front begins)

theorem trim_text : trim item.text = item.content := by
  by_cases empty : item.content = []
  · have blank : ∀ c ∈ item.before ++ item.behind, isBlank c = true :=
      List.forall_mem_append.mpr ⟨item.blankBefore, item.blankBehind⟩
    rw [text, empty, List.nil_append, trim, skipBlanks, List.dropWhile_eq_nil_iff.mpr blank]
    rfl
  · obtain ⟨front, c, same⟩ := item.content.eq_nil_or_concat.resolve_left empty
    have ends : EndsSolid item.content := by
      have solid := item.joinable.last
      rw [EndsSolid]
      simpa [same] using solid
    exact trim_blanks item.blankBefore item.blankBehind item.joinable.first ends

end PaddedItem

/-- Cutting a list at its commas inverts joining items with commas. -/
theorem splitList_intercalate (items : List PaddedItem) (some_ : items ≠ []) :
    splitList ([','].intercalate (items.map PaddedItem.text)) =
      items.map PaddedItem.content := by
  rw [splitList]
  induction items with
  | nil => exact absurd rfl some_
  | cons item rest ih =>
    cases rest with
    | nil =>
      have pieces := item.together []
      rw [List.append_nil] at pieces
      simp [pieces, listPieces, prepend, item.trim_text]
    | cons next rest =>
      have later := ih (List.cons_ne_nil next rest)
      have cuts (s : List Char) :
          listPieces .outside 0 (',' :: s) = [] :: listPieces .outside 0 s := by
        simp [listPieces]
      rw [List.map_cons, List.map_cons, List.intercalate_cons_cons, ← List.map_cons,
        List.append_assoc, item.together, List.singleton_append, cuts, prepend, List.append_nil,
        List.map_cons, later, item.trim_text]
      rfl

/-- Quotes with a comma and an escaped mark in them, nested brackets, an item of nothing, and blanks
of several kinds. -/
theorem splitList_intercalate_nested :
    splitList " 'a, b' ,\tf([x, \")\"], (y,z)),\n, \"it\\\", 's\" ".toList =
      ["'a, b'".toList, "f([x, \")\"], (y,z))".toList, [], "\"it\\\", 's\"".toList] :=
  splitList_intercalate
    [⟨[' '], "'a, b'".toList, [' '], by decide, by decide, by decide⟩,
      ⟨['\t'], "f([x, \")\"], (y,z))".toList, [], by decide, by decide, by decide⟩,
      ⟨['\n'], [], [], by decide, by decide, by decide⟩,
      ⟨[' '], "\"it\\\", 's\"".toList, [' '], by decide, by decide, by decide⟩] (by simp)

end DocQuery.Text
