import DocQuery.Proofs.Execute.ColumnOrder
import Mathlib.Data.List.Basic

/-! # Documents in the order of several keys

Where each key finds values of one kind, or converts all values to one, sorting gives a permutation
in the order of the keys, and documents that the keys do not tell apart stay in the order they came
in.

* `FoundBefore`, `FoundTies` — the order of values that may be missing.
* `SortKeys.Precedes`, `SortKeys.Ties` — the order of documents.
* `SortKey.IsOrderable` — a key whose order is a chain on the documents.
* `sortDocuments_stable` — the result of sorting.
-/

namespace DocQuery

/-! ## Order by one key -/

/-- What comes first: a missing value, then null, then the other values in their order. -/
inductive FoundBefore : Option Value → Option Value → Prop
  | missing (v : Value) : FoundBefore none (some v)
  | null {v : Value} (notNull : v ≠ .null) : FoundBefore (some .null) (some v)
  | values {u v : Value} (notNull : u ≠ .null) (notNullToo : v ≠ .null) (less : u.compare v = .lt) :
      FoundBefore (some u) (some v)

/-- What the order does not tell apart. -/
inductive FoundTies : Option Value → Option Value → Prop
  | missing : FoundTies none none
  | null : FoundTies (some .null) (some .null)
  | values {u v : Value} (notNull : u ≠ .null) (notNullToo : v ≠ .null)
      (equal : u.compare v = .eq) : FoundTies (some u) (some v)

namespace Value

variable {v : Value}

theorem compare_null_left (notNull : v ≠ null) : null.compare v = .lt := by
  cases v <;> first | rfl | exact absurd rfl notNull

theorem compare_null_right (notNull : v ≠ null) : v.compare null = .gt := by
  rw [compare_swap, compare_null_left notNull]
  rfl

end Value

theorem compareFound_eq_lt_iff (x y : Option Value) :
    compareFound x y = .lt ↔ FoundBefore x y := by
  constructor
  · intro less
    match x, y with
    | none, some v => exact .missing v
    | some u, some v =>
      -- nothing is before null, and null is before all other values
      change u.compare v = .lt at less
      by_cases nullV : v = .null
      · subst nullV
        cases u <;> cases less
      by_cases nullU : u = .null
      · subst nullU
        exact .null nullV
      · exact .values nullU nullV less
  · rintro (v | notNull | ⟨-, -, less⟩)
    · rfl
    · exact Value.compare_null_left notNull
    · exact less

theorem compareFound_eq_eq_iff (x y : Option Value) :
    compareFound x y = .eq ↔ FoundTies x y := by
  constructor
  · intro equal
    match x, y with
    | none, none => exact .missing
    | some u, some v =>
      change u.compare v = .eq at equal
      by_cases nullU : u = .null
      · subst nullU
        by_cases nullV : v = .null
        · subst nullV
          exact .null
        · cases (Value.compare_null_left nullV).symm.trans equal
      · by_cases nullV : v = .null
        · subst nullV
          cases (Value.compare_null_right nullU).symm.trans equal
        · exact .values nullU nullV equal
  · rintro (- | - | ⟨-, -, equal⟩)
    · rfl
    · rfl
    · exact equal

/-- Whether the first document comes before the second one by one key. -/
def SortKey.Before (key : SortKey) (a b : Document) : Prop :=
  if key.descending then FoundBefore (key.value? b) (key.value? a)
  else FoundBefore (key.value? a) (key.value? b)

theorem SortKey.compare_eq_lt_iff (key : SortKey) (a b : Document) :
    key.compare a b = .lt ↔ key.Before a b := by
  unfold compare Before
  cases key.descending with
  | false => exact compareFound_eq_lt_iff _ _
  | true =>
    simp only [if_true, ← compareFound_swap]
    exact compareFound_eq_lt_iff _ _

theorem SortKey.compare_eq_eq_iff (key : SortKey) (a b : Document) :
    key.compare a b = .eq ↔ FoundTies (key.value? a) (key.value? b) := by
  rw [← compareFound_eq_eq_iff, compare]
  cases key.descending <;> simp

/-! ## Order by several keys -/

namespace SortKeys

variable {keys : SortKeys} {a b : Document}

/-- Whether the first key that tells two documents apart has the first one before the second. -/
def Precedes : SortKeys → Document → Document → Prop
  | [], _, _ => False
  | key :: rest, a, b =>
    key.Before a b ∨ FoundTies (key.value? a) (key.value? b) ∧ Precedes rest a b

/-- Whether no key tells two documents apart. -/
def Ties (keys : SortKeys) (a b : Document) : Prop :=
  ∀ key ∈ keys, FoundTies (key.value? a) (key.value? b)

theorem compare_eq_lt_iff (keys : SortKeys) (a b : Document) :
    keys.compare a b = .lt ↔ Precedes keys a b := by
  induction keys with
  | nil => simp [compare, Precedes]
  | cons key rest ih =>
    rw [Precedes, ← ih, ← key.compare_eq_lt_iff, ← key.compare_eq_eq_iff, compare,
      Ordering.then_eq_lt]

theorem compare_eq_eq_iff (keys : SortKeys) (a b : Document) :
    keys.compare a b = .eq ↔ Ties keys a b := by
  induction keys with
  | nil => simp [compare, Ties]
  | cons key rest ih =>
    rw [Ties, List.forall_mem_cons, ← key.compare_eq_eq_iff, compare, Ordering.then_eq_eq]
    exact and_congr_right fun _ => ih

instance : Decidable (Ties keys a b) := decidable_of_iff _ (compare_eq_eq_iff keys a b)

instance : Decidable (Precedes keys a b) := decidable_of_iff _ (compare_eq_lt_iff keys a b)

theorem compare_ne_gt_iff (keys : SortKeys) (a b : Document) :
    (keys.compare a b != .gt) = true ↔ Precedes keys a b ∨ Ties keys a b := by
  rw [← compare_eq_lt_iff, ← compare_eq_eq_iff]
  cases keys.compare a b <;> simp

end SortKeys

/-! ## Keys with an order -/

/-- Kinds of values that are in order with each other; integers are so in both widths. -/
inductive Bracket
  | integer | string | bool | instant | objectId | binary

def Bracket.holds : Bracket → Value → Bool
  | .integer, .int32 _ | .integer, .int64 _ | .string, .string _ | .bool, .bool _
  | .instant, .instant _ | .objectId, .objectId _ | .binary, .binary _ => true
  | _, _ => false

section brackets

variable {bracket : Bracket} {u v : Value}

theorem Bracket.comparable (holds : bracket.holds u = true) (holdsToo : bracket.holds v = true) :
    comparable u v = true := by
  cases bracket <;> cases u <;> cases holds <;> cases v <;> cases holdsToo <;> rfl

theorem Bracket.noFloat (holds : bracket.holds v = true) : v.hasFloat = false := by
  cases bracket <;> cases v <;> cases holds <;> rfl

theorem Bracket.isNull_or_holds_iff :
    (v.isNull || bracket.holds v) = true ↔ v = .null ∨ bracket.holds v = true := by
  rw [Bool.or_eq_true]
  refine or_congr_left ⟨fun isNull => ?_, fun null => null ▸ rfl⟩
  cases v <;> first | rfl | cases isNull

/-- Null and the values of one kind are a chain. -/
theorem isChain_of_bracket (bracket : Bracket) {values : List Value}
    (each : ∀ v ∈ values, v = .null ∨ bracket.holds v = true) : Value.IsChain values := by
  refine Value.isChain_of_comparable (fun v member => ?_) fun v memberV w memberW => ?_
  · rcases each v member with rfl | holds
    · rfl
    · exact Bracket.noFloat holds
  · rcases each v memberV with rfl | holds
    · exact .inl rfl
    rcases each w memberW with rfl | holdsToo
    · exact .inr (.inl rfl)
    · exact .inr (.inr (Bracket.comparable holds holdsToo))

/-- The values a conversion gives, null apart; none where they can be doubles. -/
def CastTarget.bracket? : CastTarget → Option Bracket
  | .int | .long => some .integer
  | .string => some .string
  | .date => some .instant
  | .bool => some .bool
  | .decimal | .double => none

theorem convertToInt_integer (v : Value) :
    convertToInt v = .null ∨ Bracket.holds .integer (convertToInt v) = true := by
  cases v with
  | string s =>
    simp only [convertToInt]
    split
    · exact .inr rfl
    · cases Number.parseFloat? (Text.trim s.toList) with
      | none => exact .inl rfl
      | some x => exact .inr rfl
  | bool | int32 | int64 | float | instant => exact .inr rfl
  | _ => exact .inl rfl

theorem convertToInstant_instant (v : Value) :
    convertToInstant v = .null ∨ Bracket.holds .instant (convertToInstant v) = true := by
  have optional (t : Option Time.Instant) : (t.map Value.instant).getD .null = .null ∨
      Bracket.holds .instant ((t.map Value.instant).getD .null) = true := by
    cases t with
    | none => exact .inl rfl
    | some t => exact .inr rfl
  cases v with
  | instant => exact .inr rfl
  | string | int32 | int64 => exact optional _
  | _ => exact .inl rfl

theorem convertToBool_bool (v : Value) :
    convertToBool v = .null ∨ Bracket.holds .bool (convertToBool v) = true := by
  cases v with
  | null => exact .inl rfl
  | _ => exact .inr rfl

/-- A conversion gives values of one kind, whatever it is given. -/
theorem convert_bracket {target : CastTarget} (gives : target.bracket? = some bracket) (v : Value) :
    convert target v = .null ∨ bracket.holds (convert target v) = true := by
  cases target <;> cases gives
  case int | long => exact convertToInt_integer v
  case date => exact convertToInstant_instant v
  case bool => exact convertToBool_bool v
  case string =>
    rw [convert]
    split
    · exact .inl rfl
    · exact .inr rfl

end brackets

/-- A key with a conversion that gives values of one kind, or one that finds no other values in the
documents than null and those of one kind. -/
def SortKey.IsOrderable (key : SortKey) (docs : List Document) : Prop :=
  match key.cast with
  | some target => target ∈ [CastTarget.int, .long, .string, .date, .bool]
  | none => ∃ bracket : Bracket, ∀ doc ∈ docs, ∀ value, doc.getPath? key.field = some value →
      value = .null ∨ bracket.holds value = true

namespace SortKey

variable {key : SortKey} {docs : List Document}

theorem IsOrderable.bracket (orderable : key.IsOrderable docs) :
    ∃ bracket : Bracket, ∀ doc ∈ docs, ∀ value, key.value? doc = some value →
      value = .null ∨ bracket.holds value = true := by
  unfold IsOrderable at orderable
  cases cast : key.cast with
  | none =>
    simp only [cast] at orderable
    simpa [value?, cast] using orderable
  | some target =>
    simp only [cast] at orderable
    obtain ⟨bracket, gives⟩ : ∃ bracket, target.bracket? = some bracket := by
      cases target <;> simp_all [CastTarget.bracket?]
    refine ⟨bracket, fun doc _ value found => ?_⟩
    simp only [value?, cast, Option.map_eq_some_iff] at found
    obtain ⟨raw, -, rfl⟩ := found
    exact convert_bracket gives raw

/-- The values of an orderable key are a chain. -/
theorem IsOrderable.isChain (orderable : key.IsOrderable docs) :
    Value.IsChain (docs.filterMap key.value?) := by
  obtain ⟨bracket, all⟩ := orderable.bracket
  refine isChain_of_bracket bracket fun v member => ?_
  obtain ⟨doc, inside, found⟩ := List.mem_filterMap.mp member
  exact all doc inside v found

end SortKey

/-! ## Sorting -/

/-- The order of the found values is a chain on the documents if that of the values is. -/
theorem transCmp_found {find : Document → Option Value} {docs : List Document}
    (chain : Value.IsChain (docs.filterMap find)) :
    Std.TransCmp fun a b : { doc // doc ∈ docs } => compareFound (find a) (find b) where
  eq_swap := compareFound_swap _ _
  isLE_trans {a b c} first second := by
    have found {doc : { doc // doc ∈ docs }} {v : Value} (here : find doc = some v) :
        v ∈ docs.filterMap find := List.mem_filterMap.mpr ⟨doc, doc.2, here⟩
    cases foundA : find a with
    | none => cases find c <;> rfl
    | some u =>
      cases foundB : find b with
      | none => simp [foundA, foundB, compareFound] at first
      | some v =>
        cases foundC : find c with
        | none => simp [foundB, foundC, compareFound] at second
        | some w =>
          simp only [foundA, foundB, foundC, compareFound, ← Value.le_eq_isLE] at first second ⊢
          exact chain u (found foundA) v (found foundB) w (found foundC) first second

section sorting

variable {keys : SortKeys} {docs : List Document}

theorem SortKey.IsOrderable.transCmp {key : SortKey} (orderable : key.IsOrderable docs) :
    Std.TransCmp fun a b : { doc // doc ∈ docs } => key.compare a b := by
  have ascending := transCmp_found orderable.isChain
  unfold SortKey.compare
  cases key.descending with
  | false => exact ascending
  | true =>
    simp only [if_true, ← compareFound_swap]
    exact .opposite

/-- A chain for each key is one for all keys. -/
theorem SortKeys.transCmp (orderable : ∀ key ∈ keys, key.IsOrderable docs) :
    Std.TransCmp fun a b : { doc // doc ∈ docs } => keys.compare a b := by
  -- the comparison is the lexicographic one of the first key and the others
  induction keys with
  | nil => exact { eq_swap := rfl, isLE_trans := fun _ _ => rfl }
  | cons key rest ih =>
    obtain ⟨first, others⟩ := List.forall_mem_cons.mp orderable
    have := first.transCmp
    have := ih others
    exact inferInstanceAs (Std.TransCmp (compareLex
      (fun a b : { doc // doc ∈ docs } => key.compare a b) fun a b => SortKeys.compare rest a b))

theorem SortKeys.orders (orderable : ∀ key ∈ keys, key.IsOrderable docs) :
    Orders (fun a b => keys.compare a b != .gt) docs := by
  have transCmp := SortKeys.transCmp orderable
  constructor
  · intro a inA b inB c inC
    simpa [← Ordering.isLE_iff_ne_gt] using
      transCmp.isLE_trans (a := ⟨a, inA⟩) (b := ⟨b, inB⟩) (c := ⟨c, inC⟩)
  · intro a inA b inB
    have swapped := transCmp.eq_swap (a := ⟨a, inA⟩) (b := ⟨b, inB⟩)
    rw [swapped]
    cases keys.compare b a <;> simp

/-- Documents that no key tells apart are in one place. -/
theorem SortKeys.le_of_ties (orderable : ∀ key ∈ keys, key.IsOrderable docs) {doc a b : Document}
    (inside : doc ∈ docs) (inA : a ∈ docs) (inB : b ∈ docs) (ties : Ties keys doc a)
    (tiesToo : Ties keys doc b) : (keys.compare a b != .gt) = true := by
  have transCmp := SortKeys.transCmp orderable
  rw [← compare_eq_eq_iff] at ties tiesToo
  have turned : keys.compare a doc = .eq := by
    rw [transCmp.eq_swap (a := ⟨a, inA⟩) (b := ⟨doc, inside⟩), ties]
    rfl
  have tied : keys.compare a b = .eq :=
    transCmp.eq_trans (a := ⟨a, inA⟩) (b := ⟨doc, inside⟩) (c := ⟨b, inB⟩) turned tiesToo
  rw [tied]
  rfl

/-- Sorting documents by orderable keys leaves each of them, puts them into the order of the keys,
and keeps those that are in one place in the order they came in. -/
theorem sortDocuments_stable (keys : SortKeys) (docs : List Document)
    (orderable : ∀ key ∈ keys, key.IsOrderable docs) :
    (sortDocuments keys docs).Perm docs ∧
      (sortDocuments keys docs).Pairwise (fun a b => SortKeys.Precedes keys a b ∨
        SortKeys.Ties keys a b) ∧
      ∀ doc ∈ docs, (sortDocuments keys docs).filter (fun other => SortKeys.Ties keys doc other) =
        docs.filter fun other => SortKeys.Ties keys doc other := by
  have orders := SortKeys.orders orderable
  refine ⟨List.mergeSort_perm _ _, ?_, fun doc inside => ?_⟩
  · exact orders.sorted.imp fun {a b} => (keys.compare_ne_gt_iff a b).mp
  · exact orders.filter_mergeSort fun a inA b inB ties tiesToo =>
      SortKeys.le_of_ties orderable inside inA inB (of_decide_eq_true ties)
        (of_decide_eq_true tiesToo)

/-- A text and a number that convert to one number, and texts from the last to the first one: two of
the documents are in one place. -/
theorem sortDocuments_stable_of_cast :
    let keys : SortKeys := [⟨"a", some .int, false⟩, ⟨"b", none, true⟩]
    let text : Document := ⟨[("a", .string "2"), ("b", .string "x")]⟩
    let number : Document := ⟨[("a", .int64 2), ("b", .string "x")]⟩
    let docs : List Document := [text, ⟨[("b", .string "y")]⟩, number, ⟨[("a", .bool true)]⟩,
      ⟨[("a", .int32 2), ("b", .null)]⟩]
    (∀ key ∈ keys, key.IsOrderable docs) ∧
      (sortDocuments keys docs).filter (fun other => SortKeys.Ties keys text other) =
        [text, number] := by
  intro keys text number docs
  have orderable : ∀ key ∈ keys, key.IsOrderable docs := by
    have texts : ∀ doc ∈ docs, ∀ value ∈ doc.getPath? "b",
        (value.isNull || Bracket.holds .string value) = true := by
      decide +kernel
    refine List.forall_mem_cons.mpr ⟨?_, List.forall_mem_singleton.mpr ?_⟩
    · simp [SortKey.IsOrderable]
    · exact ⟨.string, fun doc inside value found =>
        Bracket.isNull_or_holds_iff.mp (texts doc inside value found)⟩
  refine ⟨orderable, ?_⟩
  rw [(sortDocuments_stable keys docs orderable).2.2 text (by simp [docs])]
  have ties : docs.map (fun other => decide (SortKeys.Ties keys text other)) =
      [true, false, true, false, false] := by decide +kernel
  simp_all [docs, List.filter]

end sorting

end DocQuery
