import DocQuery.Proofs.Json.UniqueText
import DocQuery.Proofs.Time.InstantText
import DocQuery.Proofs.Value.LooseEquality

/-! # Values that are written alike

Values are told apart by their JSON text where they are grouped, and by loose equality where they
are filtered. Doubles, parts of a millisecond, the width of an integer inside an object, and objects
that look like an identifier, an instant or binary data are written unlike what they equal, or like
what they do not equal. On all other values both relations agree.

* `Value.writtenAlike` — whether two values have one JSON text.
* `Value.isPlain` — the values on which the text tells what loose equality does.
* `Value.writtenAlike_eq_looseEq` — both relations on such values.
-/

namespace DocQuery

namespace Value

open DocQuery.Text DocQuery.Number

/-- Whether two values are alike as JSON, so that they have one text. -/
def writtenAlike (a b : Value) : Bool := a.toJson.alike b.toJson

theorem text_toJson_eq_iff (a b : Value) :
    a.toJson.text = b.toJson.text ↔ a.writtenAlike b = true :=
  Json.text_eq_iff _ _

/-- An integer is never written like a double, not even like one of its size. -/
theorem writtenAlike_float (v : Value) (x : Float) (integer : v.asInt?.isSome = true) :
    v.writtenAlike (.float x) = false := by
  cases v <;> simp only [asInt?, Option.isSome_none, Bool.false_eq_true] at integer <;>
    rw [writtenAlike, toJson, toJson] <;> split <;> rfl

/-- Whether the only field is a string with a name that stands for another kind of value. -/
def isReserved : List (String × Value) → Bool
  | [(name, .string _)] => name ∈ ["$oid", "$date", "$binary"]
  | _ => false

mutual

/-- Whether no other value is written like this one. -/
def isExact : Value → Bool
  | .int32 _ | .float _ => false
  | .instant t => t.nano % 1000000 == 0
  | .array items => isExactItems items
  | .object fields => !isReserved fields && isExactFields fields
  | _ => true

def isExactItems : List Value → Bool
  | [] => true
  | item :: rest => isExact item && isExactItems rest

def isExactFields : List (String × Value) → Bool
  | [] => true
  | (_, value) :: rest => isExact value && isExactFields rest

end

mutual

/-- Whether only loosely equal values are written like this one. -/
def isPlain : Value → Bool
  | .int32 _ => true
  | .array items => isPlainItems items
  | v => v.isExact

def isPlainItems : List Value → Bool
  | [] => true
  | item :: rest => isPlain item && isPlainItems rest

end

variable {a b : Value}

/-! ## Bytes -/

theorem hexDigit_injective : ∀ m n : Fin 16, hexDigit m = hexDigit n → m = n := by decide

theorem hexDigits_injective {m n : Nat} (boundM : m < 16) (boundN : n < 16)
    (same : hexDigit m = hexDigit n) : m = n :=
  Fin.val_eq_of_eq (hexDigit_injective ⟨m, boundM⟩ ⟨n, boundN⟩ same)

theorem hexBytes_cons (b : UInt8) (bytes : List UInt8) : (hexBytes (b :: bytes)).toList =
    hexDigit (b.toNat / 16) :: hexDigit (b.toNat % 16) :: (hexBytes bytes).toList := by
  simp [hexBytes]

theorem hexBytes_injective {s t : List UInt8} (same : (hexBytes s).toList = (hexBytes t).toList) :
    s = t := by
  induction s generalizing t with
  | nil =>
    cases t with
    | nil => rfl
    | cons b t => rw [hexBytes_cons] at same; cases same
  | cons a s ih =>
    cases t with
    | nil => rw [hexBytes_cons] at same; cases same
    | cons b t =>
      rw [hexBytes_cons, hexBytes_cons, List.cons.injEq, List.cons.injEq] at same
      obtain ⟨high, low, rest⟩ := same
      have boundA := a.toNat_lt
      have boundB := b.toNat_lt
      have highs := hexDigits_injective (by omega) (by omega) high
      have lows := hexDigits_injective (by omega) (by omega) low
      rw [ih rest, UInt8.toNat_inj.mp (by omega : a.toNat = b.toNat)]

theorem hexBytes_beq (s t : List UInt8) : (hexBytes s == hexBytes t) = (s == t) :=
  beq_eq_beq.mpr ⟨fun same => hexBytes_injective (same ▸ rfl), fun same => same ▸ rfl⟩

theorem hex_injective {i j : ObjectId} (same : i.hex = j.hex) : i = j := by
  obtain ⟨digits, _⟩ := i
  obtain ⟨others, _⟩ := j
  have digitsEqual : digits = others :=
    List.map_injective_iff.mpr (fun m n => hexDigit_injective m n) (String.ofList_injective same)
  subst digitsEqual
  rfl

theorem hex_beq (i j : ObjectId) : (i.hex == j.hex) = (i == j) :=
  beq_eq_beq.mpr ⟨hex_injective, fun same => same ▸ rfl⟩

theorem millisText_beq {s t : Time.Instant} (wholeS : s.nano % 1000000 = 0)
    (wholeT : t.nano % 1000000 = 0) : (s.millisText == t.millisText) = (s == t) :=
  beq_eq_beq.mpr ⟨Time.Instant.millisText_injective wholeS wholeT, fun same => same ▸ rfl⟩

theorem toInt_beq (m n : Int64) : (m.toInt == n.toInt) = (m == n) :=
  beq_eq_beq.mpr Int64.toInt_inj

/-! ## Objects for other kinds of values -/

theorem alikeMembers_single (m n : String) (s t : String) :
    Json.alikeMembers [(m, .string s)] [(n, .string t)] = (m == n && s == t) := by
  simp [Json.alikeMembers, Json.alike]

theorem alike_string (text : String) (v : Value) (other : ∀ s, v ≠ .string s) :
    (Json.string text).alike v.toJson = false ∧ v.toJson.alike (.string text) = false := by
  cases v with
  | string s => exact absurd rfl (other s)
  | float x =>
    rw [toJson]
    split <;> exact ⟨rfl, rfl⟩
  | _ => exact ⟨rfl, rfl⟩

/-- An object that is not reserved is not written like a value of another kind. -/
theorem alikeMembers_reserved {fields : List (String × Value)} {name : String}
    (reserved : name ∈ ["$oid", "$date", "$binary"]) (other : isReserved fields = false)
    (text : String) :
    Json.alikeMembers [(name, .string text)] (toJsonFields fields) = false ∧
      Json.alikeMembers (toJsonFields fields) [(name, .string text)] = false := by
  match fields, other with
  | [], _ => exact ⟨rfl, rfl⟩
  | _ :: _ :: _, _ => simp [toJsonFields, Json.alikeMembers]
  | [(n, v)], other =>
    simp only [toJsonFields, Json.alikeMembers, Bool.and_true, Bool.and_eq_false_iff]
    by_cases string : ∃ s, v = .string s
    · obtain ⟨s, rfl⟩ := string
      have different : name ≠ n := by
        rintro rfl
        simp [isReserved, reserved] at other
      exact ⟨.inl (by simpa using different), .inl (by simpa using different.symm)⟩
    · have apart := alike_string text v fun s same => string ⟨s, same⟩
      exact ⟨.inr apart.1, .inr apart.2⟩

/-! ## Different kinds -/

mutual

theorem isPlain_of_isExact {a : Value} (exact_ : a.isExact = true) : a.isPlain = true := by
  cases a <;> simp only [isExact, Bool.false_eq_true] at exact_
  case array items => exact isPlainItems_of_isExactItems exact_
  all_goals simp_all [isPlain, isExact]

theorem isPlainItems_of_isExactItems {items : List Value} (exact_ : isExactItems items = true) :
    isPlainItems items = true := by
  cases items with
  | nil => rfl
  | cons item rest =>
    rw [isExactItems, Bool.and_eq_true] at exact_
    rw [isPlainItems, isPlain_of_isExact exact_.1, isPlainItems_of_isExactItems exact_.2]
    rfl

end

theorem same_of_kind_ne (kinds : a.kind ≠ b.kind) : a.same b = false := by
  cases a <;> cases b <;> simp_all [kind, same]

/-- Plain values of different kinds are written apart unless both are integers. -/
theorem writtenAlike_of_kind_ne (one : a.isPlain = true) (other : b.isPlain = true)
    (kinds : a.kind ≠ b.kind) (apart : ¬(a.isNumber && b.isNumber) = true) :
    a.writtenAlike b = false := by
  cases a <;> cases b <;>
    simp only [isPlain, isExact, kind, isNumber, Bool.false_eq_true, Bool.and_eq_true,
      Bool.not_eq_true', ne_eq, not_true_eq_false, and_self] at one other kinds apart <;>
    simp only [writtenAlike, toJson, Json.alike, Json.single, alikeMembers_single]
  case binary.object s fields => exact (alikeMembers_reserved (by decide) other.1 _).1
  case objectId.object i fields => exact (alikeMembers_reserved (by decide) other.1 _).1
  case instant.object t fields => exact (alikeMembers_reserved (by decide) other.1 _).1
  case object.binary fields s => exact (alikeMembers_reserved (by decide) one.1 _).2
  case object.objectId fields i => exact (alikeMembers_reserved (by decide) one.1 _).2
  case object.instant fields t => exact (alikeMembers_reserved (by decide) one.1 _).2
  -- the names that stand for identifiers, instants and binary data are different
  all_goals simp

/-! ## Both relations -/

mutual

/-- Exact values are written alike exactly if they are equal. -/
theorem writtenAlike_eq_same {a b : Value} (one : a.isExact = true) (other : b.isExact = true) :
    a.writtenAlike b = a.same b := by
  by_cases kinds : a.kind = b.kind
  · cases a <;> cases b <;> simp only [kind, reduceCtorEq] at kinds <;>
      simp only [isExact, Bool.false_eq_true, Bool.and_eq_true, beq_iff_eq] at one other <;>
      simp only [writtenAlike, toJson, Json.alike, Json.single, same, alikeMembers_single]
    case int64.int64 m n => exact toInt_beq m n
    case binary.binary s t => simp [hexBytes_beq]
    case objectId.objectId i j => simp [hex_beq]
    case instant.instant s t => simp [millisText_beq one other]
    case array.array s t => exact alikeItems_eq_same one other
    case object.object s t => exact alikeMembers_eq_same one.2 other.2
  · have apart : ¬(a.isNumber && b.isNumber) = true := by
      cases a <;> cases b <;> simp_all [isExact, isNumber, kind]
    rw [writtenAlike_of_kind_ne (isPlain_of_isExact one) (isPlain_of_isExact other) kinds apart,
      same_of_kind_ne kinds]

theorem alikeItems_eq_same {s t : List Value} (one : isExactItems s = true)
    (other : isExactItems t = true) :
    Json.alikeItems (toJsonItems s) (toJsonItems t) = sameItems s t := by
  cases s <;> cases t <;> simp only [toJsonItems, Json.alikeItems, sameItems]
  case cons.cons a s b t =>
    rw [isExactItems, Bool.and_eq_true] at one other
    rw [← writtenAlike_eq_same one.1 other.1, ← alikeItems_eq_same one.2 other.2, writtenAlike]

theorem alikeMembers_eq_same {s t : List (String × Value)} (one : isExactFields s = true)
    (other : isExactFields t = true) :
    Json.alikeMembers (toJsonFields s) (toJsonFields t) = sameFields s t := by
  match s, t, one, other with
  | [], [], _, _ => rfl
  | [], _ :: _, _, _ => rfl
  | _ :: _, [], _, _ => rfl
  | (m, a) :: s, (n, b) :: t, one, other =>
    rw [isExactFields, Bool.and_eq_true] at one other
    rw [sameFields, ← writtenAlike_eq_same one.1 other.1, ← alikeMembers_eq_same one.2 other.2,
      writtenAlike]
    rfl

end

theorem writtenAlike_of_isNumber (first : a.isNumber = true) (second : b.isNumber = true)
    (one : a.isPlain = true) (other : b.isPlain = true) :
    a.writtenAlike b = (a.compare b == .eq) := by
  cases a <;> cases b <;>
    simp only [isPlain, isExact, isNumber, Bool.false_eq_true] at first second one other
  all_goals simp [writtenAlike, toJson, Json.alike, compare, isNumber, compareNumbers, asInt?]

theorem isExact_of_isPlain (plain : a.isPlain = true) (notNumber : ¬a.isNumber = true)
    (notArray : ¬a.isArray = true) : a.isExact = true := by
  cases a <;> simp_all [isPlain, isNumber, isArray]

theorem isNumber_of_kind (kinds : a.kind = b.kind) :
    a.isNumber = b.isNumber ∧ a.isArray = b.isArray := by
  cases a <;> cases b <;> simp_all [kind, isNumber, isArray]

mutual

/-- Plain values are written alike exactly if they are loosely equal. -/
theorem writtenAlike_eq_looseEq {a b : Value} (one : a.isPlain = true) (other : b.isPlain = true) :
    a.writtenAlike b = a.looseEq b := by
  by_cases arrays : a.isArray = true ∧ b.isArray = true
  · cases a <;> cases b <;> simp only [isArray, Bool.false_eq_true, and_self, and_true,
      true_and] at arrays
    case array.array s t =>
      rw [looseEq_array_array]
      exact alikeItems_eq_looseEqItems one other
  · rw [looseEq_of_not_isArray arrays]
    by_cases numbers : (a.isNumber && b.isNumber) = true
    · rw [if_pos numbers]
      rw [Bool.and_eq_true] at numbers
      exact writtenAlike_of_isNumber numbers.1 numbers.2 one other
    · rw [if_neg numbers]
      by_cases kinds : a.kind = b.kind
      · have alike := isNumber_of_kind kinds
        rw [alike.1, Bool.and_self] at numbers
        rw [alike.2, and_self] at arrays
        exact writtenAlike_eq_same (isExact_of_isPlain one (alike.1 ▸ numbers) (alike.2 ▸ arrays))
          (isExact_of_isPlain other numbers arrays)
      · rw [writtenAlike_of_kind_ne one other kinds numbers, same_of_kind_ne kinds]

theorem alikeItems_eq_looseEqItems {s t : List Value} (one : isPlainItems s = true)
    (other : isPlainItems t = true) :
    Json.alikeItems (toJsonItems s) (toJsonItems t) = looseEqItems s t := by
  cases s <;> cases t <;> simp only [toJsonItems, Json.alikeItems, looseEqItems]
  case cons.cons a s b t =>
    rw [isPlainItems, Bool.and_eq_true] at one other
    rw [← writtenAlike_eq_looseEq one.1 other.1, ← alikeItems_eq_looseEqItems one.2 other.2,
      writtenAlike]

end

end Value

end DocQuery
