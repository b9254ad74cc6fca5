import DocQuery.Document
import DocQuery.Proofs.Condition.ParameterItems
import DocQuery.Proofs.Time.ReadAgain

/-! # Extended JSON is read again

An identifier and an instant are written as objects with one reserved name. Nothing else is taken
for one of them: what stands behind a reserved name is read as an identifier or an instant only if
it is a string, and only a string is written as one. So a value is read again exactly if it has a
form of its own in JSON all the way down.

* `Value.IsPortable` — the values that have one.
* `Value.ofJson_toJson_iff` — they are the values that are read again.
* `json_round_trip` — for values and for documents.
-/

namespace DocQuery

open DocQuery.Text DocQuery.Number DocQuery.Time

namespace Value

variable {fields : List (String × Value)}

/-- An object that looks like an identifier or an instant in JSON. -/
def IsTagged (fields : List (String × Value)) : Prop :=
  ∃ name ∈ ["$oid", "$date"], ∃ s, fields = [(name, .string s)]

/-- The values that have a form of their own in JSON, with all that is in them. Integers of 32 bits
and binary data have none, and an instant must be written without loss. -/
inductive IsPortable : Value → Prop
  | null : IsPortable .null
  | bool (b : Bool) : IsPortable (.bool b)
  | int64 (n : Int64) : IsPortable (.int64 n)
  | float {x : Float} : Binary64.isFinite x = true → IsPortable (.float x)
  | string (s : String) : IsPortable (.string s)
  | objectId (id : ObjectId) : IsPortable (.objectId id)
  /-- In whole milliseconds and with a year of four digits; a leap second does no harm. -/
  | instant {t : Instant} : t.nano % 1000000 = 0 → 0 ≤ t.date.year → t.date.year ≤ 9999 →
      IsPortable (.instant t)
  | array {items : List Value} : (∀ item ∈ items, IsPortable item) → IsPortable (.array items)
  | object {fields : List (String × Value)} : ¬ IsTagged fields →
      (∀ entry ∈ fields, IsPortable entry.2) → IsPortable (.object fields)

theorem isPortable_instant_iff {t : Instant} : (instant t).IsPortable ↔
    t.nano % 1000000 = 0 ∧ 0 ≤ t.date.year ∧ t.date.year ≤ 9999 :=
  ⟨fun | .instant whole early late => ⟨whole, early, late⟩,
    fun ⟨whole, early, late⟩ => .instant whole early late⟩

theorem isPortable_array_iff {items : List Value} :
    (array items).IsPortable ↔ ∀ item ∈ items, item.IsPortable :=
  ⟨fun | .array every => every, .array⟩

theorem isPortable_object_iff : (object fields).IsPortable ↔
    ¬ IsTagged fields ∧ ∀ entry ∈ fields, entry.2.IsPortable :=
  ⟨fun | .object untagged every => ⟨untagged, every⟩,
    fun ⟨untagged, every⟩ => .object untagged every⟩

/-! ## Scalars -/

theorem ofJson_int64 (n : Int64) : ofJson (toJson (.int64 n)) = .ok (.int64 n) := by
  have fits : fitsInt n.toInt = true := by
    have low := n.le_toInt
    have high := n.toInt_lt
    exact Bool.and_eq_true_iff.mpr ⟨decide_eq_true low, decide_eq_true (Int.le_of_lt_add_one high)⟩
  rw [toJson, ofJson, if_pos fits, Int64.ofInt_toInt]

theorem ofJson_objectId (id : ObjectId) : ofJson (toJson (.objectId id)) = .ok (.objectId id) := by
  have read : ObjectId.parse? id.hex = some id :=
    Condition.parse?_objectId (Condition.map_toLower_hexChars id)
  simp only [toJson, Json.single, ofJson, read]

theorem ofJson_instant_iff (t : Instant) :
    ofJson (toJson (.instant t)) = .ok (.instant t) ↔ (instant t).IsPortable := by
  rw [isPortable_instant_iff, ← Instant.parseInternet_millisText_iff]
  simp only [toJson, Json.single, ofJson]
  cases Instant.parseInternet t.millisText <;> simp

/-! ## Objects -/

theorem string_of_toJson {v : Value} {s : String} (written : v.toJson = .string s) :
    v = .string s := by
  cases v with
  | string => simpa [toJson] using written
  | float x =>
    -- what is not finite is written as null
    rw [toJson] at written
    split at written <;> cases written
  | _ => simp [toJson, Json.single] at written

theorem isTagged_of_toJsonFields {name s : String} (reserved : name ∈ ["$oid", "$date"])
    (written : toJsonFields fields = [(name, .string s)]) : IsTagged fields := by
  match fields with
  | [] => simp [toJsonFields] at written
  | [(key, v)] =>
    simp only [toJsonFields, List.cons.injEq, Prod.mk.injEq, and_true] at written
    obtain ⟨rfl, same⟩ := written
    exact ⟨key, reserved, s, by rw [string_of_toJson same]⟩
  | _ :: _ :: _ => simp [toJsonFields] at written

/-- An object that is not tagged is read member by member. -/
theorem ofJson_object (untagged : ¬ IsTagged fields) :
    ofJson (toJson (.object fields)) = (ofJsonMembers (toJsonFields fields)).map .object := by
  rw [toJson, ofJson]
  · exact fun s written => untagged (isTagged_of_toJsonFields (by simp) written)
  · exact fun s written => untagged (isTagged_of_toJsonFields (by simp) written)

theorem ofJson_tagged (tagged : IsTagged fields) (read : List (String × Value)) :
    ofJson (toJson (.object fields)) ≠ .ok (.object read) := by
  obtain ⟨name, reserved, s, rfl⟩ := tagged
  simp only [List.mem_cons, List.not_mem_nil, or_false] at reserved
  rcases reserved with rfl | rfl <;> simp only [toJson, toJsonFields, ofJson] <;> split <;> simp

/-! ## Values -/

mutual

/-- A value is read again exactly if it is portable. -/
theorem ofJson_toJson_iff : (v : Value) → (ofJson v.toJson = .ok v ↔ v.IsPortable)
  | .null => iff_of_true rfl .null
  | .bool b => iff_of_true rfl (.bool b)
  | .int32 n => by
    refine iff_of_false ?_ nofun
    rw [toJson, ofJson]
    split <;> simp
  | .int64 n => iff_of_true (ofJson_int64 n) (.int64 n)
  | .float x => by
    by_cases finite : Binary64.isFinite x = true
    · refine iff_of_true ?_ (.float finite)
      rw [toJson, if_pos finite, ofJson]
    · refine iff_of_false ?_ fun | .float yes => finite yes
      rw [toJson, if_neg finite, ofJson]
      simp
  | .string s => iff_of_true (by rw [toJson, ofJson]) (.string s)
  | .binary bytes => by
    refine iff_of_false ?_ nofun
    simp [toJson, Json.single, ofJson, ofJsonMembers, bind, Except.bind, Except.map]
  | .array items => by
    rw [isPortable_array_iff, ← ofJsonItems_toJsonItems_iff items, toJson, ofJson]
    cases ofJsonItems (toJsonItems items) <;> simp [Except.map]
  | .object fields => by
    rw [isPortable_object_iff, ← ofJsonMembers_toJsonFields_iff fields]
    -- a tagged object is read as something else, if it is read at all
    by_cases tagged : IsTagged fields
    · exact iff_of_false (ofJson_tagged tagged fields) fun portable => portable.1 tagged
    · rw [ofJson_object tagged, and_iff_right tagged]
      cases ofJsonMembers (toJsonFields fields) <;> simp [Except.map]
  | .objectId id => iff_of_true (ofJson_objectId id) (.objectId id)
  | .instant t => ofJson_instant_iff t

theorem ofJsonItems_toJsonItems_iff : (items : List Value) →
    (ofJsonItems (toJsonItems items) = .ok items ↔ ∀ item ∈ items, item.IsPortable)
  | [] => by simp [toJsonItems, ofJsonItems]
  | item :: rest => by
    rw [List.forall_mem_cons, ← ofJson_toJson_iff item, ← ofJsonItems_toJsonItems_iff rest,
      toJsonItems, ofJsonItems]
    cases ofJson item.toJson <;> cases ofJsonItems (toJsonItems rest) <;>
      simp [bind, Except.bind]

theorem ofJsonMembers_toJsonFields_iff : (fields : List (String × Value)) →
    (ofJsonMembers (toJsonFields fields) = .ok fields ↔ ∀ entry ∈ fields, entry.2.IsPortable)
  | [] => by simp [toJsonFields, ofJsonMembers]
  | (name, value) :: rest => by
    rw [List.forall_mem_cons, ← ofJson_toJson_iff value, ← ofJsonMembers_toJsonFields_iff rest,
      toJsonFields, ofJsonMembers]
    cases ofJson value.toJson <;> cases ofJsonMembers (toJsonFields rest) <;>
      simp [bind, Except.bind]

end

end Value

/-- A document is read again exactly if it is portable as an object. -/
theorem Document.ofJson_toJson_iff (d : Document) :
    Document.ofJson d.toJson = .ok d ↔ (Value.object d.fields).IsPortable := by
  obtain ⟨fields⟩ := d
  have whole := Value.ofJson_toJson_iff (.object fields)
  rw [← whole, Document.ofJson, Document.toJson, ← Value.toJson]
  cases Value.ofJson (Value.toJson (.object fields)) with
  | error e => simp [bind, Except.bind]
  | ok value => cases value <;> simp [bind, Except.bind]

/-- What is read of a value or a document that is written as extended JSON is that value or document
exactly if everything in it is portable. -/
theorem json_round_trip :
    (∀ v : Value, Value.ofJson v.toJson = .ok v ↔ v.IsPortable) ∧
      ∀ d : Document, Document.ofJson d.toJson = .ok d ↔ (Value.object d.fields).IsPortable :=
  ⟨Value.ofJson_toJson_iff, Document.ofJson_toJson_iff⟩

/-- What stands behind a reserved name is taken for nothing else if it is no string. -/
example : Document.ofJson (Document.toJson ⟨[("$oid", .objectId .nil)]⟩) =
    .ok ⟨[("$oid", .objectId .nil)]⟩ := rfl

end DocQuery
