/-! # Named entries

Finite maps from names, held as lists in increasing order of the names. Names are ordered by
their characters.

* `Named.get?`, `Named.contains`, `Named.keys` — reading.
* `Named.insert`, `Named.erase`, `Named.ofList` — writing.
* `Named.Sorted` — the order that every operation keeps.
-/

namespace DocQuery

/-- A map from names, as a list in increasing order of the names. -/
abbrev Named (α : Type) := List (String × α)

namespace Named

variable {α : Type}

def get? (name : String) : Named α → Option α
  | [] => none
  | (key, value) :: rest => if key = name then some value else get? name rest

def contains (name : String) (entries : Named α) : Bool := (entries.get? name).isSome

/-- Sets the entry of a name, at its place in the order. -/
def insert (name : String) (value : α) : Named α → Named α
  | [] => [(name, value)]
  | (key, old) :: rest =>
    if key = name then (name, value) :: rest
    else if name < key then (name, value) :: (key, old) :: rest
    else (key, old) :: insert name value rest

def erase (name : String) (entries : Named α) : Named α :=
  entries.filter fun entry => entry.1 != name

/-- The map of a list of entries, the later of two with one name winning. -/
def ofList (entries : List (String × α)) : Named α :=
  entries.foldl (fun map entry => insert entry.1 entry.2 map) []

def keys (entries : Named α) : List String := entries.map (·.1)

def values (entries : Named α) : List α := entries.map (·.2)

def Sorted (entries : Named α) : Prop := entries.Pairwise fun a b => a.1 < b.1

@[simp] theorem get?_nil (name : String) : get? name ([] : Named α) = none := rfl

@[simp] theorem get?_insert_self (name : String) (value : α) (entries : Named α) :
    get? name (insert name value entries) = some value := by
  fun_induction insert name value entries <;> simp_all [get?]

theorem get?_insert_of_ne {name other : String} (h : other ≠ name) (value : α)
    (entries : Named α) : get? other (insert name value entries) = get? other entries := by
  fun_induction insert name value entries <;> grind [get?]

@[simp] theorem insert_insert (name : String) (value later : α) (entries : Named α) :
    insert name later (insert name value entries) = insert name later entries := by
  fun_induction insert name value entries <;> grind [insert]

end Named

end DocQuery
