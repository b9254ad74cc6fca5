import DocQuery.Json.Basic

/-! # Tables under construction

A TOML text fills a tree of tables statement by statement. A table may be opened once; tables that
a path only passes through come into being on the way and may still be opened later.

* `Node` — a value, a table, or a list of tables.
* `Node.openTable`, `Node.addTable`, `Node.assign` — what the three kinds of statement do.
* `Node.toJson` — the finished tree.
-/

namespace DocQuery.Toml

/-- How a table came into being. -/
inductive Origin
  /-- By a heading of its own, or as one of a list of tables. -/
  | heading
  /-- On the way of another table's heading. -/
  | passage
  /-- On the way of a dotted key. -/
  | dotted
  deriving DecidableEq

/-- A part of the tree. -/
inductive Node
  | value (json : Json)
  | table (origin : Origin) (entries : List (String × Node))
  /-- A list of tables, of which the last one is open. -/
  | tables (last : List (String × Node)) (earlier : List (List (String × Node)))
  deriving Inhabited

namespace Node

/-- The entries of a table; nothing when they cannot be changed in this way. -/
abbrev Change := Origin → Named Node → Option (Named Node)

/-- The origin of a table that a path passes through first. -/
def passing (byKey : Bool) : Origin := if byKey then .dotted else .passage

/--
Changes the table at the end of a path. Missing tables are made on the way, and of a list of tables
the last one is meant. A dotted key may not reach into a table that has a heading.
-/
def changeAt (byKey : Bool) (change : Change) : List String → Change
  | [], origin, entries => change origin entries
  | key :: rest, _, entries =>
    match Named.get? key entries with
    | none =>
      (changeAt byKey change rest (passing byKey) []).map fun inner =>
        Named.insert key (.table (passing byKey) inner) entries
    | some (.value _) => none
    | some (.table origin inner) =>
      if byKey && origin == .heading then none
      else (changeAt byKey change rest origin inner).map fun inner =>
        Named.insert key (.table origin inner) entries
    | some (.tables last earlier) =>
      (changeAt byKey change rest .heading last).map fun last =>
        Named.insert key (.tables last earlier) entries

/-- Opens a table under a name that is free, or that a heading has passed through. -/
def openEntry (key : String) : Change := fun _ entries =>
  match Named.get? key entries with
  | none => some (Named.insert key (.table .heading []) entries)
  | some (.table .passage inner) => some (Named.insert key (.table .heading inner) entries)
  | some _ => none

def addEntry (key : String) : Change := fun _ entries =>
  match Named.get? key entries with
  | none => some (Named.insert key (.tables [] []) entries)
  | some (.tables last earlier) => some (Named.insert key (.tables [] (last :: earlier)) entries)
  | some _ => none

/-- Sets a name that is free; a dotted key must end in a table that dotted keys made. -/
def setEntry (isDotted : Bool) (key : String) (json : Json) : Change := fun origin entries =>
  if (origin == .dotted) != isDotted || Named.contains key entries then none
  else some (Named.insert key (.value json) entries)

def atRoot (change : Change) (root : Named Node) : Option (Named Node) := change .heading root

def openTable (parents : List String) (key : String) : Named Node → Option (Named Node) :=
  atRoot (changeAt false (openEntry key) parents)

def addTable (parents : List String) (key : String) : Named Node → Option (Named Node) :=
  atRoot (changeAt false (addEntry key) parents)

def assign (heading path : List String) (key : String) (json : Json) :
    Named Node → Option (Named Node) :=
  atRoot (changeAt false (changeAt true (setEntry (!path.isEmpty) key json) path) heading)

mutual

def toJson : Node → Json
  | .value json => json
  | .table _ entries => .object (entriesJson entries)
  | .tables last earlier => .array (tablesJson earlier [.object (entriesJson last)])

def entriesJson : List (String × Node) → List (String × Json)
  | [] => []
  | (key, node) :: rest => (key, toJson node) :: entriesJson rest

/-- The tables of a finished list, given from the last to the first. -/
def tablesJson : List (List (String × Node)) → List Json → List Json
  | [], done => done
  | entries :: rest, done => tablesJson rest (.object (entriesJson entries) :: done)

end

end Node

end DocQuery.Toml
