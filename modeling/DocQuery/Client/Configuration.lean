import DocQuery.Client.LogFilter
import DocQuery.Client.Settings
import DocQuery.Toml.Parse

/-! # Configuration

Settings are read from a table of named values; every name but two has a default, and names that
mean nothing are passed over.

* `Settings.ofTable?` — the settings of a table.
* `Settings.ofText` — the settings of a configuration file, checked.
* `LogSettings.check` — the condition on the level of the log.
-/

namespace DocQuery

/-- Why a configuration cannot be used. -/
inductive ConfigurationError
  | unreadable (path : String)
  | malformed (path : String)
  | invalid (reason : SettingsError)
  | badLevel (level : String)
  deriving DecidableEq

def ConfigurationError.message : ConfigurationError → String
  | .unreadable path => "Failed to read config file: " ++ path
  | .malformed path => "Failed to parse config file: " ++ path
  | .invalid reason => reason.message
  | .badLevel level => "Invalid log level: " ++ level

namespace Configuration

/-! ## Values of names -/

def required {α : Type} (read : Json → Option α) (name : String) (table : Json) : Option α :=
  (table.member? name).bind read

/-- Reads the value of a name that has a default; a value that cannot be read is refused. -/
def optional {α : Type} (read : Json → Option α) (default : α) (name : String) (table : Json) :
    Option α :=
  match table.member? name with
  | some json => read json
  | none => some default

def string? : Json → Option String
  | .string s => some s
  | _ => none

def bool? : Json → Option Bool
  | .bool b => some b
  | _ => none

def natural? : Json → Option Nat
  | .integer n => if 0 ≤ n && n < Number.wordBound then some n.toNat else none
  | _ => none

def tables? : Json → Option (Option (List String))
  | .null => some none
  | .array items => (items.mapM string?).map some
  | _ => none

def isVoid : Json → Bool
  | .null | .array [] | .object [] => true
  | _ => false

def modeOfName? : String → Option ErrorMode
  | "friendly" => some .friendly
  | "technical" => some .technical
  | "raw" => some .raw
  | _ => none

/-- Reads an error mode: its name, or a table in which only its name stands. -/
def mode? : Json → Option ErrorMode
  | .string name => modeOfName? name
  | .object [(name, value)] => if isVoid value then modeOfName? name else none
  | _ => none

/-- Reads what is logged: a table, or the values of its names in order. -/
def logging? : Json → Option LogSettings
  | .object members => do
    let table := Json.object members
    some ⟨← optional string? "info" "level" table, ← optional bool? false "json" table⟩
  | .array [] => some ⟨"info", false⟩
  | .array [level] => do some ⟨← string? level, false⟩
  | .array (level :: json :: _) => do some ⟨← string? level, ← bool? json⟩
  | _ => none

end Configuration

namespace Settings

open DocQuery.Configuration in
def ofTable? (table : Json) : Option Settings := do
  let standard := standard "" ""
  some {
    connection := ← required string? "connection_string" table
    database := ← required string? "database" table
    allowedTables := ← optional tables? none "allowed_tables" table
    errorMode := ← optional mode? standard.errorMode "error_mode" table
    planLifetime := ← optional natural? defaultLifetime "plan_cache_ttl_secs" table
    collectionLifetime := ← optional natural? defaultLifetime "collection_cache_ttl_secs" table
    forbidCastSort := ← optional bool? standard.forbidCastSort "forbid_cast_sort" table
    logging := ← optional logging? standard.logging "logging" table }

/-- The settings of a configuration file, whose text is absent when it cannot be read. -/
def ofText (path : String) (text : Option String) : Except ConfigurationError Settings :=
  match text with
  | none => .error (.unreadable path)
  | some text =>
    match (Toml.parse? text).bind ofTable? with
    | none => .error (.malformed path)
    | some settings =>
      match settings.check with
      | .ok () => .ok settings
      | .error reason => .error (.invalid reason)

end Settings

def LogSettings.check (s : LogSettings) : Except ConfigurationError Unit :=
  if LogFilter.isValid s.level then .ok () else .error (.badLevel s.level)

end DocQuery
