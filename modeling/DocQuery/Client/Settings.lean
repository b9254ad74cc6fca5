import DocQuery.Error
import DocQuery.Text.Scan

/-! # Settings

* `Settings` — what a client is set up with.
* `Settings.check` — the conditions on them.
* `Settings.isAllowed` — the tables that statements may name.
-/

namespace DocQuery

/-- What is logged, and whether as JSON. -/
structure LogSettings where
  level : String
  json : Bool
  deriving DecidableEq

/-- What a client is set up with. Lifetimes are in seconds. -/
structure Settings where
  connection : String
  database : String
  /-- The allowed tables; the default ones when absent. -/
  allowedTables : Option (List String)
  errorMode : ErrorMode
  planLifetime : Nat
  collectionLifetime : Nat
  forbidCastSort : Bool
  logging : LogSettings
  deriving DecidableEq

/-- Why settings cannot be used. -/
inductive SettingsError
  | emptyConnection
  | emptyDatabase
  | noPlanLifetime
  | noCollectionLifetime
  | emptyTableName
  deriving DecidableEq

def SettingsError.message : SettingsError → String
  | .emptyConnection => "Connection string cannot be empty"
  | .emptyDatabase => "Database name cannot be empty"
  | .noPlanLifetime => "Plan cache TTL cannot be 0"
  | .noCollectionLifetime => "Collection cache TTL cannot be 0"
  | .emptyTableName => "Allowed table names cannot be empty"

namespace Settings

/-- An hour. -/
def defaultLifetime : Nat := 3600

def standard (connection database : String) : Settings where
  connection := connection
  database := database
  allowedTables := none
  errorMode := .friendly
  planLifetime := defaultLifetime
  collectionLifetime := defaultLifetime
  forbidCastSort := true
  logging := ⟨"info", false⟩

def defaultTables : List String := ["table1", "table2"]

def isBlankText (s : String) : Bool := s.toList.all Text.isBlank

def check (s : Settings) : Except SettingsError Unit :=
  if isBlankText s.connection then .error .emptyConnection
  else if isBlankText s.database then .error .emptyDatabase
  else if s.planLifetime == 0 then .error .noPlanLifetime
  else if s.collectionLifetime == 0 then .error .noCollectionLifetime
  else if (s.allowedTables.getD []).any isBlankText then .error .emptyTableName
  else .ok ()

/-- Whether statements may name a table; the case of ASCII letters does not matter. -/
def isAllowed (s : Settings) (table : String) : Bool :=
  (s.allowedTables.getD defaultTables).any (Text.eqIgnoreCase · table)

end Settings

end DocQuery
