import DocQuery.Client.Basic
import DocQuery.Client.Configuration
import DocQuery.Json.Parse
import DocQuery.Store.Memory

/-! # Running statements from the command line

* `Options` — what is asked for.
* `CommandLine.run` — everything that a call of the program prints, and how it ends.
-/

namespace DocQuery.CommandLine

open DocQuery.Text

/-- What a call of the program asks for. Configuration, seed and script are paths of files. -/
structure Options where
  configuration : Option String
  seed : Option String
  statements : List String
  script : Option String
  parameters : Option String
  technical : Bool
  debug : Bool

def Options.initial : Options := ⟨none, none, [], none, none, false, false⟩

/-- Why a call ends early. -/
inductive Failure
  | configuration (error : ConfigurationError)
  | unreadableSeed (path : String)
  | malformedSeed (path : String)
  | invalidSeed (path : String)
  | unreadableScript (path : String)
  | malformedParameters
  | invalidParameters
  | unnamedParameters
  | noStatements
  | unknownStatement (statement : String)
  | call (error : ClientError)

def Failure.message : Failure → String
  | .configuration error => error.message
  | .unreadableSeed path => "Failed to read seed file: " ++ path
  | .malformedSeed path => "Failed to parse seed file: " ++ path
  | .invalidSeed path => "Invalid seed file: " ++ path
  | .unreadableScript path => "Failed to read script: " ++ path
  | .malformedParameters => "Failed to parse --params"
  | .invalidParameters => "Invalid --params value"
  | .unnamedParameters => "--params must be a JSON object"
  | .noStatements => "No statements given; use --execute or --script"
  | .unknownStatement statement => "Unsupported statement: " ++ statement
  | .call error => error.display

/-- What a call prints, and why it ended early if it did. -/
structure Outcome where
  output : String
  failure : Option Failure

def Outcome.exitCode (o : Outcome) : Nat := if o.failure.isSome then 1 else 0

/-- The texts of files by path; nothing for a file that cannot be read. -/
abbrev Files := String → Option String

/-! ## Preparation -/

def settings (files : Files) (options : Options) : Except Failure Settings := do
  let read ← match options.configuration with
    | some path => (Settings.ofText path (files path)).mapError .configuration
    | none => .ok (.standard "memory://local" "local")
  let mode := if options.technical then .technical else read.errorMode
  let level := if options.debug then "debug" else read.logging.level
  let settings := { read with errorMode := mode, logging := { read.logging with level := level } }
  settings.logging.check.mapError .configuration
  return settings

def seed (files : Files) (ids : IdSupply) (options : Options) : Except Failure Memory :=
  match options.seed with
  | none => .ok .empty
  | some path =>
    match files path with
    | none => .error (.unreadableSeed path)
    | some text =>
      match Json.parse? text with
      | none => .error (.malformedSeed path)
      | some json => (Memory.ofJson ids json).mapError fun _ => .invalidSeed path

def parameters (options : Options) : Except Failure Parameters :=
  match options.parameters with
  | none => .ok []
  | some text =>
    match (Json.parse? text).map Value.ofJson with
    | none => .error .malformedParameters
    | some (.error _) => .error .invalidParameters
    | some (.ok (.object fields)) => .ok fields
    | some (.ok _) => .error .unnamedParameters

def isComment (line : List Char) : Bool := "--".toList.isPrefixOf line

/-- The statements of a script: its lines, without blank ones and comments. -/
def scriptStatements (text : String) : List String :=
  (((splitAt '\n' text.toList).map trim).filter fun line => !line.isEmpty && !isComment line).map
    String.ofList

/-- The statements of a call: those that are given, then those of the script. -/
def statements (files : Files) (options : Options) : Except Failure (List String) := do
  let script ← match options.script with
    | none => .ok []
    | some path =>
      match files path with
      | none => .error (.unreadableScript path)
      | some text => .ok (scriptStatements text)
  match options.statements ++ script with
  | [] => .error .noStatements
  | all => .ok all

/-! ## Statements -/

/-- The kinds of statement. -/
inductive StatementKind
  | select
  | insert
  | update
  | delete
  deriving DecidableEq

/-- The kind of a statement: its first word in any case of ASCII. -/
def StatementKind.of? (statement : String) : Option StatementKind :=
  match upperAscii (String.ofList ((words statement.toList).headD [])) with
  | "SELECT" => some .select
  | "INSERT" => some .insert
  | "UPDATE" => some .update
  | "DELETE" => some .delete
  | _ => none

/-- The line that tells how many documents were written. -/
def countLine (verb : String) (count : Nat) : String := toString count ++ " " ++ verb ++ "\n"

variable {σ : Type}

/-- Runs a statement of a kind and gives what is printed. -/
def runKind (client : Client σ) (params : Parameters) (statement : String) :
    StatementKind → Call σ String
  | .select => do return (← client.select statement params).text
  | .insert => do return countLine "inserted" (← client.insert statement)
  | .update => do return countLine "updated" (← client.update statement params)
  | .delete => do return countLine "deleted" (← client.delete statement params)

/-- Runs a statement: what is printed, or why it fails, and the session afterwards. -/
def runStatement (client : Client σ) (params : Parameters) (statement : String)
    (session : Session σ) : Except Failure String × Session σ :=
  match StatementKind.of? statement with
  | none => (.error (.unknownStatement statement), session)
  | some kind =>
    let (result, session) := runKind client params statement kind session
    (result.mapError fun error => .call (client.fail statement error), session)

/-- Runs statements in order, up to the first that fails. -/
def runAll (client : Client σ) (params : Parameters) : List String → Session σ → Outcome
  | [], _ => ⟨"", none⟩
  | statement :: rest, session =>
    match runStatement client params statement session with
    | (.error failure, _) => ⟨"", some failure⟩
    | (.ok text, session) =>
      let others := runAll client params rest session
      { others with output := text ++ others.output }

/-- Everything that must be in order before the first statement runs. -/
structure Prepared where
  settings : Settings
  store : Memory
  params : Parameters
  statements : List String

/-- Prepares a call; of several faults the first one in this order is reported. -/
def prepare (files : Files) (ids : IdSupply) (options : Options) : Except Failure Prepared := do
  let settings ← settings files options
  let store ← seed files ids options
  let params ← parameters options
  return ⟨settings, store, params, ← statements files options⟩

def run (files : Files) (ids : IdSupply) (options : Options) : Outcome :=
  match prepare files ids options with
  | .error failure => ⟨"", some failure⟩
  | .ok p =>
    runAll ⟨p.settings, Memory.store ids⟩ p.params p.statements (.start p.store)

end DocQuery.CommandLine
