import DocQuery.CommandLine.Run

/-! # Arguments of the command line

* `Flag` — the options that may be given, by short and long name.
* `Options.ofArguments` — what a list of arguments asks for.
-/

namespace DocQuery.CommandLine

/-- The options that may be given. -/
inductive Flag
  | configuration
  | seed
  | statement
  | script
  | parameters
  | technical
  | debug
  deriving DecidableEq

/-- Why arguments ask for nothing that can be done. -/
inductive ArgumentError
  | unexpected (argument : String)
  | withoutValue (flag : String)
  | withValue (flag : String)
  | repeated (flag : String)
  deriving DecidableEq

def ArgumentError.message : ArgumentError → String
  | .unexpected argument => "unexpected argument '" ++ argument ++ "' found"
  | .withoutValue flag => "a value is required for '--" ++ flag ++ "' but none was supplied"
  | .withValue flag => "unexpected value for '--" ++ flag ++ "' found; no more were expected"
  | .repeated flag => "the argument '--" ++ flag ++ "' cannot be used multiple times"

namespace Flag

def name : Flag → String
  | .configuration => "config"
  | .seed => "seed"
  | .statement => "execute"
  | .script => "script"
  | .parameters => "params"
  | .technical => "technical"
  | .debug => "debug"

def letter? : Flag → Option Char
  | .configuration => some 'c'
  | .seed => some 's'
  | .statement => some 'e'
  | .parameters => some 'p'
  | .debug => some 'd'
  | .script | .technical => none

def all : List Flag :=
  [.configuration, .seed, .statement, .script, .parameters, .technical, .debug]

def isSwitch : Flag → Bool
  | .technical | .debug => true
  | _ => false

/-- The option that an argument names, and the value that it carries along. -/
def ofArgument? (argument : String) : Option (Flag × Option String) :=
  match argument.toList with
  | '-' :: '-' :: rest =>
    let name := rest.takeWhile (· != '=')
    let value := match rest.drop name.length with
      | _ :: value => some (String.ofList value)
      | [] => none
    (all.find? fun flag => flag.name == String.ofList name).map (·, value)
  | '-' :: letter :: rest =>
    let value := match rest with
      | '=' :: value => some (String.ofList value)
      | [] => none
      | value => some (String.ofList value)
    (all.find? fun flag => flag.letter? == some letter).map (·, value)
  | _ => none

end Flag

namespace Options

def once (flag : Flag) (old : Option String) (value : String) :
    Except ArgumentError (Option String) :=
  if old.isSome then .error (.repeated flag.name) else .ok (some value)

def setValue (options : Options) (flag : Flag) (value : String) :
    Except ArgumentError Options :=
  match flag with
  | .configuration => do
    return { options with configuration := ← once flag options.configuration value }
  | .seed => do return { options with seed := ← once flag options.seed value }
  | .statement => .ok { options with statements := options.statements ++ [value] }
  | .script => do return { options with script := ← once flag options.script value }
  | .parameters => do return { options with parameters := ← once flag options.parameters value }
  | .technical | .debug => .error (.withValue flag.name)

def setSwitch (options : Options) (flag : Flag) : Except ArgumentError Options :=
  match flag with
  | .technical =>
    if options.technical then .error (.repeated flag.name)
    else .ok { options with technical := true }
  | .debug =>
    if options.debug then .error (.repeated flag.name) else .ok { options with debug := true }
  | _ => .error (.withoutValue flag.name)

/-- Adds arguments to options; the value of an option may be the argument after it. -/
def addArguments (options : Options) : List String → Except ArgumentError Options
  | [] => .ok options
  | argument :: rest =>
    match Flag.ofArgument? argument with
    | none => .error (.unexpected argument)
    | some (flag, some value) => do addArguments (← options.setValue flag value) rest
    | some (flag, none) =>
      if flag.isSwitch then do addArguments (← options.setSwitch flag) rest
      else match rest with
        | [] => .error (.withoutValue flag.name)
        | value :: rest => do addArguments (← options.setValue flag value) rest

def ofArguments (arguments : List String) : Except ArgumentError Options :=
  addArguments .initial arguments

end Options

end DocQuery.CommandLine
