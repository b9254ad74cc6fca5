import DocQuery.CommandLine.Arguments

/-! # The program

Reads the files that the arguments name, runs the call, and prints its outcome.

* `main` — the entry point.
-/

namespace DocQuery.CommandLine

/-- The text of a file; nothing when it cannot be read. -/
def readText (path : String) : IO (Option String) := do
  try return some (← IO.FS.readFile path) catch _ => return none

def readFiles (options : Options) : IO Files := do
  let paths := [options.configuration, options.seed, options.script].filterMap id
  let texts ← paths.mapM fun path => do return (path, ← readText path)
  return fun path => (texts.lookup path).join

def randomIds : IO IdSupply := do
  let first ← IO.rand 1 (Number.twoTo 60)
  let second ← IO.rand 0 (Number.twoTo 32)
  return fun n => ObjectId.ofNat (first * Number.twoTo 36 + second + n)

def report (outcome : Outcome) : IO UInt32 := do
  IO.print outcome.output
  match outcome.failure with
  | some failure => IO.eprintln ("Error: " ++ failure.message)
  | none => pure ()
  return UInt32.ofNat outcome.exitCode

end DocQuery.CommandLine

open DocQuery.CommandLine in
def main (arguments : List String) : IO UInt32 := do
  match Options.ofArguments arguments with
  | .error e =>
    IO.eprintln ("error: " ++ e.message)
    return 2
  | .ok options => report (run (← readFiles options) (← randomIds) options)
