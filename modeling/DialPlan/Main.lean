import DialPlan.CommandLine.Run
import Std.Time.DateTime.Timestamp

/-!
# The program

The outer layer: it reads the arguments, the variables, the clock and the files that a command asks
for, and prints what the run leaves behind.
-/

namespace DialPlan.CommandLine

/-- The present time. -/
def presentTime : IO DateTime := do
  let nanos := (← Std.Time.Timestamp.now).toNanosecondsSinceUnixEpoch.val
  return (DateTime.ofUnix? (nanos / 1000000000) (nanos % 1000000000 / 1000).toNat).getD default

/-- The variables that are set. -/
def readVariables : IO (Table String) :=
  Settings.variableNames.filterMapM fun name => do return (← IO.getEnv name).map (name, ·)

/-- A file that can be read. -/
def readFile? (p : Path) : IO (Option (String × FileContent)) := do
  try
    let bytes ← IO.FS.readBinFile p.text
    return some (p.text, match String.fromUTF8? bytes with
      | some s => .text s
      | none => .undecodable (p.text ++ " is not UTF-8 text"))
  catch _ => return none

/-- The files of a command; those it names may ask for more. -/
def readFiles (c : Command) : IO Files := do
  let named ← (c.paths []).filterMapM readFile?
  (c.paths named).filterMapM readFile?

/-- What is said about a failure that ends the program. -/
def lastWord : Failure → String
  | .fault f => f.message
  | .refused r => r.report.text
  | .issues is => toString is.length ++ " validation error(s)"

/-- Run an invocation. -/
def perform (i : Invocation) : IO UInt32 := do
  let now ← presentTime
  match i.run now (← readFiles i.command) (← readVariables) with
  | .ok (run, setup) =>
    for e in setup.written run.journal do
      match setup.line now e with
      | .ok line => IO.eprintln line
      | .error f => IO.eprintln f.message
    run.output.forM IO.println
    run.complaint.forM IO.eprintln
    return run.exitCode.toUInt32
  | .error f =>
    IO.eprintln (lastWord f)
    return 1

end DialPlan.CommandLine

open DialPlan.CommandLine in
/-- **The program.** -/
def main (args : List String) : IO UInt32 := do
  match Invocation.read args with
  | .ok i => perform i
  | .error stop =>
    if stop = .misuse then usage.forM IO.eprintln else usage.forM IO.println
    return stop.exitCode.toUInt32
