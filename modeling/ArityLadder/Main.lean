import ArityLadder.Directory
import ArityLadder.Program

/-!
# The command

Connects the program to the surroundings of a process: its arguments, one file,
the environment and the standard streams.
-/

namespace ArityLadder

/-- Why a file cannot be read, in the words of the operating system. -/
def reasonOf : IO.Error → String
  | .noFileOrDirectory .. => ReadFault.missing.message
  | .inappropriateType .. => ReadFault.isDirectory.message
  | .permissionDenied .. => "Permission denied (os error 13)"
  | fault => toString fault

/-- A file as text. -/
def readText (path : String) : IO (Except String String) := do
  try
    let bytes ← IO.FS.readBinFile path
    match String.fromUTF8? bytes with
    | some text => return .ok text
    | none => return .error ReadFault.notText.message
  catch fault => return .error (reasonOf fault)

/-- Shows what a run leaves on standard error. -/
def showErrors (outcome : Outcome) : IO Unit := do
  let stderr ← IO.getStderr
  for entry in outcome.entries do
    stderr.putStrLn entry
  unless outcome.report.isEmpty do
    if outcome.exitCode = UsageFault.exitCode then stderr.putStrLn outcome.report
    else stderr.putStr outcome.report

/-- What is said of a file that is no settings file, as far as its fault tells. -/
def wordsOf : FaultWords
  | .malformed => "invalid TOML"
  | .mismatch cause => cause.message

/-- Runs the program once. -/
def runProcess (arguments : List String) : IO UInt32 := do
  let contents ←
    match Program.wantedFile? arguments with
    | none => pure (.error ReadFault.missing.message)
    | some path => readText path
  let surroundings : Surroundings :=
    { arguments
      files := fun _ => contents
      words := wordsOf
      logFilter := ← IO.getEnv "RUST_LOG" }
  let outcome := Program.run surroundings
  try
    let stdout ← IO.getStdout
    stdout.write ⟨outcome.stdout.accepted.toArray⟩
    stdout.flush
    showErrors outcome
    return outcome.exitCode.toUInt32
  catch fault =>
    let refused : Sink := { capacity := some 0, refusal := some (toString fault) }
    let outcome := Program.run { surroundings with stdout := refused }
    showErrors outcome
    return outcome.exitCode.toUInt32

end ArityLadder

/-- The command line of the program. -/
def main (arguments : List String) : IO UInt32 := ArityLadder.runProcess arguments
