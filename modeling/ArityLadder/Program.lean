import ArityLadder.CommandLine.Description
import ArityLadder.CommandLine.Reader
import ArityLadder.Plan.Printing
import ArityLadder.Settings.Reader
import ArityLadder.Trace.Filter

/-!
# The program

A run of the program as a function of its surroundings.  The arguments are read
first, then checked, then the settings file is loaded, and then the plan is
printed; the first of these that fails ends the run.

Main results:

- Theorem `Run.rejected_exitCode`: a rejection ends the run with its own exit code.
- Theorem `Outcome.furtherLines_of_not_mem`: a log entry of one line leaves nothing
  beside the log.
-/

namespace ArityLadder

/-! ## Loading settings -/

/-- How a path reads: as a text, or not at all for a reason. -/
abbrev FileReader := String → Except String String

/-- The settings of a file. -/
def Settings.load (files : FileReader) (path : String) : Except Rejection Settings :=
  match files path with
  | .error reason => .error (.setting (.unreadable path reason))
  | .ok text => Settings.read text

/-- The settings of the file that a command line names, or those of no file. -/
def CommandLine.settings (line : CommandLine) (files : FileReader) :
    Except Rejection Settings :=
  match line.config with
  | none => .ok {}
  | some path => Settings.load files path

/-! ## Runs -/

/-- What a run does. -/
structure Run where
  exitCode : Nat
  /-- Standard output with what was printed to it. -/
  stdout : Sink
  /-- What standard error shows beside the log. -/
  report : String
  /-- All events, whether they reach the log or not. -/
  events : List Trace.Event
deriving DecidableEq

namespace Run

/-- An event of the course of the program. -/
def event (level : Trace.Level) (message : String) : Trace.Event :=
  ⟨level, "field_ladder", message⟩

/-- The event that the run of a command line starts. -/
def startingEvent (line : CommandLine) : Trace.Event :=
  event .debug ("CLI config: " ++ line.describe)

/-- The event that a settings file is loaded. -/
def loadingEvent (path : String) : Trace.Event :=
  event .info ("Loading generator defaults from: " ++ path)

/-- The events of a run up to the making of its plan. -/
def loadingEvents (line : CommandLine) : List Trace.Event :=
  startingEvent line :: (line.config.map loadingEvent).toList

/-- The event that a section is printed. -/
def renderingEvent (plan : Plan) (kind : Section) : Trace.Event :=
  ⟨.debug, "field_ladder::core::ladder",
    "Rendering " ++ kind.label ++ " for arities " ++ plan.first.text ++ "..=" ++ plan.last.text⟩

/-- The event that a plan is printed. -/
def generatingEvent (plan : Plan) : Trace.Event :=
  event .info <|
    "Generating " ++ toString plan.sections.length ++ " section(s) for arities " ++
      plan.first.text ++ "..=" ++ plan.last.text

/-- The end of a run by a rejection. -/
def rejected (words : FaultWords) (stdout : Sink) (events : List Trace.Event) (color : Bool)
    (fault : Rejection) : Run where
  exitCode := fault.exitCode
  stdout := stdout
  report := Tone.failure.paint color (fault.message words) ++ "\n"
  events := events ++ [
    event .debug ("Rejected: " ++ fault.describe),
    event .debug ("Suggestion: " ++ fault.advice)]

/-- A rejection ends the run with its own exit code. -/
@[simp]
theorem rejected_exitCode (words : FaultWords) (stdout : Sink) (events : List Trace.Event)
    (color : Bool) (fault : Rejection) :
    (rejected words stdout events color fault).exitCode = fault.exitCode :=
  rfl

/-- A message whose further lines are indented by a number of spaces. -/
def indentLines (width : Nat) (message : String) : String :=
  String.ofList (message.toList.flatMap fun c =>
    if c = '\n' then '\n' :: List.replicate width ' ' else [c])

/-- What is told of a fault of a settings file, each message before its own cause.  The cause behind a
fault of the text is what the reader of documents says of it. -/
def causes (words : FaultWords) : Rejection → List String
  | .document fault => [(Rejection.document fault).message words, words fault]
  | fault => [fault.message words]

/-- Causes line by line.  Several of them are numbered, and their further lines begin behind the
number. -/
def listCauses : List String → String
  | [cause] => "    " ++ indentLines 4 cause ++ "\n"
  | causes =>
    String.join <| causes.zipIdx.map fun (cause, number) =>
      "    " ++ toString number ++ ": " ++ indentLines 7 cause ++ "\n"

/-- The exit code of a run that ends with a report of causes, whatever they are. -/
def reportExitCode : Nat := 1

/-- The end of a run by a settings file that cannot be loaded. -/
def unloaded (words : FaultWords) (stdout : Sink) (events : List Trace.Event) (path : String)
    (fault : Rejection) : Run where
  exitCode := reportExitCode
  stdout := stdout
  report :=
    "Error: Failed to load config file '" ++ path ++ "'\n\nCaused by:\n" ++
      listCauses (causes words fault)
  events := events

/-- The end of a run by printing a plan. -/
def printed (words : FaultWords) (stdout : Sink) (events : List Trace.Event) (plan : Plan) : Run :=
  let printing := plan.print stdout
  let events := events ++ generatingEvent plan :: printing.begun.map (renderingEvent plan)
  match printing.fault with
  | none => ⟨0, printing.sink, "", events⟩
  | some fault => rejected words printing.sink events false fault

/-- The run of a command line. -/
def ofCommandLine (words : FaultWords) (files : FileReader) (stdout : Sink) (line : CommandLine) :
    Run :=
  match line.validate with
  | .error fault => rejected words stdout [startingEvent line] (!line.noColor) fault
  | .ok () =>
    match line.settings files with
    | .error fault => unloaded words stdout (loadingEvents line) (line.config.getD "") fault
    | .ok settings =>
      match line.plan settings with
      | .error fault =>
        rejected words stdout (loadingEvents line) (line.colorEnabled settings) fault
      | .ok plan => printed words stdout (loadingEvents line) plan

end Run

/-! ## The program in its surroundings -/

/-- All that a run of the program depends on. -/
structure Surroundings where
  /-- The arguments, without the name of the program. -/
  arguments : List String
  /-- How files read. -/
  files : FileReader
  /-- What is said of a file that is no settings file. -/
  words : FaultWords
  /-- The filter that the environment asks for. -/
  logFilter : Option String := none
  stdout : Sink := {}

/-- All that a run of the program leaves behind. -/
structure Outcome where
  exitCode : Nat
  stdout : Sink
  /-- What standard error shows behind the log. -/
  report : String
  /-- The entries of the log, of which each begins a line. -/
  entries : List String
deriving DecidableEq

namespace Outcome

/-- The lines of the log: the first one of each entry. -/
def log (outcome : Outcome) : List String :=
  outcome.entries.map fun entry => String.ofList (entry.toList.takeWhile (· ≠ '\n'))

/-- The further lines of an entry, which do not look like the log. -/
def furtherLines (entry : String) : String :=
  match entry.toList.dropWhile (· ≠ '\n') with
  | [] => ""
  | _ :: rest => String.ofList rest ++ "\n"

/-- What standard error shows beside the lines of the log. -/
def stderr (outcome : Outcome) : String :=
  String.join (outcome.entries.map furtherLines) ++ outcome.report

/-- An entry of one line leaves nothing beside the log. -/
theorem furtherLines_of_not_mem {entry : String} (h : '\n' ∉ entry.toList) :
    furtherLines entry = "" := by
  have dropped : entry.toList.dropWhile (· ≠ '\n') = [] := by
    generalize entry.toList = text at h
    induction text with
    | nil => rfl
    | cons c rest ih =>
      have first : c ≠ '\n' := fun eq => h (eq ▸ List.mem_cons_self)
      rw [List.dropWhile_cons_of_pos (by simpa using first)]
      exact ih fun later => h (List.mem_cons_of_mem c later)
  simp only [furtherLines, dropped]

end Outcome

namespace Program

/-- The outcome of a list of arguments that leads to no run. -/
def stopped (stdout : Sink) : Stop → Outcome
  | .help => ⟨0, (stdout.write Stop.helpText).1, "", []⟩
  | .fault fault => ⟨UsageFault.exitCode, stdout, fault.report, []⟩

/-- The outcome of a run, of whose events the filter decides which reach the log. -/
def observed (filter : Trace.Filter) (run : Run) : Outcome :=
  ⟨run.exitCode, run.stdout, run.report, (run.events.filter filter.allows).map Trace.Event.entry⟩

/-- The program. -/
def run (surroundings : Surroundings) : Outcome :=
  match CommandLine.read surroundings.arguments with
  | .error stop => stopped surroundings.stdout stop
  | .ok line =>
    observed (.ofSetting surroundings.logFilter line.verbose)
      (.ofCommandLine surroundings.words surroundings.files surroundings.stdout line)

/-- The path of the file that a run reads, if it reads one. -/
def wantedFile? (arguments : List String) : Option String :=
  match CommandLine.read arguments with
  | .error _ => none
  | .ok line =>
    match line.validate with
    | .error _ => none
    | .ok () => line.config

end Program

end ArityLadder
