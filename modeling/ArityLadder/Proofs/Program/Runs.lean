import ArityLadder.Program
import ArityLadder.Proofs.CommandLine.Plans
import ArityLadder.Proofs.Printing.Sinks
import ArityLadder.Proofs.Settings.RoundTrip

/-!
# Courses of a run

A run of a command line is rejected by its checks, or stops at a settings file that
cannot be loaded, or prints a plan.  Nothing else can happen: once the checks have
passed, there is a plan.

Main results:

- Theorems `Settings.valid_of_load` and `Settings.exitCode_of_load_eq_error`: what is
  loaded is within its limits, and what cannot be loaded is a fault of the first exit code.
- Theorems `Run.ofCommandLine_of_refused`, `Run.ofCommandLine_of_unloaded` and
  `Run.ofCommandLine_of_plan`: what decides the course of a run.
- Theorem `Run.course_ofCommandLine`: a run takes one of these three courses.
- Theorems `Run.Course.of_exitCode_eq_zero` and `Run.printed_of_fault_none`: what a run has
  done that ends well.
- Theorem `Run.printed_fresh`: what is left after printing without a limit.
-/

namespace ArityLadder

/-! ## Loading -/

namespace Settings

/-- A text that does not parse is a fault of a document. -/
theorem parse_eq_error {text : String} {fault : Rejection} (hparse : parse text = .error fault) :
    ∃ cause, fault = .document cause := by
  unfold parse at hparse
  cases htable : Toml.Table.parse? text with
  | none =>
    rw [htable] at hparse
    injection hparse with hfault
    exact ⟨_, hfault.symm⟩
  | some table =>
    rw [htable] at hparse
    cases hsettings : ofTable table with
    | error cause =>
      simp only [hsettings, Except.mapError] at hparse
      injection hparse with hfault
      exact ⟨_, hfault.symm⟩
    | ok settings =>
      simp only [hsettings, Except.mapError] at hparse
      cases hparse

/-- A text that cannot be read is a fault of the document or of a setting in it. -/
theorem exitCode_of_read_eq_error {text : String} {fault : Rejection}
    (hread : read text = .error fault) : fault.exitCode = Run.reportExitCode := by
  rw [read, bind_eq_error_iff] at hread
  rcases hread with hparse | ⟨settings, -, hcheck⟩
  · obtain ⟨cause, rfl⟩ := parse_eq_error hparse
    rfl
  · rw [bind_eq_error_iff] at hcheck
    rcases hcheck with hcheck | ⟨done, -, hdone⟩
    · obtain ⟨found, rfl⟩ := validate_eq_error hcheck
      rfl
    · cases hdone

variable {files : FileReader} {path : String}

/-- Settings that were loaded are within their limits. -/
theorem valid_of_load {settings : Settings} (hload : load files path = .ok settings) :
    settings.Valid := by
  unfold load at hload
  cases htext : files path with
  | error reason =>
    rw [htext] at hload
    cases hload
  | ok text =>
    rw [htext] at hload
    exact validate_eq_ok_iff.mp (validate_of_read hload)

/-- A fault of a settings file has the exit code of a report, whatever it is. -/
theorem exitCode_of_load_eq_error {fault : Rejection} (hload : load files path = .error fault) :
    fault.exitCode = Run.reportExitCode := by
  unfold load at hload
  cases htext : files path with
  | error reason =>
    rw [htext] at hload
    injection hload with hfault
    rw [← hfault]
    rfl
  | ok text =>
    rw [htext] at hload
    exact exitCode_of_read_eq_error hload

end Settings

namespace CommandLine

variable {line : CommandLine} {files : FileReader}

/-- The settings behind a command line are within their limits. -/
theorem valid_of_settings {settings : Settings} (hsettings : line.settings files = .ok settings) :
    settings.Valid := by
  unfold CommandLine.settings at hsettings
  cases hconfig : line.config with
  | none =>
    rw [hconfig] at hsettings
    injection hsettings with hdefault
    rw [← hdefault]
    exact Settings.validate_eq_ok_iff.mp rfl
  | some path =>
    rw [hconfig] at hsettings
    exact Settings.valid_of_load hsettings

/-- There are settings behind a command line exactly when the file that it names can be loaded,
if it names one. -/
theorem exists_settings_iff :
    (∃ settings, line.settings files = .ok settings) ↔
      ∀ path ∈ line.config, ∃ settings, Settings.load files path = .ok settings := by
  unfold CommandLine.settings
  cases line.config with
  | none => simp
  | some path => simp

end CommandLine

/-! ## Courses -/

namespace Run

section Courses

variable {words : FaultWords} {files : FileReader} {line : CommandLine}

/-- A run whose command line is refused ends there. -/
theorem ofCommandLine_of_refused {fault : Rejection} (hfault : line.validate = .error fault)
    (stdout : Sink) :
    ofCommandLine words files stdout line =
      rejected words stdout [startingEvent line] (!line.noColor) fault := by
  unfold ofCommandLine
  rw [hfault]

/-- A run whose settings file cannot be loaded ends there. -/
theorem ofCommandLine_of_unloaded {path : String} {fault : Rejection}
    (hcheck : line.validate = .ok ()) (hpath : line.config = some path)
    (hfault : Settings.load files path = .error fault) (stdout : Sink) :
    ofCommandLine words files stdout line =
      unloaded words stdout (loadingEvents line) path fault := by
  have hsettings : line.settings files = .error fault := by
    rw [CommandLine.settings, hpath]
    exact hfault
  unfold ofCommandLine
  rw [hcheck, hsettings, hpath]
  rfl

/-- A run whose command line is accepted and has a plan prints the plan. -/
theorem ofCommandLine_of_plan {settings : Settings} {plan : Plan} (hcheck : line.validate = .ok ())
    (hsettings : line.settings files = .ok settings) (hplan : line.plan settings = .ok plan)
    (stdout : Sink) :
    ofCommandLine words files stdout line = printed words stdout (loadingEvents line) plan := by
  unfold ofCommandLine
  rw [hcheck, hsettings]
  dsimp only
  rw [hplan]

end Courses

/-- The courses that a run of a command line can take. -/
inductive Course (words : FaultWords) (files : FileReader) (stdout : Sink) (line : CommandLine) :
    Run → Prop where
  /-- The command line is refused. -/
  | refused (fault : Rejection) (hfault : line.validate = .error fault) :
      Course words files stdout line
        (rejected words stdout [startingEvent line] (!line.noColor) fault)
  /-- The settings file cannot be loaded. -/
  | unloaded (path : String) (fault : Rejection) (hvalid : line.Valid)
      (hpath : line.config = some path) (hfault : Settings.load files path = .error fault) :
      Course words files stdout line
        (Run.unloaded words stdout (loadingEvents line) path fault)
  /-- The plan is printed. -/
  | printed (settings : Settings) (plan : Plan) (hvalid : line.Valid)
      (hsettings : line.settings files = .ok settings) (hplan : line.plan settings = .ok plan) :
      Course words files stdout line (Run.printed words stdout (loadingEvents line) plan)

/-- A run takes one of the three courses: behind its checks there is a plan. -/
theorem course_ofCommandLine (words : FaultWords) (files : FileReader) (stdout : Sink)
    (line : CommandLine) :
    Course words files stdout line (ofCommandLine words files stdout line) := by
  cases hcheck : line.validate with
  | error fault =>
    rw [ofCommandLine_of_refused hcheck]
    exact .refused fault hcheck
  | ok done =>
    have hvalid := CommandLine.validate_eq_ok_iff.mp hcheck
    cases hsettings : line.settings files with
    | error fault =>
      cases hconfig : line.config with
      | none => simp [CommandLine.settings, hconfig] at hsettings
      | some path =>
        rw [CommandLine.settings, hconfig] at hsettings
        rw [ofCommandLine_of_unloaded hcheck hconfig hsettings]
        exact .unloaded path fault hvalid hconfig hsettings
    | ok settings =>
      obtain ⟨plan, hplan⟩ := hvalid.exists_plan settings
      rw [ofCommandLine_of_plan hcheck hsettings hplan]
      exact .printed settings plan hvalid hsettings hplan

/-! ## Runs that end well -/

/-- A run that ends well has printed the plan of a valid command line. -/
theorem Course.of_exitCode_eq_zero {words : FaultWords} {files : FileReader} {stdout : Sink}
    {line : CommandLine} {run : Run} (hcourse : Course words files stdout line run)
    (hexit : run.exitCode = 0) :
    ∃ settings plan, line.Valid ∧ line.settings files = .ok settings ∧
      line.plan settings = .ok plan ∧ run = Run.printed words stdout (loadingEvents line) plan := by
  cases hcourse with
  | refused fault hfault => exact absurd hexit fault.exitCode_ne_zero
  | unloaded path fault hvalid hpath hfault => cases hexit
  | printed settings plan hvalid hsettings hplan =>
    exact ⟨settings, plan, hvalid, hsettings, hplan, rfl⟩

/-- The printing of a plan ends well exactly when it does not fail. -/
theorem exitCode_printed_eq_zero_iff {words : FaultWords} {stdout : Sink}
    {events : List Trace.Event} {plan : Plan} :
    (printed words stdout events plan).exitCode = 0 ↔ (plan.print stdout).fault = none := by
  unfold printed
  dsimp only
  cases (plan.print stdout).fault with
  | none => simp
  | some fault => simp [fault.exitCode_ne_zero]

/-- Where the printing of a plan does not fail, each section that is printed is reported. -/
theorem printed_of_fault_none {stdout : Sink} {plan : Plan}
    (hfault : (plan.print stdout).fault = none) (words : FaultWords) (events : List Trace.Event) :
    printed words stdout events plan =
      ⟨0, (plan.print stdout).sink, "",
        events ++ generatingEvent plan :: plan.printed.map (renderingEvent plan)⟩ := by
  rw [← (Plan.print_of_fault_none hfault).1]
  unfold printed
  simp only [hfault]

/-! ## Printing without a limit -/

/-- After printing to a fresh sink without limit the sink holds the document, and the run has
ended well. -/
theorem printed_fresh (words : FaultWords) (events : List Trace.Event) (plan : Plan) :
    (printed words {} events plan).exitCode = 0 ∧ (printed words {} events plan).report = "" ∧
      (printed words {} events plan).stdout.accepted = Sink.bytes plan.document ∧
      (printed words {} events plan).events =
        events ++ generatingEvent plan :: (plan.print {}).begun.map (renderingEvent plan) := by
  have hfault : (plan.print {}).fault = none := plan.fault_print_unlimited none none
  rw [printed_of_fault_none hfault, (Plan.print_of_fault_none hfault).1]
  exact ⟨rfl, rfl, plan.accepted_print, rfl⟩

end Run

/-! ## The whole program -/

/-- A command line that is read leads to its run. -/
theorem Program.run_of_read {surroundings : Surroundings} {line : CommandLine}
    (hread : CommandLine.read surroundings.arguments = .ok line) :
    run surroundings =
      observed (.ofSetting surroundings.logFilter line.verbose)
        (.ofCommandLine surroundings.words surroundings.files surroundings.stdout line) := by
  rw [run, hread]

end ArityLadder
