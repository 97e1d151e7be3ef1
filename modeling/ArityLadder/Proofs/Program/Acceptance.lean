import ArityLadder.Directory
import ArityLadder.Proofs.Printing.Documents
import ArityLadder.Proofs.Program.Events
import ArityLadder.Proofs.Program.Runs

/-!
# All or nothing

A run either prints its whole plan and reports nothing, or prints nothing and reports
why.  Which of the two it is depends on the limits of the command line and on whether
its settings file can be loaded.

Main results:

- Theorem `Run.stderr_observed_printed`: beside the log of a run that prints there is at
  most the rest of a path of several lines.
- Theorem `Program.run_all_or_nothing`: when a run ends well, and what it leaves then and
  otherwise.
- Theorem `Program.stderr_of_path_of_two_lines`: a path of two lines leaves its second one
  beside the log.
-/

namespace ArityLadder

open Text

namespace Run

/-! ## Reports -/

/-- A rejection is reported. -/
theorem report_rejected_ne_empty (words : FaultWords) (stdout : Sink) (events : List Trace.Event)
    (color : Bool) (fault : Rejection) :
    (rejected words stdout events color fault).report ≠ "" := by
  unfold rejected
  simp

/-- A file that cannot be loaded is reported. -/
theorem report_unloaded_ne_empty (words : FaultWords) (stdout : Sink) (events : List Trace.Event)
    (path : String) (fault : Rejection) :
    (unloaded words stdout events path fault).report ≠ "" := by
  unfold unloaded
  simp

/-- A report shows beside the log. -/
theorem stderr_observed_ne_empty {filter : Trace.Filter} {run : Run} (hreport : run.report ≠ "") :
    (Program.observed filter run).stderr ≠ "" := by
  intro hempty
  exact hreport (Outcome.stderr_eq_empty_iff.mp hempty).1

/-- Beside the log of a run that prints there is nothing, unless the log shows that a file was
loaded whose path has several lines. -/
theorem stderr_observed_printed (filter : Trace.Filter) (words : FaultWords) (line : CommandLine)
    (plan : Plan) :
    (Program.observed filter (printed words {} (loadingEvents line) plan)).stderr = "" ↔
      ∀ path ∈ line.config, filter.allows (loadingEvent path) = true → IsLine path := by
  have hreport := (printed_fresh words (loadingEvents line) plan).2.1
  rw [filter.stderr_observed, hreport, String.append_empty, furtherLines_printed,
    furtherLines_loadingEvents]
  cases line.config with
  | none => simp [Trace.Filter.furtherLines]
  | some path => simpa using filter.furtherLines_loadingEvent_eq_empty_iff path

/-! ## Courses by their exit code -/

variable {words : FaultWords} {files : FileReader} {line : CommandLine} {run : Run}

/-- A run on an output without limit ends well exactly when its command line is valid and its
file, if there is one, can be loaded. -/
theorem Course.exitCode_eq_zero_iff (hcourse : Course words files {} line run) :
    run.exitCode = 0 ↔
      line.Valid ∧ ∀ path ∈ line.config, ∃ settings, Settings.load files path = .ok settings := by
  cases hcourse with
  | refused fault hfault =>
    have hinvalid : ¬line.Valid := by
      intro hvalid
      rw [CommandLine.validate_eq_ok_iff.mpr hvalid] at hfault
      cases hfault
    simp [fault.exitCode_ne_zero, hinvalid]
  | unloaded path fault hvalid hpath hfault =>
    simp [Run.unloaded, reportExitCode, hpath, hfault]
  | printed settings plan hvalid hsettings hplan =>
    have hexit := (printed_fresh words (loadingEvents line) plan).1
    have hload := CommandLine.exists_settings_iff.mp ⟨settings, hsettings⟩
    exact iff_of_true hexit ⟨hvalid, hload⟩

/-- A run that does not end well has printed nothing, has a report, and ends with the exit code
of a fault of its command line or of its file. -/
theorem Course.of_exitCode_ne_zero (hcourse : Course words files {} line run)
    (hexit : run.exitCode ≠ 0) :
    run.stdout = {} ∧ run.report ≠ "" ∧ ∃ fault : Rejection, run.exitCode = fault.exitCode ∧
      (line.validate = .error fault ∨
        line.validate = .ok () ∧ ∃ path ∈ line.config, Settings.load files path = .error fault) := by
  cases hcourse with
  | refused fault hfault =>
    exact ⟨rfl, report_rejected_ne_empty words _ _ _ fault, fault, rfl, .inl hfault⟩
  | unloaded path fault hvalid hpath hfault =>
    have hcode := (Settings.exitCode_of_load_eq_error hfault).symm
    have hcheck := CommandLine.validate_eq_ok_iff.mpr hvalid
    exact ⟨rfl, report_unloaded_ne_empty words _ _ path fault, fault, hcode,
      .inr ⟨hcheck, path, hpath, hfault⟩⟩
  | printed settings plan hvalid hsettings hplan =>
    exact absurd (printed_fresh words (loadingEvents line) plan).1 hexit

end Run

namespace Program

/-! ## The whole program -/

/-- A run on an output without limit ends well exactly when the numbers and lists of its command
line are within their limits and its settings file, if there is one, can be loaded.  It has then
printed at least one section, and there is nothing beside the log unless the log shows a path of
several lines.  Otherwise it has printed nothing, has reported something beside the log, and ends
with the exit code of the fault of the command line or of the file. -/
theorem run_all_or_nothing {arguments : List String} {line : CommandLine}
    (hread : CommandLine.read arguments = .ok line) (files : FileReader) (words : FaultWords)
    (logFilter : Option String) :
    let filter := Trace.Filter.ofSetting logFilter line.verbose
    let outcome := run { arguments, files, words, logFilter }
    (outcome.exitCode = 0 ↔
      line.Valid ∧ ∀ path ∈ line.config, ∃ settings, Settings.load files path = .ok settings) ∧
    (outcome.exitCode = 0 →
      outcome.stdout.accepted ≠ [] ∧
      (∃ settings plan, line.settings files = .ok settings ∧ line.plan settings = .ok plan ∧
        ∃ kind ∈ plan.sections, Sink.bytes (plan.header kind) <+: outcome.stdout.accepted) ∧
      (outcome.stderr = "" ↔
        ∀ path ∈ line.config, filter.allows (Run.loadingEvent path) = true → IsLine path)) ∧
    (outcome.exitCode ≠ 0 →
      outcome.stdout.accepted = [] ∧ outcome.stderr ≠ "" ∧
      ∃ fault : Rejection, outcome.exitCode = fault.exitCode ∧
        (line.validate = .error fault ∨
          line.validate = .ok () ∧
            ∃ path ∈ line.config, Settings.load files path = .error fault)) := by
  intro filter outcome
  have hrun : outcome = observed filter (.ofCommandLine words files {} line) := run_of_read hread
  have hcourse := Run.course_ofCommandLine words files {} line
  rw [hrun]
  refine ⟨hcourse.exitCode_eq_zero_iff, ?_, ?_⟩
  · intro hexit
    obtain ⟨settings, plan, -, hsettings, hplan, hprinted⟩ := hcourse.of_exitCode_eq_zero hexit
    obtain ⟨-, -, haccepted, -⟩ := Run.printed_fresh words (Run.loadingEvents line) plan
    have hsections : plan.sections ≠ [] := by
      rw [CommandLine.sections_of_plan hplan]
      exact line.kinds_ne_nil (CommandLine.valid_of_settings hsettings)
    have hheader := Plan.exists_header_isPrefix hsections
    have hne := Plan.bytes_document_ne_nil hsections
    rw [← haccepted] at hheader hne
    rw [hprinted]
    exact ⟨hne, ⟨settings, plan, hsettings, hplan, hheader⟩,
      Run.stderr_observed_printed filter words line plan⟩
  · intro hexit
    obtain ⟨hstdout, hreport, hfault⟩ := hcourse.of_exitCode_ne_zero hexit
    refine ⟨?_, Run.stderr_observed_ne_empty hreport, hfault⟩
    exact congrArg Sink.accepted hstdout

/-- A range of two arities is printed; a missing file stops the run, and so does a first arity
behind the field count. -/
theorem run_all_or_nothing_cases :
    let files : FileReader := fun _ => .error "not found"
    let words : FaultWords := fun _ => "invalid"
    let printed := run { arguments := ["3", "--from=2", "-v"], files, words }
    let stopped := run { arguments := ["3", "--config=c"], files, words }
    let refused := run { arguments := ["3", "--from=4"], files, words }
    (printed.exitCode = 0 ∧ printed.stdout.accepted ≠ [] ∧ printed.stderr = "") ∧
    (stopped.exitCode ≠ 0 ∧ stopped.stdout.accepted = [] ∧ stopped.stderr ≠ "") ∧
    (refused.exitCode ≠ 0 ∧ refused.stdout.accepted = [] ∧ refused.stderr ≠ "") := by
  intro files words printed stopped refused
  obtain ⟨hiff, hprinted, -⟩ := @run_all_or_nothing ["3", "--from=2", "-v"]
    { fieldCount := 3, start := some 2, verbose := true } rfl files words none
  obtain ⟨hiff', -, hstopped⟩ := @run_all_or_nothing ["3", "--config=c"]
    { fieldCount := 3, config := some "c" } rfl files words none
  obtain ⟨hiff'', -, hrefused⟩ := @run_all_or_nothing ["3", "--from=4"]
    { fieldCount := 3, start := some 4 } rfl files words none
  refine ⟨?_, ?_, ?_⟩
  · have hexit := hiff.mpr ⟨CommandLine.validate_eq_ok_iff.mp rfl, by simp⟩
    obtain ⟨hne, -, hstderr⟩ := hprinted hexit
    exact ⟨hexit, hne, hstderr.mpr (by simp)⟩
  · have hexit : stopped.exitCode ≠ 0 := by
      intro hzero
      obtain ⟨settings, hload⟩ := (hiff'.mp hzero).2 "c" rfl
      cases hload
    obtain ⟨hempty, hstderr, -⟩ := hstopped hexit
    exact ⟨hexit, hempty, hstderr⟩
  · have hexit : refused.exitCode ≠ 0 := by
      intro hzero
      have hrange := (hiff''.mp hzero).1.start 4 rfl
      exact absurd hrange.2 (by decide)
    obtain ⟨hempty, hstderr, -⟩ := hrefused hexit
    exact ⟨hexit, hempty, hstderr⟩

/-- A path of two lines, of which the log shows the first, leaves its second one beside the log of
a run that ends well. -/
theorem stderr_of_path_of_two_lines :
    let arguments := ["1", "--only", "accessor", "--config", "a\nb", "--no-color"]
    let files := (Directory.ofPaths [("a\nb", some [])]).read
    let outcome := run { arguments, files, words := fun _ => "invalid", logFilter := some "info" }
    wantedFile? arguments = some "a\nb" ∧ outcome.exitCode = 0 ∧ outcome.stderr = "b\n" := by
  decide +kernel

end Program

end ArityLadder
