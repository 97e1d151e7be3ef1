import ArityLadder.Directory
import ArityLadder.Proofs.CommandLine.Faults
import ArityLadder.Proofs.Program.Logging

/-!
# Runs of refused command lines

A command line that its checks refuse is reported before any file is read.  What its run
does is settled by the fault, by the flag for colour, and by the filter of the log; the path
of a settings file and the style of the indentation show in one line of the log only, which
describes the whole command line.

Main results:

- Theorem `CommandLine.validate_withConfig`: neither the path nor the style is checked.
- Theorem `Trace.Filter.allows_congr`: a filter decides by the level and the target of an event.
- Theorems `Program.log_run_of_refused` and `Program.stderr_run_of_refused`: the log of a
  refused command line, and what stands beside it.
- Theorem `Program.refused_reads_nothing`: what a refused command line depends on.
-/

namespace ArityLadder

open Text

/-! ## What is not checked -/

/-- The checks of a command line look neither at the path of a settings file nor at the style of
the indentation. -/
theorem CommandLine.validate_withConfig (line : CommandLine) (config : Option String)
    (indent : Option IndentStyle) : { line with config, indent }.validate = line.validate :=
  rfl

/-- A filter decides by the level and by the target of an event, whatever its message says. -/
theorem Trace.Filter.allows_congr (filter : Filter) {event other : Event}
    (hlevel : event.level = other.level) (htarget : event.target = other.target) :
    filter.allows event = filter.allows other := by
  have happlies : ∀ directive : Directive, directive.appliesTo event = directive.appliesTo other := by
    intro directive
    unfold Directive.appliesTo
    rw [htarget]
    rfl
  have hdeciding : filter.deciding? event = filter.deciding? other := by
    unfold deciding?
    simp only [happlies]
  unfold allows
  rw [hdeciding, hlevel]

/-! ## The log of a refusal -/

namespace Run

/-- The events by which a rejection is reported. -/
def rejectionEvents (fault : Rejection) : List Trace.Event :=
  [event .debug ("Rejected: " ++ fault.describe), event .debug ("Suggestion: " ++ fault.advice)]

/-- The event that a run starts is one of debugging. -/
theorem level_startingEvent (line : CommandLine) : (startingEvent line).level = .debug := rfl

/-- The event that a run starts comes from the course of the program. -/
theorem target_startingEvent (line : CommandLine) :
    (startingEvent line).target = "field_ladder" :=
  rfl

/-- A refused command line is rejected in the same words however documents are spoken of. -/
theorem rejected_eq_of_validate {line : CommandLine} {fault : Rejection}
    (hfault : line.validate = .error fault) (words others : FaultWords) (stdout : Sink)
    (events : List Trace.Event) (color : Bool) :
    rejected words stdout events color fault = rejected others stdout events color fault := by
  rw [rejected, rejected, CommandLine.message_eq_of_validate hfault words others]

/-- The line for an event of debugging is none of information, so that it shows no loading of a
file. -/
theorem startsWith_loading_eq_false {shown : Trace.Event} (hlevel : shown.level = .debug) :
    shown.line.startsWith "INFO Loading generator defaults from: " = false := by
  have hfront : (shown.level.label ++ " ").toList <+: shown.line.toList := by
    have hlabel := Trace.Event.isPrefix_line_append shown.level shown.target
      (by decide : IsPrintable "") shown.message
    rwa [String.append_empty, String.empty_append] at hlabel
  rw [hlevel] at hfront
  exact startsWith_eq_false hfront (by decide) (by decide)

end Run

namespace Program

section Refused

variable {surroundings : Surroundings} {line : CommandLine} {fault : Rejection}
  (hread : CommandLine.read surroundings.arguments = .ok line)
  (hfault : line.validate = .error fault)
include hread hfault

/-- A refused command line leads to a rejection behind the one event that it starts with. -/
theorem run_of_refused (words : FaultWords) :
    run surroundings =
      observed (.ofSetting surroundings.logFilter line.verbose)
        (.rejected words surroundings.stdout [Run.startingEvent line] (!line.noColor) fault) := by
  rw [run_of_read hread, Run.ofCommandLine_of_refused hfault,
    Run.rejected_eq_of_validate hfault surroundings.words words]

/-- The log of a refused command line tells what was asked for, and how it was rejected. -/
theorem log_run_of_refused :
    (run surroundings).log =
      surroundings.filter.logOf (Run.startingEvent line :: Run.rejectionEvents fault) := by
  rw [log_run hread, Run.ofCommandLine_of_refused hfault]
  rfl

/-- Beside the log of a refused command line stands what is wrong with it, painted unless the
command line forbids it. -/
theorem stderr_run_of_refused (words : FaultWords) :
    (run surroundings).stderr =
      Tone.failure.paint (!line.noColor) (fault.message words) ++ "\n" := by
  rw [run_of_refused hread hfault words, Trace.Filter.stderr_observed, Run.furtherLines_rejected,
    Run.furtherLines_startingEvent, String.empty_append]
  rfl

/-- No line in the log of a refused command line shows the loading of a file. -/
theorem startsWith_loading_of_mem_log {text : String} (htext : text ∈ (run surroundings).log) :
    text.startsWith "INFO Loading generator defaults from: " = false := by
  have hdebug : ∀ shown ∈ Run.startingEvent line :: Run.rejectionEvents fault,
      shown.level = .debug := by
    simp [Run.startingEvent, Run.rejectionEvents, Run.event]
  rw [log_run_of_refused hread hfault] at htext
  obtain ⟨shown, hshown, rfl⟩ := List.mem_map.mp htext
  exact Run.startsWith_loading_eq_false (hdebug shown (List.mem_filter.mp hshown).1)

end Refused

/-- The logs under one filter of two command lines that are rejected for the same begin with a line
each that describes the command line, or neither does, and are the same behind it. -/
theorem logOf_rejection (filter : Trace.Filter) (line other : CommandLine) (fault : Rejection) :
    let rest := filter.logOf (Run.rejectionEvents fault)
    let log (line : CommandLine) :=
      filter.logOf (Run.startingEvent line :: Run.rejectionEvents fault)
    (log line = rest ∧ log other = rest) ∨
      (log line = (Run.startingEvent line).line :: rest ∧
        log other = (Run.startingEvent other).line :: rest) := by
  intro rest log
  have hallows : filter.allows (Run.startingEvent line) =
      filter.allows (Run.startingEvent other) :=
    filter.allows_congr
      ((Run.level_startingEvent line).trans (Run.level_startingEvent other).symm)
      ((Run.target_startingEvent line).trans (Run.target_startingEvent other).symm)
  simp only [log, rest, Trace.Filter.logOf]
  by_cases hshown : filter.allows (Run.startingEvent other) = true
  · right
    rw [List.filter_cons_of_pos (hallows.trans hshown), List.filter_cons_of_pos hshown,
      List.map_cons, List.map_cons]
    exact ⟨rfl, rfl⟩
  · left
    rw [List.filter_cons_of_neg (by rwa [hallows]), List.filter_cons_of_neg hshown]
    exact ⟨rfl, rfl⟩

/-- Two command lines with the same flags that are rejected for the same end alike, and their logs
differ in the description of the command line only. -/
theorem run_of_refused_alike {here there : Surroundings} {line other : CommandLine}
    {fault : Rejection} (hread : CommandLine.read here.arguments = .ok line)
    (hother : CommandLine.read there.arguments = .ok other) (hfault : line.validate = .error fault)
    (hfault' : other.validate = .error fault) (hnoColor : other.noColor = line.noColor)
    (hverbose : other.verbose = line.verbose) (hsetting : there.logFilter = here.logFilter)
    (hstdout : there.stdout = here.stdout) :
    (run here).exitCode = (run there).exitCode ∧ (run here).stdout = (run there).stdout ∧
      (run here).stderr = (run there).stderr ∧
      ∃ rest, ((run here).log = rest ∧ (run there).log = rest) ∨
        ((run here).log = (Run.startingEvent line).line :: rest ∧
          (run there).log = (Run.startingEvent other).line :: rest) := by
  have hstderr := stderr_run_of_refused hother hfault' here.words
  have hlog := log_run_of_refused hother hfault'
  have hfilter : there.filter = here.filter := by
    rw [Surroundings.filter, Surroundings.filter, hread, hother]
    dsimp only
    rw [hsetting, hverbose]
  rw [hnoColor] at hstderr
  rw [hfilter] at hlog
  obtain ⟨hexit, hsink, -⟩ := Run.eq_of_unreported_eq <|
    Run.unreported_rejected here.words here.stdout [Run.startingEvent line]
      [Run.startingEvent other] (!line.noColor) fault
  have hhere := run_of_refused hread hfault here.words
  have hthere := run_of_refused hother hfault' here.words
  rw [hnoColor, hstdout] at hthere
  refine ⟨?_, ?_, (stderr_run_of_refused hread hfault here.words).trans hstderr.symm,
    here.filter.logOf (Run.rejectionEvents fault), ?_⟩
  · rw [hhere, hthere]
    exact hexit
  · rw [hhere, hthere]
    exact hsink
  · rw [log_run_of_refused hread hfault, hlog]
    exact logOf_rejection here.filter line other fault

/-- The run of a refused command line reads no file, and so it is the same whatever files there are
and whatever is said of them.
The run of another command line with the same numbers, sections and flags ends with the same exit
code, output and report, whatever settings file and style of indentation it asks for; and the two
logs are the same behind the line, if there is one, that describes the command line.  No line
of the log tells of a file that is loaded, and beside the log stands what is wrong, painted
unless the command line forbids it. -/
theorem refused_reads_nothing {arguments : List String} {line : CommandLine} {fault : Rejection}
    (hread : CommandLine.read arguments = .ok line) (hfault : line.validate = .error fault)
    (logFilter : Option String) (stdout : Sink) :
    wantedFile? arguments = none ∧
    (∀ (files files' : FileReader) (words words' : FaultWords),
      run { arguments, files, words, logFilter, stdout } =
        run { arguments, files := files', words := words', logFilter, stdout }) ∧
    (∀ {others : List String} {config : Option String} {indent : Option IndentStyle},
      CommandLine.read others = .ok { line with config, indent } →
        ∀ (files files' : FileReader) (words words' : FaultWords),
          let here := run { arguments, files, words, logFilter, stdout }
          let there :=
            run { arguments := others, files := files', words := words', logFilter, stdout }
          here.exitCode = there.exitCode ∧ here.stdout = there.stdout ∧
          here.stderr = there.stderr ∧
          ∃ rest, (here.log = rest ∧ there.log = rest) ∨
            (here.log = (Run.startingEvent line).line :: rest ∧
              there.log = (Run.startingEvent { line with config, indent }).line :: rest)) ∧
    ∀ (files : FileReader) (words : FaultWords),
      let outcome := run { arguments, files, words, logFilter, stdout }
      (∀ text ∈ outcome.log,
        text.startsWith "INFO Loading generator defaults from: " = false) ∧
      outcome.stderr = Tone.failure.paint (!line.noColor) (fault.message words) ++ "\n" := by
  refine ⟨wantedFile?_of_refused hread hfault, ?_, ?_, ?_⟩
  · intro files files' words words'
    -- The words are those of the first run on both sides.
    have hrun (here : FileReader) (said : FaultWords) :
        run { arguments, files := here, words := said, logFilter, stdout } =
          observed (.ofSetting logFilter line.verbose)
            (.rejected words stdout [Run.startingEvent line] (!line.noColor) fault) :=
      run_of_refused hread hfault words
    rw [hrun files words, hrun files' words']
  · intro others config indent hother files files' words words' here there
    have hfault' : { line with config, indent }.validate = .error fault := by
      rw [CommandLine.validate_withConfig, hfault]
    exact run_of_refused_alike hread hother hfault hfault' rfl rfl rfl rfl
  · intro files words outcome
    exact ⟨fun text htext => startsWith_loading_of_mem_log hread hfault htext,
      stderr_run_of_refused hread hfault words⟩

/-- A first arity behind the field count is rejected alike with a settings file that would turn the
colours off, with one that cannot be read and without one; only the first of three lines of the
log shows the difference. -/
theorem refused_reads_nothing_cases :
    let files := (Directory.ofPaths [("c", some "output.color = false".toUTF8.toList)]).read
    let words : FaultWords := fun _ => "invalid"
    let here := run { arguments := ["2", "--from=3", "--config=c", "-v"], files, words }
    let missing := run
      { arguments := ["2", "--from=3", "--config=c", "-v"], files := fun _ => .error "not found"
        words := fun _ => "" }
    let there := run { arguments := ["-v", "2", "--from=3", "--indent=spaces"], files, words }
    here = missing ∧ here.exitCode = there.exitCode ∧ here.stdout = there.stdout ∧
      here.stderr = there.stderr ∧ here.log.tail = there.log.tail ∧ here.log.length = 3 ∧
      here.stderr = "\x1b[91mInvalid ladder range: --from 3 must lie between 1 and 2\x1b[0m\n" := by
  intro files words here missing there
  have hread : CommandLine.read ["2", "--from=3", "--config=c", "-v"] =
      .ok ⟨{ start := some 3, config := some "c", verbose := true }, 2⟩ := rfl
  have hothers : CommandLine.read ["-v", "2", "--from=3", "--indent=spaces"] =
      .ok ⟨{ start := some 3, indent := some .spaces, verbose := true }, 2⟩ := rfl
  obtain ⟨-, hfiles, hother, hreport⟩ :=
    @refused_reads_nothing _ _ (.range 3 2) hread (by decide +kernel) none {}
  obtain ⟨hexit, hstdout, hstderr, rest, hlog⟩ := hother hothers files files words words
  refine ⟨hfiles _ _ _ _, hexit, hstdout, hstderr, ?_, by decide +kernel,
    (hreport files words).2.trans (by decide +kernel)⟩
  rcases hlog with ⟨hhere, hthere⟩ | ⟨hhere, hthere⟩
  · exact congrArg List.tail (hhere.trans hthere.symm)
  · calc here.log.tail = rest := congrArg List.tail hhere
      _ = there.log.tail := (congrArg List.tail hthere).symm

end Program

end ArityLadder
