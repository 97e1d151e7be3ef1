import ArityLadder.Proofs.CommandLine.Faults
import ArityLadder.Proofs.Printing.Colors
import ArityLadder.Proofs.Program.Events
import ArityLadder.Proofs.Program.Runs

/-!
# Runs with and without color

Whether a run is in color is decided by the flag alone where its command line is refused,
by the flag and the settings where a plan is printed, and not at all where the output
fails.  In each of these cases the same is seen with and without the flag once the escapes
are deleted.

Main results:

- Theorem `Run.seen_ofCommandLine`: what is seen of a run does not depend on the flag.
- Theorem `Program.color_adds_codes`: color adds two escapes to the header of each printed
  section, and the flag changes nothing but escapes.
-/

namespace ArityLadder

open Text

/-- The flag for color changes nothing in a plan but its color. -/
theorem CommandLine.plan_withColor {line : CommandLine} {settings : Settings} {plan : Plan}
    (hplan : line.plan settings = .ok plan) (noColor : Bool) :
    { line with noColor }.plan settings =
      .ok { plan with color := { line with noColor }.colorEnabled settings } := by
  obtain ⟨first, last, hfirst, hlast, hle, rfl⟩ := plan_eq_ok_iff.mp hplan
  exact plan_eq_ok_iff.mpr ⟨first, last, hfirst, hlast, hle, rfl⟩

/-! ## What is seen of an outcome -/

/-- What is seen of an outcome without its escapes. -/
structure Seen where
  exitCode : Nat
  /-- The bytes of standard output. -/
  stdout : List UInt8
  /-- The bytes of standard error beside the log. -/
  stderr : List UInt8
deriving DecidableEq

/-- What is seen of an outcome once all escapes are deleted. -/
def Outcome.seen (outcome : Outcome) : Seen where
  exitCode := outcome.exitCode
  stdout := deleteWords (Tone.codes [.heading, .failure]) outcome.stdout.accepted
  stderr := deleteWords (Tone.codes [.heading, .failure]) (Sink.bytes outcome.stderr)

namespace Run

open Program

/-- Of a run that ends with the command line refused, the exit code and the message are seen. -/
theorem seen_rejected (filter : Trace.Filter) (words : FaultWords) (stdout : Sink)
    (line : CommandLine) {fault : Rejection} (hfault : line.validate = .error fault)
    (color : Bool) :
    (observed filter (rejected words stdout [startingEvent line] color fault)).seen =
      ⟨fault.exitCode, deleteWords (Tone.codes [.heading, .failure]) stdout.accepted,
        Sink.bytes (fault.message words ++ "\n")⟩ := by
  have hprintable := CommandLine.isPrintable_message hfault words
  have hmessage := hprintable.notMem (by decide : '\x1b'.toNat < 32)
  have hpainted : DeletesTo (Tone.codes [.heading, .failure])
      (Sink.bytes (Tone.failure.paint color (fault.message words)))
      (Sink.bytes (fault.message words)) :=
    Tone.deletesTo_paint (by decide) hmessage color
  have hend := Tone.deletesTo_self [.heading, .failure] (by decide : '\x1b' ∉ "\n".toList)
  rw [Outcome.seen, filter.stderr_observed, furtherLines_rejected, furtherLines_startingEvent,
    String.empty_append, rejected, Sink.bytes_append, (hpainted.append hend).eq,
    Sink.bytes_append]
  rfl

/-- Of a run that ends with a settings file that cannot be loaded, its report is seen behind what
the log leaves of the path. -/
theorem seen_unloaded (filter : Trace.Filter) (words : FaultWords) (stdout : Sink)
    (line : CommandLine) (path : String) (fault : Rejection) :
    (observed filter (unloaded words stdout (loadingEvents line) path fault)).seen =
      ⟨reportExitCode, deleteWords (Tone.codes [.heading, .failure]) stdout.accepted,
        deleteWords (Tone.codes [.heading, .failure])
          (Sink.bytes (filter.furtherLines (line.config.map loadingEvent).toList ++
            (unloaded words stdout [] path fault).report))⟩ := by
  rw [Outcome.seen, filter.stderr_observed, ← furtherLines_loadingEvents]
  rfl

/-- Of a run that prints a plan, what the output took is seen, how the printing ended, and what the
log leaves of the path. -/
theorem seen_printed (filter : Trace.Filter) (words : FaultWords) (stdout : Sink)
    (line : CommandLine) (plan : Plan) :
    (observed filter (printed words stdout (loadingEvents line) plan)).seen =
      ⟨((plan.print stdout).fault.map Rejection.exitCode).getD 0,
        deleteWords (Tone.codes [.heading, .failure]) (plan.print stdout).sink.accepted,
        deleteWords (Tone.codes [.heading, .failure])
          (Sink.bytes (filter.furtherLines (line.config.map loadingEvent).toList ++
            ((plan.print stdout).fault.map fun fault => fault.message words ++ "\n").getD ""))⟩ := by
  rw [Outcome.seen, filter.stderr_observed, furtherLines_printed, furtherLines_loadingEvents]
  unfold printed
  dsimp only
  cases (plan.print stdout).fault with
  | none => rfl
  | some fault => rfl

/-- On an output that takes everything, or nothing at all, what is seen of a run does not depend on
the flag for color. -/
theorem seen_ofCommandLine (filter : Trace.Filter) (words : FaultWords) (files : FileReader)
    (line : CommandLine) (noColor : Bool) {capacity : Option Nat}
    (hcapacity : capacity = none ∨ capacity = some 0) (refusal flushFault : Option String) :
    let stdout : Sink := { capacity, refusal, flushFault }
    (observed filter (ofCommandLine words files stdout line)).seen =
      (observed filter (ofCommandLine words files stdout { line with noColor })).seen := by
  intro stdout
  have hcourse := course_ofCommandLine words files stdout line
  generalize ofCommandLine words files stdout line = run at hcourse ⊢
  cases hcourse with
  | refused fault hfault =>
    have hother : { line with noColor }.validate = .error fault := hfault
    rw [ofCommandLine_of_refused hother, seen_rejected filter words stdout line hfault,
      seen_rejected filter words stdout _ hother]
  | unloaded path fault hvalid hpath hfault =>
    have hcheck := CommandLine.validate_eq_ok_iff.mpr hvalid
    have hother : { line with noColor }.validate = .ok () := hcheck
    rw [ofCommandLine_of_unloaded hother hpath hfault, seen_unloaded, seen_unloaded]
  | printed settings plan hvalid hsettings hplan =>
    have hcheck := CommandLine.validate_eq_ok_iff.mpr hvalid
    have hother : { line with noColor }.validate = .ok () := hcheck
    have hcolored := CommandLine.plan_withColor hplan noColor
    have hsections : plan.sections ≠ [] := by
      rw [CommandLine.sections_of_plan hplan]
      exact line.kinds_ne_nil (CommandLine.valid_of_settings hsettings)
    -- Both plans end and are seen as the plan without color does.
    have htones : Tone.heading ∈ [Tone.heading, .failure] := List.mem_cons_self
    have hpainted := Plan.print_painted htones hsections hcapacity refusal flushFault
    obtain ⟨hfault, hstdout⟩ := hpainted plan.color
    obtain ⟨hfault', hstdout'⟩ := hpainted ({ line with noColor }.colorEnabled settings)
    rw [ofCommandLine_of_plan hother hsettings hcolored, seen_printed, seen_printed, hfault',
      hstdout', ← hfault, ← hstdout]

end Run

namespace Program

/-! ## The whole program -/

/-- What a plan prints without color is what it prints in color with the escapes of headers deleted.
Without color it prints no escape, and in color two for each printed section, both in the header of
the section.  Of two command lines that differ in the flag for color only, the exit code, the output
and what stands beside the log are the same once all escapes are deleted.  This holds on an output
that takes everything and on one that takes nothing at all; one that is full within a document takes
less of a painted one. -/
theorem color_adds_codes :
    (∀ plan : Plan,
      let painted := { plan with color := true }
      let plain := { plan with color := false }
      deleteWords (Tone.codes [.heading]) (painted.print {}).sink.accepted =
        (plain.print {}).sink.accepted ∧
      27 ∉ (plain.print {}).sink.accepted ∧
      (painted.print {}).sink.accepted.count 27 = 2 * plan.printed.length ∧
      (painted.print {}).sink.accepted = Sink.bytes painted.document ∧
      (Text.lines painted.document).filter (fun text : String => '\x1b' ∈ text.toList) =
        plan.printed.map painted.header ∧
      ∀ kind, (painted.header kind).toList.count '\x1b' = 2) ∧
    ∀ {arguments others : List String} {line : CommandLine} {noColor : Bool},
      CommandLine.read arguments = .ok line → CommandLine.read others = .ok { line with noColor } →
      ∀ (files : FileReader) (words : FaultWords) (logFilter refusal flushFault : Option String)
        (capacity : Option Nat), capacity = none ∨ capacity = some 0 →
        let stdout : Sink := { capacity, refusal, flushFault }
        (run { arguments, files, words, logFilter, stdout }).seen =
          (run { arguments := others, files, words, logFilter, stdout }).seen := by
  constructor
  · intro plan painted plain
    have hescape : '\x1b'.toNat < 128 := by decide
    refine ⟨?_, ?_, ?_, painted.accepted_print, ?_, ?_⟩
    · rw [painted.accepted_print, plain.accepted_print]
      exact (plan.deletesTo_document (List.mem_singleton_self _) true).eq
    · rw [plain.accepted_print]
      exact mt (Sink.mem_bytes_iff hescape).mp (Plan.escape_notMem_document rfl)
    · rw [painted.accepted_print]
      exact (Sink.count_bytes _ hescape).trans (Plan.count_document rfl)
    · exact Plan.filter_lines_document rfl
    · exact Plan.count_header rfl
  · intro arguments others line noColor hread hothers files words logFilter refusal flushFault
      capacity hcapacity stdout
    rw [run_of_read hread, run_of_read hothers]
    exact Run.seen_ofCommandLine _ words files line noColor hcapacity refusal flushFault

/-- A field count of zero is reported in color or not, and so is a section printed; three painted
sections hold six escapes. -/
theorem color_adds_codes_cases :
    let files : FileReader := fun _ => .error "not found"
    let words : FaultWords := fun _ => "invalid"
    let refused (flags : List String) := run { arguments := "0" :: flags, files, words }
    let printed (flags : List String) :=
      run { arguments := "1" :: "--only=accessor" :: flags, files, words }
    let plan := Plan.single .one
    ((refused []).stderr ≠ (refused ["--no-color"]).stderr ∧
      (refused []).seen = (refused ["--no-color"]).seen) ∧
    ((printed []).stdout ≠ (printed ["--no-color"]).stdout ∧
      (printed []).seen = (printed ["--no-color"]).seen) ∧
    ({ plan with color := true }.print {}).sink.accepted.count 27 = 6 := by
  intro files words refused printed plan
  obtain ⟨hplans, hruns⟩ := color_adds_codes
  obtain ⟨-, -, hcount, -⟩ := hplans plan
  have hsections : plan.printed.length = 3 := by decide
  rw [hsections] at hcount
  have hrefused := @hruns ["0"] ["0", "--no-color"] { fieldCount := 0 } true rfl rfl files words
    none none none none (.inl rfl)
  have hprinted := @hruns ["1", "--only=accessor"] ["1", "--only=accessor", "--no-color"]
    { fieldCount := 1, only := [.accessor] } true rfl rfl files words none none none none (.inl rfl)
  exact ⟨⟨by decide +kernel, hrefused⟩, ⟨by decide +kernel, hprinted⟩, hcount⟩

end Program

end ArityLadder
