import ArityLadder.Proofs.Plans.WellFormed
import ArityLadder.Proofs.Program.Logging

/-!
# What a run announces

A run that prints says first how many sections there will be, for which arities, and then
each of them as it begins.  The number is that of the sections that are asked for, and the
sections are picked from all that there are; the two agree because none is asked for twice.

Main results:

- Theorems `Run.line_generatingEvent` and `Run.line_renderingEvent`: how a run announces
  its sections in the log.
- Theorem `Program.announced_is_printed`: the sections that are announced are those that
  are printed, in the same order.
-/

namespace ArityLadder

open Text

namespace Trace.Filter

/-- A filter for debugging lets through all events of the program. -/
theorem logOf_of_enablesDebug {filter : Filter} (hdebug : filter.EnablesDebug)
    {events : List Event} (hevents : ∀ event ∈ events, Run.IsOwn event) :
    filter.logOf events = events.map Event.line := by
  have hall : events.filter filter.allows = events := by
    rw [List.filter_eq_self]
    intro event hevent
    have hown := hevents event hevent
    exact hdebug event hown.target hown.le_debug
  rw [logOf, hall]

/-- Where nothing is let through, nothing is for debugging. -/
theorem not_enablesDebug_nil : ¬EnablesDebug [] := by
  intro hdebug
  have hallows := hdebug ⟨.error, "field_ladder", ""⟩ (.inl rfl) (by decide)
  cases hallows

end Trace.Filter

namespace CommandLine

/-- The range of arities in announcements. -/
def rangeText (line : CommandLine) : String :=
  toString (line.start.getD line.fieldCount).toInt ++ "..=" ++ toString line.fieldCount.toInt

/-- A plan is announced with the range that its command line asks for. -/
theorem rangeText_of_plan {line : CommandLine} {settings : Settings} {plan : Plan}
    (hplan : line.plan settings = .ok plan) :
    line.rangeText = plan.first.text ++ "..=" ++ plan.last.text := by
  obtain ⟨first, last, hfirst, hlast, -, rfl⟩ := plan_eq_ok_iff.mp hplan
  unfold rangeText
  rw [← hlast, show (line.start.getD line.fieldCount).toInt = first.count from hfirst.symm]
  rfl

/-- A plan is in color where its command line and its settings ask for it. -/
theorem color_of_plan {line : CommandLine} {settings : Settings} {plan : Plan}
    (hplan : line.plan settings = .ok plan) : plan.color = line.colorEnabled settings := by
  obtain ⟨first, last, -, -, -, rfl⟩ := plan_eq_ok_iff.mp hplan
  rfl

end CommandLine

namespace Run

/-! ## Lines of the log -/

/-- A run announces how many sections it prints. -/
theorem line_generatingEvent (plan : Plan) :
    (generatingEvent plan).line =
      "INFO Generating " ++ toString plan.sections.length ++ " section(s) for arities " ++
        (plan.first.text ++ "..=" ++ plan.last.text) := by
  rw [Trace.Event.line_of_isPrintable (isPrintable_generatingEvent plan)]
  have hfront : "INFO Generating " = "INFO" ++ " " ++ "Generating " := rfl
  rw [hfront]
  simp only [generatingEvent, event, Trace.Level.label, String.append_assoc]

/-- A run announces each section that it prints. -/
theorem line_renderingEvent (plan : Plan) (kind : Section) :
    (renderingEvent plan kind).line =
      "DEBUG Rendering " ++ kind.label ++ " for arities " ++
        (plan.first.text ++ "..=" ++ plan.last.text) := by
  rw [Trace.Event.line_of_isPrintable (isPrintable_renderingEvent plan kind)]
  have hfront : "DEBUG Rendering " = "DEBUG" ++ " " ++ "Rendering " := rfl
  rw [hfront]
  simp only [renderingEvent, Trace.Level.label, String.append_assoc]

section OfPlan

variable {line : CommandLine} {settings : Settings} {plan : Plan}
  (hplan : line.plan settings = .ok plan)
include hplan

/-- The number that is announced is that of the sections that are asked for. -/
theorem line_generatingEvent_of_plan :
    (generatingEvent plan).line =
      "INFO Generating " ++ toString (line.kinds settings).length ++ " section(s) for arities " ++
        line.rangeText := by
  rw [line_generatingEvent, CommandLine.sections_of_plan hplan,
    CommandLine.rangeText_of_plan hplan]

/-- The range that is announced is the one that is asked for. -/
theorem line_renderingEvent_of_plan (kind : Section) :
    (renderingEvent plan kind).line =
      "DEBUG Rendering " ++ kind.label ++ " for arities " ++ line.rangeText := by
  rw [line_renderingEvent, CommandLine.rangeText_of_plan hplan]

end OfPlan

/-- Before the making of a plan nothing is announced. -/
theorem filter_line_loadingEvents {line : CommandLine} {front : String}
    (hfront : front = "INFO Generating " ∨ front = "DEBUG Rendering ") :
    ((loadingEvents line).map Trace.Event.line).filter (·.startsWith front) = [] := by
  have hother : ∀ {other text : String}, other.toList <+: text.toList →
      other = "DEBUG CLI config: " ∨ other = "INFO Loading generator defaults from: " →
        text.startsWith front = false := by
    intro other text htext hother
    rcases hfront with rfl | rfl <;> rcases hother with rfl | rfl <;>
      exact startsWith_eq_false htext (by decide) (by decide)
  rw [List.filter_eq_nil_iff, List.forall_mem_map]
  intro event hevent
  rw [Bool.not_eq_true]
  rcases mem_loadingEvents.mp hevent with rfl | ⟨path, -, rfl⟩
  · exact hother (Trace.Event.isPrefix_line_append .debug "field_ladder"
      (by decide : IsPrintable "CLI config: ") line.describe) (.inl rfl)
  · exact hother (Trace.Event.isPrefix_line_append .info "field_ladder"
      (by decide : IsPrintable "Loading generator defaults from: ") path) (.inr rfl)

/-- The events of a run that prints a plan and does not fail. -/
def printedEvents (line : CommandLine) (plan : Plan) : List Trace.Event :=
  loadingEvents line ++ generatingEvent plan :: plan.printed.map (renderingEvent plan)

/-- The number of sections is announced once, and each section that is printed is announced. -/
theorem filter_line_printedEvents (line : CommandLine) (plan : Plan) :
    ((printedEvents line plan).map Trace.Event.line).filter (·.startsWith "INFO Generating ") =
        [(generatingEvent plan).line] ∧
      ((printedEvents line plan).map Trace.Event.line).filter (·.startsWith "DEBUG Rendering ") =
        plan.printed.map fun kind => (renderingEvent plan kind).line := by
  have hgenerating : "INFO Generating ".toList <+: (generatingEvent plan).line.toList := by
    simp [line_generatingEvent]
  have hrendering : ∀ kind,
      "DEBUG Rendering ".toList <+: (renderingEvent plan kind).line.toList := by
    intro kind
    simp [line_renderingEvent]
  unfold printedEvents
  simp only [List.map_append, List.filter_append, List.map_cons, List.map_map]
  constructor
  · have hnone : ∀ text ∈ plan.printed.map (Trace.Event.line ∘ renderingEvent plan),
        ¬text.startsWith "INFO Generating " = true := by
      rw [List.forall_mem_map]
      intro kind _
      rw [Bool.not_eq_true]
      exact startsWith_eq_false (hrendering kind) (by decide) (by decide)
    rw [filter_line_loadingEvents (.inl rfl), List.filter_cons,
      if_pos (String.startsWith_string_iff.mpr hgenerating), List.filter_eq_nil_iff.mpr hnone]
    rfl
  · have hall : ∀ text ∈ plan.printed.map (Trace.Event.line ∘ renderingEvent plan),
        text.startsWith "DEBUG Rendering " = true := by
      rw [List.forall_mem_map]
      intro kind _
      exact String.startsWith_string_iff.mpr (hrendering kind)
    have hskipped := startsWith_eq_false hgenerating
      (by decide : ¬"DEBUG Rendering ".toList <+: "INFO Generating ".toList) (by decide)
    rw [filter_line_loadingEvents (.inr rfl), List.filter_cons, hskipped,
      List.filter_eq_self.mpr hall]
    rfl

/-- A run that ends well has printed all of a well-formed plan. -/
theorem exists_plan_of_exitCode_eq_zero {words : FaultWords} {files : FileReader} {stdout : Sink}
    {line : CommandLine} (hexit : (ofCommandLine words files stdout line).exitCode = 0) :
    ∃ settings plan, line.settings files = .ok settings ∧ line.plan settings = .ok plan ∧
      plan.WellFormed ∧ (ofCommandLine words files stdout line).events = printedEvents line plan ∧
      (ofCommandLine words files stdout line).stdout.accepted =
        stdout.accepted ++ Sink.bytes plan.document := by
  have hcourse := course_ofCommandLine words files stdout line
  obtain ⟨settings, plan, hvalid, hsettings, hplan, hrun⟩ := hcourse.of_exitCode_eq_zero hexit
  have hwell := hvalid.wellFormed (CommandLine.valid_of_settings hsettings) hplan
  rw [hrun] at hexit ⊢
  have hfault := exitCode_printed_eq_zero_iff.mp hexit
  rw [printed_of_fault_none hfault]
  exact ⟨settings, plan, hsettings, hplan, hwell, rfl, (Plan.print_of_fault_none hfault).2⟩

end Run

namespace Program

/-! ## The whole program -/

/-- Of a run that ends well a log for debugging shows all events, and the output has taken the whole
document. -/
theorem log_run_of_exitCode_eq_zero {surroundings : Surroundings} {line : CommandLine}
    (hread : CommandLine.read surroundings.arguments = .ok line)
    (hdebug : surroundings.filter.EnablesDebug) (hexit : (run surroundings).exitCode = 0) :
    ∃ settings plan, line.settings surroundings.files = .ok settings ∧
      line.plan settings = .ok plan ∧ plan.WellFormed ∧
      (run surroundings).log = (Run.printedEvents line plan).map Trace.Event.line ∧
      (run surroundings).stdout.accepted =
        surroundings.stdout.accepted ++ Sink.bytes plan.document := by
  have hlog := log_run hread
  rw [Trace.Filter.logOf_of_enablesDebug hdebug Run.isOwn_of_mem] at hlog
  rw [run_of_read hread] at hexit hlog ⊢
  obtain ⟨settings, plan, hsettings, hplan, hwell, hevents, haccepted⟩ :=
    Run.exists_plan_of_exitCode_eq_zero hexit
  rw [hevents] at hlog
  exact ⟨settings, plan, hsettings, hplan, hwell, hlog, haccepted⟩

/-- A run that ends well, and whose log takes the events of the program up to those for debugging,
announces the sections that it prints.  The log says once how many sections are asked for and for
which arities, and after it comes one line for each section; the output has one header for each,
with the same labels in the same order.  This is the order of all sections, whatever the order in
which they are asked for, and the sections are those that are asked for, each once. -/
theorem announced_is_printed {surroundings : Surroundings}
    (hdebug : surroundings.filter.EnablesDebug) (hexit : (run surroundings).exitCode = 0) :
    ∃ line settings, CommandLine.read surroundings.arguments = .ok line ∧
      line.settings surroundings.files = .ok settings ∧
      let outcome := run surroundings
      let kinds := line.kinds settings
      let printed := Section.all.filter (· ∈ kinds)
      let generating :=
        "INFO Generating " ++ toString kinds.length ++ " section(s) for arities " ++ line.rangeText
      let rendering (kind : Section) :=
        "DEBUG Rendering " ++ kind.label ++ " for arities " ++ line.rangeText
      printed.Perm kinds ∧
      (∃ before, outcome.log = before ++ generating :: printed.map rendering) ∧
      outcome.log.filter (·.startsWith "INFO Generating ") = [generating] ∧
      outcome.log.filter (·.startsWith "DEBUG Rendering ") = printed.map rendering ∧
      ∃ text, outcome.stdout.accepted = surroundings.stdout.accepted ++ Sink.bytes text ∧
        (Text.lines text).filter Plan.isHeaderLike =
          printed.map fun kind =>
            Tone.heading.paint (line.colorEnabled settings) ("==== " ++ kind.label ++ " ====") := by
  cases hread : CommandLine.read surroundings.arguments with
  | error stop =>
    rw [Surroundings.filter, hread] at hdebug
    exact absurd hdebug Trace.Filter.not_enablesDebug_nil
  | ok line =>
    obtain ⟨settings, plan, hsettings, hplan, hwell, hlog, hstdout⟩ :=
      log_run_of_exitCode_eq_zero hread hdebug hexit
    obtain ⟨hgenerating, hrendering⟩ := Run.filter_line_printedEvents line plan
    refine ⟨line, settings, rfl, hsettings, ?_⟩
    intro outcome kinds printed generating rendering
    -- What is said of the command line is what its plan says.
    have hkinds : kinds = plan.sections := (CommandLine.sections_of_plan hplan).symm
    have hprinted : printed = plan.printed := by
      rw [Plan.printed, ← hkinds]
    have hannounced : (Run.generatingEvent plan).line = generating :=
      Run.line_generatingEvent_of_plan hplan
    have hbegun : (fun kind => (Run.renderingEvent plan kind).line) = rendering :=
      funext (Run.line_renderingEvent_of_plan hplan)
    have hlog : outcome.log = (Run.printedEvents line plan).map Trace.Event.line := hlog
    rw [hlog, hprinted, hkinds, ← hannounced, ← hbegun, ← CommandLine.color_of_plan hplan]
    refine ⟨hwell.printed_perm, ?_, hgenerating, hrendering, plan.document, hstdout,
      plan.filter_isHeaderLike⟩
    refine ⟨(Run.loadingEvents line).map Trace.Event.line, ?_⟩
    simp [Run.printedEvents, Function.comp_def]

/-- Of the three sections two are printed, in an order other than that of the flag, and so they are
announced. -/
theorem announced_is_printed_two :
    let surroundings : Surroundings :=
      { arguments := ["3", "--from=2", "--only=deserializer,accessor", "-v"]
        files := fun _ => .error "not found"
        words := fun _ => "invalid" }
    let outcome := run surroundings
    (surroundings.filter.EnablesDebug ∧ outcome.exitCode = 0) ∧
      outcome.log.filter (·.startsWith "INFO Generating ") =
        ["INFO Generating 2 section(s) for arities 2..=3"] ∧
      outcome.log.filter (·.startsWith "DEBUG Rendering ") =
        ["DEBUG Rendering nthPtr for arities 2..=3",
          "DEBUG Rendering deserialize for arities 2..=3"] ∧
      ∃ text, outcome.stdout.accepted = Sink.bytes text ∧
        (Text.lines text).filter Plan.isHeaderLike =
          ["\x1b[96m==== nthPtr ====\x1b[0m", "\x1b[96m==== deserialize ====\x1b[0m"] := by
  intro surroundings outcome
  have hread : CommandLine.read surroundings.arguments =
      .ok ⟨{ start := some 2, only := [.deserializer, .accessor], verbose := true }, 3⟩ := by
    decide +kernel
  have hdebug : surroundings.filter.EnablesDebug := Trace.Filter.enablesDebug_standard
  have hexit : outcome.exitCode = 0 := by decide +kernel
  obtain ⟨line, settings, hline, hsettings, -, -, hgenerating, hrendering, text, haccepted,
    hheaders⟩ := announced_is_printed hdebug hexit
  obtain rfl := Except.ok.inj (hread.symm.trans hline)
  obtain rfl : {} = settings := Except.ok.inj hsettings
  exact ⟨⟨hdebug, hexit⟩, hgenerating.trans (by decide +kernel),
    hrendering.trans (by decide +kernel), text, haccepted, hheaders.trans (by decide +kernel)⟩

end Program

end ArityLadder
