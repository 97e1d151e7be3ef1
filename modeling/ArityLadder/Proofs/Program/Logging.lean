import ArityLadder.Directory
import ArityLadder.Proofs.Program.Events
import ArityLadder.Proofs.Program.Runs
import ArityLadder.Proofs.Trace.Filters

/-!
# Runs with and without a log

Whether a run is talkative, and which log the environment asks for, changes nothing that
the run does.  Beside the log it changes what stands on standard error in one case only:
where the log shows that a settings file is loaded whose path has several lines.

Main results:

- Theorem `Run.isOwn_of_mem`: every event of a run is one of the program, for information
  or for debugging.
- Theorem `Run.unreported_ofCommandLine`: what a run does apart from its events does not
  depend on its being talkative.
- Theorem `Program.stderr_run`: what stands beside the log.
- Theorem `Program.logging_is_silent`: what the log does to a run, and what is in it.
- Theorem `Program.stderr_depends_on_filter`: a path of two lines shows beside the log or
  not, as the environment asks.
-/

namespace ArityLadder

open Text

namespace Run

/-! ## Events of a run -/

/-- An event of the program, for information or for debugging. -/
structure IsOwn (event : Trace.Event) : Prop where
  target : Trace.IsOwnTarget event.target
  info_le : Trace.Level.info.rank ≤ event.level.rank
  le_debug : event.level.rank ≤ Trace.Level.debug.rank

/-- The events of the course of the program are its own. -/
theorem isOwn_event {level : Trace.Level} (message : String)
    (hinfo : Trace.Level.info.rank ≤ level.rank) (hdebug : level.rank ≤ Trace.Level.debug.rank) :
    IsOwn (event level message) where
  target := .inl rfl
  info_le := hinfo
  le_debug := hdebug

/-- The events of the sections are its own. -/
theorem isOwn_renderingEvent (plan : Plan) (kind : Section) : IsOwn (renderingEvent plan kind) where
  target := .inr (by decide : "field_ladder::".toList <+: "field_ladder::core::ladder".toList)
  info_le := (by decide : Trace.Level.info.rank ≤ Trace.Level.debug.rank)
  le_debug := Nat.le_refl _

/-- The events up to the making of a plan are its own. -/
theorem isOwn_of_mem_loadingEvents {line : CommandLine} :
    ∀ event ∈ loadingEvents line, IsOwn event := by
  intro event hevent
  rcases mem_loadingEvents.mp hevent with rfl | ⟨path, -, rfl⟩
  · exact isOwn_event _ (by decide) (by decide)
  · exact isOwn_event _ (by decide) (by decide)

/-- A run that is rejected reports its own events where it did so before. -/
theorem isOwn_of_mem_rejected {words : FaultWords} {stdout : Sink} {events : List Trace.Event}
    {color : Bool} {fault : Rejection} (hevents : ∀ event ∈ events, IsOwn event) :
    ∀ event ∈ (rejected words stdout events color fault).events, IsOwn event := by
  unfold rejected
  simp only [List.forall_mem_append, List.forall_mem_cons, List.not_mem_nil, false_implies,
    implies_true, and_true]
  exact ⟨hevents, isOwn_event _ (by decide) (by decide), isOwn_event _ (by decide) (by decide)⟩

/-- Neither does a run that prints report other events. -/
theorem isOwn_of_mem_printed {words : FaultWords} {stdout : Sink} {events : List Trace.Event}
    {plan : Plan} (hevents : ∀ event ∈ events, IsOwn event) :
    ∀ event ∈ (printed words stdout events plan).events, IsOwn event := by
  have hprinting : ∀ event ∈ events ++ generatingEvent plan ::
      (plan.print stdout).begun.map (renderingEvent plan), IsOwn event := by
    simp only [List.forall_mem_append, List.forall_mem_cons, List.forall_mem_map]
    exact ⟨hevents, isOwn_event _ (by decide) (by decide),
      fun kind _ => isOwn_renderingEvent plan kind⟩
  unfold printed
  dsimp only
  cases (plan.print stdout).fault with
  | none => exact hprinting
  | some fault => exact isOwn_of_mem_rejected hprinting

/-- Every event of a run is one of the program. -/
theorem isOwn_of_mem {words : FaultWords} {files : FileReader} {stdout : Sink} {line : CommandLine} :
    ∀ event ∈ (ofCommandLine words files stdout line).events, IsOwn event := by
  have hcourse := course_ofCommandLine words files stdout line
  generalize ofCommandLine words files stdout line = run at hcourse ⊢
  cases hcourse with
  | refused fault hfault =>
    have hstarting : IsOwn (startingEvent line) := isOwn_event _ (by decide) (by decide)
    exact isOwn_of_mem_rejected (by simpa using hstarting)
  | unloaded path fault hvalid hpath hfault => exact isOwn_of_mem_loadingEvents
  | printed settings plan hvalid hsettings hplan =>
    exact isOwn_of_mem_printed isOwn_of_mem_loadingEvents

/-! ## What a run does apart from its events -/

/-- A run without its events. -/
def unreported (run : Run) : Run := { run with events := [] }

/-- Runs that do the same apart from their events end alike. -/
theorem eq_of_unreported_eq {run other : Run} (heq : run.unreported = other.unreported) :
    run.exitCode = other.exitCode ∧ run.stdout = other.stdout ∧ run.report = other.report := by
  simp only [unreported, Run.mk.injEq, and_true] at heq
  exact heq

/-- A rejection does the same behind other events. -/
theorem unreported_rejected (words : FaultWords) (stdout : Sink) (events others : List Trace.Event)
    (color : Bool) (fault : Rejection) :
    (rejected words stdout events color fault).unreported =
      (rejected words stdout others color fault).unreported :=
  rfl

/-- A settings file that cannot be loaded does the same behind other events. -/
theorem unreported_unloaded (words : FaultWords) (stdout : Sink) (events others : List Trace.Event)
    (path : String) (fault : Rejection) :
    (unloaded words stdout events path fault).unreported =
      (unloaded words stdout others path fault).unreported :=
  rfl

/-- The printing of a plan does the same behind other events. -/
theorem unreported_printed (words : FaultWords) (stdout : Sink) (events others : List Trace.Event)
    (plan : Plan) :
    (printed words stdout events plan).unreported =
      (printed words stdout others plan).unreported := by
  unfold printed
  dsimp only
  cases (plan.print stdout).fault with
  | none => rfl
  | some fault => exact unreported_rejected words _ _ _ false fault

/-- What a run does apart from its events does not depend on its being talkative. -/
theorem unreported_ofCommandLine (words : FaultWords) (files : FileReader) (stdout : Sink)
    (line : CommandLine) (verbose : Bool) :
    (ofCommandLine words files stdout { line with verbose }).unreported =
      (ofCommandLine words files stdout line).unreported := by
  have hcourse := course_ofCommandLine words files stdout line
  generalize ofCommandLine words files stdout line = run at hcourse ⊢
  cases hcourse with
  | refused fault hfault =>
    have hother : { line with verbose }.validate = .error fault := hfault
    rw [ofCommandLine_of_refused hother]
    exact unreported_rejected words stdout _ _ (!line.noColor) fault
  | unloaded path fault hvalid hpath hfault =>
    have hcheck := CommandLine.validate_eq_ok_iff.mpr hvalid
    have hother : { line with verbose }.validate = .ok () := hcheck
    rw [ofCommandLine_of_unloaded hother hpath hfault]
    exact unreported_unloaded words stdout _ _ path fault
  | printed settings plan hvalid hsettings hplan =>
    have hcheck := CommandLine.validate_eq_ok_iff.mpr hvalid
    have hother : { line with verbose }.validate = .ok () := hcheck
    have hplan' : { line with verbose }.plan settings = .ok plan := hplan
    rw [ofCommandLine_of_plan hother hsettings hplan']
    exact unreported_printed words stdout _ _ plan

end Run

/-! ## Arguments that differ in being talkative -/

namespace CommandLine

/-- What is asked for without being talkative. -/
def quiet (line : CommandLine) : CommandLine := { line with verbose := false }

/-- Arguments that ask for the same, or are refused for the same, whether talkative or not. -/
def AreAlike (arguments others : List String) : Prop :=
  (read arguments).map quiet = (read others).map quiet

/-- Arguments are like themselves. -/
theorem AreAlike.refl (arguments : List String) : AreAlike arguments arguments := rfl

variable {arguments others : List String}

/-- Arguments whose command lines differ in being talkative only are alike. -/
theorem areAlike_of_read {line : CommandLine} {verbose : Bool} (hread : read arguments = .ok line)
    (hothers : read others = .ok { line with verbose }) : AreAlike arguments others := by
  rw [AreAlike, hread, hothers]
  rfl

/-- Arguments that are alike are refused for the same, or their command lines differ in being
talkative only. -/
theorem AreAlike.refused_or_read (halike : AreAlike arguments others) :
    (∃ stop, read arguments = .error stop ∧ read others = .error stop) ∨
      ∃ line verbose, read arguments = .ok line ∧ read others = .ok { line with verbose } := by
  unfold AreAlike at halike
  cases hread : read arguments with
  | error stop =>
    cases hothers : read others with
    | error stop' =>
      rw [hread, hothers] at halike
      injection halike with hstop
      exact .inl ⟨stop, rfl, by rw [hstop]⟩
    | ok line' =>
      rw [hread, hothers] at halike
      cases halike
  | ok line =>
    cases hothers : read others with
    | error stop' =>
      rw [hread, hothers] at halike
      cases halike
    | ok line' =>
      rw [hread, hothers] at halike
      injection halike with hline
      have hrest : { line.quiet with verbose := line'.verbose } =
          { line'.quiet with verbose := line'.verbose } := by rw [hline]
      exact .inr ⟨line, line'.verbose, rfl, congrArg Except.ok hrest.symm⟩

end CommandLine

/-- The filter of a run; before the arguments are read nothing is reported. -/
def Surroundings.filter (surroundings : Surroundings) : Trace.Filter :=
  match CommandLine.read surroundings.arguments with
  | .error _ => []
  | .ok line => .ofSetting surroundings.logFilter line.verbose

/-! ## Beside the log -/

namespace Program

section WantedFile

variable {arguments : List String} {line : CommandLine}

/-- A run whose command line is refused wants no file. -/
theorem wantedFile?_of_refused {fault : Rejection} (hread : CommandLine.read arguments = .ok line)
    (hfault : line.validate = .error fault) : wantedFile? arguments = none := by
  rw [wantedFile?, hread]
  dsimp only
  rw [hfault]

/-- A run whose command line is accepted wants the file that it names. -/
theorem wantedFile?_of_valid (hread : CommandLine.read arguments = .ok line)
    (hvalid : line.Valid) : wantedFile? arguments = line.config := by
  rw [wantedFile?, hread]
  dsimp only
  rw [CommandLine.validate_eq_ok_iff.mpr hvalid]

end WantedFile

/-- Beside the log stands what the log leaves of the loading of a file, and then the report. -/
theorem stderr_run (surroundings : Surroundings) :
    (run surroundings).stderr =
      surroundings.filter.furtherLines
        ((wantedFile? surroundings.arguments).map Run.loadingEvent).toList ++
          (run surroundings).report := by
  cases hread : CommandLine.read surroundings.arguments with
  | error stop =>
    rw [run, Surroundings.filter, wantedFile?, hread]
    cases stop <;> rfl
  | ok line =>
    have hfilter : surroundings.filter = .ofSetting surroundings.logFilter line.verbose := by
      rw [Surroundings.filter, hread]
    rw [run_of_read hread, hfilter, Trace.Filter.stderr_observed]
    congr 1
    have hcourse :=
      Run.course_ofCommandLine surroundings.words surroundings.files surroundings.stdout line
    generalize Run.ofCommandLine surroundings.words surroundings.files surroundings.stdout line =
      run at hcourse ⊢
    cases hcourse with
    | refused fault hfault =>
      rw [wantedFile?_of_refused hread hfault, Run.furtherLines_rejected,
        Run.furtherLines_startingEvent]
      rfl
    | unloaded path fault hvalid hpath hfault =>
      rw [wantedFile?_of_valid hread hvalid]
      exact Run.furtherLines_loadingEvents _ line
    | printed settings plan hvalid hsettings hplan =>
      rw [wantedFile?_of_valid hread hvalid, Run.furtherLines_printed,
        Run.furtherLines_loadingEvents]

/-! ## Two runs -/

section Alike

variable {arguments others : List String}

/-- Arguments that are alike want the same file. -/
theorem wantedFile?_of_areAlike (halike : CommandLine.AreAlike arguments others) :
    wantedFile? arguments = wantedFile? others := by
  rcases halike.refused_or_read with ⟨stop, hread, hothers⟩ | ⟨line, verbose, hread, hothers⟩
  · rw [wantedFile?, wantedFile?, hread, hothers]
  · rw [wantedFile?, wantedFile?, hread, hothers]
    rfl

/-- Runs of arguments that are alike end alike, whatever the environment asks for. -/
theorem run_of_areAlike (halike : CommandLine.AreAlike arguments others) (files : FileReader)
    (words : FaultWords) (stdout : Sink) (setting setting' : Option String) :
    let outcome := run { arguments, files, words, logFilter := setting, stdout }
    let outcome' := run { arguments := others, files, words, logFilter := setting', stdout }
    outcome.exitCode = outcome'.exitCode ∧ outcome.stdout = outcome'.stdout ∧
      outcome.report = outcome'.report := by
  intro outcome outcome'
  rcases halike.refused_or_read with ⟨stop, hread, hothers⟩ | ⟨line, verbose, hread, hothers⟩
  · have heq : outcome = outcome' := by
      simp only [outcome, outcome', run, hread, hothers]
    rw [heq]
    exact ⟨rfl, rfl, rfl⟩
  · have hrun : outcome = observed (.ofSetting setting line.verbose)
        (.ofCommandLine words files stdout line) := run_of_read hread
    have hrun' : outcome' = observed (.ofSetting setting' verbose)
        (.ofCommandLine words files stdout { line with verbose }) := run_of_read hothers
    have hunreported := Run.unreported_ofCommandLine words files stdout line verbose
    rw [hrun, hrun']
    exact Run.eq_of_unreported_eq hunreported.symm

end Alike

/-! ## The whole program -/

/-- The log of a run is what its filter lets through of its events. -/
theorem log_run {surroundings : Surroundings} {line : CommandLine}
    (hread : CommandLine.read surroundings.arguments = .ok line) :
    (run surroundings).log =
      surroundings.filter.logOf
        (Run.ofCommandLine surroundings.words surroundings.files surroundings.stdout
          line).events := by
  rw [run_of_read hread, Surroundings.filter, hread]
  exact Trace.Filter.log_observed _ _

/-- Arguments that lead to no run have no log. -/
theorem log_run_of_stop {surroundings : Surroundings} {stop : Stop}
    (hread : CommandLine.read surroundings.arguments = .error stop) :
    (run surroundings).log = [] := by
  rw [run, hread]
  cases stop <;> rfl

/-- Under a bare level the log is made of the lines of the whole log that are at least as severe. -/
theorem log_run_of_isName (surroundings : Surroundings) {name most : String}
    {level : Option Trace.Level} (hname : Trace.IsName name level)
    (hmost : Trace.IsName most (some .trace)) :
    (run { surroundings with logFilter := some name }).log =
      (run { surroundings with logFilter := some most }).log.filter
        (Trace.Filter.isLineWithin level) := by
  cases hread : CommandLine.read surroundings.arguments with
  | error stop =>
    have hstopped : ∀ logFilter, (run { surroundings with logFilter }).log = [] :=
      fun _ => log_run_of_stop hread
    rw [hstopped, hstopped, List.filter_nil]
  | ok line =>
    have hlog : ∀ {text : String} {bare : Option Trace.Level}, Trace.IsName text bare →
        (run { surroundings with logFilter := some text }).log =
          Trace.Filter.logOf [{ level := bare }]
            (Run.ofCommandLine surroundings.words surroundings.files surroundings.stdout
              line).events := by
      intro text bare htext
      have hrun : run { surroundings with logFilter := some text } =
          observed (.ofSetting (some text) line.verbose)
            (.ofCommandLine surroundings.words surroundings.files surroundings.stdout line) :=
        run_of_read hread
      rw [hrun, Trace.Filter.ofSetting_of_isName htext, Trace.Filter.log_observed]
    rw [hlog hname, hlog hmost]
    exact Trace.Filter.logOf_level level _

/-- Where the environment asks for nothing, a run that is not talkative has no log. -/
theorem log_run_of_quiet {surroundings : Surroundings} (hsetting : surroundings.logFilter = none)
    (hquiet : ∀ line, CommandLine.read surroundings.arguments = .ok line → line.verbose = false) :
    (run surroundings).log = [] := by
  cases hread : CommandLine.read surroundings.arguments with
  | error stop => exact log_run_of_stop hread
  | ok line =>
    have hfilter : surroundings.filter = .standard false := by
      rw [Surroundings.filter, hread, hsetting, ← hquiet line hread]
      rfl
    rw [log_run hread, hfilter, Trace.Filter.logOf, List.map_eq_nil_iff, List.filter_eq_nil_iff]
    -- All events of a run are less severe than a warning.
    intro event hevent hallows
    have hsevere := Trace.Filter.severe_of_standard hallows
    have hinfo := (Run.isOwn_of_mem event hevent).info_le
    exact absurd (hinfo.trans hsevere) (by decide)

/-- Whatever the environment asks to be logged, and whether the arguments ask for a talkative run or
not, a run ends with the same exit code, the same output and the same report.  All that stands
beside the log is the same exactly when no file is wanted whose path has several lines and is shown
in one of the logs only.  Under a bare level the log is made of the lines of the whole log that are
at least as severe, in their order; and where nobody asks for a log there is none. -/
theorem logging_is_silent (files : FileReader) (words : FaultWords) (stdout : Sink) :
    (∀ {arguments others : List String}, CommandLine.AreAlike arguments others →
      ∀ setting setting' : Option String,
        let here : Surroundings := { arguments, files, words, logFilter := setting, stdout }
        let there : Surroundings :=
          { arguments := others, files, words, logFilter := setting', stdout }
        (run here).exitCode = (run there).exitCode ∧ (run here).stdout = (run there).stdout ∧
        (run here).report = (run there).report ∧
        ((run here).stderr = (run there).stderr ↔
          ∀ path ∈ wantedFile? arguments, IsLine path ∨
            here.filter.allows (Run.loadingEvent path) =
              there.filter.allows (Run.loadingEvent path))) ∧
    (∀ (arguments : List String) {name most : String} {level : Option Trace.Level},
      Trace.IsName name level → Trace.IsName most (some .trace) →
        (run { arguments, files, words, logFilter := some name, stdout }).log =
          (run { arguments, files, words, logFilter := some most, stdout }).log.filter
            (Trace.Filter.isLineWithin level)) ∧
    ∀ {arguments : List String},
      (∀ line, CommandLine.read arguments = .ok line → line.verbose = false) →
        (run { arguments, files, words, stdout }).log = [] := by
  refine ⟨?_, ?_, ?_⟩
  · intro arguments others halike setting setting' here there
    obtain ⟨hexit, hstdout, hreport⟩ := run_of_areAlike halike files words stdout setting setting'
    refine ⟨hexit, hstdout, hreport, ?_⟩
    have hhere : here.arguments = arguments := rfl
    have hthere : there.arguments = others := rfl
    rw [stderr_run, stderr_run, hhere, hthere, ← wantedFile?_of_areAlike halike, hreport,
      String.append_left_inj]
    cases wantedFile? arguments with
    | none => simp [Trace.Filter.furtherLines]
    | some path =>
      simpa using
        Trace.Filter.furtherLines_loadingEvent_eq_iff here.filter there.filter path
  · intro arguments name most level hname hmost
    exact log_run_of_isName { arguments, files, words, stdout } hname hmost
  · intro arguments hquiet
    exact log_run_of_quiet rfl hquiet

/-- A field count of zero is reported in the same way with and without a log, and its log has three
lines, none of them for information.  A path of two lines shows beside no log, and beside none where
only warnings are asked for. -/
theorem logging_is_silent_cases :
    let files : FileReader := fun _ => .error "not found"
    let words : FaultWords := fun _ => "invalid"
    let refused := run { arguments := ["0"], files, words }
    let talkative := run { arguments := ["0", "-v"], files, words, logFilter := some "trace" }
    let unloaded (logFilter : Option String) :=
      run { arguments := ["1", "--config=a\nb"], files, words, logFilter }
    (refused.exitCode = talkative.exitCode ∧ refused.stderr = talkative.stderr ∧
      refused.log = [] ∧ talkative.log.length = 3) ∧
    (run { arguments := ["0", "-v"], files, words, logFilter := some "Info" }).log =
      talkative.log.filter (Trace.Filter.isLineWithin (some .info)) ∧
    (unloaded none).stderr = (unloaded (some "warn")).stderr := by
  intro files words refused talkative unloaded
  obtain ⟨hsame, hlevel, hquiet⟩ := logging_is_silent files words {}
  have halike : CommandLine.AreAlike ["0"] ["0", "-v"] :=
    @CommandLine.areAlike_of_read ["0"] ["0", "-v"] { fieldCount := 0 } true rfl rfl
  obtain ⟨hexit, -, -, hstderr⟩ := hsame halike none (some "trace")
  have hread : CommandLine.read ["0"] = .ok { fieldCount := 0 } := rfl
  have hlog : refused.log = [] := hquiet (by simp [hread])
  refine ⟨⟨hexit, hstderr.mpr (by decide), hlog, by decide +kernel⟩, ?_, ?_⟩
  · exact hlevel ["0", "-v"] (by decide) (by decide)
  · obtain ⟨-, -, -, hbeside⟩ := hsame (.refl ["1", "--config=a\nb"]) none (some "warn")
    exact hbeside.mpr (by decide +kernel)

/-- A path of two lines leaves its second one beside the log where the log shows the loading of the
file, and nothing where it does not. -/
theorem stderr_depends_on_filter :
    let arguments := ["2", "--only=extractor", "--config=a\nb", "--no-color"]
    let files := (Directory.ofPaths [("a\nb", some [])]).read
    let words : FaultWords := fun _ => "invalid"
    (run { arguments, files, words, logFilter := some "info" }).stderr = "b\n" ∧
      (run { arguments, files, words }).stderr = "" := by
  decide +kernel

end Program

end ArityLadder
