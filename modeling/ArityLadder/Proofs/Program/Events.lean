import ArityLadder.Program
import ArityLadder.Proofs.Text.Lines
import Mathlib.Data.List.TakeWhile

/-!
# Entries of the log

Which events take more than one line of the log.  Everything that a message says is
printable or between quotes, apart from the path of the settings file that is loaded, so
that only this path can leave further lines beside the log.

Main results:

- Theorem `Text.isLine_quoted`: a quoted text holds no line end.
- Theorem `Trace.Event.isLine_entry`: an entry is one line exactly when its message is.
- Theorem `Run.isLine_loadingEvent`: the event that a file is loaded is one line exactly
  when the path is.
- Theorem `Outcome.stderr_eq_empty_iff`: nothing stands beside the log exactly when there
  is no report and every entry is one line.
- Theorem `Trace.Filter.furtherLines_loadingEvent_eq_iff`: when two filters leave the same of
  the loading of a file.
- Theorems `Run.furtherLines_loadingEvents`, `Run.furtherLines_rejected` and
  `Run.furtherLines_printed`: of all events only the loading of a file leaves anything
  beside the log.
-/

namespace ArityLadder

/-! ## Parts of messages -/

namespace Text

/-- A hexadecimal numeral holds no line end. -/
theorem newline_notMem_toDigits (n : Nat) : '\n' ∉ Nat.toDigits 16 n := by
  have hdigit : ∀ m < 16, '\n' ≠ Nat.digitChar m := by decide
  induction n using Nat.strongRecOn with
  | ind n ih =>
    by_cases hsmall : n < 16
    · rw [Nat.toDigits_of_lt_base hsmall, List.mem_singleton]
      exact hdigit n hsmall
    · rw [Nat.toDigits_of_base_le (by decide) (by omega), List.mem_append, List.mem_singleton]
      rintro (hfront | hlast)
      · exact ih (n / 16) (by omega) hfront
      · exact hdigit (n % 16) (by omega) hlast

/-- The escape of a character holds no line end. -/
theorem newline_notMem_escape (c : Char) : '\n' ∉ escape c := by
  have hdigits := newline_notMem_toDigits c.toNat
  by_cases hnewline : c = '\n'
  · rw [hnewline]
    decide
  · -- Every other character is spelled without a line end, or is no line end itself.
    unfold escape positionEscape
    grind

/-- A quoted text holds no line end. -/
theorem isLine_quoted (text : String) : IsLine (quoted text) := by
  unfold quoted
  intro hmem
  rw [String.toList_ofList, List.mem_cons, List.mem_append] at hmem
  rcases hmem with hquote | hbody | hquote
  · exact absurd hquote (by decide)
  · obtain ⟨c, -, hc⟩ := List.mem_flatMap.mp hbody
    exact newline_notMem_escape c hc
  · exact absurd hquote (by decide)

/-- A decimal text is a line. -/
theorem isLine_toString_nat (n : Nat) : IsLine (toString n) := (isPrintable_repr n).isLine

/-- The decimal text of an integer is a line. -/
theorem isLine_toString_int (n : Int) : IsLine (toString n) := (isPrintable_toString_int n).isLine

end Text

open Text

/-- An optional value is a line where the value is. -/
theorem isLine_describeOption {α : Type} {describe : α → String}
    (hdescribe : ∀ a, IsLine (describe a)) (value : Option α) :
    IsLine (describeOption describe value) := by
  cases value with
  | none => exact (by decide : IsLine "None")
  | some a =>
    unfold describeOption
    simp only [isLine_append, hdescribe, and_true]
    decide

/-- Named fields that are lines make up a line. -/
theorem isLine_describeFields {name : String} {fields : List (String × String)}
    (hname : IsLine name) (hfields : ∀ field ∈ fields, IsLine field.1 ∧ IsLine field.2) :
    IsLine (describeFields name fields) := by
  unfold describeFields
  simp only [isLine_append]
  refine ⟨⟨⟨hname, by decide⟩, ?_⟩, by decide⟩
  apply isLine_intercalate (by decide)
  intro text htext
  obtain ⟨field, hfield, rfl⟩ := List.mem_map.mp htext
  obtain ⟨hkey, hvalue⟩ := hfields field hfield
  exact isLine_append.mpr ⟨isLine_append.mpr ⟨hkey, by decide⟩, hvalue⟩

/-- The description of a command line is a line, even where its path is not. -/
theorem CommandLine.isLine_describe (line : CommandLine) : IsLine line.describe := by
  have hsections : IsLine ("[" ++ ", ".intercalate (line.only.map Section.describe) ++ "]") := by
    have hjoined : IsLine (", ".intercalate (line.only.map Section.describe)) := by
      refine isLine_intercalate (by decide) ?_
      intro text htext
      obtain ⟨kind, -, rfl⟩ := List.mem_map.mp htext
      cases kind <;> decide
    simp only [isLine_append, hjoined, and_true]
    decide
  have hstyle : ∀ style : IndentStyle, IsLine style.describe := by
    intro style
    cases style <;> decide
  have hflag : ∀ flag : Bool, IsLine (toString flag) := by decide
  apply isLine_describeFields (by decide)
  simp only [List.forall_mem_cons, List.not_mem_nil, false_implies, implies_true, and_true,
    isLine_toString_int, isLine_describeOption, hsections, hstyle, hflag, isLine_quoted,
    isLine_toString_nat]
  -- The names of the fields are left, and these are evaluated.
  decide

/-- The description of a rejection is a line, even where its message is not. -/
theorem Rejection.isLine_describe (fault : Rejection) : IsLine fault.describe := by
  cases fault
  case arity | range | setting =>
    apply isLine_describeFields (by decide)
    simp only [List.forall_mem_cons, List.not_mem_nil, false_implies, implies_true, and_true,
      isLine_toString_int, isLine_quoted]
    decide
  case document cause =>
    unfold describe
    cases cause with
    | malformed => decide
    | mismatch cause =>
      simp only [isLine_append, isLine_quoted, and_true]
      decide
  case output reason =>
    unfold describe
    simp only [isLine_append, isLine_quoted, and_true]
    decide

/-- The advice on a rejection is a line. -/
theorem Rejection.isLine_advice (fault : Rejection) : IsLine fault.advice := by
  unfold advice
  split <;> decide

/-! ## Entries -/

namespace Trace.Event

/-- A line end is shown as it is, and nothing else is shown as one. -/
theorem newline_mem_showChar {c : Char} : '\n' ∈ showChar c ↔ c = '\n' := by
  have hdigits := newline_notMem_toDigits c.toNat
  by_cases hnewline : c = '\n'
  · rw [hnewline]
    decide
  · unfold showChar
    grind

/-- An entry is one line exactly when its message is. -/
theorem isLine_entry {event : Event} : IsLine event.entry ↔ IsLine event.message := by
  have hlabel : IsLine event.level.label := by
    cases event.level <;> decide
  have hblank : IsLine " " := by decide
  have hshown : IsLine (String.ofList (event.message.toList.flatMap showChar)) ↔
      IsLine event.message := by
    simp [IsLine, newline_mem_showChar]
  unfold entry
  simp only [isLine_append, hlabel, hblank, hshown, true_and]

end Trace.Event

namespace Run

/-- Up to the making of a plan a run reports its start, and the loading of the file that it
names. -/
theorem mem_loadingEvents {line : CommandLine} {event : Trace.Event} :
    event ∈ loadingEvents line ↔
      event = startingEvent line ∨ ∃ path ∈ line.config, event = loadingEvent path := by
  simp [loadingEvents, eq_comm]

/-- The event that a run starts is one line. -/
theorem isLine_startingEvent (line : CommandLine) : IsLine (startingEvent line).message := by
  have hlead : IsLine "CLI config: " := by decide
  exact isLine_append.mpr ⟨hlead, line.isLine_describe⟩

/-- The event that a file is loaded is one line exactly when the path is. -/
theorem isLine_loadingEvent {path : String} : IsLine (loadingEvent path).message ↔ IsLine path := by
  have hlead : IsLine "Loading generator defaults from: " := by decide
  exact isLine_append.trans (and_iff_right hlead)

/-- The event that a plan is printed has a printable message. -/
theorem isPrintable_generatingEvent (plan : Plan) : IsPrintable (generatingEvent plan).message := by
  have hcount := isPrintable_repr plan.sections.length
  have hfirst := isPrintable_repr plan.first.count
  have hlast := isPrintable_repr plan.last.count
  unfold generatingEvent event Arity.text
  simp only [Nat.toString_eq_repr, isPrintable_append, hcount, hfirst, hlast, and_true]
  decide

/-- The event that a section is printed has a printable message. -/
theorem isPrintable_renderingEvent (plan : Plan) (kind : Section) :
    IsPrintable (renderingEvent plan kind).message := by
  have hlabel : IsPrintable kind.label := by
    cases kind <;> decide
  have hfirst := isPrintable_repr plan.first.count
  have hlast := isPrintable_repr plan.last.count
  unfold renderingEvent Arity.text
  simp only [Nat.toString_eq_repr, isPrintable_append, hlabel, hfirst, hlast, and_true]
  decide

/-- The events that end a run by a rejection are one line each. -/
theorem isLine_rejectedEvent (fault : Rejection) :
    IsLine ("Rejected: " ++ fault.describe) ∧ IsLine ("Suggestion: " ++ fault.advice) := by
  have hrejected : IsLine "Rejected: " := by decide
  have hsuggestion : IsLine "Suggestion: " := by decide
  exact ⟨isLine_append.mpr ⟨hrejected, fault.isLine_describe⟩,
    isLine_append.mpr ⟨hsuggestion, fault.isLine_advice⟩⟩

end Run

/-! ## Beside the log -/

namespace Outcome

/-- An entry leaves nothing beside the log exactly when it is one line. -/
theorem furtherLines_eq_empty_iff {entry : String} : furtherLines entry = "" ↔ IsLine entry := by
  constructor
  · intro hempty hmem
    unfold furtherLines at hempty
    cases hdropped : entry.toList.dropWhile (· ≠ '\n') with
    | nil =>
      have hall := List.dropWhile_eq_nil_iff.mp hdropped '\n' hmem
      simp at hall
    | cons c rest =>
      rw [hdropped] at hempty
      simp at hempty
  · intro hline
    exact furtherLines_of_not_mem hline

/-- Entries leave nothing beside the log exactly when each is one line. -/
theorem join_furtherLines_eq_empty_iff {entries : List String} :
    String.join (entries.map furtherLines) = "" ↔ ∀ entry ∈ entries, IsLine entry := by
  rw [← String.toList_eq_nil_iff, String.toList_join, List.flatMap_eq_nil_iff]
  simp [furtherLines_eq_empty_iff]

/-- Nothing stands beside the log exactly when there is no report and every entry is one line. -/
theorem stderr_eq_empty_iff {outcome : Outcome} :
    outcome.stderr = "" ↔ outcome.report = "" ∧ ∀ entry ∈ outcome.entries, IsLine entry := by
  rw [stderr, String.append_eq_empty_iff, join_furtherLines_eq_empty_iff, and_comm]

end Outcome

namespace Trace.Filter

/-- What the events that a filter lets through leave beside the log. -/
def furtherLines (filter : Filter) (events : List Event) : String :=
  String.join (((events.filter filter.allows).map Event.entry).map Outcome.furtherLines)

/-- Beside the log stands what the events leave there, and then the report. -/
theorem stderr_observed (filter : Filter) (run : Run) :
    (Program.observed filter run).stderr = filter.furtherLines run.events ++ run.report :=
  rfl

/-- Events leave beside the log what each of them leaves, in turn. -/
theorem furtherLines_append (filter : Filter) (events more : List Event) :
    filter.furtherLines (events ++ more) =
      filter.furtherLines events ++ filter.furtherLines more := by
  simp [furtherLines, String.join_append]

/-- Events of one line leave nothing beside the log. -/
theorem furtherLines_of_isLine (filter : Filter) {events : List Event}
    (hevents : ∀ event ∈ events, IsLine event.message) : filter.furtherLines events = "" := by
  apply Outcome.join_furtherLines_eq_empty_iff.mpr
  rw [List.forall_mem_map]
  intro event hevent
  exact Event.isLine_entry.mpr (hevents event (List.mem_filter.mp hevent).1)

/-- One event leaves beside the log what its entry leaves, if it is let through. -/
theorem furtherLines_singleton (filter : Filter) (event : Event) :
    filter.furtherLines [event] =
      if filter.allows event then Outcome.furtherLines event.entry else "" := by
  unfold furtherLines
  by_cases hallows : filter.allows event = true
  · simp [hallows, String.join]
  · simp [hallows, String.join]

/-- The loading of a file leaves nothing beside the log exactly when its path is one line or is not
shown. -/
theorem furtherLines_loadingEvent_eq_empty_iff (filter : Filter) (path : String) :
    filter.furtherLines [Run.loadingEvent path] = "" ↔
      (filter.allows (Run.loadingEvent path) = true → IsLine path) := by
  rw [furtherLines_singleton, ← Run.isLine_loadingEvent, ← Event.isLine_entry,
    ← Outcome.furtherLines_eq_empty_iff]
  cases filter.allows (Run.loadingEvent path) <;> simp

/-- Two filters leave the same of the loading of a file exactly when its path is one line or both
decide alike on it. -/
theorem furtherLines_loadingEvent_eq_iff (filter other : Filter) (path : String) :
    filter.furtherLines [Run.loadingEvent path] = other.furtherLines [Run.loadingEvent path] ↔
      IsLine path ∨
        filter.allows (Run.loadingEvent path) = other.allows (Run.loadingEvent path) := by
  rw [furtherLines_singleton, furtherLines_singleton, ← Run.isLine_loadingEvent,
    ← Event.isLine_entry, ← Outcome.furtherLines_eq_empty_iff]
  cases filter.allows (Run.loadingEvent path) <;> cases other.allows (Run.loadingEvent path) <;>
    simp [eq_comm (a := "")]

end Trace.Filter

namespace Run

/-- The start of a run leaves nothing beside the log. -/
theorem furtherLines_startingEvent (filter : Trace.Filter) (line : CommandLine) :
    filter.furtherLines [startingEvent line] = "" :=
  filter.furtherLines_of_isLine (by simpa using isLine_startingEvent line)

/-- Beside the log, the events up to the making of a plan leave what the loading of a settings file
leaves. -/
theorem furtherLines_loadingEvents (filter : Trace.Filter) (line : CommandLine) :
    filter.furtherLines (loadingEvents line) =
      filter.furtherLines (line.config.map loadingEvent).toList := by
  rw [loadingEvents, ← List.singleton_append, filter.furtherLines_append,
    furtherLines_startingEvent, String.empty_append]

/-- The end of a run by a rejection leaves nothing more beside the log than its report. -/
theorem furtherLines_rejected (filter : Trace.Filter) (words : FaultWords) (stdout : Sink)
    (events : List Trace.Event) (color : Bool) (fault : Rejection) :
    filter.furtherLines (rejected words stdout events color fault).events =
      filter.furtherLines events := by
  have hended : filter.furtherLines [event .debug ("Rejected: " ++ fault.describe),
      event .debug ("Suggestion: " ++ fault.advice)] = "" :=
    filter.furtherLines_of_isLine (by simpa [event] using isLine_rejectedEvent fault)
  rw [rejected, filter.furtherLines_append, hended, String.append_empty]

/-- Neither does the printing of a plan. -/
theorem furtherLines_printed (filter : Trace.Filter) (words : FaultWords) (stdout : Sink)
    (events : List Trace.Event) (plan : Plan) :
    filter.furtherLines (printed words stdout events plan).events =
      filter.furtherLines events := by
  have hprinting : filter.furtherLines
      (generatingEvent plan :: (plan.print stdout).begun.map (renderingEvent plan)) = "" := by
    apply filter.furtherLines_of_isLine
    rw [List.forall_mem_cons, List.forall_mem_map]
    exact ⟨(isPrintable_generatingEvent plan).isLine,
      fun kind _ => (isPrintable_renderingEvent plan kind).isLine⟩
  unfold printed
  dsimp only
  cases (plan.print stdout).fault with
  | none => rw [filter.furtherLines_append, hprinting, String.append_empty]
  | some fault =>
    rw [furtherLines_rejected, filter.furtherLines_append, hprinting, String.append_empty]

end Run

end ArityLadder
