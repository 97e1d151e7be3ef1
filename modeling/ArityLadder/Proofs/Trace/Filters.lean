import ArityLadder.Program
import ArityLadder.Proofs.Text.Lines
import Mathlib.Data.List.TakeWhile

/-!
# Filters and the lines of the log

A filter may be given as a bare level by its name.  A line of the log begins with the
level of its event, so that the log under one bare level can be read off the log under
another one that allows more.

Main results:

- Theorem `Trace.Filter.read?_of_isName`: the name of a bare level, in letters of either
  case, is read as that level.
- Theorem `Trace.Level.ofLine?_line`: a line of the log shows the level of its event.
- Theorem `Trace.Filter.logOf_level`: the log under a bare level is made of the lines of the
  whole log that are at least as severe.
- Theorems `Trace.Filter.severe_of_standard`, `Trace.Filter.enablesDebug_of_isName` and
  `Trace.Filter.enablesDebug_standard`: what the standard filters and bare levels let through.
-/

namespace ArityLadder

/-! ## Letters -/

namespace Text

variable {c : Char}

/-- The codes of the letters. -/
theorem toNat_of_isAlpha (halpha : c.isAlpha = true) :
    (65 ≤ c.toNat ∧ c.toNat ≤ 90) ∨ (97 ≤ c.toNat ∧ c.toNat ≤ 122) := by
  rcases Bool.or_eq_true_iff.mp halpha with hupper | hlower
  · have hrange : 'A'.val ≤ c.val ∧ c.val ≤ 'Z'.val := of_decide_eq_true hupper
    exact .inl ⟨UInt32.le_iff_toNat_le.mp hrange.1, UInt32.le_iff_toNat_le.mp hrange.2⟩
  · obtain ⟨hlow, hhigh⟩ := Bool.and_eq_true_iff.mp hlower
    exact .inr ⟨UInt32.le_iff_toNat_le.mp (of_decide_eq_true hlow),
      UInt32.le_iff_toNat_le.mp (of_decide_eq_true hhigh)⟩

/-- What becomes a capital letter is a letter. -/
theorem isAlpha_of_isUpper_toUpper (hupper : c.toUpper.isUpper = true) : c.isAlpha = true := by
  unfold Char.toUpper at hupper
  split at hupper
  next hsmall =>
    have hlower : c.isLower = true :=
      Bool.and_eq_true_iff.mpr ⟨decide_eq_true hsmall.1, decide_eq_true hsmall.2⟩
    exact Bool.or_eq_true_iff.mpr (.inr hlower)
  next => exact Bool.or_eq_true_iff.mpr (.inl hupper)

/-- A letter is no white space. -/
theorem isSpace_of_isAlpha (halpha : c.isAlpha = true) : isSpace c = false := by
  have hcode := toNat_of_isAlpha halpha
  simp only [isSpace, Bool.or_eq_false_iff, Bool.and_eq_false_iff, decide_eq_false_iff_not,
    beq_eq_false_iff_ne]
  omega

/-- A letter is no digit. -/
theorem isDigit_of_isAlpha (halpha : c.isAlpha = true) : c.isDigit = false := by
  have hcode := toNat_of_isAlpha halpha
  rw [← Bool.not_eq_true, Char.isDigit_iff_toNat]
  simp only [Char.reduceToNat]
  omega

/-- A text without white space has none at its ends. -/
theorem trim_eq_self {text : List Char} (htext : ∀ c ∈ text, isSpace c = false) :
    trim text = text := by
  have hfront : ∀ chars : List Char, (∀ c ∈ chars, isSpace c = false) →
      chars.dropWhile isSpace = chars := by
    intro chars hchars
    rw [List.dropWhile_eq_self_iff]
    intro hlength
    simp [hchars]
  unfold trim
  rw [hfront text htext, hfront text.reverse (by simpa using htext), List.reverse_reverse]

end Text

open Text

namespace Trace

/-! ## Bare levels -/

/-- The name of a bare level in capital letters; without a level nothing is allowed. -/
def bareName : Option Level → String
  | none => "OFF"
  | some level => level.label

/-- Whether a text names a bare level, in letters of either case. -/
def IsName (text : String) (level : Option Level) : Prop :=
  text.toList.map Char.toUpper = (bareName level).toList

instance (text : String) (level : Option Level) : Decidable (IsName text level) :=
  inferInstanceAs (Decidable (text.toList.map Char.toUpper = (bareName level).toList))

section Names

variable {text : String} {level : Option Level}

/-- The name of a bare level has letters only. -/
theorem IsName.isAlpha (hname : IsName text level) : ∀ c ∈ text.toList, c.isAlpha = true := by
  have hcapitals : (bareName level).toList.all Char.isUpper = true := by
    cases level with
    | none => decide
    | some level => cases level <;> decide
  intro c hc
  have hmem := List.mem_map_of_mem (f := Char.toUpper) hc
  rw [hname] at hmem
  exact Text.isAlpha_of_isUpper_toUpper (List.all_eq_true.mp hcapitals _ hmem)

/-- The name of a bare level begins with a letter. -/
theorem IsName.exists_cons (hname : IsName text level) :
    ∃ c rest, text.toList = c :: rest ∧ c.isAlpha = true := by
  cases htext : text.toList with
  | nil =>
    rw [IsName, htext] at hname
    cases level with
    | none => cases hname
    | some level => cases level <;> cases hname
  | cons c rest => exact ⟨c, rest, rfl, hname.isAlpha c (by simp [htext])⟩

/-- The word of a level is read as the level. -/
theorem readLevel?_of_isName (hname : IsName text level) :
    readLevel? text.toList = some level := by
  obtain ⟨c, rest, htext, halpha⟩ := hname.exists_cons
  have hnumeral : Decimal.readNat 18446744073709551615 text.toList = .error .invalidDigit := by
    have hplus : c ≠ '+' := by
      rintro rfl
      exact absurd halpha (by decide)
    rw [htext]
    simp [Decimal.readNat, hplus, Decimal.magnitude, Decimal.accumulate,
      Text.isDigit_of_isAlpha halpha]
  have hword : text.toList.map Char.toUpper = (bareName level).toList := hname
  unfold readLevel?
  rw [hnumeral, hword]
  cases level with
  | none => rfl
  | some level => cases level <;> rfl

/-- The word of a level is a directive for all targets. -/
theorem Directive.read?_of_isName (hname : IsName text level) :
    Directive.read? text.toList = some { level } := by
  have halpha := hname.isAlpha
  have hlevel := readLevel?_of_isName hname
  have htrimmed : Text.trim text.toList = text.toList :=
    Text.trim_eq_self fun c hc => Text.isSpace_of_isAlpha (halpha c hc)
  obtain ⟨c, rest, htext, hletter⟩ := hname.exists_cons
  have halphanumeric : Text.isAlphanumeric c = true :=
    Text.isAlphanumeric_of_isAlphanum (Bool.or_eq_true_iff.mpr (.inl hletter))
  have hbracket : c ≠ '[' := by
    rintro rfl
    exact absurd hletter (by decide)
  -- All of the word is its head: it has no level behind an equals sign, and no span.
  have hhead : rest.dropWhile (fun c => c != '=' && c != '[') = [] := by
    rw [List.dropWhile_eq_nil_iff]
    intro d hd
    have hd := halpha d (by simp [htext, hd])
    have hequals : d ≠ '=' := by
      rintro rfl
      exact absurd hd (by decide)
    have hopen : d ≠ '[' := by
      rintro rfl
      exact absurd hd (by decide)
    simp [hequals, hopen]
  unfold read?
  rw [htrimmed, hlevel, htext]
  simp [halphanumeric, hhead]

/-- The name of a bare level is read as that level. -/
theorem Filter.read?_of_isName (hname : IsName text level) :
    Filter.read? text = some [{ level }] := by
  have hcomma : ',' ∉ text.toList := fun hmem => absurd (hname.isAlpha _ hmem) (by decide)
  have hne : text.toList ≠ [] := by
    obtain ⟨c, rest, htext, -⟩ := hname.exists_cons
    simp [htext]
  unfold Filter.read?
  rw [List.splitOn_eq_singleton hcomma]
  simp [hne, Directive.read?_of_isName hname]

end Names

/-! ## Deciding -/

/-- Whether a target is the program or a part of it. -/
def IsOwnTarget (target : String) : Prop :=
  target = "field_ladder" ∨ "field_ladder::".toList <+: target.toList

/-- The name of the program stands in front of its targets. -/
theorem IsOwnTarget.isPrefix {target : String} (htarget : IsOwnTarget target) :
    "field_ladder".toList <+: target.toList := by
  rcases htarget with rfl | hpart
  · exact List.prefix_refl _
  · have hname : "field_ladder".toList <+: "field_ladder::".toList := by decide
    exact hname.trans hpart

namespace Filter

/-- A bare level allows the events that are at least as severe, and no level allows none. -/
theorem allows_bare (level : Option Level) (event : Event) :
    Filter.allows [{ level }] event = level.any (event.level.rank ≤ ·.rank) := by
  cases level with
  | none => simp [allows, deciding?, Directive.appliesTo]
  | some level => simp [allows_level]

/-- A filter by the name of a bare level is that level, whether the program is to be talkative or
not. -/
theorem ofSetting_of_isName {name : String} {level : Option Level} (hname : IsName name level)
    (verbose : Bool) : ofSetting (some name) verbose = [{ level }] := by
  simp [ofSetting, read?_of_isName hname]

/-- Whether a filter lets through all events of the program up to those for debugging. -/
def EnablesDebug (filter : Filter) : Prop :=
  ∀ event : Event, IsOwnTarget event.target →
    event.level.rank ≤ Level.debug.rank → filter.allows event = true

/-- Where the environment asks for nothing, only warnings and errors reach the log of a program that
is not to be talkative. -/
theorem severe_of_standard {event : Event} (hallows : (standard false).allows event = true) :
    event.level.rank ≤ Level.warn.rank := by
  unfold standard allows deciding? at hallows
  simp only [Bool.false_eq_true, if_false, List.foldl_cons, List.foldl_nil] at hallows
  split at hallows
  next level hlevel =>
    split at hlevel
    · injection hlevel with hlevel
      simpa [← hlevel] using hallows
    · cases hlevel
  next => cases hallows

/-- The name of a level for debugging, or of a more talkative one, lets all these events through. -/
theorem enablesDebug_of_isName {name : String} {level : Level} (hname : IsName name (some level))
    (hlevel : Level.debug.rank ≤ level.rank) (verbose : Bool) :
    (ofSetting (some name) verbose).EnablesDebug := by
  intro event _ hdebug
  rw [ofSetting_of_isName hname, allows_level, decide_eq_true_iff]
  exact hdebug.trans hlevel

/-- Where the environment asks for nothing, a talkative program reports all up to what is for
debugging. -/
theorem enablesDebug_standard : (standard true).EnablesDebug := by
  intro event htarget hlevel
  have happlies :
      Directive.appliesTo { target := "field_ladder", level := some .debug } event = true := by
    simpa [Directive.appliesTo] using htarget.isPrefix
  have hexact : Directive.isAsExactAs { level := some .info }
      { target := "field_ladder", level := some .debug } = false := by decide
  have hdeciding : (standard true).deciding? event =
      some { target := "field_ladder", level := some .debug } := by
    simp [standard, deciding?, happlies, hexact]
  simp only [allows, hdeciding, Option.bind_some, hlevel, decide_true]

end Filter

/-! ## Lines of the log -/

namespace Event

/-- The line of an event in the log: the first one of its entry. -/
def line (event : Event) : String :=
  String.ofList (event.entry.toList.takeWhile (· ≠ '\n'))

/-- A printable text is shown as it is. -/
theorem flatMap_showChar {text : String} (htext : IsPrintable text) :
    text.toList.flatMap showChar = text.toList := by
  have hchar : ∀ c ∈ text.toList, showChar c = [c] := by
    intro c hc
    have hcode := htext c hc
    have hplain : ∀ d : Char, d.toNat < 32 ∨ 126 < d.toNat → c ≠ d := by
      rintro d hd rfl
      omega
    unfold showChar
    simp only [hplain '\x1b' (by decide), hplain '\x07' (by decide), hplain '\x08' (by decide),
      hplain '\x0c' (by decide), hplain '\x7f' (by decide), if_false, ite_eq_right_iff]
    omega
  rw [List.flatMap_def, List.map_congr_left hchar, ← List.flatMap_def, List.flatMap_singleton']

/-- The front of an entry that is a line is the front of the line of its event. -/
theorem isPrefix_line {event : Event} {front : String} (hfront : IsLine front)
    (hentry : front.toList <+: event.entry.toList) : front.toList <+: event.line.toList := by
  obtain ⟨rest, hrest⟩ := hentry
  have hall : ∀ c ∈ front.toList, decide (c ≠ '\n') = true := by
    intro c hc
    rw [decide_eq_true_iff]
    rintro rfl
    exact hfront hc
  unfold line
  rw [String.toList_ofList, ← hrest, List.takeWhile_append_of_pos hall]
  exact List.prefix_append _ _

/-- The label of a level in front of a printable text is printable. -/
theorem isPrintable_label_append (level : Level) {text : String} (htext : IsPrintable text) :
    IsPrintable (level.label ++ " " ++ text) := by
  have hlabel : IsPrintable (level.label ++ " ") := by
    cases level <;> decide
  exact isPrintable_append.mpr ⟨hlabel, htext⟩

/-- An event begins its line with the label of its level, and then with the printable front of its
message. -/
theorem isPrefix_line_append (level : Level) (target : String) {front : String}
    (hfront : IsPrintable front) (rest : String) :
    (level.label ++ " " ++ front).toList <+: (mk level target (front ++ rest)).line.toList := by
  apply isPrefix_line (isPrintable_label_append level hfront).isLine
  unfold entry
  simp only [String.toList_append, String.toList_ofList, List.flatMap_append,
    flatMap_showChar hfront, ← List.append_assoc]
  exact List.prefix_append _ _

/-- The line of an event with a printable message is its label and its message. -/
theorem line_of_isPrintable {event : Event} (hmessage : IsPrintable event.message) :
    event.line = event.level.label ++ " " ++ event.message := by
  have hentry : event.entry = event.level.label ++ " " ++ event.message := by
    unfold entry
    rw [flatMap_showChar hmessage, String.ofList_toList]
  have hline := (isPrintable_label_append event.level hmessage).isLine
  have hwhole : event.entry.toList.takeWhile (· ≠ '\n') = event.entry.toList := by
    rw [List.takeWhile_eq_self_iff, hentry]
    intro c hc
    rw [decide_eq_true_iff]
    rintro rfl
    exact hline hc
  rw [line, hwhole, String.ofList_toList, hentry]

end Event

namespace Level

/-- The level that a line of the log shows. -/
def ofLine? (line : String) : Option Level :=
  all.find? fun level => line.startsWith (level.label ++ " ")

/-- No label is the front of another one. -/
theorem not_isPrefix_label {level other : Level} (hne : level ≠ other) :
    ¬(level.label ++ " ").toList <+: (other.label ++ " ").toList := by
  cases level <;> cases other <;> first | exact absurd rfl hne | decide

/-- A line of the log shows the level of its event. -/
theorem ofLine?_line (event : Event) : ofLine? event.line = some event.level := by
  have hline : (event.level.label ++ " ").toList <+: event.line.toList := by
    simpa using Event.isPrefix_line_append event.level event.target (by decide : IsPrintable "")
      event.message
  have hfind : ∀ level : Level, event.line.startsWith (level.label ++ " ") =
      decide (level = event.level) := by
    intro level
    by_cases hlevel : level = event.level
    · rw [hlevel, decide_eq_true rfl, String.startsWith_string_iff]
      exact hline
    · rw [decide_eq_false hlevel]
      exact startsWith_eq_false hline (not_isPrefix_label hlevel)
        (not_isPrefix_label (Ne.symm hlevel))
  unfold ofLine?
  simp only [hfind]
  cases event.level <;> rfl

end Level

namespace Filter

/-- The log that a filter lets through of some events, line by line. -/
def logOf (filter : Filter) (events : List Event) : List String :=
  (events.filter filter.allows).map Event.line

/-- Whether a line of the log is at least as severe as a bare level. -/
def isLineWithin (level : Option Level) (line : String) : Bool :=
  (Level.ofLine? line).any fun shown => level.any (shown.rank ≤ ·.rank)

/-- The log under a bare level is made of the lines of the whole log that are at least as
severe. -/
theorem logOf_level (level : Option Level) (events : List Event) :
    logOf [{ level }] events =
      (logOf [{ level := some .trace }] events).filter (isLineWithin level) := by
  have hwhole : events.filter (Filter.allows [{ level := some .trace }]) = events := by
    rw [List.filter_eq_self]
    intro event hevent
    simp [allows_bare, Level.le_trace]
  have hwithin : isLineWithin level ∘ Event.line = Filter.allows [{ level }] := by
    funext event
    simp [isLineWithin, Level.ofLine?_line, allows_bare]
  unfold logOf
  rw [hwhole, List.filter_map, hwithin]

/-- The log of an observed run is what the filter lets through of its events. -/
theorem log_observed (filter : Filter) (run : Run) :
    (Program.observed filter run).log = filter.logOf run.events := by
  simp [Outcome.log, Program.observed, logOf, Event.line, Function.comp_def]

end Filter

end Trace

end ArityLadder
