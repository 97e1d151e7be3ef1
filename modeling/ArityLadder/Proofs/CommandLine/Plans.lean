import ArityLadder.CommandLine

/-!
# Plans of command lines

A command line that passes its checks has a plan with the settings of every file, and
what a file sets could as well have been asked for by flags.

Main results:

- Theorem `CommandLine.validate_eq_ok_iff`: a command line is accepted exactly when its
  numbers and lists are within their limits.
- Theorem `Settings.validate_eq_ok_iff`: so are settings.
- Theorem `CommandLine.plan_eq_ok_iff`: the plan of a command line goes from the arity
  of its first number to that of its field count.
- Theorem `CommandLine.exists_plan_withSettings`: the settings of a file are worth the
  flags that ask for the same.
-/

namespace ArityLadder

/-! ## Limits -/

/-- The numbers and the list of sections of a command line are within their limits. -/
structure CommandLine.Valid (line : CommandLine) : Prop where
  fieldCount : 1 ≤ line.fieldCount.toInt
  start : ∀ start ∈ line.start, 1 ≤ start.toInt ∧ start.toInt ≤ line.fieldCount.toInt
  only : line.only.Nodup
  indentWidth : ∀ width ∈ line.indentWidth, 1 ≤ width.toNat ∧ width.toNat ≤ 16

/-- A command line is accepted exactly when its numbers and lists are within their limits. -/
theorem CommandLine.validate_eq_ok_iff {line : CommandLine} :
    line.validate = .ok () ↔ line.Valid := by
  -- The checks that are made are those of the parts that are present.
  have hchecks : line.validate = .ok () ↔
      (∃ arity, checkArity line.fieldCount = .ok arity) ∧
      (∀ start ∈ line.start, checkRange start line.fieldCount = .ok ()) ∧
      (line.only ≠ [] → checkSections "--only" line.only = .ok ()) ∧
      ∀ width ∈ line.indentWidth, checkWidth "--indent-width" width = .ok () := by
    unfold validate
    rw [bind_eq_ok_iff]
    by_cases honly : line.only = []
    · cases line.start <;> cases line.indentWidth <;>
        simp [then_eq_ok_iff, honly, pure, Except.pure]
    · cases line.start <;> cases line.indentWidth <;>
        simp [then_eq_ok_iff, honly, pure, Except.pure]
  rw [hchecks, exists_checkArity_iff]
  simp only [checkRange_eq_ok_iff, checkSections_eq_ok_iff, checkWidth_eq_ok_iff]
  constructor
  · rintro ⟨hcount, hstart, honly, hwidth⟩
    refine ⟨hcount, hstart, ?_, hwidth⟩
    by_cases hempty : line.only = []
    · rw [hempty]
      exact List.nodup_nil
    · exact (honly hempty).2
  · intro hvalid
    exact ⟨hvalid.fieldCount, hvalid.start, fun hne => ⟨hne, hvalid.only⟩, hvalid.indentWidth⟩

/-- The width and the list of sections of settings are within their limits. -/
structure Settings.Valid (settings : Settings) : Prop where
  indentWidth : ∀ width ∈ settings.indentWidth?, 1 ≤ width.toNat ∧ width.toNat ≤ 16
  kinds : ∀ kinds ∈ settings.kinds?, kinds ≠ [] ∧ kinds.Nodup

/-- Settings are accepted exactly when their width and their list are within their limits. -/
theorem Settings.validate_eq_ok_iff {settings : Settings} :
    settings.validate = .ok () ↔ settings.Valid := by
  have hchecks : settings.validate = .ok () ↔
      (∀ width ∈ settings.indentWidth?, checkWidth "output.indent_width" width = .ok ()) ∧
      ∀ kinds ∈ settings.kinds?, checkSections "sections.kinds" kinds = .ok () := by
    unfold validate
    cases settings.indentWidth? <;> cases settings.kinds? <;>
      simp [then_eq_ok_iff, pure, Except.pure]
  rw [hchecks]
  simp only [checkWidth_eq_ok_iff, checkSections_eq_ok_iff]
  constructor
  · rintro ⟨hwidth, hkinds⟩
    exact ⟨hwidth, hkinds⟩
  · intro hvalid
    exact ⟨hvalid.indentWidth, hvalid.kinds⟩

namespace CommandLine

/-! ## The plan of a valid command line -/

/-- The number at which the arities of a command line start. -/
def startCount (line : CommandLine) : Int64 := line.start.getD line.fieldCount

/-- The plan of a command line goes from the arity of its first number to that of its field
count, and there is none where the first lies behind the last. -/
theorem plan_eq_ok_iff {line : CommandLine} {settings : Settings} {plan : Plan} :
    line.plan settings = .ok plan ↔ ∃ first last : Arity,
      (first.count : Int) = line.startCount.toInt ∧ (last.count : Int) = line.fieldCount.toInt ∧
        first ≤ last ∧ plan = { line.planFor settings last with first } := by
  unfold CommandLine.plan startCount
  rw [bind_eq_ok_iff]
  cases line.start with
  | none =>
    simp only [Option.getD_none, checkArity_eq_ok_iff]
    constructor
    · rintro ⟨last, hlast, hplan⟩
      injection hplan with hplan
      exact ⟨last, last, hlast, hlast, Nat.le_refl _, hplan.symm⟩
    · rintro ⟨first, last, hfirst, hlast, -, rfl⟩
      have hsame : first = last := by
        apply Arity.ext
        omega
      rw [hsame]
      exact ⟨last, hlast, rfl⟩
  | some start =>
    simp only [Option.getD_some, then_eq_ok_iff, checkArity_eq_ok_iff, checkRange_eq_ok_iff]
    simp only [bind_eq_ok_iff, checkArity_eq_ok_iff, Plan.withRange_eq_ok_iff]
    constructor
    · rintro ⟨last, hlast, -, first, hfirst, hle, rfl⟩
      exact ⟨first, last, hfirst, hlast, hle, rfl⟩
    · rintro ⟨first, last, hfirst, hlast, hle, rfl⟩
      have hpos := first.pos
      have hcounts := hle
      rw [Arity.le_def] at hcounts
      exact ⟨last, hlast, ⟨by omega, by omega⟩, first, hfirst, hle, rfl⟩

/-- A valid command line starts at an arity that does not lie behind that of its field count. -/
theorem Valid.exists_counts {line : CommandLine} (hvalid : line.Valid) :
    ∃ first last : Arity, (first.count : Int) = line.startCount.toInt ∧
      (last.count : Int) = line.fieldCount.toInt ∧ first ≤ last := by
  have hstart : 1 ≤ line.startCount.toInt ∧ line.startCount.toInt ≤ line.fieldCount.toInt := by
    unfold startCount
    cases hstart : line.start with
    | none => exact ⟨hvalid.fieldCount, Int.le_refl _⟩
    | some start => exact hvalid.start start hstart
  obtain ⟨first, hfirst⟩ := exists_checkArity_iff.mpr hstart.1
  obtain ⟨last, hlast⟩ := exists_checkArity_iff.mpr hvalid.fieldCount
  rw [checkArity_eq_ok_iff] at hfirst hlast
  refine ⟨first, last, hfirst, hlast, ?_⟩
  rw [Arity.le_def]
  omega

/-- A valid command line has a plan with all settings. -/
theorem Valid.exists_plan {line : CommandLine} (hvalid : line.Valid) (settings : Settings) :
    ∃ plan, line.plan settings = .ok plan := by
  obtain ⟨first, last, hfirst, hlast, hle⟩ := hvalid.exists_counts
  exact ⟨_, plan_eq_ok_iff.mpr ⟨first, last, hfirst, hlast, hle, rfl⟩⟩

/-- A plan prints the sections that its command line and settings ask for. -/
theorem sections_of_plan {line : CommandLine} {settings : Settings} {plan : Plan}
    (hplan : line.plan settings = .ok plan) : plan.sections = line.kinds settings := by
  obtain ⟨first, last, -, -, -, rfl⟩ := plan_eq_ok_iff.mp hplan
  rfl

/-- With valid settings a command line asks for some section. -/
theorem kinds_ne_nil (line : CommandLine) {settings : Settings} (hsettings : settings.Valid) :
    line.kinds settings ≠ [] := by
  unfold kinds
  by_cases honly : line.only = []
  · rw [if_pos honly]
    cases hkinds : settings.kinds? with
    | none => exact List.cons_ne_nil _ _
    | some kinds => exact (hsettings.kinds kinds hkinds).1
  · rwa [if_neg honly]

/-! ## Settings as flags -/

/-- The command line that asks by flags for all that the settings of a file set, where it leaves
the choice open. -/
def withSettings (line : CommandLine) (settings : Settings) : CommandLine :=
  { line with
    only := if line.only = [] then settings.kinds?.getD [] else line.only
    indent := line.indent.or settings.indent?
    indentWidth := line.indentWidth.or settings.indentWidth?
    noColor := line.noColor || settings.color? == some false }

/-- Flags that ask for what valid settings set are valid. -/
theorem Valid.withSettings {line : CommandLine} {settings : Settings} (hline : line.Valid)
    (hsettings : settings.Valid) : (line.withSettings settings).Valid := by
  refine ⟨hline.fieldCount, hline.start, ?_, ?_⟩
  · unfold CommandLine.withSettings
    by_cases honly : line.only = []
    · rw [if_pos honly]
      cases hkinds : settings.kinds? with
      | none => exact List.nodup_nil
      | some kinds => exact (hsettings.kinds kinds hkinds).2
    · rw [if_neg honly]
      exact hline.only
  · intro width hwidth
    cases hgiven : line.indentWidth with
    | none =>
      apply hsettings.indentWidth
      simpa [CommandLine.withSettings, hgiven] using hwidth
    | some given =>
      apply hline.indentWidth
      simpa [CommandLine.withSettings, hgiven] using hwidth

/-- The sections are the same whether a file or a flag lists them. -/
theorem kinds_withSettings (line : CommandLine) {settings : Settings}
    (hsettings : settings.Valid) : (line.withSettings settings).kinds {} = line.kinds settings := by
  unfold kinds withSettings
  by_cases honly : line.only = []
  · cases hkinds : settings.kinds? with
    | none =>
      simp only [honly, ↓reduceIte]
      rfl
    | some kinds =>
      -- A list of a file that is accepted is not empty, and so no choice that is left open.
      have hne := (hsettings.kinds kinds hkinds).1
      simp only [honly, ↓reduceIte, Option.getD_some, if_neg hne]
  · simp only [if_neg honly]

/-- Headers are painted or not whether a file or a flag says so. -/
theorem colorEnabled_withSettings (line : CommandLine) (settings : Settings) :
    (line.withSettings settings).colorEnabled {} = line.colorEnabled settings := by
  have hnone : ({} : Settings).color? = none := rfl
  unfold colorEnabled withSettings
  rw [hnone]
  cases line.noColor <;> rcases settings.color? with _ | _ | _ <;> rfl

/-- The plan for an arity is the same whether a file or flags ask for it. -/
theorem planFor_withSettings (line : CommandLine) {settings : Settings}
    (hsettings : settings.Valid) (arity : Arity) :
    (line.withSettings settings).planFor {} arity = line.planFor settings arity := by
  have hkinds := line.kinds_withSettings hsettings
  have hcolor := line.colorEnabled_withSettings settings
  have hstyle : (line.withSettings settings).indentStyle {} = line.indentStyle settings := by
    have hnone : ({} : Settings).indent? = none := rfl
    unfold indentStyle withSettings
    rw [hnone, Option.or_none]
  have hwidth : (line.withSettings settings).width {} = line.width settings := by
    have hnone : ({} : Settings).indentWidth? = none := rfl
    unfold width withSettings
    rw [hnone, Option.or_none]
  unfold planFor
  rw [hkinds, hcolor, hstyle, hwidth]

/-- The plan is the same whether a file or flags ask for it. -/
theorem plan_withSettings (line : CommandLine) {settings : Settings}
    (hsettings : settings.Valid) : (line.withSettings settings).plan {} = line.plan settings := by
  have hplanFor := funext (line.planFor_withSettings hsettings)
  unfold CommandLine.plan
  rw [hplanFor]
  rfl

/-- The settings of a file are worth the flags that ask for the same: these are accepted, and
both lead to one plan. -/
theorem exists_plan_withSettings {line : CommandLine} {settings : Settings}
    (hline : line.validate = .ok ()) (hsettings : settings.validate = .ok ()) :
    (line.withSettings settings).validate = .ok () ∧
      ∃ plan, (line.withSettings settings).plan {} = .ok plan ∧ line.plan settings = .ok plan := by
  rw [validate_eq_ok_iff] at hline ⊢
  rw [Settings.validate_eq_ok_iff] at hsettings
  refine ⟨hline.withSettings hsettings, ?_⟩
  obtain ⟨plan, hplan⟩ := hline.exists_plan settings
  refine ⟨plan, ?_, hplan⟩
  rw [line.plan_withSettings hsettings, hplan]

/-- A file that asks for spaces, for two sections out of order and for no color, beside a flag
for the width. -/
theorem exists_plan_withSettings_file :
    let line : CommandLine := ⟨{ start := some 2, indentWidth := some 16 }, 3⟩
    let settings : Settings :=
      ⟨some ⟨some .spaces, some 8, some false⟩, some ⟨some [.deserializer, .accessor]⟩⟩
    let flags : CommandLine :=
      ⟨⟨some 2, [.deserializer, .accessor], some .spaces, some 16, true, none, false⟩, 3⟩
    line.withSettings settings = flags ∧ flags.validate = .ok () ∧
      ∃ plan, flags.plan {} = .ok plan ∧ line.plan settings = .ok plan := by
  intro line settings flags
  have hflags : line.withSettings settings = flags := by decide
  have hplan := @exists_plan_withSettings line settings rfl rfl
  rw [hflags] at hplan
  exact ⟨hflags, hplan⟩

end CommandLine

end ArityLadder
