import ArityLadder.Proofs.CommandLine.Plans
import ArityLadder.Proofs.Text.Lines

/-!
# Faults of command lines

A command line is refused for its numbers or for what else it asks for.  Only its numbers
can keep it from having a plan, and they are blamed alike in both places.

Main results:

- Theorem `CommandLine.validate_eq`: the checks of a command line are those of its numbers
  and then those of its choices.
- Theorem `CommandLine.checkNumbers_eq_error_iff`: which numbers are refused, and what is
  blamed for it.
- Theorem `CommandLine.plan_eq_error_iff`: there is no plan exactly when the numbers are
  refused.
- Theorem `CommandLine.isPrintable_message`: what is said of a refused command line is
  printable.
-/

namespace ArityLadder

open Text

namespace CommandLine

/-! ## Two kinds of checks -/

/-- Accepts a command line whose numbers make up a range of arities. -/
def checkNumbers (line : CommandLine) : Except Rejection Unit := do
  let _ ← checkArity line.fieldCount
  if let some start := line.start then
    checkRange start line.fieldCount

/-- Accepts a command line whose list of sections and whose width are within their limits. -/
def checkChoices (line : CommandLine) : Except Rejection Unit := do
  if line.only ≠ [] then
    checkSections "--only" line.only
  if let some width := line.indentWidth then
    checkWidth "--indent-width" width

/-- The checks of a command line are those of its numbers and then those of its choices. -/
theorem validate_eq (line : CommandLine) :
    line.validate = line.checkNumbers >>= fun _ => line.checkChoices := by
  unfold validate checkNumbers checkChoices
  cases checkArity line.fieldCount with
  | error fault => rfl
  | ok arity =>
    cases line.start with
    | none => rfl
    | some start => rfl

/-- The numbers of a command line are refused for a field count below one, or else for a first arity
that does not lie between one and the field count. -/
theorem checkNumbers_eq_error_iff {line : CommandLine} {fault : Rejection} :
    line.checkNumbers = .error fault ↔
      (line.fieldCount.toInt < 1 ∧ fault = .arity line.fieldCount.toInt) ∨
      (1 ≤ line.fieldCount.toInt ∧ ∃ start ∈ line.start,
        (start.toInt < 1 ∨ line.fieldCount.toInt < start.toInt) ∧
          fault = .range start.toInt line.fieldCount.toInt) := by
  unfold checkNumbers
  rw [bind_eq_error_iff, checkArity_eq_error_iff, ← exists_checkArity_iff]
  apply or_congr Iff.rfl
  cases line.start with
  | none => simp [pure, Except.pure]
  | some start => simp [checkRange_eq_error_iff]

/-- What else a command line asks for is refused for its list of sections or for its width. -/
theorem checkChoices_eq_error {line : CommandLine} {fault : Rejection}
    (hchoices : line.checkChoices = .error fault) :
    checkSections "--only" line.only = .error fault ∨
      ∃ width ∈ line.indentWidth, checkWidth "--indent-width" width = .error fault := by
  unfold checkChoices at hchoices
  by_cases honly : line.only = []
  · cases hwidth : line.indentWidth with
    | none => simp [honly, hwidth, pure, Except.pure] at hchoices
    | some width =>
      simp only [honly, hwidth, ne_eq, not_true_eq_false, if_false] at hchoices
      exact .inr ⟨width, rfl, hchoices⟩
  · simp only [ne_eq, honly, not_false_eq_true, if_true] at hchoices
    rcases bind_eq_error_iff.mp hchoices with hsections | ⟨_, _, hrest⟩
    · exact .inl hsections
    · cases hwidth : line.indentWidth with
      | none => simp [hwidth, pure, Except.pure] at hrest
      | some width =>
        rw [hwidth] at hrest
        exact .inr ⟨width, rfl, hrest⟩

/-- What else a command line asks for is blamed as a setting. -/
theorem setting_of_checkChoices {line : CommandLine} {fault : Rejection}
    (hchoices : line.checkChoices = .error fault) : ∃ found, fault = .setting found := by
  rcases checkChoices_eq_error hchoices with hsections | ⟨width, -, hwidth⟩
  · rcases checkSections_eq_error_iff.mp hsections with ⟨-, rfl⟩ | ⟨kind, -, rfl⟩
    · exact ⟨_, rfl⟩
    · exact ⟨_, rfl⟩
  · obtain ⟨-, rfl⟩ := checkWidth_eq_error_iff.mp hwidth
    exact ⟨_, rfl⟩

/-- A command line is refused and a number blamed exactly when its numbers are refused. -/
theorem checkNumbers_eq_error_iff_validate {line : CommandLine} {fault : Rejection} :
    line.checkNumbers = .error fault ↔ line.validate = .error fault ∧
      ((∃ value, fault = .arity value) ∨ ∃ first last, fault = .range first last) := by
  rw [validate_eq, bind_eq_error_iff]
  constructor
  · intro hnumbers
    refine ⟨.inl hnumbers, ?_⟩
    rcases checkNumbers_eq_error_iff.mp hnumbers with ⟨-, hblame⟩ | ⟨-, start, -, -, hblame⟩
    · exact .inl ⟨_, hblame⟩
    · exact .inr ⟨_, _, hblame⟩
  · rintro ⟨hnumbers | ⟨_, -, hchoices⟩, hblame⟩
    · exact hnumbers
    · obtain ⟨found, rfl⟩ := setting_of_checkChoices hchoices
      rcases hblame with ⟨value, hvalue⟩ | ⟨first, last, hrange⟩
      · cases hvalue
      · cases hrange

/-! ## Plans and their faults -/

/-- Behind the check of a range its start is an arity, and a plan that ends where the range ends can
start there. -/
theorem exists_withRange {start fieldCount : Int64} (plan : Plan)
    (hlast : (plan.last.count : Int) = fieldCount.toInt)
    (hrange : checkRange start fieldCount = .ok ()) :
    ∃ first, checkArity start = .ok first ∧ plan.withRange first = .ok { plan with first } := by
  obtain ⟨hpos, hle⟩ := checkRange_eq_ok_iff.mp hrange
  obtain ⟨first, hfirst⟩ := exists_checkArity_iff.mpr hpos
  refine ⟨first, hfirst, Plan.withRange_eq_ok_iff.mpr ⟨?_, rfl⟩⟩
  have hcount := checkArity_eq_ok_iff.mp hfirst
  rw [Arity.le_def]
  omega

/-- There is no plan exactly when the numbers of the command line are refused, and the plan blames
what the check blames. -/
theorem plan_eq_error_iff {line : CommandLine} {settings : Settings} {fault : Rejection} :
    line.plan settings = .error fault ↔ line.checkNumbers = .error fault := by
  unfold CommandLine.plan checkNumbers
  rw [bind_eq_error_iff, bind_eq_error_iff]
  apply or_congr Iff.rfl
  apply exists_congr
  intro last
  apply and_congr_right
  intro hlast
  cases line.start with
  | none => simp [pure, Except.pure]
  | some start =>
    dsimp only
    rw [bind_eq_error_iff]
    constructor
    · rintro (hrange | ⟨_, hrange, hrest⟩)
      · exact hrange
      · -- Behind the check of the range nothing can fail.
        have hcount := checkArity_eq_ok_iff.mp hlast
        obtain ⟨first, hfirst, hplan⟩ := exists_withRange (line.planFor settings last) hcount hrange
        rw [bind_eq_error_iff, hfirst] at hrest
        rcases hrest with hnone | ⟨other, hother, hrest⟩
        · cases hnone
        · obtain rfl := Except.ok.inj hother
          rw [hplan] at hrest
          cases hrest
    · intro hrange
      exact .inl hrange

/-! ## What is said of a refused command line -/

/-- What is said of a refused list of sections is printable where its name is. -/
theorem isPrintable_checkSections {field : String} {kinds : List Section} {fault : Rejection}
    (hfield : IsPrintable field) (hfault : checkSections field kinds = .error fault)
    (words : FaultWords) : IsPrintable (fault.message words) := by
  rcases checkSections_eq_error_iff.mp hfault with ⟨-, rfl⟩ | ⟨kind, -, rfl⟩
  · unfold Rejection.message SettingFault.message
    simp only [isPrintable_append, hfield, true_and]
    decide +kernel
  · have hlabel : IsPrintable kind.label := by
      cases kind <;> decide
    unfold Rejection.message SettingFault.message
    simp only [isPrintable_append, hfield, hlabel, and_true, true_and]
    decide +kernel

/-- What is said of a refused width is printable where its name is. -/
theorem isPrintable_checkWidth {field : String} {width : UInt64} {fault : Rejection}
    (hfield : IsPrintable field) (hfault : checkWidth field width = .error fault)
    (words : FaultWords) : IsPrintable (fault.message words) := by
  obtain ⟨-, rfl⟩ := checkWidth_eq_error_iff.mp hfault
  have hwidth : IsPrintable (toString width.toNat) := isPrintable_repr width.toNat
  unfold Rejection.message SettingFault.message
  simp only [isPrintable_append, hfield, hwidth, and_true, true_and]
  decide +kernel

/-- What is said of refused numbers is printable. -/
theorem isPrintable_checkNumbers {line : CommandLine} {fault : Rejection}
    (hfault : line.checkNumbers = .error fault) (words : FaultWords) :
    IsPrintable (fault.message words) := by
  have hcount := isPrintable_toString_int line.fieldCount.toInt
  rcases checkNumbers_eq_error_iff.mp hfault with ⟨-, rfl⟩ | ⟨-, start, -, -, rfl⟩
  · unfold Rejection.message
    simp only [isPrintable_append, hcount, and_true]
    decide +kernel
  · have hstart := isPrintable_toString_int start.toInt
    unfold Rejection.message
    simp only [isPrintable_append, hcount, hstart, and_true]
    decide +kernel

/-- What is said of a refused command line is printable. -/
theorem isPrintable_message {line : CommandLine} {fault : Rejection}
    (hfault : line.validate = .error fault) (words : FaultWords) :
    IsPrintable (fault.message words) := by
  rw [validate_eq, bind_eq_error_iff] at hfault
  rcases hfault with hnumbers | ⟨_, -, hchoices⟩
  · exact isPrintable_checkNumbers hnumbers words
  · rcases checkChoices_eq_error hchoices with hsections | ⟨width, -, hwidth⟩
    · exact isPrintable_checkSections (by decide) hsections words
    · exact isPrintable_checkWidth (by decide) hwidth words

/-- What is said of a refused command line does not depend on how documents are spoken of. -/
theorem message_eq_of_validate {line : CommandLine} {fault : Rejection}
    (hfault : line.validate = .error fault) (words others : FaultWords) :
    fault.message words = fault.message others := by
  rw [validate_eq, bind_eq_error_iff] at hfault
  rcases hfault with hnumbers | ⟨_, -, hchoices⟩
  · rcases checkNumbers_eq_error_iff.mp hnumbers with ⟨-, rfl⟩ | ⟨-, start, -, -, rfl⟩
    · rfl
    · rfl
  · obtain ⟨found, rfl⟩ := setting_of_checkChoices hchoices
    rfl

end CommandLine

end ArityLadder
