import ArityLadder.Proofs.CommandLine.Faults
import ArityLadder.Proofs.Program.Runs

/-!
# From checks to plans

The limits of the numbers are looked at in several places: by the checks of a command
line, by the making of its plan, and twice more within it.  These places agree, so that
behind the checks a run always goes on to print.

Main result:

- Theorem `CommandLine.plan_agrees_with_checks`: a plan is refused as the checks refuse it
  for a number, and where the checks pass nothing is refused behind them.
-/

namespace ArityLadder

/-- Whatever the settings, there is no plan exactly when the checks refuse the command line for a
number, and then both blame the same number.  Within the making of a plan, nothing is refused behind
the check of the range: its start is an arity, and the plan can start there.  Where the checks pass,
there is a plan with all settings, and a run with these settings prints it. -/
theorem CommandLine.plan_agrees_with_checks (line : CommandLine) (settings : Settings) :
    (∀ fault, line.plan settings = .error fault ↔ line.validate = .error fault ∧
      ((∃ value, fault = .arity value) ∨ ∃ first last, fault = .range first last)) ∧
    (∀ start last, checkArity line.fieldCount = .ok last →
      checkRange start line.fieldCount = .ok () →
      ∃ first, checkArity start = .ok first ∧ (line.planFor settings last).withRange first =
        .ok { line.planFor settings last with first }) ∧
    (line.validate = .ok () → ∃ plan, line.plan settings = .ok plan ∧
      ∀ words files stdout, line.settings files = .ok settings →
        Run.ofCommandLine words files stdout line =
          Run.printed words stdout (Run.loadingEvents line) plan) := by
  refine ⟨?_, ?_, ?_⟩
  · intro fault
    rw [plan_eq_error_iff, checkNumbers_eq_error_iff_validate]
  · intro start last hlast hrange
    have hcount := checkArity_eq_ok_iff.mp hlast
    exact exists_withRange (line.planFor settings last) hcount hrange
  · intro hcheck
    obtain ⟨plan, hplan⟩ := (validate_eq_ok_iff.mp hcheck).exists_plan settings
    refine ⟨plan, hplan, ?_⟩
    intro words files stdout hsettings
    exact Run.ofCommandLine_of_plan hcheck hsettings hplan stdout

/-- A first arity behind the field count is blamed before a width of zero.  The largest field count
can be the first arity as well, and a file for it that sets nothing leads to a printed plan. -/
theorem CommandLine.plan_agrees_with_checks_cases :
    let behind : CommandLine := ⟨{ start := some 5, indentWidth := some 0 }, 2⟩
    let largest : CommandLine :=
      ⟨{ start := some 9223372036854775807, config := some "empty" }, 9223372036854775807⟩
    let words : FaultWords := fun _ => "invalid"
    (behind.plan {} = .error (.range 5 2) ∧ behind.validate = .error (.range 5 2)) ∧
    ∃ plan, largest.plan {} = .ok plan ∧
      Run.ofCommandLine words (fun _ => .ok "") {} largest =
        Run.printed words {} (Run.loadingEvents largest) plan := by
  intro behind largest words
  have hbehind := (behind.plan_agrees_with_checks {}).1 (.range 5 2)
  have hlargest := (largest.plan_agrees_with_checks {}).2.2
  have hrefused : behind.validate = .error (.range 5 2) := rfl
  obtain ⟨plan, hplan, hrun⟩ := hlargest (by decide +kernel)
  exact ⟨⟨hbehind.mpr ⟨hrefused, .inr ⟨5, 2, rfl⟩⟩, hrefused⟩, plan, hplan,
    hrun words (fun _ => .ok "") {} (by decide +kernel)⟩

end ArityLadder
