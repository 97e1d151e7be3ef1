import ArityLadder.Proofs.Plans.Ranges

/-!
# Starts of plans

A plan for a single arity can be started at other arities, time and again.  A start behind the
last arity is refused as the check of the range refuses it, and changes nothing; every other
one replaces the first arity, whatever that was.

Main results:

- Theorem `Plan.withRange_cases`: a start is accepted, or refused and blamed, as the check of
  the range says.
- Theorem `Plan.editedBy_starts`: starts in turn leave the last one that is accepted.
- Theorem `Plan.plan_of_starts`: what holds of a plan for a single arity after starts.
-/

namespace ArityLadder

namespace Plan

/-! ## One start -/

/-- The edit that starts a plan at an arity. -/
def Edit.startAt (first : Arity) : Edit := .withRange first.word.toInt64

/-- Starting a plan at an arity is an edit of the plan. -/
theorem edit_startAt (plan : Plan) (first : Arity) :
    plan.edit (.startAt first) = plan.withRange first := by
  rw [Edit.startAt, edit, checkArity_word]
  rfl

/-- A start is accepted exactly when the check of the range accepts it, and replaces the first arity
only; otherwise both blame the same range. -/
theorem withRange_cases (plan : Plan) (first : Arity) :
    (checkRange first.word.toInt64 plan.last.word.toInt64 = .ok () ∧
      plan.withRange first = .ok { plan with first }) ∨
    (checkRange first.word.toInt64 plan.last.word.toInt64 =
        .error (.range first.count plan.last.count) ∧
      plan.withRange first = .error (.range first.count plan.last.count)) := by
  have hpos := first.pos
  by_cases hle : first ≤ plan.last
  · left
    refine ⟨?_, withRange_eq_ok_iff.mpr ⟨hle, rfl⟩⟩
    rw [checkRange_eq_ok_iff, Arity.toInt_word, Arity.toInt_word]
    rw [Arity.le_def] at hle
    omega
  · right
    have hbehind : plan.last < first := by
      rw [Arity.le_def] at hle
      rw [Arity.lt_def]
      omega
    constructor
    · rw [checkRange_eq_error_iff, Arity.toInt_word, Arity.toInt_word]
      rw [Arity.lt_def] at hbehind
      exact ⟨by omega, rfl⟩
    · rw [withRange, if_pos hbehind]

/-- A start keeps the first arity from lying behind the last. -/
theorem first_le_last_edited {plan : Plan} (hplan : plan.first ≤ plan.last) (first : Arity) :
    (plan.edited (.startAt first)).first ≤ (plan.edited (.startAt first)).last := by
  rcases plan.edited_cases (.startAt first) with hedit | ⟨fault, -, hsame⟩
  · rw [edit_startAt, withRange_eq_ok_iff] at hedit
    obtain ⟨hle, hedited⟩ := hedit
    rw [hedited]
    exact hle
  · rw [hsame]
    exact hplan

/-! ## Starts in turn -/

/-- The starts that are accepted when a plan is started in turn, where one that is refused changes
nothing. -/
def acceptedStarts (plan : Plan) : List Arity → List Arity
  | [] => []
  | first :: rest =>
    match plan.withRange first with
    | .ok next => first :: next.acceptedStarts rest
    | .error _ => plan.acceptedStarts rest

/-- Starts in turn keep the first arity from lying behind the last. -/
theorem first_le_last_editedBy {plan : Plan} (hplan : plan.first ≤ plan.last)
    (starts : List Arity) :
    (plan.editedBy (starts.map .startAt)).first ≤ (plan.editedBy (starts.map .startAt)).last := by
  induction starts generalizing plan with
  | nil => exact hplan
  | cons first starts ih => exact ih (first_le_last_edited hplan first)

/-- Starts in turn leave the last one that is accepted as the first arity, and change nothing
else. -/
theorem editedBy_starts (plan : Plan) (starts : List Arity) :
    plan.editedBy (starts.map .startAt) =
      { plan with first := (plan.acceptedStarts starts).getLast?.getD plan.first } := by
  induction starts generalizing plan with
  | nil => rfl
  | cons first starts ih =>
    have hrun : plan.editedBy ((first :: starts).map .startAt) =
        (plan.edited (.startAt first)).editedBy (starts.map .startAt) := rfl
    rw [hrun, ih, edited, edit_startAt, acceptedStarts]
    rcases plan.withRange_cases first with ⟨-, haccepted⟩ | ⟨-, hrefused⟩
    · rw [haccepted]
      dsimp only
      rw [List.getLast?_cons, Option.getD_some]
    · rw [hrefused]

/-- However often a plan for a single arity is started anew, it ends at this arity and starts at an
arity from one to it: at that of the last start that was accepted, or else where it was.  Nothing
else of it changes.  A further start is accepted exactly when the check of its range accepts it,
and leaves no trace of the starts before it; otherwise it is refused as the check refuses it. -/
theorem plan_of_starts (arity : Arity) (starts : List Arity) :
    let start := single arity
    let plan := start.editedBy (starts.map .startAt)
    1 ≤ plan.first.count ∧ plan.first ≤ plan.last ∧ plan.last = arity ∧
    plan.sections = start.sections ∧ plan.indent = start.indent ∧ plan.color = start.color ∧
    plan.first = (start.acceptedStarts starts).getLast?.getD arity ∧
    ∀ first : Arity,
      (checkRange first.word.toInt64 arity.word.toInt64 = .ok () ∧
        plan.withRange first = .ok { start with first }) ∨
      (checkRange first.word.toInt64 arity.word.toInt64 =
          .error (.range first.count arity.count) ∧
        plan.withRange first = .error (.range first.count arity.count)) := by
  intro start plan
  have hplan : plan = { start with first := (start.acceptedStarts starts).getLast?.getD arity } :=
    editedBy_starts start starts
  have hordered : plan.first ≤ plan.last := first_le_last_editedBy (Nat.le_refl _) starts
  have hlast : plan.last = arity := by
    rw [hplan]
    rfl
  refine ⟨plan.first.pos, hordered, hlast, by rw [hplan], by rw [hplan], by rw [hplan],
    by rw [hplan], ?_⟩
  intro first
  have hcases := plan.withRange_cases first
  have hfresh : { plan with first } = { start with first } := by rw [hplan]
  rw [hfresh, hlast] at hcases
  exact hcases

end Plan

/-- The first arity is lowered, raised again, and then asked for behind the last. -/
example :
    let arities : List Arity := [⟨2, by decide, by decide⟩, ⟨4, by decide, by decide⟩,
      ⟨6, by decide, by decide⟩]
    (Plan.single ⟨5, by decide, by decide⟩).acceptedStarts arities = arities.take 2 := by
  decide

end ArityLadder
