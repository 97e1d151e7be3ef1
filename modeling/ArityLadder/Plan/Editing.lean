import ArityLadder.Limits
import ArityLadder.Plan

/-!
# Editing plans

A plan can be made anew, can be widened, and can be changed in each of its parts, also so
that its first arity lies behind its last.  Arities are given as integers, and an edit
whose integer is no arity is refused, as is one that widens a plan beyond its end.  A plan
stays as it is under an edit that is refused.

Main results:

- Theorem `Plan.edited_cases`: an edit leads to the plan that it makes, or is refused and
  changes nothing.
-/

namespace ArityLadder

namespace Plan

/-- An edit of a plan. -/
inductive Edit where
  /-- Starts over with all sections for a single arity. -/
  | single (value : Int64)
  /-- Starts at another arity, which must not lie behind the last. -/
  | withRange (value : Int64)
  /-- Replaces the first arity, wherever the last lies. -/
  | first (value : Int64)
  /-- Replaces the last arity, wherever the first lies. -/
  | last (value : Int64)
  | sections (sections : List Section)
  | indent (indent : Indent)
  | color (color : Bool)
deriving DecidableEq

/-- The integer by which an edit gives an arity. -/
def Edit.value? : Edit → Option Int64
  | .single value | .withRange value | .first value | .last value => some value
  | .sections _ | .indent _ | .color _ => none

/-- The plan that an edit makes. -/
def edit (plan : Plan) : Edit → Except Rejection Plan
  | .single value => return single (← checkArity value)
  | .withRange value => do plan.withRange (← checkArity value)
  | .first value => return { plan with first := ← checkArity value }
  | .last value => return { plan with last := ← checkArity value }
  | .sections sections => return { plan with sections }
  | .indent indent => return { plan with indent }
  | .color color => return { plan with color }

/-- The plan after an edit, which is as before where the edit is refused. -/
def edited (plan : Plan) (edit : Edit) : Plan :=
  match plan.edit edit with
  | .ok next => next
  | .error _ => plan

/-- An edit leads to the plan that it makes, or is refused and changes nothing. -/
theorem edited_cases (plan : Plan) (edit : Edit) :
    plan.edit edit = .ok (plan.edited edit) ∨
      ∃ fault, plan.edit edit = .error fault ∧ plan.edited edit = plan := by
  unfold edited
  cases plan.edit edit with
  | ok next => exact .inl rfl
  | error fault => exact .inr ⟨fault, rfl, rfl⟩

/-- The plan after edits in turn. -/
def editedBy (plan : Plan) (edits : List Edit) : Plan := edits.foldl edited plan

end Plan

end ArityLadder
