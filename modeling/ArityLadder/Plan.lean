import ArityLadder.Fragment
import ArityLadder.Rejection

/-!
# Plans

What one run prints: which sections, for which arities, and in which form.  A plan
whose first arity lies behind its last has no arities, and its sections are empty.

Main results:

- Theorem `Plan.withRange_eq_ok_iff`: a plan starts at the arities that do not lie behind its
  last.
- Theorem `Plan.map_count_arities`: the arities of a plan are the integers from the
  first to the last, each once.
-/

namespace ArityLadder

/-- What one run prints. -/
structure Plan where
  first : Arity
  last : Arity
  sections : List Section
  indent : Indent
  color : Bool
deriving DecidableEq

namespace Plan

/-- All sections for a single arity, indented by tabs, with painted headers. -/
def single (arity : Arity) : Plan := ⟨arity, arity, Section.all, .tab, true⟩

/-- The plan that starts at another arity, which must not lie behind the last. -/
def withRange (plan : Plan) (first : Arity) : Except Rejection Plan :=
  if plan.last < first then .error (.range first.count plan.last.count)
  else .ok { plan with first }

/-- A plan starts at the arities that do not lie behind its last. -/
theorem withRange_eq_ok_iff {plan plan' : Plan} {first : Arity} :
    plan.withRange first = .ok plan' ↔ first ≤ plan.last ∧ plan' = { plan with first } := by
  rw [withRange, Arity.le_def]
  by_cases hbehind : plan.last < first
  · rw [if_pos hbehind]
    rw [Arity.lt_def] at hbehind
    simp only [reduceCtorEq, false_iff, not_and]
    omega
  · rw [if_neg hbehind]
    rw [Arity.lt_def] at hbehind
    simp only [Except.ok.injEq, eq_comm (a := plan'), iff_and_self]
    omega

/-- The first `limit` arities of a plan. -/
def firstArities (plan : Plan) (limit : Nat) : List Arity :=
  Arity.upTo plan.first plan.last limit

/-- The arities of a plan, ascending. -/
def arities (plan : Plan) : List Arity := plan.firstArities plan.last.count

/-- The branches of one section, in ascending order of their arities. -/
def sectionText (plan : Plan) (kind : Section) : String :=
  "\n".intercalate (plan.arities.map fun arity => (Fragment.make plan.indent kind arity).text)

/-- The sections that are printed, in print order. -/
def printed (plan : Plan) : List Section := Section.all.filter (· ∈ plan.sections)

/-- The arities of a plan are the integers from the first to the last, each once. -/
theorem map_count_arities (plan : Plan) :
    plan.arities.map Arity.count =
      List.range' plan.first.count (plan.last.count + 1 - plan.first.count) := by
  rw [arities, firstArities, Arity.map_count_upTo]
  congr 1
  have := plan.first.pos
  omega

end Plan

end ArityLadder
