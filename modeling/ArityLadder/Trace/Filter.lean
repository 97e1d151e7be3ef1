import ArityLadder.Trace.Directive

/-!
# Filters

Which events reach the log.  A filter is a list of directives, of which the most
exact one that holds for an event decides on it, and of two equally exact ones the
later.

Main results:

- Theorem `Filter.allows_level`: a filter of one bare level allows the events that
  are at least as severe.
-/

namespace ArityLadder

namespace Trace

/-- A list of directives. -/
abbrev Filter := List Directive

namespace Filter

/-- The directives of a text, which has commas between them. -/
def read? (text : String) : Option Filter :=
  let items := (text.toList.splitOn ',').filter (· ≠ [])
  if items = [] then some [{ level := some .error }] else items.mapM Directive.read?

/-- The filter of a run where the environment asks for none. -/
def standard (verbose : Bool) : Filter :=
  if verbose then [{ target := "field_ladder", level := some .debug }, { level := some .info }]
  else [{ target := "field_ladder", level := some .warn }]

/-- The filter of a run: that of the environment if it can be read, or else the standard one. -/
def ofSetting (setting : Option String) (verbose : Bool) : Filter :=
  (setting.bind read?).getD (standard verbose)

/-! ## Deciding -/

/-- The directive that decides on an event. -/
def deciding? (filter : Filter) (event : Event) : Option Directive :=
  filter.foldl (fun best directive =>
    if directive.appliesTo event then
      match best with
      | none => some directive
      | some other => if directive.isAsExactAs other then some directive else some other
    else best) none

/-- Whether an event reaches the log. -/
def allows (filter : Filter) (event : Event) : Bool :=
  match (filter.deciding? event).bind (·.level) with
  | some level => event.level.rank ≤ level.rank
  | none => false

/-- A filter of one bare level allows the events that are at least as severe. -/
theorem allows_level (level : Level) (event : Event) :
    allows [{ level := some level }] event = decide (event.level.rank ≤ level.rank) := by
  simp [allows, deciding?, Directive.appliesTo]

end Filter

end Trace

end ArityLadder
