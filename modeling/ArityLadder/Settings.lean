import ArityLadder.Indent
import ArityLadder.Limits

/-!
# Settings

The defaults that a settings file gives.  Each table and each key of it may be
absent, and an absent key is not the same as a default.
-/

namespace ArityLadder

/-- How the output looks. -/
structure OutputSettings where
  indent : Option IndentStyle := none
  indentWidth : Option UInt64 := none
  color : Option Bool := none
deriving DecidableEq

/-- What is printed. -/
structure SectionSettings where
  kinds : Option (List Section) := none
deriving DecidableEq

/-- The contents of a settings file. -/
structure Settings where
  output : Option OutputSettings := none
  sections : Option SectionSettings := none
deriving DecidableEq

namespace Settings

/-- The style of the indentation, where it is set. -/
def indent? (settings : Settings) : Option IndentStyle := settings.output.bind (·.indent)

/-- The width of the indentation, where it is set. -/
def indentWidth? (settings : Settings) : Option UInt64 := settings.output.bind (·.indentWidth)

/-- Whether headers are painted, where it is set. -/
def color? (settings : Settings) : Option Bool := settings.output.bind (·.color)

/-- The sections to print, where they are set. -/
def kinds? (settings : Settings) : Option (List Section) := settings.sections.bind (·.kinds)

/-- Accepts settings with a width from 1 to 16 and a list of sections without repetition. -/
def validate (settings : Settings) : Except Rejection Unit := do
  if let some width := settings.indentWidth? then
    checkWidth "output.indent_width" width
  if let some kinds := settings.kinds? then
    checkSections "sections.kinds" kinds

end Settings

end ArityLadder
