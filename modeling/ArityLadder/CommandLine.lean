import ArityLadder.Plan
import ArityLadder.Settings

/-!
# Command lines

What the user asks for, the checks it passes, and the plan that it makes together
with the settings of a file.  A flag goes before the file, and the file before the
default.
-/

namespace ArityLadder

/-- What the user asks for beside the number of fields. -/
structure Options where
  /-- The first arity, where a range is asked for. -/
  start : Option Int64 := none
  /-- The sections asked for; none means that the choice is left open. -/
  only : List Section := []
  indent : Option IndentStyle := none
  indentWidth : Option UInt64 := none
  noColor : Bool := false
  /-- The path of a settings file. -/
  config : Option String := none
  verbose : Bool := false
deriving DecidableEq

/-- What the user asks for. -/
structure CommandLine extends Options where
  /-- The number of fields, which is the last arity. -/
  fieldCount : Int64
deriving DecidableEq

namespace CommandLine

/-- Accepts a command line whose numbers and lists are within their limits. -/
def validate (line : CommandLine) : Except Rejection Unit := do
  let _ ← checkArity line.fieldCount
  if let some start := line.start then
    checkRange start line.fieldCount
  if line.only ≠ [] then
    checkSections "--only" line.only
  if let some width := line.indentWidth then
    checkWidth "--indent-width" width

/-! ## The plan of a command line -/

/-- Whether headers are painted. -/
def colorEnabled (line : CommandLine) (settings : Settings) : Bool :=
  !line.noColor && settings.color?.getD true

/-- The style of the indentation. -/
def indentStyle (line : CommandLine) (settings : Settings) : IndentStyle :=
  (line.indent.or settings.indent?).getD .tab

/-- The width of an indentation by spaces. -/
def width (line : CommandLine) (settings : Settings) : UInt64 :=
  (line.indentWidth.or settings.indentWidth?).getD Indent.defaultWidth

/-- The sections to print. -/
def kinds (line : CommandLine) (settings : Settings) : List Section :=
  if line.only = [] then settings.kinds?.getD Section.all else line.only

/-- The plan for the field count alone. -/
def planFor (line : CommandLine) (settings : Settings) (arity : Arity) : Plan where
  first := arity
  last := arity
  sections := line.kinds settings
  indent := .ofStyle (line.indentStyle settings) (line.width settings)
  color := line.colorEnabled settings

/-- The plan of a command line with the settings of a file behind it. -/
def plan (line : CommandLine) (settings : Settings) : Except Rejection Plan := do
  let arity ← checkArity line.fieldCount
  match line.start with
  | none => return line.planFor settings arity
  | some start =>
    checkRange start line.fieldCount
    (line.planFor settings arity).withRange (← checkArity start)

end CommandLine

end ArityLadder
