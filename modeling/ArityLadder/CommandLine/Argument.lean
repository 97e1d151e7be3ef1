import ArityLadder.Decimal.Numeral
import ArityLadder.Text.Drawn

/-!
# Arguments

The arguments of the command line, their spellings, and the faults that a list of
arguments can have.

Main results:

- Theorem `Argument.ofLong?_long`: each option is found by its long spelling.
-/

namespace ArityLadder

/-- An argument of the command line. -/
inductive Argument where
  | fieldCount
  | start
  | only
  | indent
  | indentWidth
  | noColor
  | config
  | verbose
  | help
deriving DecidableEq

namespace Argument

/-- Every option, that is, every argument but the field count. -/
def options : List Argument :=
  [start, only, indent, indentWidth, noColor, config, verbose, help]

/-- The long spelling of an option, without its dashes. -/
def long : Argument → String
  | fieldCount => "FIELD_COUNT"
  | start => "from"
  | only => "only"
  | indent => "indent"
  | indentWidth => "indent-width"
  | noColor => "no-color"
  | config => "config"
  | verbose => "verbose"
  | help => "help"

/-- The option of a long spelling; abbreviations are none. -/
def ofLong? (text : String) : Option Argument := options.find? (·.long == text)

/-- The option of a letter. -/
def ofShort? : Char → Option Argument
  | 'v' => some verbose
  | 'h' => some help
  | _ => none

/-- Whether an argument comes with a value. -/
def takesValue : Argument → Bool
  | noColor | verbose | help => false
  | _ => true

/-- An argument as a message names it. -/
def usage : Argument → String
  | fieldCount => "<FIELD_COUNT>"
  | start => "--from <ARITY>"
  | only => "--only <ONLY>"
  | indent => "--indent <INDENT>"
  | indentWidth => "--indent-width <INDENT_WIDTH>"
  | noColor => "--no-color"
  | config => "--config <PATH>"
  | verbose => "--verbose"
  | help => "--help"

/-- Each option is found by its long spelling. -/
theorem ofLong?_long (argument : Argument) (h : argument ≠ fieldCount) :
    ofLong? argument.long = some argument := by
  cases argument <;> first | exact absurd rfl h | decide

end Argument

/-! ## Faults of a list of arguments -/

/-- What is wrong with a list of arguments. -/
inductive UsageFault where
  /-- The field count is missing. -/
  | noFieldCount
  /-- An argument that does not exist. -/
  | unexpected (text : String)
  /-- A value that is no number of its type. -/
  | notANumber (value : String) (argument : Argument) (cause : Decimal.NumeralFault)
  /-- A value that is not among the possible ones. -/
  | notAChoice (value : String) (argument : Argument)
  /-- An argument without its value. -/
  | noValue (argument : Argument)
  /-- An argument given twice. -/
  | repeated (argument : Argument)
  /-- A flag that is given a value. -/
  | unexpectedValue (value : String) (argument : Argument)
deriving DecidableEq

namespace UsageFault

/-- The wording of a fault, where `display` says how an argument is shown. -/
def text (fault : UsageFault) (display : String → String) : String :=
  match fault with
  | noFieldCount => "the following required arguments were not provided:"
  | unexpected text => "unexpected argument '" ++ display text ++ "' found"
  | notANumber value argument cause =>
    "invalid value '" ++ display value ++ "' for '" ++ argument.usage ++ "': " ++ cause.message
  | notAChoice value argument =>
    "invalid value '" ++ display value ++ "' for '" ++ argument.usage ++ "'"
  | noValue argument =>
    "a value is required for '" ++ argument.usage ++ "' but none was supplied"
  | repeated argument =>
    "the argument '" ++ argument.usage ++ "' cannot be used multiple times"
  | unexpectedValue value argument =>
    "unexpected value '" ++ display value ++ "' for '" ++ argument.usage ++
      "' found; no more were expected"

/-- The characters of the first line, which a line feed ends, also behind a carriage return. -/
def firstLine : List Char → List Char
  | [] => []
  | '\n' :: _ => []
  | '\r' :: '\n' :: _ => []
  | c :: rest => c :: firstLine rest

/-- The message of a fault, which is one line. -/
def message (fault : UsageFault) : String :=
  String.ofList (firstLine ("error: " ++ fault.text (Text.drawn .ends)).toList)

/-- What standard error shows of a fault: all in front of the first line feed. -/
def report (fault : UsageFault) : String :=
  String.ofList (("error: " ++ fault.text (Text.drawn .suspends)).toList.takeWhile (· ≠ '\n'))

/-- The exit code of the program after a fault in its arguments. -/
def exitCode : Nat := 2

end UsageFault

/-- Why a list of arguments leads to no command line. -/
inductive Stop where
  /-- Help is asked for. -/
  | help
  /-- The arguments are at fault. -/
  | fault (cause : UsageFault)
deriving DecidableEq

/-- The lines of the help text. -/
def Stop.helpLines : List String := [
  "Print the per-arity reflection dispatch branches for a field count",
  "",
  "Usage: field-ladder [OPTIONS] <FIELD_COUNT>",
  "",
  "Arguments:",
  "  <FIELD_COUNT>  Number of fields of the target aggregate",
  "",
  "Options:",
  "      --from <ARITY>                 Emit every branch from this arity up to FIELD_COUNT",
  "      --only <ONLY>                  Only print these sections " ++
    "[possible values: accessor, extractor, deserializer]",
  "      --indent <INDENT>              [possible values: tab, spaces]",
  "      --indent-width <INDENT_WIDTH>  Spaces per level when --indent spaces",
  "      --no-color                     Disable colored headers",
  "      --config <PATH>                TOML file with output defaults",
  "  -v, --verbose                      Enable verbose output",
  "  -h, --help                         Print help"]

/-- The help text. -/
def Stop.helpText : String := String.join (helpLines.map (· ++ "\n"))

end ArityLadder
